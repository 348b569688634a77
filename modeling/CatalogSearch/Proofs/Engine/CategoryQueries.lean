import CatalogSearch.Engine.Facet
import CatalogSearch.Proofs.Query.Operands
import Mathlib.Data.Bool.AllAny
import Mathlib.Data.List.TakeWhile
import Mathlib.Data.Option.Basic

namespace CatalogSearch.Engine

open Query Query.Reader

/-- The name under which the hits of a condition on a field are counted. -/
def queryName (field : List Char) (condition : Value) : List Char := fieldCondition field (group condition.operand)

/-- What a category is told by: decimal digits of any script. -/
def IsId (cs : List Char) : Prop := cs ≠ [] ∧ ∀ c ∈ cs, Text.isDigit c = true

def fromId (id shown : List Char) : List Char :=
  id ++ (" OR ".toList ++ shownField.toList ++ ':' :: (shown ++ [')']))

def categoryQuery (id shown : List Char) : List Char := '(' :: (categoryField.toList ++ ':' :: fromId id shown)

/-- How many colons stand behind something else than a backslash. -/
def bareColons (before : Char) : List Char → Nat
  | [] => 0
  | c :: cs => (if c = ':' ∧ before ≠ '\\' then 1 else 0) + bareColons c cs

variable {cs ds id shown rest field t : List Char}

theorem IsId.escape_eq (h : IsId id) : escape id = id := by
  refine escape_eq_self fun c hc hm => ?_
  have hd : ∀ c ∈ '&' :: '|' :: reserved, Text.isDigit c = false := List.all_iff_forall_prop.mp (by decide)
  have hn := h.2 c hc
  rw [hd c hm] at hn
  cases hn

theorem IsId.space_not_mem (h : IsId id) : ' ' ∉ id := by
  intro hm
  have hd := h.2 ' ' hm
  exact absurd hd (by decide)

theorem IsId.group_eq (h : IsId id) : group id = id := by
  rw [group_of_not_mem h.space_not_mem, h.escape_eq]

theorem IsId.eq_of_group_eq (h : IsId id) (hg : group t = id) : t = id := by
  by_cases hm : ' ' ∈ t
  · rcases group_of_mem hm with hn | ⟨ds, hn⟩
    · exact absurd (hg.symm.trans hn) h.1
    · have hd := h.2 '(' (by rw [← hg, hn]; exact List.mem_cons_self)
      exact absurd hd (by decide)
  · rw [group_of_not_mem hm] at hg
    have hr := removeEscapes_escape id
    rw [h.escape_eq] at hr
    rw [← removeEscapes_escape t, hg, hr]

theorem bareColons_append (before : Char) (cs ds : List Char) :
    bareColons before (cs ++ ds) = bareColons before cs + bareColons (cs.getLastD before) ds := by
  induction cs generalizing before with
  | nil => simp [bareColons]
  | cons c cs ih => rw [List.cons_append, bareColons, bareColons, ih, Nat.add_assoc, List.getLastD_cons]

theorem bareColons_of_literal (h : Literal [':'] cs) (before : Char) : bareColons before cs = 0 := by
  induction h generalizing before with
  | nil => rfl
  | plain _ hs _ ih =>
      rw [List.mem_singleton] at hs
      simp [bareColons, hs, ih]
  | escaped c _ ih => simp [bareColons, ih]

theorem bareColons_group (t : List Char) (before : Char) : bareColons before (group t) = 0 :=
  bareColons_of_literal (literal_group (List.forall_mem_singleton.mpr (by decide)) t) before

theorem bareColons_of_not_mem (h : ':' ∉ cs) (before : Char) : bareColons before cs = 0 := by
  induction cs generalizing before with
  | nil => rfl
  | cons c cs ih =>
      rw [List.mem_cons, not_or] at h
      simp [bareColons, Ne.symm h.1, ih h.2]

theorem word_ne_mark (hf : ∀ c ∈ field, Text.isWord c = true) : ':' ∉ field ∧ '(' ∉ field := by
  constructor <;> intro hm <;> exact absurd (hf _ hm) (by decide)

theorem bareColons_fromId (id shown : List Char) (before : Char) :
    bareColons before (fromId id shown) = bareColons before id + bareColons ':' (shown ++ [')']) + 1 := by
  have hf : ∀ c, bareColons c (" OR ".toList ++ shownField.toList) = 0 := bareColons_of_not_mem (by decide)
  have hlast : (" OR ".toList ++ shownField.toList).getLastD (id.getLastD before) = 's' := rfl
  rw [fromId, bareColons_append, bareColons_append, hf, hlast, bareColons]
  simp
  omega

theorem bareColons_categoryQuery (id shown : List Char) (before : Char) :
    bareColons before (categoryQuery id shown) = bareColons ':' (fromId id shown) + 1 := by
  have hf : bareColons before ('(' :: categoryField.toList) = 0 := bareColons_of_not_mem (by decide) before
  have hlast : ('(' :: categoryField.toList).getLastD before = 's' := rfl
  rw [categoryQuery, ← List.cons_append, bareColons_append, hf, hlast, bareColons]
  simp
  omega

theorem queryName_category (v : Value) :
    queryName categoryField.toList v = categoryQuery (group v.operand) (group v.operand) := by
  rw [queryName, fieldCondition, if_pos rfl, categoryQuery, fromId]
  simp

theorem bareColons_fromGroup (t : List Char) (before : Char) : bareColons before (fromId (group t) (group t)) = 1 := by
  have hclose : ∀ c, bareColons c [')'] = 0 := bareColons_of_not_mem (by decide)
  rw [bareColons_fromId, bareColons_append, bareColons_group, bareColons_group, hclose]

theorem bareColons_queryName_of_ne (hf : ∀ c ∈ field, Text.isWord c = true) (hc : field ≠ categoryField.toList) (v : Value) :
    bareColons ' ' (queryName field v) ≤ 1 := by
  rw [queryName, fieldCondition, if_neg hc, bareColons_append, bareColons_of_not_mem (word_ne_mark hf).1, bareColons,
    bareColons_group]
  split <;> omega

theorem eq_of_fromId (hi : IsId id) {after : List Char} (h : fromId (group t) ds = fromId id shown ++ after) : t = id := by
  have hg := isOperand_group t (" OR ".toList ++ (shownField.toList ++ ':' :: (ds ++ [')']))) (ends_append _ rfl)
  have hd := isOperand_group id (" OR ".toList ++ (shownField.toList ++ ':' :: (shown ++ [')'])) ++ after) (ends_append _ rfl)
  rw [hi.group_eq] at hd
  simp only [fromId, List.append_assoc] at h hd
  rw [h, hd, Option.some.injEq, Prod.mk.injEq] at hg
  exact hi.eq_of_group_eq hg.1.symm

theorem before_eq_nil {before after : List Char} (hb : bareColons ' ' before = 0)
    (h : categoryQuery ds t = before ++ (categoryQuery id shown ++ after)) : before = [] := by
  cases before with
  | nil => rfl
  | cons b bs =>
      exfalso
      rw [categoryQuery, List.cons_append, List.cons.injEq] at h
      obtain ⟨rfl, h⟩ := h
      rcases List.append_eq_append_iff.mp h with ⟨cs, rfl, hc⟩ | ⟨cs, hf, hc⟩
      · cases cs with
        | nil => cases hc
        | cons c cs =>
            obtain rfl : ':' = c := (List.cons.inj hc).1
            have hlast : ('(' :: categoryField.toList).getLastD ' ' = 's' := rfl
            rw [← List.cons_append, bareColons_append, hlast] at hb
            simp [bareColons] at hb
      · have hm : '(' ∉ categoryField.toList := by decide
        cases cs with
        | nil => cases hc
        | cons c cs =>
            obtain rfl : '(' = c := (List.cons.inj hc).1
            exact hm (by rw [hf]; simp)

namespace FacetKind

theorem of_afterDigits? (h : afterDigits? cs = some (id, rest)) : IsId id ∧ cs = id ++ rest := by
  rw [afterDigits?, List.span_eq_takeWhile_dropWhile] at h
  split at h
  · cases h
  · next hne =>
      obtain ⟨rfl, rfl⟩ := Prod.mk.inj (Option.some.inj h)
      refine ⟨⟨fun hn => hne (cs.dropWhile Text.isDigit) (by rw [hn]), fun c hc => List.mem_takeWhile_imp hc⟩, ?_⟩
      exact List.takeWhile_append_dropWhile.symm

theorem afterDigits?_append (h : IsId id) {c : Char} (hc : Text.isDigit c = false) (rest : List Char) :
    afterDigits? (id ++ c :: rest) = some (id, c :: rest) := by
  have ht : (id ++ c :: rest).takeWhile Text.isDigit = id := by
    rw [List.takeWhile_append_of_pos h.2, List.takeWhile_cons_of_neg (by simp [hc]), List.append_nil]
  have hd : (id ++ c :: rest).dropWhile Text.isDigit = c :: rest := by
    rw [List.dropWhile_append_of_pos h.2, List.dropWhile_cons_of_neg (by simp [hc])]
  rw [afterDigits?, List.span_eq_takeWhile_dropWhile, ht, hd]
  split
  · next hn => exact absurd (Prod.mk.inj hn).1 h.1
  · rfl

theorem afterText?_eq_some : afterText? cs ds = some rest ↔ ds = cs ++ rest := by
  rw [afterText?]
  constructor
  · intro h
    split at h
    · next hp =>
        obtain ⟨u, rfl⟩ := List.isPrefixOf_iff_prefix.mp hp
        rw [List.drop_left, Option.some.injEq] at h
        rw [h]
    · cases h
  · rintro rfl
    simp [List.isPrefixOf_iff_prefix]

theorem categoryHere?_eq_some : categoryHere? cs = some id ↔
    IsId id ∧ ∃ shown rest, IsId shown ∧ cs = categoryQuery id shown ++ rest := by
  constructor
  · intro h
    obtain ⟨after, ha, h⟩ := Option.bind_eq_some_iff.mp h
    obtain ⟨⟨digits, behind⟩, hd, h⟩ := Option.bind_eq_some_iff.mp h
    obtain ⟨second, hb, h⟩ := Option.bind_eq_some_iff.mp h
    obtain ⟨⟨shown, rest⟩, hs, h⟩ := Option.bind_eq_some_iff.mp h
    obtain ⟨u, hg, h⟩ := Option.bind_eq_some_iff.mp h
    obtain rfl : digits = id := Option.some.inj h
    obtain ⟨hid, rfl⟩ := of_afterDigits? hd
    obtain ⟨hshown, rfl⟩ := of_afterDigits? hs
    have hclosing := (Option.guard_eq_some' u).mp hg
    obtain ⟨rest, rfl⟩ : ∃ tail, rest = ')' :: tail := by
      cases rest with
      | nil => cases hclosing
      | cons c tail => exact ⟨tail, by simpa using hclosing⟩
    rw [afterText?_eq_some.mp hb] at ha
    refine ⟨hid, shown, rest, hshown, ?_⟩
    rw [afterText?_eq_some.mp ha, categoryQuery, fromId]
    simp
  · rintro ⟨hid, shown, rest, hshown, rfl⟩
    have ha : afterText? ('(' :: categoryField.toList ++ [':']) (categoryQuery id shown ++ rest) =
        some (fromId id shown ++ rest) := by
      rw [afterText?_eq_some, categoryQuery]
      simp
    have hd : afterDigits? (fromId id shown ++ rest) =
        some (id, " OR ".toList ++ (shownField.toList ++ ':' :: (shown ++ ')' :: rest))) := by
      have h := afterDigits?_append hid (c := ' ') (by decide)
        ("OR ".toList ++ (shownField.toList ++ ':' :: (shown ++ ')' :: rest)))
      rw [fromId, List.append_assoc]
      simpa using h
    have hb : afterText? (" OR ".toList ++ shownField.toList ++ [':'])
        (" OR ".toList ++ (shownField.toList ++ ':' :: (shown ++ ')' :: rest))) = some (shown ++ ')' :: rest) := by
      rw [afterText?_eq_some]
      simp
    have hs := afterDigits?_append hshown (c := ')') (by decide) rest
    simp only [categoryHere?, ha, hd, hb, hs, Option.bind_eq_bind, Option.bind_some]
    rfl

theorem exists_of_category? (h : category? cs = some id) :
    IsId id ∧ ∃ before shown after, IsId shown ∧ cs = before ++ (categoryQuery id shown ++ after) := by
  induction cs with
  | nil => cases h
  | cons c cs ih =>
      rw [category?] at h
      cases hc : categoryHere? (c :: cs) with
      | none =>
          rw [hc] at h
          obtain ⟨hi, before, shown, after, hs, rfl⟩ := ih h
          exact ⟨hi, c :: before, shown, after, hs, rfl⟩
      | some found =>
          rw [hc] at h
          cases h
          obtain ⟨hi, shown, after, hs, he⟩ := categoryHere?_eq_some.mp hc
          exact ⟨hi, [], shown, after, hs, he⟩

theorem category?_of_bareColons (h : bareColons ' ' cs ≤ 1) : category? cs = none := by
  by_contra hc
  obtain ⟨id, hc⟩ := Option.ne_none_iff_exists'.mp hc
  obtain ⟨-, before, shown, after, -, rfl⟩ := exists_of_category? hc
  have hq := bareColons_categoryQuery id shown (before.getLastD ' ')
  have hi := bareColons_fromId id shown ':'
  rw [bareColons_append, bareColons_append] at h
  omega

theorem category?_queryName (hf : ∀ c ∈ field, Text.isWord c = true) (v : Value) :
    category? (queryName field v) = some id ↔ field = categoryField.toList ∧ IsId id ∧ v.operand = id := by
  by_cases hc : field = categoryField.toList
  · subst hc
    rw [queryName_category]
    constructor
    · intro h
      obtain ⟨hi, before, shown, after, -, he⟩ := exists_of_category? h
      have hcount := congrArg (bareColons ' ') he
      rw [bareColons_append, bareColons_append, bareColons_categoryQuery, bareColons_categoryQuery, bareColons_fromGroup] at hcount
      have hfrom := bareColons_fromId id shown ':'
      obtain rfl := before_eq_nil (by omega) he
      rw [List.nil_append, categoryQuery, categoryQuery, List.cons_append, List.append_assoc, List.cons_append] at he
      have hoperand := (List.cons.inj (List.append_cancel_left (List.cons.inj he).2)).2
      exact ⟨rfl, hi, eq_of_fromId hi hoperand⟩
    · rintro ⟨-, hi, rfl⟩
      rw [hi.group_eq]
      have hh : categoryHere? (categoryQuery v.operand v.operand) = some v.operand :=
        categoryHere?_eq_some.mpr ⟨hi, v.operand, [], hi, (List.append_nil _).symm⟩
      rw [categoryQuery, category?, ← categoryQuery, hh]
      rfl
  · rw [category?_of_bareColons (bareColons_queryName_of_ne hf hc v)]
    simp [hc]

end FacetKind

end CatalogSearch.Engine
