import CatalogSearch.Proofs.Query.Operands
import Mathlib.Data.List.Basic

namespace CatalogSearch.Query.Conjuncts

open Reader Text

def brackets : List Char := ['"', '(', ')', '[', ']']

def isInert (c : Char) : Bool := c ≠ '\\' && c ∉ brackets

/-- What has yet to be closed after a character, the innermost first. In a phrase all is text but its
end, and nothing else is closed but the innermost. -/
def nextPending (pending : List Char) (c : Char) : Option (List Char) :=
  if pending.head? = some c then some pending.tail
  else if pending.head? = some '"' then some pending
  else if c = '"' then some ('"' :: pending)
  else if c = '(' then some (')' :: pending)
  else if c = '[' then some (']' :: pending)
  else if c = ')' ∨ c = ']' then none
  else some pending

/-- The words of a text between separators that stand outside of phrases and brackets. A backslash makes
the next character literal. A text that does not close what it opens has no words. -/
def topWords (separators : List Char) : List Char → List Char → Option (List (List Char))
  | pending, '\\' :: c :: cs => (topWords separators pending cs).map fun words => prepend '\\' (prepend c words)
  | pending, c :: cs =>
      if pending = [] ∧ c ∈ separators then (topWords separators [] cs).map ([] :: ·)
      else (nextPending pending c).bind fun next => (topWords separators next cs).map (prepend c)
  | pending, [] => if pending = [] then some [[]] else none

def operators : List (List Char) := ["AND".toList, "OR".toList, "NOT".toList, "&&".toList, "||".toList]

/-- A text that consists at its top level of clauses with `AND` between them, and of nothing else. -/
def IsConjunction (separators text : List Char) (clauses : List (List Char)) : Prop :=
  topWords separators [] text = some (clauses.intersperse "AND".toList) ∧ ∀ clause ∈ clauses, clause ∉ operators

structure Separates (separators : List Char) : Prop where
  space : ' ' ∈ separators
  blank : separators.all isBlank = true

def Solid (separators field : List Char) : Prop := ∀ c ∈ field, isInert c ∧ c ∉ separators

/-- A text that stands in one word: what has a space in it becomes a phrase, other separators do not. -/
def Held (separators t : List Char) : Prop := ' ' ∈ t ∨ ∀ c ∈ t, c ∉ separators

structure InOneWord (separators field : List Char) (criterion : Criterion) : Prop where
  field : Solid separators field
  text : ∀ t, criterion = .equals t → Held separators t

def Outer (pending : List Char) : Prop := ∀ c ∈ pending, c = ')' ∨ c = ']'

variable {separators pending text other t field : List Char} {c : Char}

theorem topWords_cons (hc : c ≠ '\\') (cs : List Char) : topWords separators pending (c :: cs) =
    if pending = [] ∧ c ∈ separators then (topWords separators [] cs).map ([] :: ·)
    else (nextPending pending c).bind fun next => (topWords separators next cs).map (prepend c) := by
  rw [topWords]
  intro d ds he
  exact (hc he).elim

/-- A text that comes into the word that it stands in as a whole, and leaves open what was open before it. -/
def Passes (separators pending text : List Char) : Prop :=
  ∀ rest, topWords separators pending (text ++ rest) = (topWords separators pending rest).map (text.foldr prepend)

theorem passes_nil : Passes separators pending [] := by
  intro rest
  rw [List.nil_append]
  exact Option.map_id'.symm

theorem Passes.append (h : Passes separators pending text) (ho : Passes separators pending other) :
    Passes separators pending (text ++ other) := by
  intro rest
  rw [List.append_assoc, h, ho, Option.map_map]
  congr 1
  funext words
  exact List.foldr_append.symm

theorem Passes.escaped (c : Char) (h : Passes separators pending text) :
    Passes separators pending ('\\' :: c :: text) := by
  intro rest
  rw [List.cons_append, List.cons_append, topWords, h, Option.map_map]
  rfl

theorem Passes.cons (hc : c ≠ '\\') (hs : pending = [] → c ∉ separators) (hn : nextPending pending c = some pending)
    (h : Passes separators pending text) : Passes separators pending (c :: text) := by
  intro rest
  rw [List.cons_append, topWords_cons hc, if_neg fun hp => hs hp.1 hp.2, hn, Option.bind_some, h, Option.map_map]
  rfl

theorem passes_literal {stops : List Char} (hs : pending = [] → ∀ c ∈ separators, c ∈ stops)
    (hn : ∀ c, c ∉ stops → nextPending pending c = some pending) (h : Literal stops text) :
    Passes separators pending text := by
  induction h with
  | nil => exact passes_nil
  | plain hb hc _ ih => exact ih.cons hb (fun hp hm => hc (hs hp _ hm)) (hn _ hc)
  | escaped c _ ih => exact ih.escaped c

theorem passes_enclosed {opening closing : Char} (ho : opening ≠ '\\') (hs : pending = [] → opening ∉ separators)
    (hn : nextPending pending opening = some (closing :: pending)) (hc : closing ≠ '\\')
    (h : Passes separators (closing :: pending) text) : Passes separators pending (opening :: text ++ [closing]) := by
  intro rest
  -- what is open is never empty in between, so that no separator splits the word
  have hclose : nextPending (closing :: pending) closing = some pending := by simp [nextPending]
  rw [List.cons_append, List.cons_append, List.append_assoc, topWords_cons ho, if_neg fun hp => hs hp.1 hp.2, hn,
    Option.bind_some, h, List.singleton_append, topWords_cons hc, if_neg fun hp => List.cons_ne_nil _ _ hp.1, hclose,
    Option.bind_some, Option.map_map, Option.map_map]
  congr 1
  funext words
  simp [List.foldr_append]

theorem Separates.not_mem (hs : Separates separators) (hc : isBlank c = false) : c ∉ separators := by
  intro hm
  rw [List.all_eq_true.mp hs.blank c hm] at hc
  cases hc

theorem Outer.close {closing : Char} (ho : Outer pending) (hc : closing = ')' ∨ closing = ']') :
    Outer (closing :: pending) := by
  intro c hm
  rcases List.mem_cons.mp hm with rfl | hm
  · exact hc
  · exact ho c hm

theorem Outer.head?_ne (ho : Outer pending) (hp : c ≠ ')') (hb : c ≠ ']') : pending.head? ≠ some c := by
  intro hc
  rcases ho c (List.mem_of_mem_head? hc) with rfl | rfl
  · exact hp rfl
  · exact hb rfl

theorem nextPending_outer (ho : Outer pending) (hc : c ∉ brackets) : nextPending pending c = some pending := by
  simp only [brackets, List.mem_cons, List.not_mem_nil, or_false, not_or] at hc
  obtain ⟨hq, hp, hcp, hb, hcb⟩ := hc
  simp [nextPending, ho.head?_ne hcp hcb, ho.head?_ne (c := '"') (by decide) (by decide), hq, hp, hcp, hb, hcb]

theorem nextPending_opening {closing : Char} (ho : Outer pending)
    (hc : (c, closing) ∈ [('"', '"'), ('(', ')'), ('[', ']')]) : nextPending pending c = some (closing :: pending) := by
  have hq := ho.head?_ne (c := '"') (by decide) (by decide)
  have hp := ho.head?_ne (c := '(') (by decide) (by decide)
  have hb := ho.head?_ne (c := '[') (by decide) (by decide)
  simp only [List.mem_cons, Prod.mk.injEq, List.not_mem_nil, or_false] at hc
  rcases hc with ⟨rfl, rfl⟩ | ⟨rfl, rfl⟩ | ⟨rfl, rfl⟩ <;> simp [nextPending, hq, hp, hb]

theorem passes_of_all (ho : Outer pending) (hi : text.all isInert = true)
    (hs : pending = [] → ∀ c ∈ text, c ∉ separators) : Passes separators pending text := by
  induction text with
  | nil => exact passes_nil
  | cons c text ih =>
      rw [List.all_cons, Bool.and_eq_true] at hi
      obtain ⟨hb, hc⟩ : c ≠ '\\' ∧ c ∉ brackets := by simpa [isInert] using hi.1
      exact .cons hb (fun hp => hs hp c List.mem_cons_self) (nextPending_outer ho hc)
        (ih hi.2 fun hp d hd => hs hp d (List.mem_cons_of_mem c hd))

theorem passes_solid (ho : Outer pending) (hf : Solid separators field) : Passes separators pending field :=
  passes_of_all ho (List.all_eq_true.mpr fun c hc => (hf c hc).1) fun _ c hc => (hf c hc).2

theorem passes_intercalate {texts : List (List Char)} (h : ∀ text ∈ texts, Passes separators pending text)
    (ho : Passes separators pending other) : Passes separators pending (other.intercalate texts) := by
  induction texts with
  | nil => exact passes_nil
  | cons text texts ih =>
      have ht := h text List.mem_cons_self
      have hts := ih fun u hu => h u (List.mem_cons_of_mem text hu)
      cases texts with
      | nil =>
          rw [List.intercalate_singleton]
          exact ht
      | cons u texts =>
          rw [List.intercalate_cons_cons]
          exact (ht.append ho).append hts

theorem passes_phrase (hs : Separates separators) (ho : Outer pending) : Passes separators pending (phrase t) := by
  have hin : ∀ c, c ∉ ['"'] → nextPending ('"' :: pending) c = some ('"' :: pending) := by
    intro c hc
    have hne : '"' ≠ c := fun he => hc (List.mem_singleton.mpr he.symm)
    simp [nextPending, hne]
  exact passes_enclosed (by decide) (fun _ => hs.not_mem (by decide)) (nextPending_opening ho (by simp)) (by decide)
    (passes_literal (fun hn => (List.cons_ne_nil _ _ hn).elim) hin (literal_escapePhrase t))

theorem passes_escape (hs : Separates separators) (ho : Outer pending) (ht : pending = [] → ∀ c ∈ t, c ∉ separators) :
    Passes separators pending (escape t) := by
  have hr : brackets ⊆ reserved := by simp [brackets, reserved]
  -- separators are not escaped; where something is open they need not be
  by_cases hp : pending = []
  · have hl : Literal (brackets ++ separators) (escape t) := by
      refine literal_escape ?_ ?_ ?_
      · intro c hc hm
        rcases List.mem_append.mp hm with hb | hm
        · exact hr hb
        · exact (ht hp c hc hm).elim
      · exact fun hm => (List.mem_append.mp hm).elim (by decide) (hs.not_mem (by decide))
      · exact fun hm => (List.mem_append.mp hm).elim (by decide) (hs.not_mem (by decide))
    exact passes_literal (fun _ c hc => List.mem_append_right _ hc)
      (fun c hc => nextPending_outer ho fun hb => hc (List.mem_append_left _ hb)) hl
  · exact passes_literal (fun h => (hp h).elim) (fun c => nextPending_outer ho)
      (literal_escape (fun c _ hc => hr hc) (by decide) (by decide))

theorem passes_exactText (hs : Separates separators) (ho : Outer pending) (ht : pending = [] → Held separators t) :
    Passes separators pending (exactText t) := by
  rw [exactText]
  split
  · exact passes_phrase hs ho
  · next hp =>
      rw [one_lt_length_pieces] at hp
      exact passes_escape hs ho fun hn => (ht hn).resolve_left hp

theorem passes_parentheses (hs : Separates separators) (ho : Outer pending) (h : Passes separators (')' :: pending) text) :
    Passes separators pending ('(' :: text ++ [')']) :=
  passes_enclosed (by decide) (fun _ => hs.not_mem (by decide)) (nextPending_opening ho (by simp)) (by decide) h

theorem passes_brackets (hs : Separates separators) (ho : Outer pending) (h : Passes separators (']' :: pending) text) :
    Passes separators pending ('[' :: text ++ [']']) :=
  passes_enclosed (by decide) (fun _ => hs.not_mem (by decide)) (nextPending_opening ho (by simp)) (by decide) h

theorem passes_within (ho : Outer pending) (hp : pending ≠ []) (hi : text.all isInert = true) :
    Passes separators pending text := passes_of_all ho hi fun hn => (hp hn).elim

theorem solid_of_all (hs : Separates separators) (h : (field.all fun c => isInert c && !isBlank c) = true) :
    Solid separators field := by
  intro c hc
  have hm := List.all_eq_true.mp h c hc
  rw [Bool.and_eq_true, Bool.not_eq_true'] at hm
  exact ⟨hm.1, hs.not_mem hm.2⟩

theorem held_of_all (hs : Separates separators) (h : (t.all fun c => !isBlank c) = true) : Held separators t :=
  .inr fun c hc => hs.not_mem (by simpa using List.all_eq_true.mp h c hc)

theorem passes_fieldCondition (hs : Separates separators) (ho : Outer pending) (hf : Solid separators field)
    (ht : pending = [] → Held separators t) : Passes separators pending (fieldCondition field (exactText t)) := by
  rw [fieldCondition]
  split
  · have hin : Outer (')' :: pending) := ho.close (.inl rfl)
    have hne : ')' :: pending ≠ [] := List.cons_ne_nil _ _
    have hx : Passes separators (')' :: pending) (exactText t) := passes_exactText hs hin fun hn => (hne hn).elim
    have hcolon : Passes separators (')' :: pending) [':'] := passes_within hin hne (by decide)
    have hfirst : Passes separators (')' :: pending) categoryField.toList := passes_within hin hne (by decide)
    have hor : Passes separators (')' :: pending) " OR ".toList := passes_within hin hne (by decide)
    have hshown : Passes separators (')' :: pending) shownField.toList := passes_within hin hne (by decide)
    have h := passes_parentheses hs ho (((hfirst.append (hcolon.append hx)).append hor).append
      (hshown.append (hcolon.append hx)))
    simpa using h
  · have hcolon : Passes separators pending [':'] := passes_solid ho (solid_of_all hs (by decide))
    exact (passes_solid ho hf).append (hcolon.append (passes_exactText hs ho ht))

theorem passes_disjunction (hs : Separates separators) (ho : Outer pending) (hf : Solid separators field)
    (texts : List (List Char)) : Passes separators pending (Criterion.disjunction field texts) := by
  have hin : Outer (')' :: pending) := ho.close (.inl rfl)
  have hne : ')' :: pending ≠ [] := List.cons_ne_nil _ _
  refine passes_parentheses hs ho (passes_intercalate ?_ (passes_within hin hne (by decide)))
  intro text hm
  obtain ⟨t, -, rfl⟩ := List.mem_map.mp hm
  exact passes_fieldCondition hs hin hf fun hn => (hne hn).elim

theorem passes_range (hs : Separates separators) (ho : Outer pending) (hf : Solid separators field)
    (lower upper : List Char) : Passes separators pending (Criterion.range field exactText lower upper) := by
  have hin : Outer (']' :: pending) := ho.close (.inr rfl)
  have hne : ']' :: pending ≠ [] := List.cons_ne_nil _ _
  have hx : ∀ t, Passes separators (']' :: pending) (exactText t) := fun t =>
    passes_exactText hs hin fun hn => (hne hn).elim
  have hto : Passes separators (']' :: pending) " TO ".toList := passes_within hin hne (by decide)
  have hcolon : Passes separators pending [':'] := passes_solid ho (solid_of_all hs (by decide))
  have h := (passes_solid ho hf).append
    (hcolon.append (passes_brackets hs ho (((hx lower).append hto).append (hx upper))))
  simpa [Criterion.range] using h

theorem InOneWord.passes {criterion : Criterion} (hs : Separates separators) (h : InOneWord separators field criterion) :
    Passes separators [] (criterion.filterClause field) := by
  have ho : Outer [] := by simp [Outer]
  cases criterion with
  | equals t => exact passes_fieldCondition hs ho h.field fun _ => h.text t rfl
  | anyOf texts => exact passes_disjunction hs ho h.field texts
  | between lower upper => exact passes_range hs ho h.field lower upper

theorem filterClause_not_mem_operators (field : List Char) (criterion : Criterion) :
    criterion.filterClause field ∉ operators := by
  have hmark : '(' ∈ criterion.filterClause field ∨ ':' ∈ criterion.filterClause field := by
    cases criterion with
    | equals t =>
        rw [Criterion.filterClause, fieldCondition]
        split <;> simp
    | anyOf texts => simp [Criterion.filterClause, Criterion.disjunction]
    | between lower upper => simp [Criterion.filterClause, Criterion.range]
  have hnone : ∀ operator ∈ operators, '(' ∉ operator ∧ ':' ∉ operator := by decide
  intro hm
  obtain ⟨hp, hc⟩ := hnone _ hm
  exact hmark.elim hp hc

theorem topWords_space (hs : Separates separators) (rest : List Char) :
    topWords separators [] (' ' :: rest) = (topWords separators [] rest).map ([] :: ·) := by
  rw [topWords_cons (by decide), if_pos ⟨rfl, hs.space⟩]

theorem topWords_conjunction (hs : Separates separators) {clauses : List (List Char)} (hne : clauses ≠ [])
    (h : ∀ clause ∈ clauses, Passes separators [] clause) :
    topWords separators [] (conjunction clauses) = some (clauses.intersperse "AND".toList) := by
  induction clauses with
  | nil => exact absurd rfl hne
  | cons clause clauses ih =>
      have hc := h clause List.mem_cons_self
      cases clauses with
      | nil =>
          have hend := hc []
          rw [List.append_nil] at hend
          rw [conjunction, List.intercalate_singleton, hend, topWords, if_pos rfl, Option.map_some, foldr_prepend,
            List.append_nil]
          rfl
      | cons next clauses =>
          have hrest := ih (List.cons_ne_nil _ _) fun u hu => h u (List.mem_cons_of_mem clause hu)
          have hand : Passes separators [] "AND".toList := passes_solid (by simp [Outer]) (solid_of_all hs (by decide))
          have htext : conjunction (clause :: next :: clauses) =
              clause ++ ' ' :: ("AND".toList ++ ' ' :: conjunction (next :: clauses)) := by
            rw [conjunction, List.intercalate_cons_cons, List.append_assoc]
            rfl
          rw [htext, hc, topWords_space hs, hand, topWords_space hs, hrest]
          simp only [Option.map_some, foldr_prepend, List.append_nil]
          rfl

example : topWords [' '] [] "x:\"a b\" AND (y:1 OR y:2)".toList =
    some ["x:\"a b\"".toList, "AND".toList, "(y:1 OR y:2)".toList] := by decide

theorem mem_intersperse {α : Type} {x sep : α} {xs : List α} (h : x ∈ xs.intersperse sep) : x = sep ∨ x ∈ xs := by
  induction xs with
  | nil => exact .inr h
  | cons y ys ih =>
      cases ys with
      | nil => exact .inr h
      | cons z ys =>
          rw [List.intersperse_cons_cons, List.mem_cons, List.mem_cons] at h
          rcases h with rfl | rfl | h
          · exact .inr List.mem_cons_self
          · exact .inl rfl
          · exact (ih h).imp_right (List.mem_cons_of_mem y)

theorem not_isConjunction {words : List (List Char)} (hw : topWords separators [] text = some words)
    {operator : List Char} (ho : operator ∈ operators) (hm : operator ∈ words) (hand : operator ≠ "AND".toList)
    (clauses : List (List Char)) : ¬IsConjunction separators text clauses := by
  intro h
  rw [h.1, Option.some.injEq] at hw
  rw [← hw] at hm
  rcases mem_intersperse hm with he | hm
  · exact hand he
  · exact h.2 operator hm ho

theorem isConjunction_conjunction (hs : Separates separators) {clauses : List (List Char)} (hne : clauses ≠ [])
    (h : ∀ clause ∈ clauses, Passes separators [] clause ∧ clause ∉ operators) :
    IsConjunction separators (conjunction clauses) clauses :=
  ⟨topWords_conjunction hs hne fun clause hc => (h clause hc).1, fun clause hc => (h clause hc).2⟩

end CatalogSearch.Query.Conjuncts
