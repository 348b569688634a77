import CatalogSearch.Proofs.Engine.Aggregations
import CatalogSearch.Proofs.Engine.CategoryQueries

namespace CatalogSearch.Engine

open Query Query.Reader FacetRequest Aggregation

/-- The written form of a range that was asked for. -/
def label (range : Entries) : Value := .text
  ("[" ++ (range.field "from" (.text "")).display ++ " TO " ++ (range.field "to" (.text "")).display ++ "]")

variable {a b : Entries}

theorem field_rangeRecord (a : Entries) {name : String} (hn : name = "from" ∨ name = "to") :
    (rangeRecord a).field name (.text "") = .ofChars (group (boundText a name)) := by
  rw [Entries.field, field?_rangeRecord a hn]
  split
  · next h =>
      rw [h]
      rfl
  · rfl

theorem label_rangeRecord (a : Entries) : label (rangeRecord a) = .ofChars
    ('[' :: group (boundText a "from") ++ (" TO ".toList ++ (group (boundText a "to") ++ [']']))) := by
  rw [label, field_rangeRecord a (.inl rfl), field_rangeRecord a (.inr rfl), Value.display_ofChars,
    Value.display_ofChars, Value.ofChars, Value.text.injEq, ← String.toList_inj]
  simp

theorem bounds_of_label (h : label (rangeRecord a) = label (rangeRecord b)) :
    group (boundText a "from") = group (boundText b "from") ∧ group (boundText a "to") = group (boundText b "to") := by
  rw [label_rangeRecord, label_rangeRecord, Value.ofChars_inj] at h
  have htail : group (boundText a "from") ++ (" TO ".toList ++ (group (boundText a "to") ++ [']'])) =
      group (boundText b "from") ++ (" TO ".toList ++ (group (boundText b "to") ++ [']'])) := (List.cons.inj h).2
  have ha := isOperand_group (boundText a "from") (" TO ".toList ++ (group (boundText a "to") ++ [']'])) (ends_append _ rfl)
  have hb := isOperand_group (boundText b "from") (" TO ".toList ++ (group (boundText b "to") ++ [']'])) (ends_append _ rfl)
  rw [htail, hb, Option.some.injEq, Prod.mk.injEq] at ha
  exact ⟨ha.1.symm, (List.append_cancel_right (List.append_cancel_left ha.2)).symm⟩

theorem field?_rangeRecord_congr {name : String} (hn : name = "from" ∨ name = "to")
    (h : group (boundText a name) = group (boundText b name)) :
    (rangeRecord a).field? name = (rangeRecord b).field? name := by
  rw [field?_rangeRecord a hn, field?_rangeRecord b hn, h]
  have hiff : boundText a name = [] ↔ boundText b name = [] := by
    constructor <;> intro he
    · rw [he] at h
      exact group_boundText_eq_nil h.symm
    · rw [he] at h
      exact group_boundText_eq_nil h
  by_cases hb : boundText b name = []
  · rw [if_pos hb, if_pos (hiff.mpr hb)]
  · rw [if_neg hb, if_neg fun ha => hb (hiff.mp ha)]

/-- Ranges with the same prepared bounds, and open at the same ends. -/
def SameBounds (a b : Entries) : Prop := a.field? "from" = b.field? "from" ∧ a.field? "to" = b.field? "to"

/-- Ranges are written alike if and only if their bounds are alike. -/
theorem label_eq_iff : label (rangeRecord a) = label (rangeRecord b) ↔ SameBounds (rangeRecord a) (rangeRecord b) := by
  constructor
  · intro h
    obtain ⟨hl, hu⟩ := bounds_of_label h
    exact ⟨field?_rangeRecord_congr (.inl rfl) hl, field?_rangeRecord_congr (.inr rfl) hu⟩
  · rintro ⟨hl, hu⟩
    rw [label, label, Entries.field, Entries.field, Entries.field, Entries.field, hl, hu]

/-- A bound as it stands in the name of a range, with a star for an open end. -/
def boundName (a : Entries) (name : String) : List Char :=
  if boundText a name = [] then wildcard.toList else group (boundText a name)

theorem rangeName_rangeRecord (a : Entries) :
    rangeName (rangeRecord a) = String.ofList (boundName a "from" ++ '-' :: boundName a "to") := by
  have hb : ∀ name, name = "from" ∨ name = "to" →
      ((rangeRecord a).field name (.text wildcard)).display = String.ofList (boundName a name) := by
    intro name hn
    rw [Entries.field, field?_rangeRecord a hn, boundName]
    split
    · rfl
    · rw [Option.getD_some, Value.display_ofChars]
  rw [rangeName, hb "from" (.inl rfl), hb "to" (.inr rfl), ← String.toList_inj]
  simp

theorem literal_boundName (a : Entries) (name : String) : Literal ['-'] (boundName a name) := by
  rw [boundName]
  split
  · exact literal_of_forall (List.all_iff_forall_prop.mp (by decide))
  · exact literal_group (List.all_iff_forall_prop.mp (by decide)) _

theorem group_ne_wildcard (t : List Char) : group t ≠ wildcard.toList := by
  by_cases hm : ' ' ∈ t
  · rcases group_of_mem hm with h | ⟨cs, h⟩
    · rw [h]
      decide
    · rw [h]
      exact fun he => absurd (List.cons.inj he).1 (by decide)
  · rw [group_of_not_mem hm]
    exact escape_ne_reserved t [] (by decide) (by decide)

theorem group_of_boundName {name : String} (h : boundName a name = boundName b name) :
    group (boundText a name) = group (boundText b name) := by
  rw [boundName, boundName] at h
  split at h <;> split at h
  · next ha hb => rw [ha, hb]
  · exact absurd h.symm (group_ne_wildcard _)
  · exact absurd h (group_ne_wildcard _)
  · exact h

/-- Ranges are sent under one name if and only if their bounds are alike. -/
theorem rangeName_eq_iff :
    rangeName (rangeRecord a) = rangeName (rangeRecord b) ↔ SameBounds (rangeRecord a) (rangeRecord b) := by
  constructor
  · intro h
    rw [rangeName_rangeRecord, rangeName_rangeRecord, String.ofList_inj] at h
    have hread : ∀ a, readUntil ['-'] (boundName a "from" ++ '-' :: boundName a "to") =
        (boundName a "from", '-' :: boundName a "to") := by
      intro a
      rw [readUntil_append (literal_boundName a "from"), readUntil_of_stop (List.mem_singleton_self '-') (by decide),
        List.append_nil]
    have hparts := (hread a).symm.trans ((congrArg (readUntil ['-']) h).trans (hread b))
    obtain ⟨hl, hu⟩ := Prod.mk.inj hparts
    exact ⟨field?_rangeRecord_congr (.inl rfl) (group_of_boundName hl),
      field?_rangeRecord_congr (.inr rfl) (group_of_boundName (List.cons.inj hu).2)⟩
  · rintro ⟨hl, hu⟩
    rw [rangeName, rangeName, Entries.field, Entries.field, Entries.field, Entries.field, hl, hu]

theorem rangeName_of_label (h : label (rangeRecord a) = label (rangeRecord b)) :
    rangeName (rangeRecord a) = rangeName (rangeRecord b) :=
  rangeName_eq_iff.mpr (label_eq_iff.mp h)

theorem category_apart_label {cs id : List Char} (h : FacetKind.category? cs = some id) (range : Entries) :
    (label (rangeRecord range)).Apart (.ofChars id) := by
  obtain ⟨⟨-, hd⟩, -⟩ := FacetKind.exists_of_category? h
  rw [label_rangeRecord]
  refine Value.apart_text fun he => ?_
  rw [String.ofList_inj] at he
  have hbracket := hd '[' (by rw [← he]; exact List.mem_cons_self)
  exact absurd hbracket (by decide)

end CatalogSearch.Engine
