import CatalogSearch.Proofs.Document.FieldNames
import CatalogSearch.Proofs.Value.Keys

namespace CatalogSearch

def Value.isScalar : Value → Bool
  | .list _ | .tuple _ | .set _ | .map _ | .object _ => false
  | _ => true

namespace Row

/-- What a field of a row may hold: one thing, or a list of such. -/
def isCell : Value → Bool
  | .list xs => xs.all Value.isScalar
  | v => v.isScalar

def gathered : List String := [Document.optionsField, "categories", "show_in_categories"]

structure Tidy (row : Entries) : Prop where
  names : ∀ e ∈ row, ∃ name, e.1 = .text name
  cells : ∀ e ∈ row, isCell e.2 = true
  lists : ∀ name ∈ gathered, ∀ v, row.field? name = some v → ∃ xs, v = .list xs

variable {row : Entries} {name : String} {v : Value}

theorem not_gathered {start : String} (hs : FieldNames.Starts start name)
    (h : gathered.all fun g => !(start.toList.isPrefixOf g.toList || g.toList.isPrefixOf start.toList)) :
    name ∉ gathered := by
  intro hg
  have hn := List.all_eq_true.mp h name hg
  rw [Bool.not_eq_true'] at hn
  exact hs.ne (FieldNames.starts_self name) hn rfl

theorem isCell_of_isScalar (h : v.isScalar = true) : isCell v = true := by
  cases v <;> first | exact h | cases h

theorem tidy_nil : Tidy [] := ⟨by simp, by simp, by rintro _ _ _ ⟨⟩⟩

theorem Tidy.isCell_field (h : Tidy row) (name : String) : isCell (row.field name) = true := by
  rw [Entries.field]
  cases hf : row.field? name with
  | none => rfl
  | some v => exact h.cells _ (Keyed.mem_of_find?_text hf)

theorem Tidy.list_field (h : Tidy row) (hn : name ∈ gathered) :
    ∃ xs, row.field name (.list []) = .list xs ∧ xs.all Value.isScalar = true := by
  rw [Entries.field]
  cases hf : row.field? name with
  | none => exact ⟨[], rfl, rfl⟩
  | some v =>
      obtain ⟨xs, rfl⟩ := h.lists name hn v hf
      exact ⟨xs, rfl, h.cells _ (Keyed.mem_of_find?_text hf)⟩

theorem Tidy.list_of_hasField (h : Tidy row) (hf : row.hasField name) (hn : name ∈ gathered) :
    ∃ xs, row.field name = .list xs := by
  rw [Entries.hasField_eq] at hf
  obtain ⟨v, hv⟩ := Option.isSome_iff_exists.mp hf
  obtain ⟨xs, rfl⟩ := h.lists name hn v hv
  exact ⟨xs, by rw [Entries.field, hv]; rfl⟩

theorem Tidy.set (h : Tidy row) (hv : isCell v = true) (hl : name ∈ gathered → ∃ xs, v = .list xs) :
    Tidy (row.set name v) where
  names := by
    intro e he
    rcases Keyed.mem_insert_text he with he | rfl
    · exact h.names e he
    · exact ⟨name, rfl⟩
  cells := by
    intro e he
    rcases Keyed.mem_insert_text he with he | rfl
    · exact h.cells e he
    · exact hv
  lists := by
    intro other ho w hw
    rw [Entries.field?_set] at hw
    split at hw
    · next he =>
        obtain ⟨xs, hx⟩ := hl (he ▸ ho)
        exact ⟨xs, (Option.some.inj hw).symm.trans hx⟩
    · exact h.lists other ho w hw

end Row

end CatalogSearch
