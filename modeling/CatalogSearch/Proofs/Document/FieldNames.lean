import CatalogSearch.Sorting
import CatalogSearch.Document
import CatalogSearch.Proofs.Value.Numerals
import Mathlib.Data.List.Basic

namespace CatalogSearch.FieldNames

def position (category : Int) : String := "position_category_" ++ toString category

def price (group website : Int) : String := "price_" ++ toString group ++ "_" ++ toString website

def Starts (start name : String) : Prop := start.toList <+: name.toList

theorem starts_self (name : String) : Starts name name := List.prefix_rfl

theorem starts_position (category : Int) : Starts "position_category_" (position category) := by
  unfold Starts position
  simp only [String.toList_append]
  exact List.prefix_append _ _

theorem starts_price (group website : Int) : Starts "price_" (price group website) := by
  unfold Starts price
  simp only [String.toList_append, List.append_assoc]
  exact List.prefix_append _ _

theorem starts_sortFieldName (code : List Char) (language : Option (List Char)) :
    Starts "sort_by_" (String.ofList (sortFieldName code language)) := by
  unfold Starts sortFieldName
  simp only [String.toList_ofList, List.append_assoc]
  exact List.prefix_append _ _

theorem Starts.ne {p q s t : String} (hs : Starts p s) (ht : Starts q t)
    (h : (p.toList.isPrefixOf q.toList || q.toList.isPrefixOf p.toList) = false) : s ≠ t := by
  rintro rfl
  rw [Bool.or_eq_false_iff, ← Bool.not_eq_true, ← Bool.not_eq_true, List.isPrefixOf_iff_prefix,
    List.isPrefixOf_iff_prefix] at h
  rcases List.prefix_or_prefix_of_prefix hs ht with hp | hp
  · exact h.1 hp
  · exact h.2 hp

theorem positionField_eq (category : Int) :
    SortKey.positionField (toString category).toList = (position category).toList := by
  unfold SortKey.positionField position
  simp only [String.toList_append]

theorem position_inj {c d : Int} (h : position c = position d) : c = d := by
  have hl := congrArg String.toList h
  unfold position at hl
  simp only [String.toList_append] at hl
  exact Numerals.toString_inj (String.toList_inj.mp (List.append_cancel_left hl))

theorem price_eq_iff {g k w v : Int} : price g w = price k v ↔ g = k ∧ w = v := by
  constructor
  · intro h
    have hl := congrArg String.toList h
    have hu : "_".toList = ['_'] := rfl
    unfold price at hl
    simp only [String.toList_append, List.append_assoc, hu, List.singleton_append] at hl
    have hnot : ∀ n : Int, '_' ∉ (toString n).toList := by
      intro n hm
      rcases Numerals.mem_toString hm with hd | hd <;> cases hd
    obtain ⟨hg, -, hw⟩ := (List.append_cons_inj_of_notMem (hnot g) (hnot w)).mp (List.append_cancel_left hl)
    exact ⟨Numerals.toString_inj (String.toList_inj.mp hg), Numerals.toString_inj (String.toList_inj.mp hw)⟩
  · rintro ⟨rfl, rfl⟩
    rfl

theorem price_inj {g k w : Int} (h : price g w = price k w) : g = k := (price_eq_iff.mp h).1

end CatalogSearch.FieldNames
