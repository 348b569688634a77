import CatalogSearch.Proofs.Engine.Summaries
import Mathlib.Data.List.Basic

namespace CatalogSearch.Engine

open Query Keyed

/-- Records of queries only, each for a condition on a field whose name is a word, and under a name of its own. -/
structure QueryCounts (records : Keyed FacetRecord) : Prop where
  once : ∀ name, OnceUnder records name
  told : ∀ x ∈ records, ∃ field condition count, (∀ c ∈ field, Text.isWord c = true) ∧
    x = (.ofChars (queryName field condition), .query count)

instance (cs : List Char) : Decidable (IsId cs) :=
  decidable_of_iff (cs ≠ [] ∧ cs.all Text.isDigit = true) (and_congr_right fun _ => List.all_eq_true)

variable {records : Keyed FacetRecord} {field : List Char} {condition : Value}

/-- A condition on the categories that gives a number. -/
def AsksForCategory (field : List Char) (condition : Value) : Prop := field = categoryField.toList ∧ IsId condition.operand

instance (field : List Char) (condition : Value) : Decidable (AsksForCategory field condition) :=
  inferInstanceAs (Decidable (_ ∧ _))

theorem category?_queryName_eq (hf : ∀ c ∈ field, Text.isWord c = true) (condition : Value) :
    FacetKind.category? (queryName field condition) =
      if AsksForCategory field condition then some condition.operand else none := by
  split
  · next h => exact (FacetKind.category?_queryName hf condition).mpr ⟨h.1, h.2, rfl⟩
  · next h =>
      rw [Option.eq_none_iff_forall_ne_some]
      intro id hid
      obtain ⟨hfield, hi, rfl⟩ := (FacetKind.category?_queryName hf condition).mp hid
      exact h ⟨hfield, hi⟩

/-- The count of a category under its number, where a record has one. -/
def categoryCount? (x : Value × FacetRecord) : Option (Value × Value) :=
  match x.2 with
  | .query count => (FacetKind.category? x.1.chars).map fun id => (.ofChars id, count)
  | _ => none

theorem categoryCount?_query (q : List Char) (count : Value) : categoryCount? (.ofChars q, .query count) =
    (FacetKind.category? q).map fun id => (.ofChars id, count) := by
  rw [categoryCount?, Value.chars_ofChars]

namespace QueryCounts

theorem filed_eq (h : QueryCounts records) : records.flatMap (fun x => x.2.filed x.1) =
    Summary.under categoryField (records.filterMap categoryCount?) := by
  have hx : ∀ x ∈ records, x.2.filed x.1 = ((categoryCount? x).map fun c => (Value.text categoryField, c)).toList := by
    intro x hx
    obtain ⟨field, condition, count, -, rfl⟩ := h.told x hx
    rw [FacetRecord.filed_query, categoryCount?_query, Option.map_map]
    rfl
  rw [List.flatMap_congr hx, Summary.under, List.map_filterMap, List.filterMap_eq_flatMap_toList]

theorem mem_counts (h : QueryCounts records) {key count : Value} : (key, count) ∈ records.filterMap categoryCount? ↔
    ∃ condition : Value, IsId condition.operand ∧ key = .ofChars condition.operand ∧
      (.ofChars (queryName categoryField.toList condition), .query count) ∈ records := by
  rw [List.mem_filterMap]
  constructor
  · rintro ⟨x, hx, hc⟩
    obtain ⟨field, condition, count, hf, rfl⟩ := h.told x hx
    rw [categoryCount?_query, category?_queryName_eq hf] at hc
    split at hc
    · next ha =>
        cases hc
        obtain ⟨rfl, hi⟩ := ha
        exact ⟨condition, hi, rfl, hx⟩
    · cases hc
  · rintro ⟨condition, hi, rfl, hm⟩
    refine ⟨_, hm, ?_⟩
    have hf : ∀ c ∈ categoryField.toList, Text.isWord c = true := List.all_eq_true.mp (by decide)
    rw [categoryCount?_query, category?_queryName_eq hf, if_pos ⟨rfl, hi⟩]
    rfl

theorem once_counts (h : QueryCounts records) (name : String) : OnceUnder (records.filterMap categoryCount?) name := by
  intro a b ha hb
  obtain ⟨condition, -, hc, ha⟩ := h.mem_counts.mp ha
  obtain ⟨other, -, ho, hb⟩ := h.mem_counts.mp hb
  have hn : queryName categoryField.toList other = queryName categoryField.toList condition := by
    rw [queryName, queryName, Value.ofChars_inj.mp (ho.symm.trans hc)]
  rw [hn] at hb
  exact FacetRecord.query.inj (h.once _ _ _ ha hb)

theorem shows_iff (h : QueryCounts records) {heading : String} {key count : Value} :
    (FacetRecord.summaryOf records).Shows heading key count ↔ heading = categoryField ∧
      ∃ condition : Value, IsId condition.operand ∧ key = .ofChars condition.operand ∧
        (.ofChars (queryName categoryField.toList condition), .query count) ∈ records := by
  have ht : TextKeys (records.filterMap categoryCount?) := by
    rintro ⟨key, count⟩ hx
    obtain ⟨condition, -, rfl, -⟩ := h.mem_counts.mp hx
    exact ⟨_, rfl⟩
  rw [FacetRecord.summaryOf, h.filed_eq, Summary.shows_under ht h.once_counts, h.mem_counts]

theorem ofRecords_eq (h : QueryCounts records) :
    Summary.ofRecords (FacetRecord.toValues records) = .ok (FacetRecord.summaryOf records) := by
  let names : List (List Char) := records.map fun x => x.1.chars
  have hr : ∀ x ∈ records, FacetRecord.Recorded { queries := names } [] [] x.1 x.2 := by
    intro x hx
    obtain ⟨field, condition, count, -, rfl⟩ := h.told x hx
    refine .query count (List.mem_map.mpr ⟨_, hx, ?_⟩)
    rw [Value.chars_ofChars]
  exact FacetRecord.ofRecords_eq hr

end QueryCounts

/-- Of the counts of queries, those of categories and no others are taken for such: each is added under the
number that was asked for, and a summary of such counts shows them and nothing else. -/
theorem category_counts_are_told (h : QueryCounts records) :
    (∀ field condition count, (∀ c ∈ field, Text.isWord c = true) →
      (FacetKind.ofRecord? (.ofChars (queryName field condition)) (FacetRecord.query count).toValue = .ok (some .category) ↔
        AsksForCategory field condition) ∧
      ∀ s : Summary, s.ofRecord (.ofChars (queryName field condition)) (FacetRecord.query count).toValue =
        .ok (if AsksForCategory field condition then s.add (.text categoryField) (.ofChars condition.operand) count else s)) ∧
    ∃ s, Summary.ofRecords (FacetRecord.toValues records) = .ok s ∧ ∀ heading key count, s.Shows heading key count ↔
      heading = categoryField ∧ ∃ condition : Value, IsId condition.operand ∧ key = .ofChars condition.operand ∧
        (.ofChars (queryName categoryField.toList condition), .query count) ∈ records := by
  refine ⟨?_, FacetRecord.summaryOf records, h.ofRecords_eq, fun heading key count => h.shows_iff⟩
  intro field condition count hf
  refine ⟨?_, fun s => ?_⟩
  · rw [FacetRecord.ofRecord?_query, category?_queryName_eq hf]
    split <;> simp_all
  · rw [FacetRecord.ofRecord_query, category?_queryName_eq hf]
    split <;> rfl

/-- Two categories, one of them told by digits of another script, and a name that reads like a third. -/
def hallCounts : Keyed FacetRecord := [
  (.ofChars (queryName "categories".toList (.int 5)), .query (.int 3)),
  (.ofChars (queryName "categories".toList (.text "١٢")), .query (.int 4)),
  (.ofChars (queryName "name".toList (.text "(categories:7 OR show_in_categories:7)")), .query (.int 9))]

theorem hall_counts_are_told : QueryCounts hallCounts ∧
    ∃ s, Summary.ofRecords (FacetRecord.toValues hallCounts) = .ok s ∧ s.Shows categoryField (.text "5") (.int 3) ∧
      s.Shows categoryField (.text "١٢") (.int 4) ∧ ∀ count, ¬s.Shows categoryField (.text "7") count := by
  have hnames : (hallCounts.map fun x => x.1.chars).Nodup := by decide
  have h : QueryCounts hallCounts := by
    refine ⟨fun name => OnceUnder.of_nodup (List.Nodup.of_map Value.chars (by rwa [keys, List.map_map])) name, ?_⟩
    intro x hx
    simp only [hallCounts, List.mem_cons, List.not_mem_nil, or_false] at hx
    rcases hx with rfl | rfl | rfl
    · exact ⟨_, _, _, List.all_eq_true.mp (by decide), rfl⟩
    · exact ⟨_, _, _, List.all_eq_true.mp (by decide), rfl⟩
    · exact ⟨_, _, _, List.all_eq_true.mp (by decide), rfl⟩
  obtain ⟨-, s, hs, hshows⟩ := category_counts_are_told h
  refine ⟨h, s, hs, ?_, ?_, ?_⟩
  · exact (hshows _ _ _).mpr ⟨rfl, .int 5, by decide, rfl, List.mem_cons_self⟩
  · exact (hshows _ _ _).mpr ⟨rfl, .text "١٢", by decide, rfl, List.mem_cons_of_mem _ List.mem_cons_self⟩
  · intro count hc
    obtain ⟨-, condition, -, hid, hm⟩ := (hshows _ _ _).mp hc
    have hoperand : condition.operand = ['7'] := (Value.ofChars_inj.mp (hid : Value.ofChars ['7'] = _)).symm
    have hname : (Value.ofChars (fieldCondition categoryField.toList (group ['7']))).chars ∈
        hallCounts.map fun x => x.1.chars := by
      rw [queryName, hoperand] at hm
      exact List.mem_map_of_mem (f := fun x => x.1.chars) hm
    exact absurd hname (by decide)

end CatalogSearch.Engine
