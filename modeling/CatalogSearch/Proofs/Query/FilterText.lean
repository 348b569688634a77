import CatalogSearch.Proofs.Query.ReadBack
import Mathlib.Data.List.Forall2
import Mathlib.Tactic.SplitIfs

namespace CatalogSearch.Query.FilterText

open Reader

/-- The text of a bound; a blank one is left open. -/
def boundText (v : Value) : List Char := if v.operand.all Text.isBlank then [] else v.operand

/-- What the value of a filter asks of its field: its own text, any of the texts in it, or a range. -/
inductive Asks (field : List Char) : Value → Criterion → Prop where
  | scalar {v : Value} : v.isMap = false → v.sequence? = none → Asks field v (.equals v.operand)
  | sequence {v : Value} {items : List Value} : v.sequence? = some items → items ≠ [] → field ≠ priceField.toList →
      Asks field v (.anyOf (items.map Value.operand))
  | prices {v : Value} {items : List Value} : v.sequence? = some items → field = priceField.toList →
      Asks field v (.between (boundText (items.getD 0 .null)) (boundText (items.getD 1 .null)))
  | mapping {es : Entries} : es.hasField "from" = false → es.hasField "to" = false → es ≠ [] →
      Asks field (.map es) (.anyOf (es.map fun e => e.2.operand))
  | record {es : Entries} : es.hasField "from" ∨ es.hasField "to" →
      Asks field (.map es) (.between (boundText (es.field "from")) (boundText (es.field "to")))

/-- An empty collection asks for nothing, but an empty one of prices is a range. -/
def asksNothing (field : List Char) (v : Value) : Bool :=
  match v with
  | .map es => es.isEmpty
  | v => v.sequence?.any List.isEmpty && field != priceField.toList

theorem ofValue?_map (field : List Char) (es : Entries) :
    Criterion.ofValue? field (.map es) =
      if es.hasField "from" || es.hasField "to" then
        some (.between (boundText (es.field "from")) (boundText (es.field "to")))
      else if es.isEmpty then none else some (.anyOf (es.map fun e => e.2.operand)) := by
  simp only [Criterion.ofValue?, Criterion.isRangeRecord, Keyed.values, List.map_map]
  rfl

theorem ofValue?_sequence (field : List Char) {v : Value} {items : List Value} (hs : v.sequence? = some items) :
    Criterion.ofValue? field v =
      if field = priceField.toList then
        some (.between (boundText (items.getD 0 .null)) (boundText (items.getD 1 .null)))
      else if items.isEmpty then none else some (.anyOf (items.map Value.operand)) := by
  cases v <;> simp_all [Value.sequence?, Criterion.ofValue?] <;> rfl

theorem ofValue?_scalar (field : List Char) {v : Value} (hm : v.isMap = false) (hs : v.sequence? = none) :
    Criterion.ofValue? field v = some (.equals v.operand) := by
  cases v <;> simp_all [Value.sequence?, Criterion.ofValue?, Value.isMap]

theorem shape (v : Value) :
    (∃ es, v = .map es) ∨ (∃ items, v.sequence? = some items) ∨ (v.isMap = false ∧ v.sequence? = none) := by
  cases v <;> simp [Value.isMap, Value.sequence?]

theorem asks_iff (field : List Char) (v : Value) (c : Criterion) :
    Asks field v c ↔ Criterion.ofValue? field v = some c := by
  constructor
  · intro h
    cases h with
    | scalar hm hs => exact ofValue?_scalar field hm hs
    | sequence hs hn hp => rw [ofValue?_sequence field hs, if_neg hp]; simp [hn]
    | prices hs hp => rw [ofValue?_sequence field hs, if_pos hp]
    | mapping hf ht hn => rw [ofValue?_map]; simp [hf, ht, hn]
    | record hr => rw [ofValue?_map, if_pos (by simpa using hr)]
  · intro h
    rcases shape v with ⟨es, rfl⟩ | ⟨items, hs⟩ | ⟨hm, hs⟩
    · rw [ofValue?_map] at h
      split_ifs at h with hr hn
      · cases h; exact .record (by simpa using hr)
      · cases h
        rw [Bool.not_eq_true, Bool.or_eq_false_iff] at hr
        exact .mapping hr.1 hr.2 (by simpa using hn)
    · rw [ofValue?_sequence field hs] at h
      split_ifs at h with hp hn
      · cases h; exact .prices hs hp
      · cases h; exact .sequence hs (by simpa using hn) hp
    · rw [ofValue?_scalar field hm hs] at h
      cases h
      exact .scalar hm hs

theorem ofValue?_eq_none_iff (field : List Char) (v : Value) :
    Criterion.ofValue? field v = none ↔ asksNothing field v = true := by
  rcases shape v with ⟨es, rfl⟩ | ⟨items, hs⟩ | ⟨hm, hs⟩
  · rw [ofValue?_map, asksNothing]
    cases es with
    | nil => decide
    | cons e es => split_ifs <;> simp_all
  · have ha : asksNothing field v = (items.isEmpty && field != priceField.toList) := by
      cases v <;> simp_all [asksNothing, Value.sequence?]
    rw [ofValue?_sequence field hs, ha]
    split_ifs <;> simp_all
  · have ha : asksNothing field v = false := by cases v <;> simp_all [asksNothing, Value.isMap, Value.sequence?]
    rw [ofValue?_scalar field hm hs, ha]
    simp

def NamesFields (filters : Entries) : Prop := ∀ e ∈ filters, ∃ name : String, e.1 = .text name ∧ IsFieldName name.toList

/-- Filters and what they ask, in order, without those that ask for nothing. -/
def AsksInOrder (filters : Entries) (asked : List (List Char × Criterion)) : Prop :=
  List.Forall₂ (fun e a => a.1 = e.1.chars ∧ Asks a.1 e.2 a.2)
    (filters.filter fun e => !asksNothing e.1.chars e.2) asked

def askedOf (filters : Entries) : List (List Char × Criterion) :=
  filters.filterMap fun e => (Criterion.ofValue? e.1.chars e.2).map (e.1.chars, ·)

theorem filterClauses_eq_map (filters : Entries) :
    filterClauses filters = (askedOf filters).map fun a => a.2.filterClause a.1 := by
  rw [filterClauses, askedOf, List.map_filterMap]
  congr 1
  funext e
  cases Criterion.ofValue? e.1.chars e.2 <;> rfl

theorem asksInOrder_askedOf (filters : Entries) : AsksInOrder filters (askedOf filters) := by
  induction filters with
  | nil => exact .nil
  | cons e filters ih =>
      rw [AsksInOrder, askedOf, List.filter_cons, List.filterMap_cons]
      cases hc : Criterion.ofValue? e.1.chars e.2 with
      | none => rw [(ofValue?_eq_none_iff _ _).mp hc]; exact ih
      | some c =>
          have hn : asksNothing e.1.chars e.2 = false := by
            rw [← Bool.not_eq_true, ← ofValue?_eq_none_iff, hc]
            simp
          rw [hn]
          exact .cons ⟨rfl, (asks_iff _ _ _).mpr hc⟩ ih

theorem ne_anyOf_nil {field : List Char} {v : Value} {c : Criterion} (h : Asks field v c) : c ≠ .anyOf [] := by
  cases h <;> simp_all

theorem readFilters_filterClauses (filters : Entries) (hf : NamesFields filters) :
    readFilters (conjunction (filterClauses filters)) = some (askedOf filters) := by
  rw [filterClauses_eq_map]
  apply readFilters_conjunction
  intro a ha
  obtain ⟨e, he, hm⟩ := List.mem_filterMap.mp ha
  obtain ⟨c, hc, rfl⟩ := Option.map_eq_some_iff.mp hm
  obtain ⟨name, hn, hw⟩ := hf e he
  exact ⟨by rw [hn]; exact hw, ne_anyOf_nil ((asks_iff _ _ _).mpr hc)⟩

theorem compileFilters_map (filters : Entries) : compileFilters (.map filters) = .ok (filterClauses filters) := by
  cases filters <;> rfl

/-- The text that filters compile to reads back, in order, as what each of them asks of its field, so
that filters with one text ask the same. -/
theorem compiled_filters_read_back (filters : Entries) (hf : NamesFields filters) :
    ∃ clauses asked, compileFilters (.map filters) = .ok clauses ∧
      readFilters (conjunction clauses) = some asked ∧ AsksInOrder filters asked ∧
      ∀ others, NamesFields others → ∀ clauses', compileFilters (.map others) = .ok clauses' →
        conjunction clauses' = conjunction clauses → AsksInOrder others asked := by
  refine ⟨filterClauses filters, askedOf filters, compileFilters_map filters,
    readFilters_filterClauses filters hf, asksInOrder_askedOf filters, ?_⟩
  intro others ho clauses' hc ht
  rw [compileFilters_map] at hc
  cases hc
  have hr := readFilters_filterClauses others ho
  rw [ht, readFilters_filterClauses filters hf, Option.some.injEq] at hr
  rw [hr]
  exact asksInOrder_askedOf others

def mixedFilters : Entries := [
  (.text "categories", .text "3 OR in_stock:0"),
  (.text "color", .list [.text "a\" AND b", .null, .text "\\)", .int 7]),
  (.text "categories", .tuple [.text "1", .text "* TO *"]),
  (.text "price", .list []),
  (.text "size", .map [(.text "from", .text "[1 TO"), (.text "to", .text "\t")]),
  (.text "brand", .map []),
  (.text "brand", .map [(.text "x", .text "TO")])]

theorem namesFields_mixedFilters : NamesFields mixedFilters := by
  intro e he
  simp only [mixedFilters, List.mem_cons, List.not_mem_nil, or_false] at he
  rcases he with rfl | rfl | rfl | rfl | rfl | rfl | rfl <;> exact ⟨_, rfl, by decide, List.all_eq_true.mp (by decide)⟩

theorem mixed_filters_read_back :
    NamesFields mixedFilters ∧ ∃ clauses asked, compileFilters (.map mixedFilters) = .ok clauses ∧
      readFilters (conjunction clauses) = some asked ∧ AsksInOrder mixedFilters asked ∧
      ∀ others, NamesFields others → ∀ clauses', compileFilters (.map others) = .ok clauses' →
        conjunction clauses' = conjunction clauses → AsksInOrder others asked :=
  ⟨namesFields_mixedFilters, compiled_filters_read_back mixedFilters namesFields_mixedFilters⟩

example : readFilters "(categories:\"a b\" OR show_in_categories:\"a b\") AND x:[ TO \\]]".toList =
    some [("categories".toList, .equals "a b".toList), ("x".toList, .between [] [']'])] := by cbv

end CatalogSearch.Query.FilterText
