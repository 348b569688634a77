import CatalogSearch.Value.Basic
import Mathlib.Logic.Function.Basic

namespace CatalogSearch

theorem Value.same_text (name : String) (v : Value) : (Value.text name).same v = true ↔ v = .text name := by
  cases v with
  | text s =>
      simp only [Value.same, beq_iff_eq, Value.text.injEq]
      exact eq_comm
  | _ => simp [Value.same]

theorem Value.same_text_self (name : String) : (Value.text name).same (.text name) = true := (same_text name _).mpr rfl

theorem Value.same_text_of_ne {name other : String} (h : name ≠ other) :
    (Value.text name).same (.text other) = false := by
  rw [← Bool.not_eq_true, same_text]
  simp [h.symm]

theorem Value.same_text_right (v : Value) (name : String) : v.same (.text name) = true ↔ v = .text name := by
  constructor
  · intro h
    cases v <;> simp_all [Value.same, Value.sameNumber, Value.integer?]
  · rintro rfl
    exact same_text_self name

theorem Value.same_int (m n : Int) : (Value.int m).same (.int n) = (m == n) := by
  simp [Value.same, Value.sameNumber, Value.integer?]

namespace Keyed

variable {α : Type}

theorem find?_cons (e : Value × α) (es : Keyed α) (key : Value) :
    find? (e :: es) key = if key.same e.1 then some e.2 else find? es key := by
  rw [find?, List.find?_cons]
  split <;> simp_all [find?]

theorem mem_of_find?_text {es : Keyed α} {name : String} {x : α} (h : find? es (.text name) = some x) :
    (.text name, x) ∈ es := by
  obtain ⟨e, he, rfl⟩ := Option.map_eq_some_iff.mp h
  have hs := List.find?_some he
  rw [Value.same_text] at hs
  have hm := List.mem_of_find?_eq_some he
  rwa [← hs]

theorem has_text (es : Keyed α) (name : String) : has es (.text name) = true ↔ .text name ∈ keys es := by
  simp only [has, find?, Option.isSome_map, List.find?_isSome, Value.same_text, keys, List.mem_map]

theorem find?_insert_self (es : Keyed α) (name : String) (x : α) :
    find? (insert es (.text name) x) (.text name) = some x := by
  induction es with
  | nil => rw [insert, find?_cons, if_pos (Value.same_text_self name)]
  | cons e es ih =>
      rw [insert]
      split
      · next h => rw [find?_cons, if_pos h]
      · next h => rw [find?_cons, if_neg h, ih]

theorem find?_insert_of_ne (es : Keyed α) {key : Value} {name : String} (x : α) (hne : key.same (.text name) = false) :
    find? (insert es (.text name) x) key = find? es key := by
  induction es with
  | nil => rw [insert, find?_cons, hne]; rfl
  | cons e es ih =>
      rw [insert]
      split
      · next h =>
          rw [Value.same_text] at h
          rw [find?_cons, find?_cons, h, hne]
          rfl
      · rw [find?_cons, find?_cons, ih]

theorem mem_insert_text {es : Keyed α} {name : String} {x : α} {e : Value × α} (h : e ∈ insert es (.text name) x) :
    e ∈ es ∨ e = (.text name, x) := by
  induction es with
  | nil => exact .inr (List.mem_singleton.mp h)
  | cons d es ih =>
      rw [insert] at h
      split at h
      · next hs =>
          rw [Value.same_text] at hs
          rcases List.mem_cons.mp h with rfl | h
          · exact .inr (by rw [hs])
          · exact .inl (List.mem_cons_of_mem _ h)
      · rcases List.mem_cons.mp h with rfl | h
        · exact .inl List.mem_cons_self
        · exact (ih h).imp_left (List.mem_cons_of_mem _)

theorem mem_or_eq_of_mem_insert {es : Keyed α} {key : Value} {x : α} {e : Value × α} (h : e ∈ insert es key x) :
    e ∈ es ∨ e.2 = x := by
  induction es with
  | nil =>
      rw [List.mem_singleton.mp h]
      exact .inr rfl
  | cons d es ih =>
      rw [insert] at h
      split at h
      · rcases List.mem_cons.mp h with rfl | h
        · exact .inr rfl
        · exact .inl (List.mem_cons_of_mem _ h)
      · rcases List.mem_cons.mp h with rfl | h
        · exact .inl List.mem_cons_self
        · exact (ih h).imp_left (List.mem_cons_of_mem _)

def table (ids : List Int) (f : Int → α) : Keyed α := ids.map fun id => (.int id, f id)

variable {ids : List Int} {f : Int → α}

theorem table_cons (n : Int) : table (n :: ids) f = (.int n, f n) :: table ids f := rfl

theorem table_congr {g : Int → α} (h : ∀ id ∈ ids, f id = g id) : table ids f = table ids g :=
  List.map_congr_left fun id hm => by rw [h id hm]

theorem find?_table {id : Int} (h : id ∈ ids) : find? (table ids f) (.int id) = some (f id) := by
  induction ids with
  | nil => cases h
  | cons n ids ih =>
      rw [table_cons, find?_cons, Value.same_int]
      by_cases hn : id = n
      · simp [hn]
      · rw [if_neg (by simpa using hn)]
        exact ih ((List.mem_cons.mp h).resolve_left hn)

theorem insert_table (hn : ids.Nodup) {id : Int} (h : id ∈ ids) (x : α) :
    insert (table ids f) (.int id) x = table ids (Function.update f id x) := by
  induction ids with
  | nil => cases h
  | cons n ids ih =>
      obtain ⟨hm, hn⟩ := List.nodup_cons.mp hn
      rw [table_cons, table_cons, insert, Value.same_int]
      by_cases he : id = n
      · subst he
        have hs : table ids f = table ids (Function.update f id x) := by
          apply table_congr
          intro i hi
          rw [Function.update_of_ne]
          rintro rfl
          exact hm hi
        simp [hs]
      · rw [if_neg (by simpa using he), ih hn ((List.mem_cons.mp h).resolve_left he),
          Function.update_of_ne (Ne.symm he)]

theorem insert_table_of_not_mem {id : Int} (h : id ∉ ids) (x : α) :
    insert (table ids f) (.int id) x = table ids f ++ [(.int id, x)] := by
  induction ids with
  | nil => rfl
  | cons n ids ih =>
      have hi := ih (fun hm => h (List.mem_cons_of_mem _ hm))
      have hne : id ≠ n := by rintro rfl; exact h List.mem_cons_self
      rw [table_cons, insert, Value.same_int, if_neg (by simpa using hne), hi]
      rfl

theorem keys_table : keys (table ids f) = ids.map .int := by
  simp [keys, table]

theorem mapValues_table {β : Type} (g : α → β) : mapValues g (table ids f) = table ids fun id => g (f id) := by
  simp [mapValues, table]

end Keyed

namespace Entries

theorem field?_cons_self (es : Entries) (name : String) (v : Value) : field? ((.text name, v) :: es) name = some v := by
  rw [field?, Keyed.find?_cons, if_pos (Value.same_text_self name)]

theorem field?_set_self (es : Entries) (name : String) (v : Value) : (es.set name v).field? name = some v :=
  Keyed.find?_insert_self es name v

theorem field?_set_of_ne (es : Entries) {name other : String} (v : Value) (hne : other ≠ name) :
    (es.set name v).field? other = es.field? other :=
  Keyed.find?_insert_of_ne es v (Value.same_text_of_ne hne)

theorem field?_set (es : Entries) (name other : String) (v : Value) :
    (es.set name v).field? other = if other = name then some v else es.field? other := by
  split
  · next h => rw [h, field?_set_self]
  · next h => rw [field?_set_of_ne es v h]

theorem hasField_eq (es : Entries) (name : String) : es.hasField name = (es.field? name).isSome := rfl

theorem hasField_set (es : Entries) (name other : String) (v : Value) :
    (es.set name v).hasField other ↔ other = name ∨ es.hasField other := by
  rw [hasField_eq, hasField_eq, field?_set]
  by_cases h : other = name <;> simp [h]

end Entries

end CatalogSearch
