import CatalogSearch.Catalog.Lookup
import CatalogSearch.Proofs.Document.TidyRows
import CatalogSearch.Proofs.Value.Folds

namespace CatalogSearch.Catalog

theorem refersTo_int (m n : Int) : refersTo (.int m) n = (m == n) := by
  simp [refersTo, asNumber, Value.same_int]

namespace Tables

variable (t : Tables) (store : Int)

def codedValues (id : Int) : List (ValueRow × String) := t.coded (t.visibleValues (.int store) [.int id])

def addCoded (state : Entries × List String) (entry : ValueRow × String) : Entries × List String :=
  let first := entry.1.storeId.isSome && !state.2.contains entry.2
  (addValue entry.2 first entry.1 state.1, if first then entry.2 :: state.2 else state.2)

def loadedRow (id : Int) : Entries := ((t.codedValues store id).foldl addCoded ([], [])).1

theorem any_refersTo (ids : List Int) (n : Int) : (ids.map Value.int).any (refersTo · n) = ids.contains n := by
  induction ids with
  | nil => rfl
  | cons id ids ih => rw [List.map_cons, List.any_cons, refersTo_int, ih, List.contains_cons, Bool.beq_comm]

theorem visibleValues_filter {ids : List Int} {id : Int} (h : id ∈ ids) :
    (t.visibleValues (.int store) (ids.map .int)).filter (·.productId == id) =
      t.visibleValues (.int store) [.int id] := by
  have hr : (t.values.filter fun v => ids.contains v.productId).filter (·.productId == id) =
      t.values.filter fun v => [id].contains v.productId := by
    rw [List.filter_filter]
    apply List.filter_congr
    intro v _
    by_cases hp : v.productId = id <;> simp [hp, h]
  simp only [visibleValues, show [Value.int id] = [id].map .int from rfl, any_refersTo, List.filter_append,
    ← hr, List.filter_filter, Bool.and_comm, Bool.and_assoc]

theorem filter_coded {ids : List Int} {id : Int} (h : id ∈ ids) :
    (t.coded (t.visibleValues (.int store) (ids.map .int))).filter (fun e => e.1.productId == id) =
      t.codedValues store id := by
  rw [codedValues, ← visibleValues_filter t store h, coded, coded, List.filter_filterMap, List.filterMap_filter]
  congr 1
  funext v
  cases t.codeOf? v <;> by_cases hp : v.productId = id <;> simp [hp]

theorem productId_mem {ids : List Int} {e : ValueRow × String}
    (h : e ∈ t.coded (t.visibleValues (.int store) (ids.map .int))) : e.1.productId ∈ ids := by
  obtain ⟨v, hv, hc⟩ := List.mem_filterMap.mp h
  obtain ⟨code, _, rfl⟩ := Option.map_eq_some_iff.mp hc
  simp only [visibleValues, any_refersTo, List.mem_append, List.mem_filter, List.contains_iff_mem] at hv
  exact hv.elim (·.1.2) (·.1.2)

theorem foldl_insert_blank (done ids : List Int) (hn : (done ++ ids).Nodup) :
    (ids.map Value.int).foldl (fun rows id => Keyed.insert rows id []) (Keyed.table done fun _ => ([] : Entries)) =
      Keyed.table (done ++ ids) fun _ => [] := by
  induction ids generalizing done with
  | nil => simp
  | cons id ids ih =>
      have hm : id ∉ done := by
        intro h
        exact (List.nodup_append.mp hn).2.2 id h id (by simp) rfl
      have hi := ih (done ++ [id]) (by simpa using hn)
      have hs : Keyed.table done (fun _ => []) ++ [(Value.int id, [])] =
          Keyed.table (done ++ [id]) fun _ => ([] : Entries) := by
        simp [Keyed.table]
      rw [List.map_cons, List.foldl_cons, Keyed.insert_table_of_not_mem hm, hs, hi, List.append_assoc,
        List.singleton_append]

theorem exists_blank_table (ids : List Int) {done : List Int} (hd : done.Nodup) :
    ∃ kept : List Int, kept.Nodup ∧ (∀ id, id ∈ kept ↔ id ∈ done ∨ id ∈ ids) ∧ kept.length ≤ done.length + ids.length ∧
      (ids.map Value.int).foldl (fun rows id => Keyed.insert rows id []) (Keyed.table done fun _ => ([] : Entries)) =
        Keyed.table kept fun _ => [] := by
  induction ids generalizing done with
  | nil => exact ⟨done, hd, by simp, by simp, rfl⟩
  | cons id ids ih =>
      by_cases hm : id ∈ done
      · have hi : Keyed.insert (Keyed.table done fun _ => ([] : Entries)) (.int id) [] = Keyed.table done fun _ => [] := by
          rw [Keyed.insert_table hd hm, Function.update_eq_self]
        obtain ⟨kept, hk, hmem, hlen, he⟩ := ih hd
        refine ⟨kept, hk, ?_, by rw [List.length_cons]; omega, ?_⟩
        · intro other
          rw [hmem, List.mem_cons]
          by_cases ho : other = id
          · simp [ho, hm]
          · simp [ho]
        · rw [List.map_cons, List.foldl_cons, hi, he]
      · have hi : Keyed.insert (Keyed.table done fun _ => ([] : Entries)) (.int id) [] =
            Keyed.table (done ++ [id]) fun _ => [] := by
          rw [Keyed.insert_table_of_not_mem hm]
          simp [Keyed.table]
        have hnew : (done ++ [id]).Nodup := by
          refine List.nodup_append.mpr ⟨hd, by simp, ?_⟩
          intro other ho last hl
          rw [List.mem_singleton.mp hl]
          exact fun he => hm (he ▸ ho)
        obtain ⟨kept, hk, hmem, hlen, he⟩ := ih hnew
        rw [List.length_append, List.length_singleton] at hlen
        refine ⟨kept, hk, ?_, by rw [List.length_cons]; omega, ?_⟩
        · intro other
          rw [hmem, List.mem_append, List.mem_singleton, List.mem_cons, or_assoc]
        · rw [List.map_cons, List.foldl_cons, hi, he]

theorem blankRows_of_nodup {ids : List Int} (hn : ids.Nodup) :
    blankRows (ids.map .int) = Keyed.table ids fun _ => [] := by
  have hb := foldl_insert_blank [] ids (by simpa using hn)
  rwa [List.nil_append] at hb

theorem exists_blankRows (ids : List Int) : ∃ kept : List Int, kept.Nodup ∧ (∀ id, id ∈ kept ↔ id ∈ ids) ∧
    kept.length ≤ ids.length ∧ blankRows (ids.map .int) = Keyed.table kept fun _ => [] := by
  obtain ⟨kept, hk, hmem, hlen, he⟩ := exists_blank_table ids List.nodup_nil
  exact ⟨kept, hk, by simpa using hmem, by simpa using hlen, he⟩

/-- While rows are loaded, each has what its own values give it, and its codes of the store are known. -/
def Loading (ids : List Int) (state : Keyed Entries × List (Int × String))
    (rows : Int → Entries × List String) : Prop :=
  state.1 = Keyed.table ids (fun id => (rows id).1) ∧ ∀ id code, (id, code) ∈ state.2 ↔ code ∈ (rows id).2

theorem loadValue_loading {ids : List Int} (hn : ids.Nodup) (state : Keyed Entries × List (Int × String))
    (rows : Int → Entries × List String) (h : Loading ids state rows) (e : ValueRow × String)
    (he : e.1.productId ∈ ids) :
    ∃ state', loadValue state e = .ok state' ∧
      Loading ids state' (Function.update rows e.1.productId (addCoded (rows e.1.productId) e)) := by
  obtain ⟨hr, ho⟩ := h
  have hc : state.2.contains (e.1.productId, e.2) = (rows e.1.productId).2.contains e.2 := by
    rw [Bool.eq_iff_iff, List.contains_iff_mem, List.contains_iff_mem, ho]
  rw [loadValue, hr, Keyed.find?_table he]
  refine ⟨_, rfl, ?_, ?_⟩
  · simp only [Keyed.insert_table hn he, hc]
    apply Keyed.table_congr
    intro id _
    by_cases hi : id = e.1.productId
    · subst hi; simp [addCoded]
    · simp [Function.update_of_ne hi]
  · intro id code
    simp only [hc]
    by_cases hi : id = e.1.productId
    · subst hi
      rw [Function.update_self, addCoded]
      split <;> simp [ho]
    · rw [Function.update_of_ne hi]
      split <;> simp [ho, hi]

/-- Rows that are loaded together are the rows that are loaded one by one. -/
theorem loadRows_table {ids : List Int} (hn : ids.Nodup) :
    t.loadRows (.int store) (ids.map .int) = .ok (Keyed.table ids (t.loadedRow store)) := by
  have hl : Loading ids (Keyed.table ids fun _ => [], []) fun _ => ([], []) := ⟨rfl, by simp⟩
  obtain ⟨state, hs, hr, -⟩ := Folds.foldlM_by_owner (fun e : ValueRow × String => e.1.productId) addCoded (Loading ids)
    (fun b s hb e he => loadValue_loading hn b s hb e (t.productId_mem store he)) hl
  rw [loadRows, blankRows_of_nodup hn, hs]
  simp only [bind, Except.bind, pure, Except.pure, hr]
  rw [Keyed.table_congr fun id hid => by rw [filter_coded t store hid]]
  rfl

theorem tidy_addValue {row : Entries} (h : Row.Tidy row) (code : String) (first : Bool) (v : ValueRow) :
    Row.Tidy (addValue code first v row) := by
  have hv : (storedValue v).isScalar = true := by
    unfold storedValue
    cases v.value <;> rfl
  have hb : ((row.field code).sequence?.getD []).all Value.isScalar = true := by
    have hc := h.isCell_field code
    cases hf : row.field code with
    | list xs => rw [hf] at hc; exact hc
    | tuple xs => rw [hf] at hc; cases hc
    | set xs => rw [hf] at hc; cases hc
    | _ => rfl
  refine h.set ?_ fun _ => ⟨_, rfl⟩
  rw [Row.isCell, List.all_append, Bool.and_eq_true]
  refine ⟨?_, by simpa using hv⟩
  split
  · rfl
  · exact hb

theorem tidy_loadedRow (id : Int) : Row.Tidy (t.loadedRow store id) :=
  List.foldlRecOn (motive := fun s : Entries × List String => Row.Tidy s.1) _ _ Row.tidy_nil
    fun _ h _ _ => tidy_addValue h _ _ _

theorem hasField_loadedRow {id : Int} {e : ValueRow × String} (h : e ∈ t.codedValues store id) :
    (t.loadedRow store id).hasField e.2 := by
  refine Folds.foldl_reaches h (fun s : Entries × List String => s.1.hasField e.2) ?_ ?_ _
  · intro s
    exact (Entries.hasField_set _ _ _ _).mpr (.inl rfl)
  · intro s d _ hs
    exact (Entries.hasField_set _ _ _ _).mpr (.inr hs)

end Tables

end CatalogSearch.Catalog
