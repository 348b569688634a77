import CatalogSearch.Proofs.Query.FilterText
import CatalogSearch.Proofs.Service.EngineParams
import CatalogSearch.Proofs.Value.Integers

namespace CatalogSearch.Service

open Query

/-- A field that a search filters by itself, and the clause for it. -/
abbrev Mandate := String × List Char

/-- The clauses of a filter, or the one that a mandate puts in their place. -/
def clausesOf (mandates : List Mandate) (e : Value × Value) : List (List Char) :=
  match (Entries.name? e.1).bind (mandates.lookup ·) with
  | some clause => [clause]
  | none => filterClauses [e]

/-- The clauses of filters in which mandates take the place of what was told about their fields; the
other mandates follow. -/
def clausesUnder (mandates : List Mandate) (told : Entries) : List (List Char) :=
  told.flatMap (clausesOf mandates) ++ (mandates.filter fun m => !told.hasField m.1).map Prod.snd

variable {must : List Mandate} {told : Entries} {name : String} {v : Value} {clause : List Char}

theorem filterClauses_cons (e : Value × Value) (es : Entries) :
    filterClauses (e :: es) = filterClauses [e] ++ filterClauses es := by
  simp only [filterClauses, List.filterMap_cons, List.filterMap_nil]
  split <;> rfl

theorem mem_filterClauses {filters : Entries} {e : Value × Value} (he : e ∈ filters) {clause : List Char}
    (hc : filterClauses [e] = [clause]) : clause ∈ filterClauses filters := by
  obtain ⟨before, after, rfl⟩ := List.append_of_mem he
  have hm : clause ∈ filterClauses [e] := by rw [hc]; exact List.mem_singleton_self clause
  rw [filterClauses, List.filterMap_append, List.mem_append]
  right
  change clause ∈ filterClauses (e :: after)
  rw [filterClauses_cons]
  exact List.mem_append_left _ hm

theorem clausesUnder_nil (told : Entries) : clausesUnder [] told = filterClauses told := by
  rw [clausesUnder, List.filter_nil, List.map_nil, List.append_nil]
  induction told with
  | nil => rfl
  | cons e told ih =>
      have he : clausesOf [] e = filterClauses [e] := by
        unfold clausesOf
        cases Entries.name? e.1 <;> rfl
      rw [List.flatMap_cons, ih, he, ← filterClauses_cons]

theorem clausesOf_cons_of_ne {e : Value × Value} (h : Entries.name? e.1 ≠ some name) :
    clausesOf ((name, clause) :: must) e = clausesOf must e := by
  unfold clausesOf
  cases hn : Entries.name? e.1 with
  | none => rfl
  | some other =>
      have hne : other ≠ name := fun ho => h (by rw [hn, ho])
      rw [Option.bind_some, Option.bind_some, List.lookup_cons, beq_false_of_ne hne]

theorem clausesOf_text (hm : name ∉ must.map Prod.fst) (v : Value) :
    clausesOf must (.text name, v) = filterClauses [(.text name, v)] := by
  have hl : must.lookup name = none := by
    rw [List.lookup_eq_none_iff]
    intro m hmem
    rw [bne_iff_ne]
    rintro rfl
    exact hm (List.mem_map_of_mem hmem)
  simp only [clausesOf, Entries.name?, Option.bind_some, hl]

theorem flatMap_clausesOf_cons (h : name ∉ told.names) :
    told.flatMap (clausesOf ((name, clause) :: must)) = told.flatMap (clausesOf must) := by
  induction told with
  | nil => rfl
  | cons e told ih =>
      rw [Entries.names_cons, List.mem_append, not_or, Option.mem_toList] at h
      rw [List.flatMap_cons, List.flatMap_cons, clausesOf_cons_of_ne h.1, ih h.2]

theorem flatMap_insert (hn : told.names.Nodup) (hv : filterClauses [(.text name, v)] = [clause])
    (hm : name ∉ must.map Prod.fst) :
    (Keyed.insert told (.text name) v).flatMap (clausesOf must) =
      told.flatMap (clausesOf ((name, clause) :: must)) ++ if told.hasField name then [] else [clause] := by
  have hc : ∀ w, clausesOf ((name, clause) :: must) (.text name, w) = [clause] := fun w => by
    simp [clausesOf, Entries.name?]
  induction told with
  | nil =>
      rw [Keyed.insert, List.flatMap_singleton, clausesOf_text hm, hv]
      rfl
  | cons e told ih =>
      rw [Entries.names_cons, List.nodup_append] at hn
      obtain ⟨-, hn, hd⟩ := hn
      rw [Keyed.insert]
      split
      · next hs =>
          rw [Value.same_text] at hs
          obtain ⟨key, w⟩ := e
          cases hs
          have hne : name ∉ Entries.names told := fun hmem => hd name (by simp [Entries.name?]) name hmem rfl
          have hf : Entries.hasField ((.text name, w) :: told) name = true := by
            rw [Entries.hasField_iff, Entries.names_cons]
            exact List.mem_append_left _ (by simp [Entries.name?])
          rw [List.flatMap_cons, List.flatMap_cons, hc, clausesOf_text hm, hv, flatMap_clausesOf_cons hne, if_pos hf,
            List.append_nil]
      · next hs =>
          have hne : Entries.name? e.1 ≠ some name := by
            rw [Value.same_text] at hs
            intro hk
            cases he : e.1 <;> simp_all [Entries.name?]
          have hf : Entries.hasField (e :: told) name = Entries.hasField told name := by
            rw [Bool.eq_iff_iff, Entries.hasField_iff, Entries.hasField_iff, Entries.names_cons, List.mem_append,
              Option.mem_toList]
            simp [hne]
          rw [List.flatMap_cons, List.flatMap_cons, ih hn, clausesOf_cons_of_ne hne, hf, List.append_assoc]

/-- To set the filter of a field is to put it under one more mandate. -/
theorem clausesUnder_set (hn : told.names.Nodup) (hv : filterClauses [(.text name, v)] = [clause])
    (hm : name ∉ must.map Prod.fst) :
    clausesUnder must (told.set name v) = clausesUnder ((name, clause) :: must) told := by
  have ht : (must.filter fun m => !(told.set name v).hasField m.1) = must.filter fun m => !told.hasField m.1 := by
    apply List.filter_congr
    intro m hmem
    have hne : m.1 ≠ name := fun he => hm (he ▸ List.mem_map_of_mem hmem)
    rw [Bool.not_inj_iff, Bool.eq_iff_iff, Entries.hasField_set]
    simp [hne]
  unfold clausesUnder
  rw [ht, Entries.set, flatMap_insert hn hv hm, List.filter_cons]
  split <;> simp_all

/-- The fields that every search filters by: the store if there is one, the stock unless what is out of
it is shown as well, and the visibility. -/
def mandates (p : Params) (context : Context) (query : Value) : List Mandate :=
  (if (p.storeIn context).integerOf?.getD 0 > 0 then
      [("store_id", "store_id:".toList ++ exactText (p.storeIn context).chars)] else []) ++
    ((if context.showOutOfStock then [] else [("in_stock", "in_stock:1".toList)]) ++
      [("visibility",
        Criterion.disjunction "visibility".toList ((context.visibility query).map fun n => (toString n).toList))])

theorem filterClauses_singleton (name : String) (v : Value) :
    filterClauses [(.text name, v)] =
      ((Criterion.ofValue? name.toList v).map (Criterion.filterClause name.toList)).toList := by
  have hc : (Value.text name).chars = name.toList := by rw [Value.chars]
  rw [filterClauses, List.filterMap_cons, List.filterMap_nil, hc]
  cases (Criterion.ofValue? name.toList v).map (Criterion.filterClause name.toList) <;> rfl

theorem filterClauses_store {n : Int} (h : v.integerOf? = some n) :
    filterClauses [(.text "store_id", v)] = ["store_id:".toList ++ exactText v.chars] := by
  obtain ⟨hm, hs, hn⟩ := Value.scalar_of_integerOf? h
  have ho : v.operand = v.chars := by cases v <;> first | rfl | exact (hn rfl).elim
  have hc := FilterText.ofValue?_scalar "store_id".toList hm hs
  rw [filterClauses_singleton, hc, ho]
  rfl

theorem filterClauses_stock : filterClauses [(.text "in_stock", .text "1")] = ["in_stock:1".toList] := by
  rw [filterClauses_singleton]
  decide

theorem filterClauses_visibility {ids : List Int} (h : ids ≠ []) :
    filterClauses [(.text "visibility", .list (ids.map Value.int))] =
      [Criterion.disjunction "visibility".toList (ids.map fun n => (toString n).toList)] := by
  have ho : (ids.map Value.int).map Value.operand = ids.map fun n => (toString n).toList := by
    rw [List.map_map]
    rfl
  have hp : "visibility".toList ≠ priceField.toList := by decide
  have he : (ids.map Value.int).isEmpty = false := by simpa using h
  have hc := FilterText.ofValue?_sequence "visibility".toList
    (show (Value.list (ids.map Value.int)).sequence? = some _ from rfl)
  rw [if_neg hp, he] at hc
  rw [filterClauses_singleton, hc, ho]
  rfl

variable {p : Params} {context : Context} {query : Value}

theorem filterClauses_scopedFilters (hv : context.visibility query ≠ []) {filters : Entries}
    (ht : (p.filters.orElse (.map [])).toEntries = .ok told) (hn : told.names.Nodup)
    (h : scopedFilters p context query = .ok filters) :
    filterClauses filters = clausesUnder (mandates p context query) told := by
  obtain ⟨told', ht', h⟩ := Folds.bind_eq_ok.mp h
  cases ht.symm.trans ht'
  cases h
  have hvis := filterClauses_visibility hv
  rw [← clausesUnder_nil, mandates]
  by_cases hs : (p.storeIn context).integerOf?.getD 0 > 0
  · obtain ⟨n, hi⟩ : ∃ n, (p.storeIn context).integerOf? = some n := by
      cases hi : (p.storeIn context).integerOf? with
      | none => rw [hi] at hs; cases hs
      | some n => exact ⟨n, rfl⟩
    have hstore := filterClauses_store hi
    have hns : (told.set "store_id" (p.storeIn context)).names.Nodup := Entries.nodup_names_set hn _ _
    rw [if_pos hs, if_pos hs]
    by_cases hk : context.showOutOfStock
    · rw [if_pos hk, if_pos hk, clausesUnder_set hns hvis (by simp), clausesUnder_set hn hstore (by simp)]
      rfl
    · rw [if_neg hk, if_neg hk, clausesUnder_set (Entries.nodup_names_set hns _ _) hvis (by simp),
        clausesUnder_set hns filterClauses_stock (by simp), clausesUnder_set hn hstore (by simp)]
      rfl
  · rw [if_neg hs, if_neg hs]
    by_cases hk : context.showOutOfStock
    · rw [if_pos hk, if_pos hk, clausesUnder_set hn hvis (by simp)]
      rfl
    · rw [if_neg hk, if_neg hk, clausesUnder_set (Entries.nodup_names_set hn _ _) hvis (by simp),
        clausesUnder_set hn filterClauses_stock (by simp)]
      rfl

theorem lookup_of_mem {must : List Mandate} (hn : (must.map Prod.fst).Nodup) {m : Mandate} (hm : m ∈ must) :
    must.lookup m.1 = some m.2 := by
  induction must with
  | nil => cases hm
  | cons d must ih =>
      rw [List.map_cons, List.nodup_cons] at hn
      rw [List.lookup_cons]
      rcases List.mem_cons.mp hm with rfl | hm
      · simp
      · have hne : m.1 ≠ d.1 := fun he => hn.1 (he ▸ List.mem_map_of_mem hm)
        rw [beq_false_of_ne hne]
        exact ih hn.2 hm

theorem nodup_mandates (p : Params) (context : Context) (query : Value) :
    ((mandates p context query).map Prod.fst).Nodup := by
  unfold mandates
  split <;> split <;> simp

theorem mem_clausesUnder {must : List Mandate} (hn : (must.map Prod.fst).Nodup) {m : Mandate} (hm : m ∈ must)
    (told : Entries) :
    m.2 ∈ clausesUnder must told := by
  rw [clausesUnder, List.mem_append]
  by_cases hf : told.hasField m.1
  · have hk : .text m.1 ∈ Keyed.keys told := (Keyed.has_text _ _).mp hf
    obtain ⟨e, he, hkey⟩ := List.mem_map.mp hk
    refine .inl (List.mem_flatMap.mpr ⟨e, he, ?_⟩)
    rw [clausesOf, hkey]
    simp [Entries.name?, lookup_of_mem hn hm]
  · exact .inr (List.mem_map.mpr ⟨m, List.mem_filter.mpr ⟨hm, by simp [hf]⟩, rfl⟩)

theorem field?_engineParams {catalog : Catalog} {params : Entries} (hv : context.visibility query ≠ [])
    (hd : ∀ es, p.filters = .map es → Entries.Distinct es) (h : engineParams catalog p context query = .ok params) :
    ∃ told, (p.filters.orElse (.map [])).toEntries = .ok told ∧ told.names.Nodup ∧
      params.field? "filters" = some (.ofChars (conjunction (clausesUnder (mandates p context query) told))) := by
  have hd' : ∀ es, p.filters.orElse (.map []) = .map es → Entries.Distinct es := by
    intro es he
    unfold Value.orElse at he
    split at he
    · exact hd es he
    · cases he
      exact .nil
  obtain ⟨-, -, filters, start, -, -, hf, -, rfl⟩ := engineParams_eq_closed h
  obtain ⟨told, ht, -⟩ := Folds.bind_eq_ok.mp hf
  have hn := Entries.nodup_names_toEntries hd' ht
  refine ⟨told, ht, hn, ?_⟩
  rw [field?_filters_closed, filterClauses_scopedFilters hv ht hn hf]

end CatalogSearch.Service
