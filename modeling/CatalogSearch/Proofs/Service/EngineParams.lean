import CatalogSearch.Proofs.Engine.Bodies
import CatalogSearch.Proofs.Value.Filing
import CatalogSearch.Service.Search

namespace CatalogSearch.Service

open Engine Query Keyed

variable {catalog : Catalog} {p : Params} {context : Context} {query : Value} {ps : Entries}

/-- What is passed on to the engine under a name. -/
def passedOn (p : Params) (name : String) : Option Value := (extraParams p []).field? name

theorem field?_extraParams (p : Params) (es : Entries) (name : String) :
    (extraParams p es).field? name = (passedOn p name).or (es.field? name) := by
  cases hx : p.extra with
  | map more =>
      have hes : ∀ es, extraParams p es = insertAll es more := fun es => by rw [extraParams, hx]; rfl
      rw [passedOn, hes, hes, Entries.field?, find?_insertAll, Entries.field?, find?_insertAll, Option.or_assoc]
      rfl
  | _ =>
      have hes : ∀ es, extraParams p es = es := fun es => by rw [extraParams, hx]
      rw [passedOn, hes, hes]
      rfl

theorem passedOn_eq_none {name : String} (h : ∀ more, p.extra = .map more → Entries.hasField more name = false) :
    passedOn p name = none := by
  rw [passedOn]
  cases hx : p.extra with
  | map more =>
      have hes : extraParams p [] = insertAll [] more := by rw [extraParams, hx]; rfl
      rw [hes, Entries.field?, find?_insertAll]
      cases hf : find? more.reverse (.text name) with
      | none => rfl
      | some v =>
          have hm := List.mem_reverse.mp (mem_of_find?_text hf)
          have hk : Entries.hasField more name = true := (has_text more name).mpr (List.mem_map.mpr ⟨_, hm, rfl⟩)
          rw [h more hx] at hk
          cases hk
  | _ =>
      rw [extraParams, hx]
      rfl

/-- The parameters of the engine from the facets on, over those that come before them. -/
def closed (p : Params) (start : Entries) (filters : Value) : Entries :=
  let params := if p.facets.truthy then start.set "facets" (FacetRequest.ofValue p.facets).toValue else start
  let params := (extraParams p params).set "filters" filters
  let params := if p.rangeFilters.truthy then params.set "range_filters" p.rangeFilters else params
  if p.stats.truthy then params.set "stats" p.stats else params

theorem field?_set_if (b : Bool) (es : Entries) (name other : String) (v : Value) :
    (if b then es.set name v else es).field? other = if b = true ∧ other = name then some v else es.field? other := by
  cases b with
  | false => simp
  | true => simp [Entries.field?_set]

theorem field?_closed_eq (p : Params) (start : Entries) (filters : Value) (name : String) :
    (closed p start filters).field? name =
      if p.stats.truthy = true ∧ name = "stats" then some p.stats
      else if p.rangeFilters.truthy = true ∧ name = "range_filters" then some p.rangeFilters
      else if name = "filters" then some filters
      else (passedOn p name).or (if p.facets.truthy = true ∧ name = "facets" then
        some (FacetRequest.ofValue p.facets).toValue else start.field? name) := by
  rw [closed, field?_set_if, field?_set_if, Entries.field?_set, field?_extraParams, field?_set_if]

theorem field?_closed (p : Params) (start : Entries) (filters : Value) {name : String}
    (hx : ∀ more, p.extra = .map more → Entries.hasField more name = false) (hf : name ≠ "filters") (hs : name ≠ "stats")
    (hr : name = "range_filters" → p.rangeFilters.truthy = false) : (closed p start filters).field? name =
      (if p.facets.truthy then start.set "facets" (FacetRequest.ofValue p.facets).toValue else start).field? name := by
  have hranges : ¬(p.rangeFilters.truthy = true ∧ name = "range_filters") := by
    rintro ⟨ht, hn⟩
    rw [hr hn] at ht
    cases ht
  rw [field?_closed_eq, if_neg fun h => hs h.2, if_neg hranges, if_neg hf, passedOn_eq_none hx, field?_set_if]
  rfl

theorem field?_filters_closed (p : Params) (start : Entries) (filters : Value) :
    (closed p start filters).field? "filters" = some filters := by
  simp [field?_closed_eq]

theorem facets_of_closed {start : Entries} (filters : Value) (h : start.field? "facets" = none) :
    (closed p start filters).field? "facets" = (passedOn p "facets").or
      (if p.facets.truthy then some (FacetRequest.ofValue p.facets).toValue else none) := by
  rw [field?_closed_eq, h]
  simp

theorem stats_of_closed {start : Entries} (filters : Value) (h : start.field? "stats" = none) :
    (closed p start filters).field? "stats" = if p.stats.truthy then some p.stats else passedOn p "stats" := by
  rw [field?_closed_eq, h]
  simp

theorem field?_sort_closed (hx : ∀ more, p.extra = .map more → Entries.hasField more "sort" = false)
    (start : Entries) (keys filters : Value) : (closed p (start.set "sort" keys) filters).field? "sort" = some keys := by
  rw [field?_closed p _ filters hx (by decide) (by decide) (by simp)]
  split
  · rw [Entries.field?_set_of_ne _ _ (by decide), Entries.field?_set_self]
  · exact Entries.field?_set_self start _ _

/-- The first parameters of the engine: where the hits begin, how many they are, and with which fields. -/
structure Opening (p : Params) (start : Entries) : Prop where
  offset : start.field? "offset" = some (.int (p.offset.integerOf?.getD 0))
  limit : start.field? "limit" = some (.int (p.limit.integerOf?.getD 9999))
  fields : p.fields.truthy = false → start.field? "fields" = none
  listed : p.fields.truthy = true → ∃ names, p.fields.items = .ok names ∧ start.field? "fields" = some (.list names)
  others : ∀ name, name ∉ ["offset", "limit", "fields"] → start.field? name = none

def pageParams (p : Params) : Entries := [
  (.text "offset", .int (p.offset.integerOf?.getD 0)), (.text "limit", .int (p.limit.integerOf?.getD 9999))]

theorem field?_pageParams (p : Params) (name : String) : (pageParams p).field? name =
    [("offset", Value.int (p.offset.integerOf?.getD 0)), ("limit", .int (p.limit.integerOf?.getD 9999))].lookup name :=
  Entries.field?_ofFields [
    ("offset", .int (p.offset.integerOf?.getD 0)), ("limit", .int (p.limit.integerOf?.getD 9999))] name

theorem field?_pageParams_of_not_mem (p : Params) {name : String} (hn : name ∉ ["offset", "limit", "fields"]) :
    (pageParams p).field? name = none := by
  simp only [List.mem_cons, List.not_mem_nil, or_false, not_or] at hn
  rw [field?_pageParams]
  simp [List.lookup_cons, beq_false_of_ne hn.1, beq_false_of_ne hn.2.1]

theorem opening_of_page (h : p.fields.truthy = false) : Opening p (pageParams p) where
  offset := field?_pageParams p "offset"
  limit := field?_pageParams p "limit"
  fields := fun _ => field?_pageParams p "fields"
  listed := fun ht => absurd (ht.symm.trans h) (by decide)
  others := fun _ => field?_pageParams_of_not_mem p

theorem opening_of_fields (h : p.fields.truthy = true) {names : List Value} (hi : p.fields.items = .ok names) :
    Opening p ((pageParams p).set "fields" (.list names)) where
  offset := (Entries.field?_set_of_ne _ _ (by decide)).trans (field?_pageParams p "offset")
  limit := (Entries.field?_set_of_ne _ _ (by decide)).trans (field?_pageParams p "limit")
  fields := fun hf => absurd (h.symm.trans hf) (by decide)
  listed := fun _ => ⟨names, hi, Entries.field?_set_self _ _ _⟩
  others := by
    intro name hn
    rw [Entries.field?_set_of_ne _ _ (by rintro rfl; simp at hn)]
    exact field?_pageParams_of_not_mem p hn

theorem engineParams_eq_closed (h : engineParams catalog p context query = .ok ps) :
    ∃ sortables keys filters start, catalog.sortables (p.storeIn context) = .ok sortables ∧
      sortKeys context sortables p.sortBy = .ok keys ∧ scopedFilters p context query = .ok filters ∧ Opening p start ∧
      ps = closed p (start.set "sort" (.list (keys.map SortKey.toValue)))
        (.ofChars (conjunction (filterClauses filters))) := by
  unfold engineParams at h
  dsimp only at h
  split at h <;> simp only [Folds.bind_eq_ok] at h
  · next ht =>
      obtain ⟨items, hi, start, hstart, sortables, hs, keys, hk, filters, hf, h⟩ := h
      cases hstart
      exact ⟨sortables, keys, filters, _, hs, hk, hf, opening_of_fields ht hi, (Except.ok.inj h).symm⟩
  · next ht =>
      obtain ⟨start, hstart, sortables, hs, keys, hk, filters, hf, h⟩ := h
      cases hstart
      exact ⟨sortables, keys, filters, _, hs, hk, hf, opening_of_page (by simpa using ht), (Except.ok.inj h).symm⟩

theorem ofValue_ofFields (settings : Settings) (fields : List (String × Value)) :
    Params.ofValue settings (.ofFields fields) = {
      offset := (fields.lookup "offset").getD (.int 0)
      limit := (fields.lookup "limit").getD (settings .rowsLimit)
      sortBy := (fields.lookup "sort_by").getD (.list [.ofFields [("relevance", .text "desc")]])
      fields := (fields.lookup "fields").getD (.list [])
      extra := (fields.lookup "params").getD (.map [])
      store := (fields.lookup "store_id").getD .null
      filters := (fields.lookup "filters").getD (.map [])
      facets := (fields.lookup "facets").getD (.map [])
      rangeFilters := (fields.lookup "range_filters").getD (.map [])
      stats := (fields.lookup "stats").getD (.list []) } := by
  simp only [Params.ofValue, Value.ofFields, Entries.field, Entries.field?_ofFields]

structure Plain (p : Params) : Prop where
  fields : p.fields.truthy = false
  facets : p.facets.truthy = false
  extra : p.extra = .map []
  ranges : p.rangeFilters.truthy = false
  stats : p.stats.truthy = false

structure Simple (p : Params) : Prop where
  facets : p.facets.truthy = false
  extra : p.extra = .map []
  ranges : p.rangeFilters.truthy = false
  stats : p.stats.truthy = false

theorem Plain.simple (hp : Plain p) : Simple p := ⟨hp.facets, hp.extra, hp.ranges, hp.stats⟩

theorem Simple.closed_eq (hp : Simple p) (start : Entries) (filters : Value) :
    closed p start filters = start.set "filters" filters := by
  simp [closed, extraParams, hp.facets, hp.extra, hp.ranges, hp.stats]

theorem Simple.exists_build (settings : Settings) (hp : Simple p) (h : engineParams catalog p context query = .ok ps)
    {size : Int} (hs : (settings .facetLimit).toInt = .ok size) (conditions : Value) :
    ∃ body, Body.build settings conditions ps = .ok body := by
  obtain ⟨_, keys, filters, start, -, -, -, ho, hps⟩ := engineParams_eq_closed h
  rw [hp.closed_eq] at hps
  have hfield : ∀ name, name ≠ "sort" → name ≠ "filters" → ps.field name = start.field name := by
    intro name hsort hfilters
    rw [hps, Entries.field, Entries.field?_set_of_ne _ _ hfilters, Entries.field?_set_of_ne _ _ hsort, Entries.field]
  have hnone : ∀ name, name ∉ ["offset", "limit", "fields", "sort", "filters"] → ps.field name = .null := by
    intro name hn
    simp only [List.mem_cons, List.not_mem_nil, or_false, not_or] at hn
    rw [hfield name hn.2.2.2.1 hn.2.2.2.2, Entries.field, ho.others name (by simp [hn])]
    rfl
  have hitems : (ps.field "fields").truthy = true → ∃ names, (ps.field "fields").items = .ok names := by
    rw [hfield "fields" (by decide) (by decide), Entries.field]
    cases hf : p.fields.truthy with
    | false =>
        rw [ho.fields hf]
        exact fun ht => by cases ht
    | true =>
        obtain ⟨names, -, hnames⟩ := ho.listed hf
        rw [hnames, Option.getD_some]
        exact fun _ => ⟨names, rfl⟩
  have hcount : ∀ name, name = "offset" ∨ name = "limit" → ∃ n, Body.count ps name = .ok n := by
    intro name hn
    obtain ⟨n, hfound⟩ : ∃ n, ps.field name = .int n := by
      rcases hn with rfl | rfl
      · exact ⟨_, by rw [hfield _ (by decide) (by decide), Entries.field_of_field? ho.offset]⟩
      · exact ⟨_, by rw [hfield _ (by decide) (by decide), Entries.field_of_field? ho.limit]⟩
    rw [Body.count, hfound, Value.orElse]
    split <;> exact ⟨_, rfl⟩
  have hsort : ps.field? "sort" = some (.list (keys.map SortKey.toValue)) := by
    rw [hps, Entries.field?_set_of_ne _ _ (by decide), Entries.field?_set_self]
  obtain ⟨fs, hfs⟩ : ∃ fs, Body.filtersOf ps = .ok fs := by
    rw [Body.filtersOf, hnone "range_filters" (by decide)]
    exact ⟨_, rfl⟩
  obtain ⟨offset, hoffset⟩ := hcount "offset" (.inl rfl)
  obtain ⟨limit, hlimit⟩ := hcount "limit" (.inr rfl)
  rw [Body.build, hfs, hoffset, hlimit, Body.sortOf_keys hsort, hnone "facets" (by decide), hnone "stats" (by decide),
    Aggregation.build, hs]
  change ∃ body, (if (ps.field "fields").truthy = true then _ else _) = Except.ok body
  split
  · next ht =>
      obtain ⟨names, hnames⟩ := hitems ht
      rw [hnames]
      exact ⟨_, rfl⟩
  · exact ⟨_, rfl⟩

theorem exists_build (settings : Settings) (hp : Plain p) (h : engineParams catalog p context query = .ok ps)
    {size : Int} (hs : (settings .facetLimit).toInt = .ok size) (conditions : Value) :
    ∃ body, Body.build settings conditions ps = .ok body :=
  hp.simple.exists_build settings h hs conditions

theorem fields_of_engineParams (h : engineParams catalog p context query = .ok ps)
    (hx : ∀ more, p.extra = .map more → Entries.hasField more "fields" = false) :
    (p.fields.truthy = false → ps.field? "fields" = none) ∧
      (p.fields.truthy = true → ∃ names, p.fields.items = .ok names ∧ ps.field? "fields" = some (.list names)) := by
  obtain ⟨_, keys, filters, start, -, -, -, ho, rfl⟩ := engineParams_eq_closed h
  have hstart : (closed p (start.set "sort" (.list (keys.map SortKey.toValue)))
      (.ofChars (conjunction (filterClauses filters)))).field? "fields" = start.field? "fields" := by
    rw [field?_closed p _ _ hx (by decide) (by decide) (by simp)]
    split <;> simp [Entries.field?_set]
  rw [hstart]
  exact ⟨ho.fields, ho.listed⟩

theorem size_of_engineParams {settings : Settings} {conditions : Value} {body : Body}
    (h : engineParams catalog p context query = .ok ps) (hb : Body.build settings conditions ps = .ok body)
    (hx : ∀ more, p.extra = .map more → Entries.hasField more "limit" = false) :
    body.size = p.limit.integerOf?.getD 9999 := by
  obtain ⟨_, keys, filters, start, -, -, -, ho, rfl⟩ := engineParams_eq_closed h
  have hfield : (closed p (start.set "sort" (.list (keys.map SortKey.toValue)))
      (.ofChars (conjunction (filterClauses filters)))).field? "limit" =
        some (.int (p.limit.integerOf?.getD 9999)) := by
    rw [field?_closed p _ _ hx (by decide) (by decide) (by simp), ← ho.limit]
    split <;> simp [Entries.field?_set]
  have hsize := (Body.built_of_build hb).size
  rw [Body.count, Entries.field_of_field? hfield, Value.orElse] at hsize
  split at hsize
  · exact (Except.ok.inj hsize).symm
  · next hzero =>
      have hn : p.limit.integerOf?.getD 9999 = 0 := by simpa [Value.truthy] using hzero
      rw [hn]
      exact (Except.ok.inj hsize).symm

end CatalogSearch.Service
