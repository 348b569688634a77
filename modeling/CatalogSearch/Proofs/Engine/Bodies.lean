import CatalogSearch.Engine.Body
import CatalogSearch.Proofs.Value.Filing
import CatalogSearch.Sorting

namespace CatalogSearch.Engine.Body

variable {settings : Settings} {conditions : Value} {params : Entries} {body : Body} {text : List Char}

/-- Every hit of a search must pass a filter in text form, and may have to pass others. -/
def Carries (body : Body) (text : List Char) : Prop :=
  ∃ (fields : Entries) (must : Value) (others : List Value), body.toValue = .map fields ∧
    fields.field? "query" = some (.ofFields [("bool", .ofFields [("must", must),
      ("filter", .list (Aggregation.queryText (.ofChars text) :: others))])])

theorem truthy_ofChars (h : text ≠ []) : (Value.ofChars text).truthy = true := by
  have he : String.ofList text ≠ "" := fun he => h (String.ofList_eq_empty_iff.mp he)
  simp [Value.ofChars, Value.truthy, he]

theorem filtersOf_cons {filters : List Filter} (h : filtersOf params = .ok filters)
    (ht : params.field? "filters" = some (.ofChars text)) (hne : text ≠ []) :
    ∃ ranges, filters = .query (.ofChars text) :: ranges := by
  obtain ⟨ranges, -, h⟩ := Folds.bind_eq_ok.mp h
  cases h
  have hf : params.field "filters" = .ofChars text := by rw [Entries.field, ht]; rfl
  rw [hf, if_pos (truthy_ofChars hne)]
  exact ⟨_, rfl⟩

/-- What a body that was built takes from the parameters. -/
structure Built (settings : Settings) (conditions : Value) (params : Entries) (body : Body) : Prop where
  conditions : body.conditions = if conditions.truthy then some conditions else none
  filters : filtersOf params = .ok body.filters
  size : count params "limit" = .ok body.size
  sort : sortOf params = .ok body.sort
  aggregations : Aggregation.build settings ((params.field "facets").orElse (.map []))
    ((params.field "stats").orElse (.list [])) = .ok body.aggregations
  source : if (params.field "fields").truthy then
      ∃ names, (params.field "fields").items = .ok names ∧ body.source = some names
    else body.source = none
  passing : body.extras = passed.filterMap fun name => (params.field? name).map (name, ·)

theorem Built.extras (h : Built settings conditions params body) : ∀ e ∈ body.extras, e.1 ∈ passed := by
  intro e he
  rw [h.passing] at he
  obtain ⟨name, hn, hm⟩ := List.mem_filterMap.mp he
  obtain ⟨v, -, rfl⟩ := Option.map_eq_some_iff.mp hm
  exact hn

theorem built_of_build (h : build settings conditions params = .ok body) : Built settings conditions params body := by
  unfold build at h
  simp only [Folds.bind_eq_ok] at h
  obtain ⟨filters, hf, offset, -, size, hn, sort, hs, aggregations, ha, h⟩ := h
  split at h
  · next ht =>
      obtain ⟨source, hsource, h⟩ := Folds.bind_eq_ok.mp h
      cases hi : (params.field "fields").items with
      | error e =>
          rw [hi] at hsource
          cases hsource
      | ok names =>
          rw [hi] at hsource
          cases hsource
          cases h
          exact ⟨rfl, hf, hn, hs, ha, by rw [if_pos ht]; exact ⟨names, hi, rfl⟩, rfl⟩
  · next ht =>
      cases h
      exact ⟨rfl, hf, hn, hs, ha, by rw [if_neg ht], rfl⟩

def sourceOf (params : Entries) : Outcome (Option (List Value)) :=
  if (params.field "fields").truthy then some <$> (params.field "fields").items else pure none

def frame (conditions : Value) (params : Entries) (aggregations : Outcome (Keyed Aggregation)) : Outcome Body := do
  let filters ← filtersOf params
  let offset ← count params "offset"
  let size ← count params "limit"
  let sort ← sortOf params
  let aggregations ← aggregations
  let source ← sourceOf params
  let extras := passed.filterMap fun name => (params.field? name).map (name, ·)
  pure { conditions := if conditions.truthy then some conditions else none
         filters, offset, size, sort, aggregations, source, extras }

theorem build_eq_frame (settings : Settings) (conditions : Value) (params : Entries) :
    build settings conditions params = frame conditions params (Aggregation.build settings
      ((params.field "facets").orElse (.map [])) ((params.field "stats").orElse (.list []))) := by
  cases ht : (params.field "fields").truthy <;> simp only [build, frame, sourceOf, ht] <;> rfl

theorem frame_congr {other : Entries}
    (h : ∀ name, name ≠ "facets" → name ≠ "stats" → params.field? name = other.field? name) (conditions : Value)
    (aggregations : Outcome (Keyed Aggregation)) : frame conditions params aggregations = frame conditions other aggregations := by
  have hfield : ∀ name, name ≠ "facets" → name ≠ "stats" → params.field name = other.field name := by
    intro name hf hs
    rw [Entries.field, h name hf hs, Entries.field]
  have hpassed : (passed.filterMap fun name => (params.field? name).map (name, ·)) =
      passed.filterMap fun name => (other.field? name).map (name, ·) := by
    refine List.filterMap_congr fun name hn => ?_
    rw [h name (by rintro rfl; revert hn; decide) (by rintro rfl; revert hn; decide)]
  simp only [frame, filtersOf, count, sortOf, sourceOf, hpassed, hfield "filters" (by decide) (by decide),
    hfield "range_filters" (by decide) (by decide), hfield "offset" (by decide) (by decide),
    hfield "limit" (by decide) (by decide), hfield "sort" (by decide) (by decide), hfield "fields" (by decide) (by decide)]

def bare (body : Body) : Body := { body with aggregations := [] }

theorem bare_frame (conditions : Value) (params : Entries) (aggregations : Outcome (Keyed Aggregation)) :
    bare <$> frame conditions params aggregations = frame conditions params ((fun _ => []) <$> aggregations) := by
  simp only [frame, map_bind, bind_map_left, map_pure, bare]

theorem frame_exchange {aggregations : Outcome (Keyed Aggregation)} (h : frame conditions params aggregations = .ok body)
    (aggs : Keyed Aggregation) : frame conditions params (.ok aggs) = .ok { body with aggregations := aggs } := by
  simp only [frame, Folds.bind_eq_ok] at h ⊢
  obtain ⟨filters, hf, offset, ho, size, hn, sort, hs, _, -, source, hsource, h⟩ := h
  cases h
  exact ⟨filters, hf, offset, ho, size, hn, sort, hs, aggs, rfl, source, hsource, rfl⟩

/-- With other facets to count the same search is built, but for its aggregations. -/
theorem build_set_facets {facets : Value} {aggs : Keyed Aggregation} (hb : build settings conditions params = .ok body)
    (ha : Aggregation.build settings (facets.orElse (.map [])) ((params.field "stats").orElse (.list [])) = .ok aggs) :
    build settings conditions (params.set "facets" facets) = .ok { body with aggregations := aggs } := by
  have hself : (params.set "facets" facets).field "facets" = facets := by
    rw [Entries.field, Entries.field?_set_self, Option.getD_some]
  have hstats : (params.set "facets" facets).field "stats" = params.field "stats" := by
    rw [Entries.field, Entries.field?_set_of_ne _ _ (by decide), Entries.field]
  have hframe := frame_congr (fun name hf _ => Entries.field?_set_of_ne params facets hf) conditions (.ok aggs)
  rw [build_eq_frame, hself, hstats, ha, hframe]
  rw [build_eq_frame] at hb
  exact frame_exchange hb aggs

theorem field?_set_unless {es : Entries} {name other : String} {v w : Value} (b : Bool) (hne : other ≠ name)
    (h : es.field? other = some v) : (if b then es else es.set name w).field? other = some v := by
  split
  · exact h
  · rw [Entries.field?_set_of_ne es w hne, h]

theorem field?_extras_of_ne {extras : List (String × Value)} {name : String} (h : ∀ e ∈ extras, e.1 ≠ name)
    (es : Entries) : (extras.foldl (fun es e => Entries.set es e.1 e.2) es).field? name = es.field? name := by
  refine List.foldlRecOn (motive := fun acc : Entries => acc.field? name = es.field? name) extras _ rfl ?_
  intro acc hacc e he
  rw [Entries.field?_set_of_ne _ _ (h e he).symm, hacc]

theorem field?_extras {extras : List (String × Value)} (h : ∀ e ∈ extras, e.1 ∈ passed) {es : Entries} {v : Value}
    (hes : es.field? "query" = some v) :
    (extras.foldl (fun es e => Entries.set es e.1 e.2) es).field? "query" = some v := by
  refine (field?_extras_of_ne (fun e he => ?_) es).trans hes
  have hp := h e he
  rintro hq
  rw [hq] at hp
  revert hp
  decide

theorem field?_foldl_set {extras : List (String × Value)} {es other : Entries} {name : String}
    (h : es.field? name = other.field? name) : (extras.foldl (fun es e => Entries.set es e.1 e.2) es).field? name =
      (extras.foldl (fun es e => Entries.set es e.1 e.2) other).field? name := by
  induction extras generalizing es other with
  | nil => exact h
  | cons e extras ih =>
      refine ih ?_
      rw [Entries.field?_set, Entries.field?_set, h]

/-- Bodies that are written alike in all but their aggregations. -/
def SameButAggregations (body other : Body) : Prop :=
  ∃ fields others : Entries, body.toValue = .map fields ∧ other.toValue = .map others ∧
    ∀ name, name ≠ "aggs" → fields.field? name = others.field? name

theorem sameButAggregations_bare (body : Body) : body.SameButAggregations body.bare := by
  refine ⟨_, _, rfl, rfl, fun name hn => field?_foldl_set ?_⟩
  have hunless : ∀ (b : Bool) (es : Entries) (v : Value),
      (if b then es else es.set "aggs" v).field? name = es.field? name := by
    intro b es v
    split
    · rfl
    · exact Entries.field?_set_of_ne es v hn
  obtain ⟨conditions, filters, offset, size, sort, aggregations, source, extras⟩ := body
  cases source with
  | none => exact hunless _ _ _
  | some names =>
      dsimp only [bare]
      rw [Entries.field?_set, Entries.field?_set, hunless]
      rfl

theorem sameButAggregations_of_bare {other : Body} (h : body.bare = other.bare) : body.SameButAggregations other := by
  obtain ⟨fields, plain, hv, hp, hfields⟩ := sameButAggregations_bare body
  obtain ⟨others, plain', hv', hp', hothers⟩ := sameButAggregations_bare other
  rw [h, hp', Value.map.injEq] at hp
  exact ⟨fields, others, hv, hv', fun name hn => by rw [hfields name hn, ← hp, hothers name hn]⟩

def everything : Value := .ofFields [("match_all", .map [])]

def mustOf (conditions : Option Value) : Value := (conditions.map Aggregation.queryText).getD everything

theorem field?_toValue (h : ∀ e ∈ body.extras, e.1 ∈ passed) :
    ∃ fields : Entries, body.toValue = .map fields ∧
      fields.field? "query" = some (.ofFields [("bool", .ofFields [("must", .list [mustOf body.conditions]),
        ("filter", .list (body.filters.map Filter.toValue))])]) := by
  have hne : "query" ≠ "sort" ∧ "query" ≠ "aggs" ∧ "query" ≠ "_source" := by decide
  unfold toValue
  cases body.source with
  | none =>
      cases body.conditions <;>
        exact ⟨_, rfl, field?_extras h
          (field?_set_unless _ hne.2.1 (field?_set_unless _ hne.1 (Entries.field?_cons_self _ _ _)))⟩
  | some names =>
      cases body.conditions <;>
        exact ⟨_, rfl, field?_extras h ((Entries.field?_set_of_ne _ _ hne.2.2).trans
          (field?_set_unless _ hne.2.1 (field?_set_unless _ hne.1 (Entries.field?_cons_self _ _ _))))⟩

def projection (body : Body) : Option Value :=
  match body.toValue with
  | .map fields => Entries.field? fields "_source"
  | _ => none

theorem projection_eq (body : Body) : ∃ start : Entries,
    body.projection = (body.extras.foldl (fun es e => Entries.set es e.1 e.2) start).field? "_source" ∧
      start.field? "_source" = body.source.map .list := by
  have hopening : ∀ (query : Value) (n m : Int), Entries.field? [(.text "query", query), (.text "from", .int n),
      (.text "size", .int m), (.text "track_total_hits", .bool true)] "_source" = none := fun query n m =>
    Entries.field?_ofFields [("query", query), ("from", .int n), ("size", .int m), ("track_total_hits", .bool true)] _
  have hunless : ∀ (b : Bool) (es : Entries) (name : String) (v : Value), "_source" ≠ name →
      (if b then es else es.set name v).field? "_source" = es.field? "_source" := by
    intro b es name v hne
    split
    · rfl
    · exact Entries.field?_set_of_ne es v hne
  refine ⟨_, rfl, ?_⟩
  cases body.source with
  | some names => exact Entries.field?_set_self _ _ _
  | none =>
      dsimp only
      rw [hunless _ _ _ _ (by decide), hunless _ _ _ _ (by decide), hopening]
      rfl

theorem Built.projection (h : Built settings conditions params body) :
    body.projection = (params.field? "_source").or (body.source.map .list) := by
  obtain ⟨start, hp, hstart⟩ := projection_eq body
  have hsplit : body.extras =
      (["min_score", "timeout", "track_scores", "explain"].filterMap fun name => (params.field? name).map (name, ·)) ++
        ((params.field? "_source").map ("_source", ·)).toList := by
    have hpassed : passed = ["min_score", "timeout", "track_scores", "explain"] ++ ["_source"] := rfl
    rw [h.passing, hpassed, List.filterMap_append]
    refine congrArg _ ?_
    rw [List.filterMap_cons, List.filterMap_nil]
    cases params.field? "_source" <;> rfl
  have hfront : ∀ es : Entries, ((["min_score", "timeout", "track_scores", "explain"].filterMap fun name =>
      (params.field? name).map (name, ·)).foldl (fun es e => Entries.set es e.1 e.2) es).field? "_source" =
        es.field? "_source" := by
    refine field?_extras_of_ne fun e he => ?_
    obtain ⟨name, hn, hm⟩ := List.mem_filterMap.mp he
    obtain ⟨v, -, rfl⟩ := Option.map_eq_some_iff.mp hm
    rintro rfl
    revert hn
    decide
  rw [hp, hsplit, List.foldl_append]
  cases params.field? "_source" with
  | none => exact (hfront start).trans hstart
  | some v => exact Entries.field?_set_self _ _ _

theorem sortOf_keys {keys : List SortKey} (h : params.field? "sort" = some (.list (keys.map SortKey.toValue))) :
    sortOf params = .ok (keys.map fun k => (.ofChars k.field, .ofChars k.direction)) := by
  have hflat : ∀ keys : List SortKey, (keys.map SortKey.toValue).flatMapM Value.entries =
      (.ok (keys.map fun k => (.ofChars k.field, .ofChars k.direction)) : Outcome Entries) := by
    intro keys
    induction keys with
    | nil => rfl
    | cons k keys ih => rw [List.map_cons, List.flatMapM_cons, ih]; rfl
  rw [sortOf, Entries.field_of_field? h, Value.orElse]
  cases keys with
  | nil => rfl
  | cons k keys => exact hflat (k :: keys)

theorem carries_of_build (h : build settings conditions params = .ok body)
    (ht : params.field? "filters" = some (.ofChars text)) (hne : text ≠ []) : body.Carries text := by
  have hbuilt := built_of_build h
  obtain ⟨ranges, hr⟩ := filtersOf_cons hbuilt.filters ht hne
  obtain ⟨fields, hv, hq⟩ := field?_toValue hbuilt.extras
  rw [hr] at hq
  exact ⟨fields, _, _, hv, hq⟩

def Demands (body : Body) (must : Value) : Prop :=
  ∃ (fields : Entries) (filter : Value), body.toValue = .map fields ∧
    fields.field? "query" = some (.ofFields [("bool", .ofFields [("must", .list [must]), ("filter", filter)])])

theorem demands_of_build (h : build settings conditions params = .ok body) : body.Demands (mustOf body.conditions) := by
  obtain ⟨fields, hv, hq⟩ := field?_toValue (built_of_build h).extras
  exact ⟨fields, _, hv, hq⟩

end CatalogSearch.Engine.Body
