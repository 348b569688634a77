import CatalogSearch.Engine.Facet
import CatalogSearch.Proofs.Query.FacetRequests

namespace CatalogSearch.Engine.Aggregation

open Query Keyed

variable {settings : Settings} {size : Int} {r : FacetRequest} {stats : Value} {measured : List Value}
  {aggs : Keyed Aggregation}

def termsTarget : Value → Value
  | .text name => .text (fieldOf name)
  | v => v

def rangeName (range : Entries) : String :=
  (range.field "from" (.text wildcard)).display ++ "-" ++ (range.field "to" (.text wildcard)).display

def sentBucket (range : Entries) : Entries := ((bucket (.map range)).toOption).getD []

theorem bucket_map (range : Entries) : bucket (.map range) = .ok (sentBucket range) := rfl

def sentBound (range : Entries) (name : String) : Entries :=
  ((range.field? name).map fun v => (.text name, number v)).toList

theorem sentBucket_eq (range : Entries) : sentBucket range =
    (.text "key", .text (rangeName range)) :: sentBound range "from" ++ sentBound range "to" := by
  have hk : rangeKey (.map range) = .ok (rangeName range) := rfl
  have hb : bucket (.map range) =
      .ok ((.text "key", .text (rangeName range)) :: sentBound range "from" ++ sentBound range "to") := by
    rw [bucket, hk, Folds.ok_bind, Value.entries_map, Folds.ok_bind, sentBound, sentBound]
    dsimp only
    cases range.field? "from" <;> cases range.field? "to" <;> rfl
  rwa [bucket_map, Except.ok.injEq] at hb

theorem field?_sentBucket (range : Entries) :
    (sentBucket range).field? "key" = some (.text (rangeName range)) := by
  exact Entries.field?_cons_self _ _ _

def queryNames (queries : List (List Char)) : Entries :=
  insertAll [] (queries.map fun q => (.ofChars q, .ofChars q))

theorem mem_queryNames {queries : List (List Char)} {key : Value} (h : key ∈ keys (queryNames queries)) :
    ∃ q ∈ queries, key = .ofChars q := by
  obtain ⟨e, he, rfl⟩ := List.mem_map.mp h
  have ht : TextKeys (queries.map fun q => (Value.ofChars q, Value.ofChars q)) := by
    intro x hx
    obtain ⟨q, -, rfl⟩ := List.mem_map.mp hx
    exact ⟨_, rfl⟩
  have hm := (mem_of_mem_insertAll ht he).resolve_left List.not_mem_nil
  obtain ⟨q, hq, rfl⟩ := List.mem_map.mp hm
  exact ⟨q, hq, rfl⟩

def measuredFields (stats : Value) : Outcome (List Value) := if stats.isText then pure [stats] else stats.items

/-- What a request and the fields to measure ask the engine for, and under which names. -/
def plan (size : Int) (r : FacetRequest) (measured : List Value) : Keyed Aggregation :=
  (r.fields.map fun field => (field, .terms (termsTarget field) size)) ++
  ((r.ranges.map fun p => (p.1, .range p.1 (p.2.map sentBucket))) ++
  ((if r.queries.isEmpty then [] else [(.text queriesName, .filters (queryNames r.queries))]) ++
  measured.map fun field => (.text (statsMark ++ field.display), .stats field)))

theorem mem_plan {a : Value × Aggregation} : a ∈ plan size r measured ↔
    (∃ field ∈ r.fields, a = (field, .terms (termsTarget field) size)) ∨
    (∃ p ∈ r.ranges, a = (p.1, .range p.1 (p.2.map sentBucket))) ∨
    (r.queries ≠ [] ∧ a = (.text queriesName, .filters (queryNames r.queries))) ∨
    ∃ field ∈ measured, a = (.text (statsMark ++ field.display), .stats field) := by
  simp only [plan, List.mem_append, List.mem_map]
  split <;> simp_all [eq_comm (a := a)]

theorem ofFields_eq (ht : ∀ field ∈ r.fields, ∃ name, field = .text name) :
    ofFields size r.fields aggs =
      .ok (insertAll aggs (r.fields.map fun field => (field, .terms (termsTarget field) size))) := by
  rw [insertAll, List.foldl_map]
  refine (Folds.foldlM_ok (fun _ => True) ?_ trivial).1
  intro aggs _ field hf
  obtain ⟨name, rfl⟩ := ht field hf
  exact ⟨rfl, trivial⟩

theorem ofRanges_eq (r : FacetRequest) (aggs : Keyed Aggregation) : ofRanges r.rangeEntries aggs =
    .ok (insertAll aggs (r.ranges.map fun p => (p.1, .range p.1 (p.2.map sentBucket)))) := by
  rw [insertAll, List.foldl_map, ofRanges, FacetRequest.rangeEntries, List.foldlM_map]
  refine (Folds.foldlM_ok (fun _ => True) ?_ trivial).1
  rintro aggs _ ⟨name, asked⟩ _
  have hb : (asked.map Value.map).mapM bucket = .ok (asked.map sentBucket) := by
    rw [List.mapM_map]
    exact Folds.mapM_ok fun range _ => bucket_map range
  refine ⟨?_, trivial⟩
  simp only [Value.items, pure_bind, hb]
  rfl

theorem ofQueries_eq (queries : List (List Char)) (aggs : Keyed Aggregation) :
    ofQueries (if queries.isEmpty then .null else .list (queries.map .ofChars)) aggs =
      .ok (insertAll aggs
        (if queries.isEmpty then [] else [(.text queriesName, .filters (queryNames queries))])) := by
  cases queries with
  | nil => rfl
  | cons q qs =>
      have hn : ((q :: qs).map Value.ofChars).foldlM (fun (es : Entries) v => do
          pure (Keyed.insert es (← v.toKey) v)) [] = .ok (queryNames (q :: qs)) := by
        rw [queryNames, insertAll, List.foldl_map, List.foldlM_map]
        exact (Folds.foldlM_ok (fun _ => True) (fun es _ v _ => ⟨rfl, trivial⟩) trivial).1
      simp only [List.isEmpty_cons, ofQueries, Value.items, Bool.false_eq_true, if_false, pure_bind]
      rw [hn]
      rfl

theorem ofStats_eq (measured : List Value) (aggs : Keyed Aggregation) : ofStats measured aggs =
    insertAll aggs (measured.map fun field => (.text (statsMark ++ field.display), .stats field)) := by
  rw [insertAll, List.foldl_map]
  rfl

theorem build_of_fieldNames (hf : ∀ field ∈ r.fields, ∃ name, field = .text name) (hs : (settings .facetLimit).toInt = .ok size)
    (hm : measuredFields stats = .ok measured) :
    build settings r.toValue stats = .ok (insertAll [] (plan size r measured)) := by
  obtain ⟨hfields, hr, hq⟩ := r.get_toValue
  have hplan : insertAll [] (plan size r measured) = ofStats measured (insertAll (insertAll (insertAll []
      (r.fields.map fun field => (field, .terms (termsTarget field) size)))
      (r.ranges.map fun p => (p.1, .range p.1 (p.2.map sentBucket))))
      (if r.queries.isEmpty then [] else [(.text queriesName, .filters (queryNames r.queries))])) := by
    rw [ofStats_eq, plan]
    simp only [insertAll, List.foldl_append]
  rw [hplan, build, hs, hfields, hr, hq]
  simp only [bind, Except.bind, pure, Except.pure, Value.items_list, Value.entries_map, ofFields_eq hf, ofRanges_eq,
    ofQueries_eq]
  rw [measuredFields] at hm
  split at hm
  · next htext =>
      cases hm
      rw [if_pos htext]
  · next htext => rw [if_neg htext, hm]

theorem build_eq (hp : r.Proper) (hs : (settings .facetLimit).toInt = .ok size) (hm : measuredFields stats = .ok measured) :
    build settings r.toValue stats = .ok (insertAll [] (plan size r measured)) :=
  build_of_fieldNames hp.fieldNames hs hm

theorem build_eq_iff (hp : r.Proper) (hm : measuredFields stats = .ok measured) :
    build settings r.toValue stats = .ok aggs ↔
      ∃ size, (settings .facetLimit).toInt = .ok size ∧ aggs = insertAll [] (plan size r measured) := by
  constructor
  · intro h
    have hs := h
    rw [build, Folds.bind_eq_ok] at hs
    obtain ⟨size, hs, -⟩ := hs
    rw [build_eq hp hs hm] at h
    exact ⟨size, hs, (Except.ok.inj h).symm⟩
  · rintro ⟨size, hs, rfl⟩
    exact build_eq hp hs hm

theorem eq_text_of_termsField {field target : Value} (h : termsField field = .ok target) : ∃ name, field = .text name := by
  cases field with
  | text name => exact ⟨name, rfl⟩
  | set items => cases h
  | _ =>
      rw [termsField, Folds.bind_eq_ok] at h
      · obtain ⟨key, -, hk⟩ := h
        cases hk
      all_goals simp

theorem plan_of_build (h : build settings r.toValue stats = .ok aggs) (hm : measuredFields stats = .ok measured) :
    ∃ size, aggs = insertAll [] (plan size r measured) := by
  have hb := h
  rw [build, Folds.bind_eq_ok] at hb
  obtain ⟨size, hs, hb⟩ := hb
  rw [r.get_toValue.1, Folds.ok_bind, Value.items_list, Folds.ok_bind, Folds.bind_eq_ok] at hb
  obtain ⟨counted, hc, -⟩ := hb
  have hf : ∀ field ∈ r.fields, ∃ name, field = .text name := by
    intro field hf
    obtain ⟨_, _, hstep⟩ := Folds.exists_of_foldlM hc hf
    obtain ⟨target, ht, -⟩ := Folds.bind_eq_ok.mp hstep
    exact eq_text_of_termsField ht
  rw [build_of_fieldNames hf hs hm] at h
  exact ⟨size, (Except.ok.inj h).symm⟩

theorem textKeys_plan (hp : r.Proper) : TextKeys (plan size r measured) := by
  intro a ha
  rcases mem_plan.mp ha with ⟨field, hf, rfl⟩ | ⟨p, hm, rfl⟩ | ⟨-, rfl⟩ | ⟨field, -, rfl⟩
  · exact hp.fieldNames field hf
  · exact hp.rangeNames p hm
  · exact ⟨_, rfl⟩
  · exact ⟨_, rfl⟩

end CatalogSearch.Engine.Aggregation
