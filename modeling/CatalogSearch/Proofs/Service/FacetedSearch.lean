import CatalogSearch.Engine.Script
import CatalogSearch.Proofs.Engine.Runs
import CatalogSearch.Proofs.Engine.Summaries
import CatalogSearch.Proofs.Service.ScopedSearch

namespace CatalogSearch.Service

open Query Engine Action Keyed

variable {settings : Settings} {catalog : Catalog} {p : Params} {context : Context} {query : Value}
  {asked : Entries} {measured : List Value} {ps : Entries}

/-- What is to be counted and what to be measured, where nothing that is passed on as it is takes its place. -/
structure Requests (p : Params) (asked : Entries) (measured : List Value) : Prop where
  facets : p.facets = .map asked
  distinct : asked.Distinct
  texts : TextKeys asked
  measures : Aggregation.measuredFields (p.stats.orElse (.list [])) = .ok measured
  passed : ∀ more, p.extra = .map more →
    Entries.hasField more "facets" = false ∧ (p.stats.truthy = false → Entries.hasField more "stats" = false)

theorem Requests.eq_nil (h : Requests p asked measured) (hf : p.facets.truthy = false ∧ p.stats.truthy = false) :
    asked = [] ∧ measured = [] := by
  constructor
  · have ht := hf.1
    rw [h.facets] at ht
    simpa [Value.truthy] using ht
  · have hm := h.measures
    rw [Value.orElse.eq_def, hf.2] at hm
    cases hm
    rfl

theorem requests_engineParams (hr : Requests p asked measured) (h : engineParams catalog p context query = .ok ps) :
    (ps.field "facets").orElse (.map []) = (FacetRequest.ofEntries asked).toValue ∧
      (ps.field "stats").orElse (.list []) = p.stats.orElse (.list []) := by
  obtain ⟨-, -, filters, start, -, -, -, ho, rfl⟩ := engineParams_eq_closed h
  have hf := ho.others "facets" (by decide)
  have hs := ho.others "stats" (by decide)
  rw [← Entries.field?_set_of_ne start _ (show "facets" ≠ "sort" by decide)] at hf
  rw [← Entries.field?_set_of_ne start _ (show "stats" ≠ "sort" by decide)] at hs
  constructor
  · rw [Entries.field, facets_of_closed _ hf, passedOn_eq_none fun more hm => (hr.passed more hm).1, Option.none_or, hr.facets]
    cases asked with
    | nil => rfl
    | cons e es => exact Value.orElse_map _
  · rw [Entries.field, stats_of_closed _ hs]
    by_cases ht : p.stats.truthy = true
    · rw [if_pos ht]
      rfl
    · rw [if_neg ht, passedOn_eq_none fun more hm => (hr.passed more hm).2 (by simpa using ht), Value.orElse.eq_def p.stats,
        if_neg ht]
      rfl

section

variable {σ : Type} [Engine σ] {params entityType : Value} {given : Option Context} {l l₁ : Link σ}

/-- A search that is answered comes down to whether the facets of the reply can be decoded. -/
theorem exec_clientSearch_eq {conditions response aggregations : Value} {body : Body}
    (hb : Body.build settings conditions ps = .ok body) (hl : exec Client.connect settings l = (.ok true, l₁))
    (ha : (Engine.answer (.search (settings.indexFor entityType) body) l₁.engine).1 = .ok response)
    (hg : response.get "aggregations" (.map []) = .ok aggregations) :
    ∃ l₂, exec (Client.search conditions (.map ps) entityType) settings l =
      ((fun records => some (.ofResponse response (FacetRecord.toValues records))) <$>
        FacetRecord.decodeAll aggregations ((ps.field "facets").orElse (.map [])), l₂) := by
  rw [Client.search, Client.whenConnected, exec_bind, hl, andThen_ok, if_pos rfl, exec_bind, exec_read, andThen_ok,
    exec_bind, exec_ofOutcome, Value.entries_map, andThen_ok, exec_bind, exec_ofOutcome, hb, andThen_ok, exec_bind,
    exec_ask, andThen_ok, ha, orWarn, exec_bind, exec_ofOutcome, hg, andThen_ok, exec_bind, exec_ofOutcome]
  cases FacetRecord.decodeAll aggregations ((ps.field "facets").orElse (.map [])) <;> exact ⟨_, rfl⟩

theorem exec_clientSearch {conditions response aggregations : Value} {body : Body} {records : Keyed FacetRecord}
    (hb : Body.build settings conditions ps = .ok body) (hl : exec Client.connect settings l = (.ok true, l₁))
    (ha : (Engine.answer (.search (settings.indexFor entityType) body) l₁.engine).1 = .ok response)
    (hg : response.get "aggregations" (.map []) = .ok aggregations)
    (hd : FacetRecord.decodeAll aggregations ((ps.field "facets").orElse (.map [])) = .ok records) :
    ∃ l₂, exec (Client.search conditions (.map ps) entityType) settings l =
      (.ok (some (.ofResponse response (FacetRecord.toValues records))), l₂) := by
  obtain ⟨l₂, hs⟩ := exec_clientSearch_eq hb hl ha hg
  rw [hd] at hs
  exact ⟨l₂, hs⟩

theorem exec_searchIn (hp : engineParams catalog p context query = .ok ps) {result : ResultSet} {l₂ : Link σ}
    (hs : exec (Client.search (.ofChars (searchConditions query)) (.map ps) entityType) settings l = (.ok (some result), l₂)) :
    exec (searchIn catalog p query entityType context) settings l =
      (summarize (p.facets.truthy || p.stats.truthy) result, l₂) := by
  rw [searchIn, exec_bind, exec_ofOutcome, hp, andThen_ok, exec_bind, hs, andThen_ok]
  exact exec_ofOutcome _

/-- The identities and the total that a search finds in a reply. -/
def foundIn (response : Value) : Outcome (List Value × Int) := do
  let result := ResultSet.ofResponse response (.map [])
  let ids ← (← result.records).mapM fun record => record.get "id"
  pure (ids, ← result.totalHits)

def answered (withFacets : Bool) (s : Summary) (found : List Value × Int) : Value := .ofFields
  ([("ids", .list found.1), ("total_count", .int found.2)] ++ if withFacets then [("facets", s.toValue)] else [])

theorem summarize_eq {records : Keyed FacetRecord} {s : Summary} {withFacets : Bool}
    (hs : withFacets = true → Summary.ofRecords (FacetRecord.toValues records) = .ok s) (response : Value) :
    summarize withFacets (.ofResponse response (FacetRecord.toValues records)) = answered withFacets s <$> foundIn response := by
  have hrecords : (ResultSet.ofResponse response (FacetRecord.toValues records)).records =
      (ResultSet.ofResponse response (.map [])).records := rfl
  have htotal : (ResultSet.ofResponse response (FacetRecord.toValues records)).totalHits =
      (ResultSet.ofResponse response (.map [])).totalHits := rfl
  rw [summarize, hrecords, htotal]
  cases withFacets with
  | false =>
      simp only [foundIn, map_bind, map_pure]
      rfl
  | true =>
      have hfacets : Summary.ofRecords (ResultSet.ofResponse response (FacetRecord.toValues records)).facets = .ok s := by
        rw [ResultSet.ofResponse, FacetRecord.toValues, Value.orElse_map]
        exact hs rfl
      simp only [hfacets, foundIn, map_bind, map_pure, Folds.ok_bind]
      rfl

theorem summarize_ofResponse {response basic : Value}
    (h : summarize false (.ofResponse response (.map [])) = .ok basic) {records : Keyed FacetRecord} {s : Summary}
    (hs : Summary.ofRecords (FacetRecord.toValues records) = .ok s) (withFacets : Bool) :
    ∃ answer, summarize withFacets (.ofResponse response (FacetRecord.toValues records)) = .ok answer ∧
      answer.get "facets" (.map []) = .ok (if withFacets then s.toValue else .map []) := by
  have hbasic : answered false [] <$> foundIn response = .ok basic :=
    (@summarize_eq [] [] false nofun response).symm.trans h
  rw [summarize_eq fun _ => hs]
  cases hf : foundIn response with
  | error e =>
      rw [hf] at hbasic
      cases hbasic
  | ok found =>
      refine ⟨_, rfl, ?_⟩
      cases withFacets <;> exact Entries.get_ofFields _ _ _

/-- Where what is requested shares no name, every facet and every measure of a search comes back: whatever
the engine replies, as long as it replies to each aggregation of the body that it was sent. -/
theorem requested_facets_come_back {ps : Entries} {body : Body} {response basic : Value} {replies : Entries}
    (hr : Requests (Params.ofValue settings params) asked measured)
    (hu : Unmixed (FacetRequest.ofEntries asked) measured)
    (hc : contextOf settings catalog (Params.ofValue settings params) given = .ok context)
    (hp : engineParams catalog (Params.ofValue settings params) context query = .ok ps)
    (hb : Body.build settings (.ofChars (searchConditions query)) ps = .ok body)
    (hl : exec Client.connect settings l = (.ok true, l₁))
    (ha : (Engine.answer (.search (settings.indexFor entityType) body) l₁.engine).1 = .ok response)
    (hg : response.get "aggregations" (.map []) = .ok (.map replies)) (hreplied : Replied body.aggregations replies)
    (hs : summarize false (.ofResponse response (.map [])) = .ok basic) :
    ∃ answer s l₂, exec (search catalog query params entityType given) settings l = (.ok answer, l₂) ∧
      answer.get "facets" (.map []) = .ok s.toValue ∧ Returned asked measured replies s := by
  obtain ⟨hfacets, hstats⟩ := requests_engineParams hr hp
  have hbuild := (Body.built_of_build hb).aggregations
  rw [hfacets, hstats] at hbuild
  obtain ⟨size, -, haggs⟩ :=
    (Aggregation.build_eq_iff (FacetRequest.proper_ofEntries hr.distinct hr.texts) hr.measures).mp hbuild
  rw [haggs] at hreplied
  obtain ⟨records, s, hd, hsummary, hreturned⟩ := returned_of_replied hr.distinct hr.texts hu hreplied
  rw [← hfacets] at hd
  obtain ⟨l₂, hsearch⟩ := exec_clientSearch hb hl ha hg hd
  obtain ⟨answer, hanswer, hshown⟩ := summarize_ofResponse hs hsummary
    ((Params.ofValue settings params).facets.truthy || (Params.ofValue settings params).stats.truthy)
  have hexec : exec (search catalog query params entityType given) settings l = (.ok answer, l₂) := by
    rw [exec_search hc, exec_searchIn hp hsearch, hanswer]
  by_cases hw : ((Params.ofValue settings params).facets.truthy || (Params.ofValue settings params).stats.truthy) = true
  · rw [if_pos hw] at hshown
    exact ⟨answer, s, l₂, hexec, hshown, hreturned⟩
  · rw [if_neg hw] at hshown
    obtain ⟨rfl, rfl⟩ := hr.eq_nil (by simpa using hw)
    refine ⟨answer, [], l₂, hexec, hshown, ?_, ?_, ?_⟩
    · exact fun _ _ hm => nomatch hm
    · exact fun _ _ hm => nomatch hm
    · exact fun _ hm => nomatch hm

end

section

variable {facets replies : Entries} {stats : List Value}

def hitsOfThree : Value := .ofFields [("total", .ofFields [("value", .int 3)]), ("hits", .list [])]

def responseWith (replies : Entries) : Value := .ofFields [("hits", hitsOfThree), ("aggregations", .map replies)]

def scriptedLink (replies : Entries) : Link Script := ⟨[(.search, [.ok (responseWith replies)])], true, none, [], []⟩

def facetParams (facets : Entries) (stats : List Value) : Value := .ofFields [
  ("facets", .map facets), ("stats", .list stats), ("store_id", .int 2), ("offset", .int 0), ("limit", .int 10),
  ("sort_by", .list [])]

def facetSearch (facets : Entries) (stats : List Value) : Params where
  offset := .int 0
  limit := .int 10
  sortBy := .list []
  fields := .list []
  extra := .map []
  store := .int 2
  filters := .map []
  facets := .map facets
  rangeFilters := .map []
  stats := .list stats

theorem ofValue_facetParams : Params.ofValue Setting.default (facetParams facets stats) = facetSearch facets stats := by
  simp [Params.ofValue, facetParams, facetSearch, Value.ofFields, Entries.field, Entries.field?, Keyed.find?,
    Value.same_text]

theorem requests_facetSearch (hd : facets.Distinct) (ht : TextKeys facets) :
    Requests (facetSearch facets stats) facets stats where
  facets := rfl
  distinct := hd
  texts := ht
  measures := by cases stats <;> rfl
  passed := by
    rintro more ⟨⟩
    exact ⟨rfl, fun _ => rfl⟩

theorem summarize_responseWith (replies : Entries) :
    ∃ basic, summarize false (.ofResponse (responseWith replies) (.map [])) = .ok basic := by
  have he : (responseWith replies).get "error" = .ok .null := Entries.get_ofFields _ _ _
  have hh : (responseWith replies).get "hits" (.map []) = .ok hitsOfThree := Entries.get_ofFields _ _ _
  have hl : hitsOfThree.get "hits" (.list []) = .ok (.list []) := Entries.get_ofFields _ _ _
  have ht : hitsOfThree.get "total" (.int 0) = .ok (.ofFields [("value", .int 3)]) := Entries.get_ofFields _ _ _
  have hv : (Value.ofFields [("value", .int 3)]).get "value" (.int 0) = .ok (.int 3) := Entries.get_ofFields _ _ _
  have hr : (ResultSet.ofResponse (responseWith replies) (.map [])).response = responseWith replies := rfl
  have hrecords : (ResultSet.ofResponse (responseWith replies) (.map [])).records = .ok [] := by
    rw [ResultSet.records, ResultSet.hasError, ResultSet.hits, hr, he, hh]
    simp only [Folds.ok_bind, hl]
    rfl
  have htotal : (ResultSet.ofResponse (responseWith replies) (.map [])).totalHits = .ok 3 := by
    rw [ResultSet.totalHits, hr, hh, Folds.ok_bind, ht, Folds.ok_bind]
    change (Value.get (.ofFields [("value", .int 3)]) "value" (.int 0) >>= _) = _
    rw [hv]
    rfl
  rw [summarize, hrecords, Folds.ok_bind, htotal]
  exact ⟨_, rfl⟩

theorem exists_body (hr : (FacetRequest.ofEntries facets).Proper) (hq : Requests (facetSearch facets stats) facets stats) :
    ∃ ps body, engineParams (.held [] [] []) (facetSearch facets stats) shopContext (.text "lamp") = .ok ps ∧
      Body.build Setting.default (.ofChars (searchConditions (.text "lamp"))) ps = .ok body ∧
      body.aggregations = insertAll [] (Aggregation.plan 100 (FacetRequest.ofEntries facets) stats) := by
  let start := Entries.set [(.text "offset", .int 0), (.text "limit", .int 10)] "sort" (.list [])
  obtain ⟨filters, hp⟩ : ∃ filters, engineParams (.held [] [] []) (facetSearch facets stats) shopContext
      (.text "lamp") = .ok (closed (facetSearch facets stats) start filters) := ⟨_, rfl⟩
  obtain ⟨hf, hs⟩ := requests_engineParams hq hp
  have hfield : ∀ name, name ∉ ["facets", "filters", "stats"] → (closed (facetSearch facets stats) start filters).field name =
      ([("offset", Value.int 0), ("limit", .int 10), ("sort", .list [])].lookup name).getD .null := by
    intro name hn
    have hstart : start = [("offset", Value.int 0), ("limit", .int 10), ("sort", .list [])].map fun f => (.text f.1, f.2) := by
      simp [start, Entries.set, Keyed.insert, Value.same_text]
    have hx : ∀ more, (facetSearch facets stats).extra = .map more → Entries.hasField more name = false := by
      rintro more ⟨⟩
      rfl
    simp only [List.mem_cons, List.not_mem_nil, or_false, not_or] at hn
    rw [Entries.field, field?_closed _ _ _ hx hn.2.1 hn.2.2 fun _ => rfl, ← Entries.field?_ofFields, ← hstart]
    split
    · rw [Entries.field?_set_of_ne _ _ hn.1]
    · rfl
  obtain ⟨fs, hfs⟩ : ∃ fs, Body.filtersOf (closed (facetSearch facets stats) start filters) = .ok fs := by
    rw [Body.filtersOf, hfield "range_filters" (by decide)]
    exact ⟨_, rfl⟩
  have hsize : (Setting.default .facetLimit).toInt = .ok 100 := rfl
  have hbuild := Aggregation.build_eq hr hsize hq.measures
  obtain ⟨body, hb⟩ : ∃ body, Body.build Setting.default (.ofChars (searchConditions (.text "lamp")))
      (closed (facetSearch facets stats) start filters) = .ok body := by
    rw [Body.build, hfs, Body.count, hfield "offset" (by decide), Body.count, hfield "limit" (by decide), Body.sortOf,
      hfield "sort" (by decide), hf, hs, hfield "fields" (by decide), hbuild]
    exact ⟨_, rfl⟩
  have haggs := (Body.built_of_build hb).aggregations
  rw [hf, hs, hbuild] at haggs
  exact ⟨_, body, hp, hb, (Except.ok.inj haggs).symm⟩

end

def oneToFive : Entries := [(.text "from", .text "1"), (.text "to", .text "5")]

theorem field?_oneToFive (name : String) :
    oneToFive.field? name = [("from", Value.text "1"), ("to", .text "5")].lookup name :=
  Entries.field?_ofFields [("from", .text "1"), ("to", .text "5")] name

def priceFacets : Entries := [(.text "price", .list [.map oneToFive])]

def shopFacets : Entries := (.text "color", .list []) :: priceFacets

def colorReply : Entries := [(.text "buckets", .list [
  .ofFields [("key", .text "red"), ("doc_count", .int 2)], .ofFields [("key", .text "blue"), ("doc_count", .int 1)]])]

def priceReply : Entries := [(.text "buckets", .list [.ofFields [("key", .text "1-5"), ("doc_count", .int 3)]])]

def measureReply : Entries := [(.text "count", .int 3), (.text "sum", .int 12), (.text "avg", .int 4)]

def shopReplies : Entries :=
  [(.text "_stats:weight", .map measureReply), (.text "price", .map priceReply), (.text "color", .map colorReply)]

def bucketOf (key : String) (count : Int) : Entries := [(.text "key", .text key), (.text "doc_count", .int count)]

theorem field?_bucketOf (key : String) (count : Int) : (bucketOf key count).field? "key" = some (.text key) :=
  Entries.field?_ofFields [("key", .text key), ("doc_count", .int count)] "key"

theorem termOf_bucketOf (key : String) (count : Int) : termOf (bucketOf key count) = .text key := by
  have hs : (bucketOf key count).field? "key_as_string" = none :=
    Entries.field?_ofFields [("key", .text key), ("doc_count", .int count)] "key_as_string"
  rw [termOf, Entries.field, hs, Entries.field_of_field? (field?_bucketOf key count)]
  rfl

theorem termsIn_colorReply : TermsIn colorReply [bucketOf "red" 2, bucketOf "blue" 1] where
  listed := Entries.field?_cons_self _ _ _
  keys := by
    intro b hb
    simp only [List.mem_cons, List.not_mem_nil, or_false] at hb
    rcases hb with rfl | rfl <;> rw [termOf_bucketOf] <;> exact ⟨rfl, Value.same_text_self _⟩
  apart := by
    have hne : (Value.text "red").Apart (.text "blue") := Value.apart_text (by decide)
    simpa [termOf_bucketOf] using hne

theorem distinct_shopFacets : shopFacets.Distinct := by
  simp [shopFacets, priceFacets, Entries.Distinct, Value.same_text_of_ne]

theorem textKeys_shopFacets : TextKeys shopFacets := by
  simp [TextKeys, shopFacets, priceFacets]

theorem rangeOf?_oneToFive : FacetRequest.rangeOf? (.map oneToFive) = some (FacetRequest.rangeRecord oneToFive) := by
  have hr : Criterion.isRangeRecord oneToFive = true := by
    simp [Criterion.isRangeRecord, Entries.hasField_eq, field?_oneToFive]
  rw [FacetRequest.rangeOf?, hr]
  rfl

theorem rangeName_oneToFive : Aggregation.rangeName (FacetRequest.rangeRecord oneToFive) = "1-5" := by
  rw [Aggregation.rangeName, Entries.field, Entries.field, FacetRequest.field?_rangeRecord _ (.inl rfl),
    FacetRequest.field?_rangeRecord _ (.inr rfl), FacetRequest.boundText, FacetRequest.boundText, Entries.field,
    Entries.field, field?_oneToFive, field?_oneToFive]
  rfl

theorem ofField_price : FacetRequest.ofField (.text "price") (.list [.map oneToFive]) =
    ⟨[], [(.text "price", [FacetRequest.rangeRecord oneToFive])], []⟩ := by
  simp [FacetRequest.ofField, FacetRequest.queryOf?, rangeOf?_oneToFive, Value.truthy, Value.sequence?]

theorem ofEntries_priceFacets : FacetRequest.ofEntries priceFacets =
    ⟨[], [(.text "price", [FacetRequest.rangeRecord oneToFive])], []⟩ := by
  rw [FacetRequest.ofEntries, priceFacets, List.map_singleton, ofField_price]
  rfl

theorem ofEntries_shopFacets : FacetRequest.ofEntries shopFacets =
    ⟨[.text "color"], [(.text "price", [FacetRequest.rangeRecord oneToFive])], []⟩ := by
  rw [FacetRequest.ofEntries, shopFacets, priceFacets, List.map_cons, List.map_singleton, ofField_price]
  rfl

theorem rangesIn_priceReply : RangesIn priceReply [Aggregation.sentBucket (FacetRequest.rangeRecord oneToFive)] := by
  have hb : priceReply.field? "buckets" = some (.list ([bucketOf "1-5" 3].map .map)) := Entries.field?_cons_self _ _ _
  have hone : ∀ name bucket, Tells priceReply name bucket → bucket = bucketOf "1-5" 3 := fun name bucket h =>
    List.mem_singleton.mp (h.of_listed hb).1
  refine ⟨.inr ⟨_, hb, ?_⟩, ?_, ?_⟩
  · intro bucket hm
    rw [List.mem_singleton.mp hm]
    exact ⟨_, field?_bucketOf _ _⟩
  · intro sent hm name hn
    rw [List.mem_singleton.mp hm, Aggregation.field?_sentBucket, rangeName_oneToFive] at hn
    cases hn
    exact ⟨_, .listed hb (List.mem_singleton_self _) (field?_bucketOf _ _)⟩
  · intro name a b ha hb
    rw [hone name a ha, hone name b hb]

theorem unmixed_shopFacets : Unmixed (FacetRequest.ofEntries shopFacets) [.text "weight"] := by
  rw [ofEntries_shopFacets]
  refine ⟨?_, ?_, ?_, ?_, ?_⟩
  · intro name hn
    simp only [counted, List.map_cons, List.map_nil, List.singleton_append, List.mem_cons, List.not_mem_nil, or_false,
      Value.text.injEq] at hn
    rcases hn with rfl | rfl <;> decide
  · exact fun q hq => nomatch hq
  · intro field hf
    rw [List.mem_singleton.mp hf]
    simp [counted, Value.display, Value.chars]
  · simp [counted]
  · exact fun _ q hq => nomatch hq

theorem replied_shopReplies :
    Replied (insertAll [] (Aggregation.plan 100 (FacetRequest.ofEntries shopFacets) [.text "weight"])) shopReplies := by
  have hd : shopReplies.Distinct := by
    simp [shopReplies, Entries.Distinct, Value.same_text_of_ne]
  have hn : Aggregation.statsMark ++ (Value.text "weight").display = "_stats:weight" := by decide
  refine replied_of_plan (FacetRequest.proper_ofEntries distinct_shopFacets textKeys_shopFacets) hd ?_ ?_
  · rw [ofEntries_shopFacets]
    intro a ha
    rcases Aggregation.mem_plan.mp ha with ⟨field, hf, rfl⟩ | ⟨p, hp, rfl⟩ | ⟨hq, -⟩ | ⟨field, hf, rfl⟩
    · obtain rfl := List.mem_singleton.mp hf
      exact ⟨colorReply, by simp [shopReplies], .terms termsIn_colorReply⟩
    · obtain rfl := List.mem_singleton.mp hp
      exact ⟨priceReply, by simp [shopReplies], .range rangesIn_priceReply⟩
    · exact absurd rfl hq
    · obtain rfl := List.mem_singleton.mp hf
      rw [hn]
      exact ⟨measureReply, List.mem_cons_self, .stats _ _⟩
  · rw [ofEntries_shopFacets]
    intro e he
    simp only [shopReplies, List.mem_cons, List.not_mem_nil, or_false] at he
    rcases he with rfl | rfl | rfl <;> simp [Aggregation.plan, keys, hn]

theorem shop_facets_come_back : ∃ answer s l₂,
    exec (search (.held [] [] []) (.text "lamp") (facetParams shopFacets [.text "weight"]) (.text "product")
      (some shopContext)) Setting.default (scriptedLink shopReplies) = (.ok answer, l₂) ∧
    answer.get "facets" (.map []) = .ok s.toValue ∧ Returned shopFacets [.text "weight"] shopReplies s := by
  have hr : Requests (facetSearch shopFacets [.text "weight"]) shopFacets [.text "weight"] :=
    requests_facetSearch distinct_shopFacets textKeys_shopFacets
  obtain ⟨ps, body, hp, hb, haggs⟩ := exists_body (FacetRequest.proper_ofEntries distinct_shopFacets textKeys_shopFacets) hr
  obtain ⟨basic, hs⟩ := summarize_responseWith shopReplies
  have hreplied := replied_shopReplies
  rw [← haggs] at hreplied
  rw [← ofValue_facetParams] at hr hp
  have hg : (responseWith shopReplies).get "aggregations" (.map []) = .ok (.map shopReplies) :=
    Entries.get_ofFields _ _ _
  exact requested_facets_come_back hr unmixed_shopFacets rfl hp hb rfl rfl hg hreplied hs

def priceReplies : Entries := [(.text "price", .map priceReply), (.text "_stats:price", .map measureReply)]

theorem proper_priceFacets : (FacetRequest.ofEntries priceFacets).Proper :=
  FacetRequest.proper_ofEntries (List.pairwise_singleton _ _) (by simp [TextKeys, priceFacets])

theorem replied_priceReplies :
    Replied (insertAll [] (Aggregation.plan 100 (FacetRequest.ofEntries priceFacets) [.text "price"])) priceReplies := by
  have hd : priceReplies.Distinct := by
    simp [priceReplies, Entries.Distinct, Value.same_text_of_ne]
  have hn : Aggregation.statsMark ++ (Value.text "price").display = "_stats:price" := by decide
  refine replied_of_plan proper_priceFacets hd ?_ ?_
  · rw [ofEntries_priceFacets]
    intro a ha
    rcases Aggregation.mem_plan.mp ha with ⟨field, hf, -⟩ | ⟨p, hp, rfl⟩ | ⟨hq, -⟩ | ⟨field, hf, rfl⟩
    · cases hf
    · obtain rfl := List.mem_singleton.mp hp
      exact ⟨priceReply, List.mem_cons_self, .range rangesIn_priceReply⟩
    · exact absurd rfl hq
    · obtain rfl := List.mem_singleton.mp hf
      rw [hn]
      exact ⟨measureReply, List.mem_cons_of_mem _ (List.mem_singleton_self _), .stats _ _⟩
  · rw [ofEntries_priceFacets]
    intro e he
    simp only [priceReplies, List.mem_cons, List.not_mem_nil, or_false] at he
    rcases he with rfl | rfl <;> simp [Aggregation.plan, keys, hn]

/-- The counts of prices that are measured too are lost, although the engine replies to both. -/
theorem measured_prices_are_not_counted : ∃ ps body answer s l₂,
    engineParams (.held [] [] []) (facetSearch priceFacets [.text "price"]) shopContext (.text "lamp") = .ok ps ∧
    Body.build Setting.default (.ofChars (searchConditions (.text "lamp"))) ps = .ok body ∧
    Replied body.aggregations priceReplies ∧
    exec (search (.held [] [] []) (.text "lamp") (facetParams priceFacets [.text "price"]) (.text "product")
      (some shopContext)) Setting.default (scriptedLink priceReplies) = (.ok answer, l₂) ∧
    answer.get "facets" (.map []) = .ok (Summary.toValue s) ∧ ¬Returned priceFacets [.text "price"] priceReplies s := by
  have hr : Requests (facetSearch priceFacets [.text "price"]) priceFacets [.text "price"] :=
    requests_facetSearch (List.pairwise_singleton _ _) (by simp [TextKeys, priceFacets])
  obtain ⟨ps, body, hp, hb, haggs⟩ := exists_body proper_priceFacets hr
  have hreplied := replied_priceReplies
  rw [← haggs] at hreplied
  have hranges : (.text "price", [FacetRequest.rangeRecord oneToFive]) ∈ (FacetRequest.ofEntries priceFacets).ranges := by
    rw [ofEntries_priceFacets]
    exact List.mem_singleton_self _
  have htold : ∀ range ∈ [FacetRequest.rangeRecord oneToFive],
      ∃ bucket, Tells priceReply (Aggregation.rangeName range) bucket := fun range hm =>
    rangesIn_priceReply.all _ (List.mem_map_of_mem hm) _ (Aggregation.field?_sentBucket range)
  obtain ⟨found, -, hcounts⟩ := FacetRecord.decodes_ranges (by decide) (by decide)
    (FacetRequest.field?_rangeEntries proper_priceFacets hranges) rangesIn_priceReply.buckets htold
  -- Of the two replies only the measures are left.
  obtain ⟨records, hd, hsummary⟩ : ∃ records,
      FacetRecord.decodeAll (.map priceReplies) (FacetRequest.ofEntries priceFacets).toValue = .ok records ∧
      Summary.ofRecords (FacetRecord.toValues records) =
        .ok [(.text "stats", [(.text "price", FacetRecord.statistical measureReply)])] :=
    FacetRecord.summary_of_counted_and_measured hcounts
  rw [← (requests_engineParams hr hp).1] at hd
  have hg : (responseWith priceReplies).get "aggregations" (.map []) = .ok (.map priceReplies) :=
    Entries.get_ofFields _ _ _
  have hl : exec Client.connect Setting.default (scriptedLink priceReplies) = (.ok true, scriptedLink priceReplies) := rfl
  have ha : (Engine.answer (.search (Settings.indexFor Setting.default (.text "product")) body)
      (scriptedLink priceReplies).engine).1 = .ok (responseWith priceReplies) := rfl
  obtain ⟨l₂, hsearch⟩ := exec_clientSearch hb hl ha hg hd
  obtain ⟨basic, hs⟩ := summarize_responseWith priceReplies
  obtain ⟨answer, hanswer, hshown⟩ := summarize_ofResponse hs hsummary true
  refine ⟨ps, body, answer, _, l₂, hp, hb, hreplied, ?_, hshown, ?_⟩
  · rw [exec_search rfl, ofValue_facetParams, exec_searchIn hp hsearch, ← hanswer]
    rfl
  · intro h
    obtain ⟨reply, bucket, -, -, es, hes, -⟩ := h.ranges "price" _ List.mem_cons_self rfl (.map oneToFive)
      (List.mem_singleton_self _) _ rangeOf?_oneToFive
    simp [Keyed.find?, Value.same_text] at hes

end CatalogSearch.Service
