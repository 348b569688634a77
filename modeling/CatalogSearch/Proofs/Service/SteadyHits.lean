import CatalogSearch.Proofs.Engine.SuitedReplies
import CatalogSearch.Proofs.Service.HitIdentities

namespace CatalogSearch.Service

open Query Engine Action Keyed

variable {settings : Settings} {catalog : Catalog} {p : Params} {context : Context} {query : Value}
  {told other : Entries}

def Params.asking (p : Params) (facets stats : Value) : Params := { p with facets, stats }

def Params.asks (p : Params) : Bool := p.facets.truthy || p.stats.truthy

theorem ofValue_beside (settings : Settings)
    (h : ∀ name, name ≠ "facets" → name ≠ "stats" → told.field? name = other.field? name) :
    Params.ofValue settings (.map other) = (Params.ofValue settings (.map told)).asking
      (other.field "facets" (.map [])) (other.field "stats" (.list [])) := by
  have hfield : ∀ name, name ≠ "facets" → name ≠ "stats" → ∀ default, told.field name default = other.field name default := by
    intro name hf hs default
    rw [Entries.field, h name hf hs, Entries.field]
  simp only [Params.ofValue, Params.asking, Params.mk.injEq, true_and, and_true]
  refine ⟨?_, ?_, ?_, ?_, ?_, ?_, ?_, ?_⟩ <;> exact (hfield _ (by decide) (by decide) _).symm

def startOf (p : Params) : Outcome Entries :=
  if p.fields.truthy then (fun names => (pageParams p).set "fields" (.list names)) <$> p.fields.items else pure (pageParams p)

def opening (catalog : Catalog) (p : Params) (context : Context) (query : Value) : Outcome (Entries × Value) := do
  let start ← startOf p
  let keys ← sortKeys context (← catalog.sortables (p.storeIn context)) p.sortBy
  let filters ← scopedFilters p context query
  pure (start.set "sort" (.list (keys.map SortKey.toValue)), .ofChars (conjunction (filterClauses filters)))

theorem engineParams_eq_opening (catalog : Catalog) (p : Params) (context : Context) (query : Value) :
    engineParams catalog p context query = (fun o => closed p o.1 o.2) <$> opening catalog p context query := by
  cases ht : p.fields.truthy with
  | false =>
      simp only [engineParams, opening, startOf, ht, Bool.false_eq_true, if_false, map_bind, map_pure, pure_bind]
      rfl
  | true =>
      simp only [engineParams, opening, startOf, ht, if_true, map_bind, map_pure, pure_bind, bind_map_left]
      rfl

theorem field?_opening {o : Entries × Value} (h : opening catalog p context query = .ok o) {name : String}
    (hn : name ∉ ["offset", "limit", "fields", "sort"]) : o.1.field? name = none := by
  simp only [opening, Folds.bind_eq_ok] at h
  obtain ⟨start, hstart, -, -, keys, -, filters, -, h⟩ := h
  cases h
  have hpage : (pageParams p).field? name = none := field?_pageParams_of_not_mem p (by simp_all)
  rw [Entries.field?_set_of_ne _ _ (by rintro rfl; simp at hn)]
  rw [startOf] at hstart
  split at hstart
  · cases hi : p.fields.items with
    | error e =>
        rw [hi] at hstart
        cases hstart
    | ok names =>
        rw [hi] at hstart
        cases hstart
        rw [Entries.field?_set_of_ne _ _ (by rintro rfl; simp at hn)]
        exact hpage
  · cases hstart
    exact hpage

theorem field?_closed_asking (p : Params) (facets stats : Value) (start : Entries) (filters : Value) {name : String}
    (hf : name ≠ "facets") (hs : name ≠ "stats") :
    (closed (p.asking facets stats) start filters).field? name = (closed p start filters).field? name := by
  rw [field?_closed_eq, field?_closed_eq]
  simp only [hf, hs, and_false, if_false]
  rfl

/-- A search that may be told what to count and what to measure, in its own way and in that of the engine. -/
structure Countable (p : Params) : Prop where
  facets : ∃ asked : Entries, p.facets = .map asked ∧ TextKeys asked
  stats : ∃ measured, p.stats = .list measured
  passed : p.stats.truthy = false → ∀ v, passedOn p "stats" = some v →
    ∃ measured, Aggregation.measuredFields (v.orElse (.list [])) = .ok measured

/-- What the counts of a search depend on, other than its own facets. -/
def room (settings : Settings) (p : Params) : Outcome (Keyed Aggregation) :=
  match passedOn p "facets" with
  | some told => (fun _ => []) <$> Aggregation.counts settings (told.orElse (.map []))
  | none => (fun _ => []) <$> (settings .facetLimit).toInt

theorem counts_of_fieldNames {r : FacetRequest} (hf : ∀ field ∈ r.fields, ∃ name, field = .text name) :
    (fun _ => ([] : Keyed Aggregation)) <$> Aggregation.counts settings r.toValue =
      (fun _ => []) <$> (settings .facetLimit).toInt := by
  cases hs : (settings .facetLimit).toInt with
  | error e =>
      rw [Aggregation.counts, hs]
      rfl
  | ok size =>
      have hb := Aggregation.build_of_fieldNames hf hs (rfl : Aggregation.measuredFields (.list []) = .ok [])
      rw [Aggregation.build_eq_counts] at hb
      obtain ⟨counted, hc, -⟩ := Folds.bind_eq_ok.mp hb
      rw [hc]
      rfl

theorem measured_of_closed (hp : Countable p) {start : Entries} (filters : Value) (h : start.field? "stats" = none) :
    ∃ measured, Aggregation.measuredFields (((closed p start filters).field "stats").orElse (.list [])) = .ok measured := by
  obtain ⟨own, hown⟩ := hp.stats
  rw [Entries.field, stats_of_closed filters h]
  split
  · next ht =>
      rw [hown] at ht ⊢
      rw [Option.getD_some, Value.orElse, if_pos ht]
      exact ⟨own, rfl⟩
  · next ht =>
      cases hpassed : passedOn p "stats" with
      | none => exact ⟨[], rfl⟩
      | some v => exact hp.passed (by simpa using ht) v hpassed

theorem counts_of_closed (hp : Countable p) {start : Entries} (filters : Value) (h : start.field? "facets" = none) :
    (fun _ => ([] : Keyed Aggregation)) <$>
      Aggregation.counts settings (((closed p start filters).field "facets").orElse (.map [])) = room settings p := by
  rw [Entries.field, facets_of_closed filters h, room]
  cases passedOn p "facets" with
  | some told => rfl
  | none =>
      obtain ⟨asked, hasked, ht⟩ := hp.facets
      have hrequest : (((none : Option Value).or (if p.facets.truthy then some (FacetRequest.ofValue p.facets).toValue
          else none)).getD .null).orElse (.map []) = (FacetRequest.ofEntries asked).toValue := by
        rw [hasked]
        cases asked with
        | nil => rfl
        | cons e es => exact Value.orElse_map _
      rw [hrequest]
      refine counts_of_fieldNames fun field hf => ?_
      obtain ⟨conditions, he, -⟩ := FacetRequest.mem_fields.mp hf
      exact ht _ he

theorem emptied_build (hp : Countable p) {o : Entries × Value} (ho : opening catalog p context query = .ok o) :
    (fun _ => []) <$> Aggregation.build settings (((closed p o.1 o.2).field "facets").orElse (.map []))
      (((closed p o.1 o.2).field "stats").orElse (.list [])) = room settings p := by
  obtain ⟨measured, hm⟩ := measured_of_closed hp o.2 (field?_opening ho (by decide : "stats" ∉ _))
  rw [Aggregation.build_eq_counts, hm, ← counts_of_closed hp o.2 (field?_opening ho (by decide : "facets" ∉ _))]
  simp only [Folds.ok_bind, map_bind, map_pure]
  rw [map_eq_pure_bind]

/-- The body that a search comes to. -/
def bodyOf (settings : Settings) (catalog : Catalog) (query : Value) (given : Option Context) (p : Params) :
    Outcome Body := do
  let context ← contextOf settings catalog p given
  let ps ← engineParams catalog p context query
  Body.build settings (.ofChars (searchConditions query)) ps

theorem bodyOf_eq_ok {given : Option Context} {body : Body} : bodyOf settings catalog query given p = .ok body ↔
    ∃ context ps, contextOf settings catalog p given = .ok context ∧ engineParams catalog p context query = .ok ps ∧
      Body.build settings (.ofChars (searchConditions query)) ps = .ok body := by
  simp only [bodyOf, Folds.bind_eq_ok]
  constructor
  · rintro ⟨context, hc, ps, hp, hb⟩
    exact ⟨context, ps, hc, hp, hb⟩
  · rintro ⟨context, ps, hc, hp, hb⟩
    exact ⟨context, hc, ps, hp, hb⟩

/-- Facets and measures come into nothing of a body but its aggregations, and neither makes a search fail. -/
theorem bare_bodyOf_asking {given : Option Context} {facets stats : Value} (hp : Countable p)
    (ha : Countable (p.asking facets stats)) : Body.bare <$> bodyOf settings catalog query given (p.asking facets stats) =
      Body.bare <$> bodyOf settings catalog query given p := by
  have hcontext : contextOf settings catalog (p.asking facets stats) given = contextOf settings catalog p given := rfl
  have hopening : ∀ context, opening catalog (p.asking facets stats) context query = opening catalog p context query :=
    fun _ => rfl
  rw [bodyOf, bodyOf, hcontext]
  cases contextOf settings catalog p given with
  | error e => rfl
  | ok context =>
      rw [Folds.ok_bind, Folds.ok_bind, engineParams_eq_opening, engineParams_eq_opening, hopening]
      cases ho : opening catalog p context query with
      | error e => rfl
      | ok o =>
          change Body.bare <$> Body.build settings _ (closed (p.asking facets stats) o.1 o.2) =
            Body.bare <$> Body.build settings _ (closed p o.1 o.2)
          rw [Body.build_eq_frame, Body.build_eq_frame, Body.bare_frame, Body.bare_frame, emptied_build hp ho,
            emptied_build ha ((hopening context).trans ho),
            Body.frame_congr fun name hf hs => field?_closed_asking p facets stats o.1 o.2 hf hs]
          rfl

theorem bare_of_bodyOf_asking {given : Option Context} {facets stats : Value} {body body' : Body}
    (hb : bodyOf settings catalog query given p = .ok body)
    (hb' : bodyOf settings catalog query given (p.asking facets stats) = .ok body') : body.bare = body'.bare := by
  obtain ⟨context, ps, hc, hp, hb⟩ := bodyOf_eq_ok.mp hb
  obtain ⟨context', ps', hc', hp', hb'⟩ := bodyOf_eq_ok.mp hb'
  obtain rfl : context = context' := Except.ok.inj (hc.symm.trans hc')
  have hopening : opening catalog (p.asking facets stats) context query = opening catalog p context query := rfl
  rw [engineParams_eq_opening] at hp hp'
  rw [hopening] at hp'
  cases ho : opening catalog p context query with
  | error e =>
      rw [ho] at hp
      cases hp
  | ok o =>
      rw [ho] at hp hp'
      cases hp
      cases hp'
      rw [Body.build_eq_frame] at hb hb'
      have hbare := Body.frame_exchange hb' []
      rw [Body.frame_congr fun name hf hs => field?_closed_asking p facets stats o.1 o.2 hf hs, Body.frame_exchange hb []]
        at hbare
      exact Except.ok.inj hbare

/-- Replies that tell of an error alike, and of the same hits and the same total. -/
structure SameHits (response other : Value) : Prop where
  error : (ResultSet.ofResponse response (.map [])).hasError = (ResultSet.ofResponse other (.map [])).hasError
  hits : (ResultSet.ofResponse response (.map [])).hits = (ResultSet.ofResponse other (.map [])).hits
  total : (ResultSet.ofResponse response (.map [])).totalHits = (ResultSet.ofResponse other (.map [])).totalHits

theorem SameHits.foundIn_eq {response other : Value} (h : SameHits response other) : foundIn response = foundIn other := by
  rw [foundIn, ResultSet.records, h.error, h.hits, h.total]
  rfl

theorem Reply.sameHits {response other : Value} {hits : List Value} {total : Int} (h : Reply response hits total)
    (ho : Reply other hits total) : SameHits response other := by
  obtain ⟨hfine, hhits⟩ := h.reads (.map [])
  obtain ⟨hfine', hhits'⟩ := ho.reads (.map [])
  exact ⟨hfine.trans hfine'.symm, hhits.trans hhits'.symm, h.total.trans ho.total.symm⟩

section

variable {σ : Type} [Engine σ] {params entityType : Value} {given : Option Context} {l l₁ : Link σ} {ps : Entries}
  {body : Body} {response aggregations : Value}

theorem outcome_of_search (hc : contextOf settings catalog (Params.ofValue settings params) given = .ok context)
    (hp : engineParams catalog (Params.ofValue settings params) context query = .ok ps)
    (hb : Body.build settings (.ofChars (searchConditions query)) ps = .ok body)
    (hl : exec Client.connect settings l = (.ok true, l₁))
    (ha : (Engine.answer (.search (settings.indexFor entityType) body) l₁.engine).1 = .ok response)
    (hg : response.get "aggregations" (.map []) = .ok aggregations) :
    (exec (search catalog query params entityType given) settings l).1 = (do
      let records ← FacetRecord.decodeAll aggregations ((ps.field "facets").orElse (.map []))
      summarize (Params.ofValue settings params).asks (.ofResponse response (FacetRecord.toValues records))) := by
  obtain ⟨l₂, hs⟩ := exec_clientSearch_eq hb hl ha hg
  rw [exec_search hc, searchIn, exec_bind, exec_ofOutcome, hp, andThen_ok, exec_bind, hs]
  cases FacetRecord.decodeAll aggregations ((ps.field "facets").orElse (.map [])) with
  | error e => rfl
  | ok records =>
      rw [Folds.ok_bind]
      exact congrArg Prod.fst (exec_ofOutcome _)

/-- The body of a search is answered by a reply, with aggregations as they were asked for. -/
structure Answered (settings : Settings) (entityType : Value) (body : Body) (l : Link σ) (response : Value) : Prop where
  reply : ∃ l₁, exec Client.connect settings l = (.ok true, l₁) ∧
    (Engine.answer (.search (settings.indexFor entityType) body) l₁.engine).1 = .ok response
  suited : ∃ aggregations replies, response.get "aggregations" (.map []) = .ok aggregations ∧
    aggregations.orElse (.map []) = .map replies ∧ Suited body.aggregations replies

theorem outcome_of_answered
    (hb : bodyOf settings catalog query given (Params.ofValue settings params) = .ok body)
    (h : Answered settings entityType body l response) (hq : QueriesApart body.aggregations) : ∃ s,
    (exec (search catalog query params entityType given) settings l).1 =
      answered (Params.ofValue settings params).asks s <$> foundIn response := by
  obtain ⟨context, ps, hc, hp, hb⟩ := bodyOf_eq_ok.mp hb
  obtain ⟨l₁, hl, ha⟩ := h.reply
  obtain ⟨aggregations, replies, hg, hr, hs⟩ := h.suited
  obtain ⟨records, s, hd, hsum⟩ :=
    FacetRecord.summary_of_suited (Body.built_of_build hb).aggregations hq hs hr
  refine ⟨s, ?_⟩
  rw [outcome_of_search hc hp hb hl ha hg, hd, Folds.ok_bind, summarize_eq fun _ => hsum]

/-- Facets and measures do not change the hits: searches that differ in nothing else come to bodies that differ in
nothing but their aggregations, and make the same hits of the replies. -/
theorem facets_leave_hits_alone
    (hsame : ∀ name, name ≠ "facets" → name ≠ "stats" → told.field? name = other.field? name) :
    (Countable (Params.ofValue settings (.map told)) → Countable (Params.ofValue settings (.map other)) →
      Body.bare <$> bodyOf settings catalog query given (Params.ofValue settings (.map told)) =
        Body.bare <$> bodyOf settings catalog query given (Params.ofValue settings (.map other))) ∧
    (∀ (params : Value) (l : Link σ) index body,
      .called (.search index body) ∈ (exec (search catalog query params entityType given) settings l).2.events →
      .called (.search index body) ∈ l.events ∨
        bodyOf settings catalog query given (Params.ofValue settings params) = .ok body) ∧
    ∀ body body', bodyOf settings catalog query given (Params.ofValue settings (.map told)) = .ok body →
      bodyOf settings catalog query given (Params.ofValue settings (.map other)) = .ok body' →
      (body.bare = body'.bare ∧ body.SameButAggregations body') ∧
      ∀ (l l' : Link σ) response response', Answered settings entityType body l response →
        Answered settings entityType body' l' response' → SameHits response response' →
        QueriesApart body.aggregations → QueriesApart body'.aggregations →
        ∃ s s', (exec (search catalog query (.map told) entityType given) settings l).1 =
            answered (Params.ofValue settings (.map told)).asks s <$> foundIn response ∧
          (exec (search catalog query (.map other) entityType given) settings l').1 =
            answered (Params.ofValue settings (.map other)).asks s' <$> foundIn response := by
  have hbeside := ofValue_beside settings hsame
  refine ⟨?_, ?_, ?_⟩
  · intro htold hother
    rw [hbeside] at hother ⊢
    exact (bare_bodyOf_asking htold hother).symm
  · intro params l index body he
    rcases emits_search l _ he with he | he
    · exact .inl he
    · exact .inr (bodyOf_eq_ok.mpr (he index body rfl))
  · intro body body' hb hb'
    have hbare : body.bare = body'.bare := bare_of_bodyOf_asking hb (hbeside ▸ hb')
    refine ⟨⟨hbare, Body.sameButAggregations_of_bare hbare⟩, ?_⟩
    intro l l' response response' ha ha' hhits hq hq'
    obtain ⟨s, hs⟩ := outcome_of_answered hb ha hq
    obtain ⟨s', hs'⟩ := outcome_of_answered hb' ha' hq'
    exact ⟨s, s', hs, by rw [hs', hhits.foundIn_eq]⟩

end

def lampHits : List Value := [.ofFields [("_source", .ofFields [("id", .int 7)])]]

def lampPage : Value := .ofFields [("total", .int 1), ("hits", .list lampHits)]

def lampResponse (replies : Entries) : Value := .ofFields [("hits", lampPage), ("aggregations", .map replies)]

def lampLink (replies : Entries) : Link Script := ⟨[(.search, [.ok (lampResponse replies)])], true, none, [], []⟩

theorem reply_lampResponse (replies : Entries) : Reply (lampResponse replies) lampHits 1 where
  fine := ⟨.null, Entries.get_ofFields _ _ _, rfl⟩
  hits := ⟨lampPage, Entries.get_ofFields _ _ _, Entries.get_ofFields _ _ _⟩
  total := by
    have hh : (lampResponse replies).get "hits" (.map []) = .ok lampPage := Entries.get_ofFields _ _ _
    have ht : lampPage.get "total" (.int 0) = .ok (.int 1) := Entries.get_ofFields _ _ _
    change ((lampResponse replies).get "hits" (.map []) >>= _) = _
    rw [hh, Folds.ok_bind, ht]
    rfl

theorem foundIn_lampResponse (replies : Entries) : foundIn (lampResponse replies) = .ok ([.int 7], 1) := by
  have hs : List.Forall₂ (fun (hit : Value) source => hit.get "_source" (.map []) = .ok (.map source)) lampHits
      [[(.text "id", .int 7)]] := .cons (Entries.get_ofFields _ _ _) .nil
  rw [foundIn_of_reply (reply_lampResponse replies) hs, List.map_singleton,
    Entries.field_of_field? (Entries.field?_cons_self _ _ _)]
  rfl

def pageTold : Entries :=
  [(.text "store_id", .int 2), (.text "offset", .int 0), (.text "limit", .int 10), (.text "sort_by", .list [])]

def facetTold (facets : Entries) (stats : List Value) : Entries :=
  (.text "facets", .map facets) :: (.text "stats", .list stats) :: pageTold

theorem field?_facetTold (facets : Entries) (stats : List Value) {name : String} (hf : name ≠ "facets") (hs : name ≠ "stats") :
    (facetTold facets stats).field? name = pageTold.field? name := by
  rw [facetTold, Entries.field?, find?_cons, Value.same_text_of_ne hf, find?_cons, Value.same_text_of_ne hs]
  rfl

theorem ofValue_pageTold : Params.ofValue Setting.default (.map pageTold) = facetSearch [] [] :=
  ofValue_ofFields Setting.default
    [("store_id", .int 2), ("offset", .int 0), ("limit", .int 10), ("sort_by", .list [])]

theorem countable_facetSearch {facets : Entries} (stats : List Value) (ht : TextKeys facets) :
    Countable (facetSearch facets stats) where
  facets := ⟨facets, rfl, ht⟩
  stats := ⟨stats, rfl⟩
  passed := fun _ v hv => by cases hv

theorem exists_lampBody {facets : Entries} (stats : List Value) (hd : facets.Distinct) (ht : TextKeys facets) :
    ∃ body, bodyOf Setting.default (.held [] [] []) (.text "lamp") (some shopContext) (facetSearch facets stats) = .ok body ∧
      body.aggregations = insertAll [] (Aggregation.plan 100 (FacetRequest.ofEntries facets) stats) := by
  obtain ⟨ps, body, hp, hb, haggs⟩ := exists_body (FacetRequest.proper_ofEntries hd ht) (requests_facetSearch hd ht)
  exact ⟨body, bodyOf_eq_ok.mpr ⟨shopContext, ps, rfl, hp, hb⟩, haggs⟩

theorem answered_lampLink {body : Body} {replies : Entries} (h : Suited body.aggregations replies) :
    Answered Setting.default (.text "product") body (lampLink replies) (lampResponse replies) where
  reply := ⟨lampLink replies, rfl, rfl⟩
  suited := ⟨.map replies, replies, Entries.get_ofFields _ _ _, Value.orElse_map _, h⟩

theorem ofValue_facetTold (facets : Entries) (stats : List Value) :
    Params.ofValue Setting.default (.map (facetTold facets stats)) = facetSearch facets stats := ofValue_facetParams

theorem aggregations_shopFacets : insertAll [] (Aggregation.plan 100 (FacetRequest.ofEntries shopFacets) [.text "weight"]) =
    [(.text "color", .terms (.text (Aggregation.fieldOf "color")) 100),
      (.text "price", .range (.text "price") [Aggregation.sentBucket (FacetRequest.rangeRecord oneToFive)]),
      (.text "_stats:weight", .stats (.text "weight"))] := by
  have hn : Aggregation.statsMark ++ (Value.text "weight").display = "_stats:weight" := by decide
  simp [ofEntries_shopFacets, Aggregation.plan, insertAll, Keyed.insert, Value.same_text, hn, Aggregation.termsTarget]

theorem suited_shopReplies :
    Suited (insertAll [] (Aggregation.plan 100 (FacetRequest.ofEntries shopFacets) [.text "weight"])) shopReplies := by
  have hprice : FacetRecord.Holds priceReply ([bucketOf "1-5" 3].map fun b => (Entries.field b "key", b)) := by
    refine .listed _ (Entries.field?_cons_self _ _ _) fun b hb => ?_
    rw [List.mem_singleton.mp hb, Entries.field_of_field? (field?_bucketOf _ _)]
    rfl
  rw [aggregations_shopFacets]
  refine suited_of_nodup (by simp [keys]) fun e he => ?_
  simp only [shopReplies, List.mem_cons, List.not_mem_nil, or_false] at he
  rcases he with rfl | rfl | rfl
  · exact ⟨_, _, _, rfl, List.mem_cons_of_mem _ (List.mem_cons_of_mem _ List.mem_cons_self), .stats _ _⟩
  · exact ⟨_, _, _, rfl, List.mem_cons_of_mem _ List.mem_cons_self, .range hprice⟩
  · exact ⟨_, _, _, rfl, List.mem_cons_self,
      .terms termsIn_colorReply.listed fun b hb => (termsIn_colorReply.keys b hb).1⟩

theorem shop_facets_leave_hits_alone :
    (Body.bare <$> bodyOf Setting.default (.held [] [] []) (.text "lamp") (some shopContext)
        (facetSearch shopFacets [.text "weight"]) =
      Body.bare <$> bodyOf Setting.default (.held [] [] []) (.text "lamp") (some shopContext) (facetSearch [] [])) ∧
    ∃ s s',
    (exec (search (.held [] [] []) (.text "lamp") (.map (facetTold shopFacets [.text "weight"])) (.text "product")
      (some shopContext)) Setting.default (lampLink shopReplies)).1 = .ok (answered true s ([.int 7], 1)) ∧
    (exec (search (.held [] [] []) (.text "lamp") (.map pageTold) (.text "product") (some shopContext)) Setting.default
      (lampLink [])).1 = .ok (answered false s' ([.int 7], 1)) := by
  obtain ⟨body, hb, haggs⟩ := exists_lampBody [.text "weight"] distinct_shopFacets textKeys_shopFacets
  have hnone : TextKeys ([] : Entries) := by simp [TextKeys]
  obtain ⟨body', hb', haggs'⟩ := exists_lampBody [] .nil hnone
  have hsuited : Suited body.aggregations shopReplies := haggs ▸ suited_shopReplies
  have hq : QueriesApart body.aggregations := by
    rw [haggs, aggregations_shopFacets]
    intro agg hf
    simp only [find?_cons, Value.same_text, Aggregation.queriesName, Value.text.injEq, String.reduceEq, if_false] at hf
    cases hf
  have hq' : QueriesApart body'.aggregations := by
    rw [haggs']
    intro agg hf
    cases hf
  have htold : Countable (facetSearch shopFacets [.text "weight"]) := countable_facetSearch _ textKeys_shopFacets
  have hother : Countable (facetSearch [] []) := countable_facetSearch _ hnone
  rw [← ofValue_facetTold] at hb htold
  rw [← ofValue_pageTold] at hb' hother
  obtain ⟨hbare, -, hruns⟩ := @facets_leave_hits_alone Setting.default (.held [] [] []) (.text "lamp")
    (facetTold shopFacets [.text "weight"]) pageTold Script inferInstance (.text "product") (some shopContext)
    fun name hf hs => field?_facetTold _ _ hf hs
  obtain ⟨s, s', hs, hs'⟩ := (hruns body body' hb hb').2 (lampLink shopReplies) (lampLink [])
    (lampResponse shopReplies) (lampResponse []) (answered_lampLink hsuited) (answered_lampLink fun e he => by cases he)
    ((reply_lampResponse _).sameHits (reply_lampResponse _)) hq hq'
  have halike := hbare htold hother
  rw [ofValue_facetTold, ofValue_pageTold] at halike
  rw [foundIn_lampResponse, ofValue_facetTold] at hs
  rw [foundIn_lampResponse, ofValue_pageTold] at hs'
  exact ⟨halike, s, s', hs, hs'⟩

def queriesFacets : Entries := [(.text "_queries", .list [])]

def queriesReplies : Entries := [(.text "_queries", .map colorReply)]

theorem suited_queriesReplies :
    Suited (insertAll [] (Aggregation.plan 100 (FacetRequest.ofEntries queriesFacets) [])) queriesReplies := by
  have hcounted : insertAll [] (Aggregation.plan 100 (FacetRequest.ofEntries queriesFacets) []) =
      [(.text "_queries", .terms (.text (Aggregation.fieldOf "_queries")) 100)] := rfl
  rw [hcounted]
  refine suited_of_nodup (List.nodup_singleton _) fun e he => ?_
  obtain rfl := List.mem_singleton.mp he
  exact ⟨_, _, _, rfl, List.mem_cons_self,
    .terms termsIn_colorReply.listed fun b hb => (termsIn_colorReply.keys b hb).1⟩

/-- A field that is counted under the name of the queries takes the hits with it: the reply is taken for one to queries. -/
theorem queries_facet_hides_hits : ∃ body body' e s,
    bodyOf Setting.default (.held [] [] []) (.text "lamp") (some shopContext)
      (Params.ofValue Setting.default (.map (facetTold queriesFacets []))) = .ok body ∧
    bodyOf Setting.default (.held [] [] []) (.text "lamp") (some shopContext)
      (Params.ofValue Setting.default (.map pageTold)) = .ok body' ∧
    Answered Setting.default (.text "product") body (lampLink queriesReplies) (lampResponse queriesReplies) ∧
    Answered Setting.default (.text "product") body' (lampLink []) (lampResponse []) ∧
    SameHits (lampResponse queriesReplies) (lampResponse []) ∧
    (exec (search (.held [] [] []) (.text "lamp") (.map (facetTold queriesFacets [])) (.text "product")
      (some shopContext)) Setting.default (lampLink queriesReplies)).1 = .error e ∧
    (exec (search (.held [] [] []) (.text "lamp") (.map pageTold) (.text "product") (some shopContext)) Setting.default
      (lampLink [])).1 = .ok (answered false s ([.int 7], 1)) := by
  have hd : queriesFacets.Distinct := List.pairwise_singleton _ _
  have ht : TextKeys queriesFacets := by simp [TextKeys, queriesFacets]
  obtain ⟨body, hb, haggs⟩ := exists_lampBody [] hd ht
  have hnone : TextKeys ([] : Entries) := by simp [TextKeys]
  obtain ⟨body', hb', haggs'⟩ := exists_lampBody [] .nil hnone
  have hsuited : Suited body.aggregations queriesReplies := haggs ▸ suited_queriesReplies
  have hsuited' : Suited body'.aggregations [] := fun e he => by cases he
  have hq' : QueriesApart body'.aggregations := by
    rw [haggs']
    intro agg hf
    cases hf
  obtain ⟨context, ps, hc, hp, hbuild⟩ := bodyOf_eq_ok.mp hb
  have hfacets := (requests_engineParams (requests_facetSearch hd ht) hp).1
  obtain ⟨e, he⟩ : ∃ e, FacetRecord.decodeAll (.map queriesReplies) (FacetRequest.ofEntries queriesFacets).toValue = .error e :=
    FacetRecord.decodeAll_fails (List.mem_singleton_self _) termsIn_colorReply.listed
  rw [← hfacets] at he
  rw [← ofValue_facetTold] at hb hc hp
  rw [← ofValue_pageTold] at hb'
  obtain ⟨s, hs⟩ := outcome_of_answered hb' (answered_lampLink hsuited') hq'
  rw [foundIn_lampResponse] at hs
  refine ⟨body, body', e, s, hb, hb', answered_lampLink hsuited, answered_lampLink hsuited',
    (reply_lampResponse _).sameHits (reply_lampResponse _), ?_, ?_⟩
  · have hg : (lampResponse queriesReplies).get "aggregations" (.map []) = .ok (.map queriesReplies) :=
      Entries.get_ofFields _ _ _
    rw [outcome_of_search hc hp hbuild (l := lampLink queriesReplies) rfl rfl hg, he]
    rfl
  · rw [hs, ofValue_pageTold]
    rfl

end CatalogSearch.Service
