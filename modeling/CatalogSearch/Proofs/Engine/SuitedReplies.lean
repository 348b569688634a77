import CatalogSearch.Proofs.Engine.Summaries

namespace CatalogSearch.Engine

open Query Keyed Aggregation

variable {settings : Settings} {facets stats : Value} {aggs : Keyed Aggregation} {ranges replies : Entries} {name : String}

namespace Aggregation

def counts (settings : Settings) (facets : Value) : Outcome (Keyed Aggregation) := do
  let size ← (settings .facetLimit).toInt
  let aggs ← ofFields size (← (← facets.get "fields" (.list [])).items) []
  let aggs ← ofRanges (← (← facets.get "ranges" (.map [])).entries) aggs
  ofQueries (← facets.get "queries") aggs

theorem build_eq_counts (settings : Settings) (facets stats : Value) : build settings facets stats = (do
    let aggs ← counts settings facets
    pure (ofStats (← measuredFields stats) aggs)) := by
  cases ht : stats.isText <;> simp only [build, counts, measuredFields, bind_assoc, ht] <;> rfl

theorem measuredFields_of_build (h : build settings facets stats = .ok aggs) : ∃ measured, measuredFields stats = .ok measured := by
  rw [build_eq_counts] at h
  obtain ⟨counted, -, h⟩ := Folds.bind_eq_ok.mp h
  obtain ⟨measured, hm, -⟩ := Folds.bind_eq_ok.mp h
  exact ⟨measured, hm⟩

theorem find?_ofFields {size : Int} {fields : List Value} (h : ofFields size fields [] = .ok aggs) {agg : Aggregation}
    (hf : find? aggs (.text name) = some agg) : ∃ target size, agg = .terms target size := by
  refine Folds.foldlM_keeps (fun aggs : Keyed Aggregation => ∀ agg, find? aggs (.text name) = some agg →
    ∃ target size, agg = .terms target size) ?_ (fun _ hn => by cases hn) h agg hf
  intro aggs field aggs' ha hstep agg hf
  obtain ⟨target, ht, hstep⟩ := Folds.bind_eq_ok.mp hstep
  obtain ⟨other, rfl⟩ := eq_text_of_termsField ht
  cases hstep
  by_cases hn : name = other
  · subst hn
    rw [find?_insert_self] at hf
    exact ⟨_, _, (Option.some.inj hf).symm⟩
  · rw [find?_insert_of_ne _ _ (Value.same_text_of_ne hn)] at hf
    exact ha agg hf

theorem find?_ofRanges {before : Keyed Aggregation} (h : ofRanges ranges before = .ok aggs) (name : String) :
    (ranges.hasField name = true ∧ ∃ target sent, find? aggs (.text name) = some (.range target sent)) ∨
      (ranges.hasField name = false ∧ find? aggs (.text name) = find? before (.text name)) := by
  induction ranges generalizing before with
  | nil =>
      cases h
      exact .inr ⟨rfl, rfl⟩
  | cons r ranges ih =>
      obtain ⟨next, hstep, h⟩ := Folds.bind_eq_ok.mp h
      obtain ⟨items, -, hstep⟩ := Folds.bind_eq_ok.mp hstep
      obtain ⟨sent, -, hstep⟩ := Folds.bind_eq_ok.mp hstep
      cases hstep
      have hcons : Entries.hasField (r :: ranges) name = ((Value.text name).same r.1 || Entries.hasField ranges name) := by
        rw [Entries.hasField_eq, Entries.field?, find?_cons]
        split
        · next hs =>
            rw [hs]
            rfl
        · next hs =>
            rw [Bool.not_eq_true] at hs
            rw [hs]
            rfl
      rcases ih h with ⟨hm, target, sent, hf⟩ | ⟨hm, hf⟩
      · exact .inl ⟨by rw [hcons, hm, Bool.or_true], target, sent, hf⟩
      · by_cases hn : r.1 = .text name
        · refine .inl ⟨by rw [hcons, hn, Value.same_text_self, Bool.true_or], r.1, sent, ?_⟩
          rw [hf, hn, find?_insert_self]
        · have hs : (Value.text name).same r.1 = false := by
            rw [← Bool.not_eq_true, Value.same_text]
            exact hn
          exact .inr ⟨by rw [hcons, hs, hm, Bool.false_or], by rw [hf, find?_insert_of_key_ne _ hn]⟩

theorem items_of_ofRanges {before : Keyed Aggregation} (h : ofRanges ranges before = .ok aggs) {v : Value}
    (hv : ranges.field? name = some v) : ∃ asked : List Entries, v.items = .ok (asked.map .map) := by
  obtain ⟨_, _, hstep⟩ := Folds.exists_of_foldlM h (mem_of_find?_text hv)
  obtain ⟨items, hi, hstep⟩ := Folds.bind_eq_ok.mp hstep
  obtain ⟨sent, hsent, -⟩ := Folds.bind_eq_ok.mp hstep
  dsimp only at hi
  rw [hi]
  clear hi hstep
  induction items generalizing sent with
  | nil => exact ⟨[], rfl⟩
  | cons item items ih =>
      rw [List.mapM_cons, Folds.bind_eq_ok] at hsent
      obtain ⟨first, hfirst, hsent⟩ := hsent
      obtain ⟨rest, hrest, -⟩ := Folds.bind_eq_ok.mp hsent
      obtain ⟨asked, hasked⟩ := ih rest hrest
      obtain ⟨told, rfl⟩ : ∃ told, item = .map told := by
        cases item with
        | map told => exact ⟨told, rfl⟩
        | _ => cases hfirst
      exact ⟨told :: asked, by rw [Except.ok.inj hasked]; rfl⟩

theorem find?_ofQueries {queries : Value} {before : Keyed Aggregation} (h : ofQueries queries before = .ok aggs)
    (hn : name ≠ queriesName) : find? aggs (.text name) = find? before (.text name) := by
  rw [ofQueries] at h
  split at h
  · obtain ⟨items, -, h⟩ := Folds.bind_eq_ok.mp h
    obtain ⟨named, -, h⟩ := Folds.bind_eq_ok.mp h
    cases h
    exact find?_insert_of_ne _ _ (Value.same_text_of_ne hn)
  · cases h
    rfl

theorem find?_ofStats (measured : List Value) (before : Keyed Aggregation) (hs : FacetRecord.statsField? name = none) :
    find? (ofStats measured before) (.text name) = find? before (.text name) := by
  refine Folds.foldl_reads_other (fun aggs : Keyed Aggregation => find? aggs (.text name)) ?_ before
  intro aggs field _
  refine find?_insert_of_ne _ _ (Value.same_text_of_ne ?_)
  rintro rfl
  rw [FacetRecord.statsField?_mark] at hs
  cases hs

def RangesOf (facets : Value) (ranges : Entries) : Prop :=
  ∃ told, facets.get "ranges" (.map []) = .ok told ∧ told.entries = .ok ranges

/-- Under a name that is neither that of the queries nor marked there are ranges, if any are asked for, or terms. -/
structure RangesOverTerms (aggs : Keyed Aggregation) (ranges : Entries) : Prop where
  ranged : ∀ name, name ≠ queriesName → FacetRecord.statsField? name = none → ranges.hasField name = true →
    ∃ target sent, find? aggs (.text name) = some (.range target sent)
  termed : ∀ name, name ≠ queriesName → FacetRecord.statsField? name = none → ranges.hasField name = false →
    ∀ agg, find? aggs (.text name) = some agg → ∃ target size, agg = .terms target size
  listed : ∀ name v, ranges.field? name = some v → ∃ asked : List Entries, v.items = .ok (asked.map .map)

theorem rangesOverTerms_of_build (h : build settings facets stats = .ok aggs) :
    ∃ ranges, RangesOf facets ranges ∧ RangesOverTerms aggs ranges := by
  rw [build_eq_counts] at h
  obtain ⟨counted, hc, h⟩ := Folds.bind_eq_ok.mp h
  obtain ⟨measured, -, h⟩ := Folds.bind_eq_ok.mp h
  cases h
  simp only [counts, Folds.bind_eq_ok] at hc
  obtain ⟨size, -, fields, -, names, -, fielded, hfields, told, htold, ranges, hranges, ranged, hr, queries, -, hq⟩ := hc
  have hfind : ∀ name, name ≠ queriesName → FacetRecord.statsField? name = none →
      find? (ofStats measured counted) (.text name) = find? ranged (.text name) := by
    intro name hn hs
    rw [find?_ofStats _ _ hs, find?_ofQueries hq hn]
  refine ⟨ranges, ⟨told, htold, hranges⟩, ?_, ?_, fun name v hv => items_of_ofRanges hr hv⟩
  · intro name hn hs hm
    obtain ⟨-, hfound⟩ := (find?_ofRanges hr name).resolve_right fun h => by rw [hm] at h; cases h.1
    rw [hfind name hn hs]
    exact hfound
  · intro name hn hs hm agg ha
    obtain ⟨-, hfound⟩ := (find?_ofRanges hr name).resolve_left fun h => by rw [hm] at h; cases h.1
    rw [hfind name hn hs, hfound] at ha
    exact find?_ofFields hfields ha

theorem rangesOverTerms_rangeEntries {r : FacetRequest} (h : build settings r.toValue stats = .ok aggs) :
    RangesOverTerms aggs r.rangeEntries := by
  obtain ⟨ranges, ⟨told, hget, hentries⟩, hp⟩ := rangesOverTerms_of_build h
  obtain rfl := Except.ok.inj (r.get_toValue.2.1.symm.trans hget)
  obtain rfl := Except.ok.inj hentries
  exact hp

end Aggregation

open FacetRecord

/-- A reply has the shape that an aggregation gives it, whatever it counts and measures. -/
inductive Suits : Aggregation → Entries → Prop where
  | terms {target : Value} {size : Int} {reply : Entries} {buckets : List Entries} :
      reply.field? "buckets" = some (.list (buckets.map .map)) → (∀ b ∈ buckets, (termOf b).isKey = true) →
      Suits (.terms target size) reply
  | range {target : Value} {sent : List Entries} {reply : Entries} {buckets : Keyed Entries} : Holds reply buckets →
      Suits (.range target sent) reply
  | filters {queries reply : Entries} {buckets : Keyed Entries} :
      reply.field? "buckets" = some (.map (buckets.mapValues .map)) → TextKeys buckets → Suits (.filters queries) reply
  | stats (target : Value) (reply : Entries) : Suits (.stats target) reply

/-- Each reply is to an aggregation of its name. There need not be one to every aggregation. -/
def Suited (aggs : Keyed Aggregation) (replies : Entries) : Prop :=
  ∀ e ∈ replies, ∃ name agg reply, e = (.text name, .map reply) ∧ find? aggs (.text name) = some agg ∧ Suits agg reply

theorem suited_of_nodup (hn : (keys aggs).Nodup)
    (h : ∀ e ∈ replies, ∃ name agg reply, e = (.text name, .map reply) ∧ (.text name, agg) ∈ aggs ∧ Suits agg reply) :
    Suited aggs replies := by
  intro e he
  obtain ⟨name, agg, reply, hname, hm, hs⟩ := h e he
  exact ⟨name, agg, reply, hname, (OnceUnder.of_nodup hn name).find?_eq_some.mpr hm, hs⟩

/-- No field is counted under the name of the queries. -/
def QueriesApart (aggs : Keyed Aggregation) : Prop :=
  ∀ agg, find? aggs (.text queriesName) = some agg → ∃ queries, agg = .filters queries

namespace FacetRecord

def Summed (name : Value) (record : FacetRecord) : Prop := ∀ s : Summary, ∃ s', s.ofRecord name record.toValue = .ok s'

theorem exists_summary {records : Keyed FacetRecord} (h : ∀ x ∈ records, Summed x.1 x.2) :
    ∃ s, Summary.ofRecords (toValues records) = .ok s := by
  choose! next hnext using h
  refine ⟨records.foldl (fun s x => next x s) [], ?_⟩
  rw [Summary.ofRecords, toValues, Value.orElse_map, Value.entries_map, Folds.ok_bind, mapValues, List.foldlM_map]
  exact (Folds.foldlM_ok (fun _ => True) (fun s _ x hx => ⟨hnext x hx s, trivial⟩) trivial).1

/-- A reply is decoded as records under texts, each of which comes into every summary. -/
def DecodesSummed (ranges : Entries) (e : Value × Value) : Prop :=
  ∃ xs : Keyed FacetRecord, Decodes ranges e xs ∧ TextKeys xs ∧ ∀ x ∈ xs, Summed x.1 x.2

variable {reply : Entries}

theorem decodesSummed_singleton {e : Value × Value} {key : String} {record : FacetRecord}
    (hd : Decodes ranges e [(.text key, record)]) (hs : Summed (.text key) record) : DecodesSummed ranges e := by
  refine ⟨_, hd, ?_, ?_⟩ <;> intro x hx <;> rw [List.mem_singleton.mp hx]
  · exact ⟨key, rfl⟩
  · exact hs

theorem summed_terms (name : String) (other : Value) {buckets : List Entries}
    (hk : ∀ b ∈ buckets, (termOf b).isKey = true) :
    Summed (.text name) (.terms other (buckets.map fun b => (termOf b, tally b))) := by
  intro s
  have hkind : FacetKind.ofRecord? (.text name)
      (FacetRecord.terms other (buckets.map fun b => (termOf b, tally b))).toValue = .ok (some .terms) :=
    ofRecord?_ofFields name _
  have hkeys : ∀ c ∈ buckets.map fun b => (termOf b, tally b), c.1.isKey = true := by
    intro c hc
    obtain ⟨b, hb, rfl⟩ := List.mem_map.mp hc
    exact hk b hb
  exact ⟨_, by rw [Summary.ofRecord, hkind]; exact ofTerms_eq s _ other hkeys⟩

theorem summed_query {name : Value} (hn : ∃ s, name = .text s) (count : Value) : Summed name (.query count) := by
  obtain ⟨q, rfl⟩ := hn
  have hq : Value.text q = .ofChars q.toList := by rw [Value.ofChars, String.ofList_toList]
  rw [hq]
  exact fun s => ⟨_, ofRecord_query s q.toList count⟩

theorem keyedBuckets_maps {buckets : Keyed Entries} (h : Holds reply buckets) :
    ∃ es, keyedBuckets (.map reply) = .ok es ∧ ∀ name, ∃ bucket, es.field name (.map []) = .map bucket := by
  have hfield : ∀ es : Entries, (∀ name v, es.field? name = some v → ∃ bucket, v = .map bucket) →
      ∀ name, ∃ bucket, es.field name (.map []) = .map bucket := by
    intro es hes name
    rw [Entries.field]
    cases hf : es.field? name with
    | none => exact ⟨[], rfl⟩
    | some v => exact hes name v hf
  cases h with
  | none hn =>
      refine ⟨[], ?_, fun _ => ⟨[], rfl⟩⟩
      rw [keyedBuckets, Value.get_map, Entries.field, hn]
      rfl
  | named _ hb =>
      refine ⟨buckets.mapValues .map, ?_, hfield _ fun name v hv => ?_⟩
      · rw [keyedBuckets, Value.get_map, Entries.field_of_field? hb]
        rfl
      · rw [Entries.field?, find?_mapValues] at hv
        obtain ⟨bucket, -, rfl⟩ := Option.map_eq_some_iff.mp hv
        exact ⟨bucket, rfl⟩
  | listed bs hb hk =>
      refine ⟨_, keyedBuckets_listed hb hk, hfield _ fun name v hv => ?_⟩
      obtain ⟨bucket, -, he⟩ := List.mem_map.mp (mem_of_find?_insertAll hv)
      exact ⟨bucket, ((Prod.mk.inj he).2).symm⟩

theorem exists_rangeCounts {buckets : Entries} (hb : ∀ name, ∃ bucket, buckets.field name (.map []) = .map bucket)
    (asked : List Entries) : ∃ counts, (asked.map Value.map).mapM (rangeCount buckets) = .ok counts := by
  choose found hfound using hb
  rw [List.mapM_map]
  exact ⟨_, Folds.mapM_ok (g := fun range => countIn (found (rangeName range)) range)
    fun range _ => rangeCount_eq (hfound _)⟩

theorem decodesSummed_ranges (hq : name ≠ queriesName) (hs : statsField? name = none) {v : Value}
    (hr : ranges.field? name = some v) {asked : List Entries} (hv : v.items = .ok (asked.map .map))
    {buckets : Keyed Entries} (hb : Holds reply buckets) : DecodesSummed ranges (.text name, .map reply) := by
  obtain ⟨found, hk, hmaps⟩ := keyedBuckets_maps hb
  obtain ⟨counts, hcounts⟩ := exists_rangeCounts hmaps asked
  have ho : FacetRecord.ofRanges (.map reply) (.map ranges) name = .ok (.ranges counts) := by
    rw [FacetRecord.ofRanges, hk, Folds.ok_bind, Value.require_map hr, Folds.ok_bind, hv, Folds.ok_bind, hcounts]
    rfl
  have hd : Decodes ranges (.text name, .map reply) [(.text name, .ranges counts)] := by
    intro records
    rw [decode_of_plain hq hs, Entries.hasField_eq, hr, ho]
    rfl
  exact decodesSummed_singleton hd fun s => ⟨_, ofRecord_ranges s name counts⟩

theorem decodesSummed_of_suits (hp : RangesOverTerms aggs ranges) (ha : QueriesApart aggs) {agg : Aggregation}
    (hf : find? aggs (.text name) = some agg) (h : Suits agg reply) : DecodesSummed ranges (.text name, .map reply) := by
  by_cases hq : name = queriesName
  · subst hq
    obtain ⟨queries, rfl⟩ := ha agg hf
    cases h with | filters hb ht =>
    refine ⟨_, decodes_queries hb, ?_, ?_⟩ <;> intro x hx <;> obtain ⟨b, hm, rfl⟩ := List.mem_map.mp hx
    · exact ht b hm
    · exact summed_query (ht b hm) _
  · cases hs : statsField? name with
    | some field =>
        -- A name with the mark is taken for that of a measure, even if it is that of a field.
        rw [statsField?_eq_some hs]
        exact decodesSummed_singleton (decodes_stats field) fun s => ⟨_, ofRecord_statistics s field reply⟩
    | none =>
        cases hr : ranges.hasField name with
        | true =>
            obtain ⟨target, sent, hrange⟩ := hp.ranged name hq hs hr
            cases hf.symm.trans hrange
            cases h with | range hb =>
            obtain ⟨v, hv⟩ := Option.isSome_iff_exists.mp hr
            obtain ⟨asked, hasked⟩ := hp.listed name v hv
            exact decodesSummed_ranges hq hs hv hasked hb
        | false =>
            obtain ⟨target, size, rfl⟩ := hp.termed name hq hs hr agg hf
            cases h with | terms hb hk =>
            exact decodesSummed_singleton (decodes_terms hq hs hr hb) (summed_terms name _ hk)

/-- Whatever is counted and measured, replies that suit what was sent come into a summary. -/
theorem summary_of_suited (hb : build settings facets stats = .ok aggs) (ha : QueriesApart aggs)
    (hs : Suited aggs replies) {aggregations : Value} (hr : aggregations.orElse (.map []) = .map replies) :
    ∃ records s, decodeAll aggregations facets = .ok records ∧ Summary.ofRecords (toValues records) = .ok s := by
  obtain ⟨ranges, ⟨told, hget, hentries⟩, hp⟩ := rangesOverTerms_of_build hb
  obtain rfl : told = .map ranges := by
    cases told with
    | map es => exact congrArg Value.map (Except.ok.inj hentries)
    | _ => cases hentries
  have hex : ∀ e ∈ replies, DecodesSummed ranges e := by
    intro e he
    obtain ⟨name, agg, reply, rfl, hf, hsuits⟩ := hs e he
    exact decodesSummed_of_suits hp ha hf hsuits
  choose! xs hd ht hsum using hex
  have htexts : TextKeys (replies.flatMap xs) := by
    intro x hx
    obtain ⟨e, he, hx⟩ := List.mem_flatMap.mp hx
    exact ht e he x hx
  have hsummed : ∀ x ∈ insertAll [] (replies.flatMap xs), Summed x.1 x.2 := by
    intro x hx
    obtain ⟨e, he, hx⟩ := List.mem_flatMap.mp ((mem_of_mem_insertAll htexts hx).resolve_left List.not_mem_nil)
    exact hsum e he x hx
  obtain ⟨s, hsummary⟩ := exists_summary hsummed
  refine ⟨insertAll [] (replies.flatMap xs), s, ?_, hsummary⟩
  rw [decodeAll, hget, Folds.ok_bind, hr, Value.entries_map, Folds.ok_bind, ← insertAll_flatMap]
  exact (Folds.foldlM_ok (fun _ => True) (fun records _ e he => ⟨hd e he records, trivial⟩) trivial).1

end FacetRecord

end CatalogSearch.Engine
