import CatalogSearch.Engine.Facet
import CatalogSearch.Proofs.Engine.Aggregations

namespace CatalogSearch.Engine

open Query Keyed

def termOf (bucket : Entries) : Value := bucket.field "key_as_string" (bucket.field "key")

def tally (bucket : Entries) : Value := bucket.field "doc_count" (.int 0)

/-- A reply tells of a bucket under a name, in a dictionary of buckets or in a list of them. -/
inductive Tells (reply : Entries) (name : String) (bucket : Entries) : Prop where
  | named {buckets : Keyed Entries} : reply.field? "buckets" = some (.map (buckets.mapValues .map)) →
      buckets.find? (.text name) = some bucket → Tells reply name bucket
  | listed {buckets : List Entries} : reply.field? "buckets" = some (.list (buckets.map .map)) →
      bucket ∈ buckets → bucket.field? "key" = some (.text name) → Tells reply name bucket

theorem buckets_inj {reply : Entries} {as bs : List Entries} (ha : reply.field? "buckets" = some (.list (as.map .map)))
    (hb : reply.field? "buckets" = some (.list (bs.map .map))) : as = bs := by
  have h := Value.list.inj (Option.some.inj (ha.symm.trans hb))
  exact (List.map_inj_right fun _ _ => Value.map.inj).mp h

theorem Tells.of_listed {reply bucket : Entries} {name : String} {buckets : List Entries} (h : Tells reply name bucket)
    (hb : reply.field? "buckets" = some (.list (buckets.map .map))) :
    bucket ∈ buckets ∧ bucket.field? "key" = some (.text name) := by
  cases h with
  | named hn _ => cases hb.symm.trans hn
  | listed hl hm hn =>
      rw [buckets_inj hb hl]
      exact ⟨hm, hn⟩

def HasBuckets (reply : Entries) : Prop :=
  (∃ buckets : Keyed Entries, reply.field? "buckets" = some (.map (buckets.mapValues .map))) ∨
    ∃ buckets : List Entries, reply.field? "buckets" = some (.list (buckets.map .map)) ∧
      ∀ bucket ∈ buckets, ∃ name, bucket.field? "key" = some (.text name)

structure TermsIn (reply : Entries) (buckets : List Entries) : Prop where
  listed : reply.field? "buckets" = some (.list (buckets.map .map))
  keys : ∀ b ∈ buckets, (termOf b).isKey = true ∧ (termOf b).same (termOf b) = true
  apart : buckets.Pairwise fun a b => (termOf a).Apart (termOf b)

/-- A bucket for each range that was sent, under its name. Ranges of one name have one count. -/
structure RangesIn (reply : Entries) (sent : List Entries) : Prop where
  buckets : HasBuckets reply
  all : ∀ b ∈ sent, ∀ name, b.field? "key" = some (.text name) → ∃ bucket, Tells reply name bucket
  once : ∀ name a b, Tells reply name a → Tells reply name b → tally a = tally b

/-- A reply is what an aggregation asks for. The counts and the measures are arbitrary. -/
inductive Answers : Aggregation → Entries → Prop where
  | terms {target : Value} {size : Int} {reply : Entries} {buckets : List Entries} :
      TermsIn reply buckets → Answers (.terms target size) reply
  | range {target : Value} {sent : List Entries} {reply : Entries} : RangesIn reply sent → Answers (.range target sent) reply
  | filters {queries reply : Entries} {buckets : Keyed Entries} :
      reply.field? "buckets" = some (.map (buckets.mapValues .map)) →
      (∀ b ∈ buckets, b.1 ∈ keys queries) → Answers (.filters queries) reply
  | stats (target : Value) (reply : Entries) : Answers (.stats target) reply

/-- One reply for each aggregation, under its name, in any order and with no other replies. -/
structure Replied (aggs : Keyed Aggregation) (replies : Entries) : Prop where
  once : replies.Distinct
  all : ∀ a ∈ aggs, ∃ reply, (a.1, .map reply) ∈ replies
  own : ∀ e ∈ replies, ∃ a ∈ aggs, a.1 = e.1 ∧ ∃ reply, e.2 = .map reply ∧ Answers a.2 reply

def measuresOf (reply : Entries) : List (String × Value) :=
  ("count", reply.field "count" (.int 0)) :: FacetRecord.measures.map fun m => (m.1, reply.field m.2)

namespace FacetRecord

variable {ranges reply : Entries} {name : String}

/-- A reply is decoded as some records, whatever was decoded before. -/
def Decodes (ranges : Entries) (e : Value × Value) (xs : Keyed FacetRecord) : Prop :=
  ∀ records, decode (.map ranges) records e.1 e.2 = .ok (records.insertAll xs)

theorem statsField?_mark (field : String) : statsField? (Aggregation.statsMark ++ field) = some field := by
  have hd : (Aggregation.statsMark ++ field).toList.drop Aggregation.statsMark.length = field.toList := by
    rw [String.toList_append]
    exact List.drop_left
  rw [statsField?, hd, String.toList_append, if_pos (List.isPrefixOf_iff_prefix.mpr (List.prefix_append _ _)),
    String.ofList_toList]

theorem mark_ne_queriesName (field : String) : Aggregation.statsMark ++ field ≠ Aggregation.queriesName := by
  have hn : statsField? Aggregation.queriesName = none := by decide
  intro he
  have hs := statsField?_mark field
  rw [he, hn] at hs
  cases hs

theorem decodes_queries {buckets : Keyed Entries}
    (hb : reply.field? "buckets" = some (.map (buckets.mapValues .map))) :
    Decodes ranges (.text Aggregation.queriesName, .map reply) (buckets.mapValues fun b => .query (tally b)) := by
  intro records
  rw [decode, if_pos (Value.same_text_self _), ofQueries, Value.get_map, Entries.field_of_field? hb, Folds.ok_bind,
    Value.entries_map, Folds.ok_bind, mapValues, List.foldlM_map, insertAll, mapValues, List.foldl_map]
  exact (Folds.foldlM_ok (fun _ => True) (fun _ _ _ _ => ⟨rfl, trivial⟩) trivial).1

/-- A field by the name of the queries is taken for them, and its buckets are not under names. -/
theorem decode_queriesName {buckets : List Value} (hb : reply.field? "buckets" = some (.list buckets))
    (records : Keyed FacetRecord) :
    decode (.map ranges) records (.text Aggregation.queriesName) (.map reply) = .error .noSuchMember := by
  rw [decode, if_pos (Value.same_text_self _), ofQueries, Value.get_map, Entries.field_of_field? hb]
  rfl

theorem decodes_stats (field : String) :
    Decodes ranges (.text (Aggregation.statsMark ++ field), .map reply)
      [(.text field, .statistics (measuresOf reply))] := by
  intro records
  have hm : ofStats (.map reply) = .ok (.statistics (measuresOf reply)) := rfl
  rw [decode, Value.same_text_of_ne (mark_ne_queriesName field)]
  simp only [statsField?_mark, hm]
  rfl

theorem decode_of_plain (hq : name ≠ Aggregation.queriesName) (hs : statsField? name = none) (records : Keyed FacetRecord)
    (data : Value) : decode (.map ranges) records (.text name) data =
      if ranges.hasField name then (do pure (records.insert (.text name) (← ofRanges data (.map ranges) name)))
      else (do
        if ← (Value.text "buckets").isIn data then pure (records.insert (.text name) (← ofTerms data))
        else pure records) := by
  rw [decode, Value.same_text_of_ne hq]
  simp only [hs]
  rfl

theorem decodes_terms (hq : name ≠ Aggregation.queriesName) (hs : statsField? name = none)
    (hr : ranges.hasField name = false) {buckets : List Entries}
    (hb : reply.field? "buckets" = some (.list (buckets.map .map))) :
    Decodes ranges (.text name, .map reply) [(.text name, .terms (reply.field "sum_other_doc_count" (.int 0))
      (buckets.map fun b => (termOf b, tally b)))] := by
  intro records
  have hm : (buckets.map Value.map).mapM termCount = .ok (buckets.map fun b => (termOf b, tally b)) := by
    rw [List.mapM_map]
    exact Folds.mapM_ok fun b _ => rfl
  have ht : ofTerms (.map reply) = .ok (.terms (reply.field "sum_other_doc_count" (.int 0))
      (buckets.map fun b => (termOf b, tally b))) := by
    rw [ofTerms, Value.get_map, Folds.ok_bind, Value.require_map hb, Folds.ok_bind, Value.items_list, Folds.ok_bind, hm]
    rfl
  have hl : (Value.text "buckets").isIn (.map reply) = .ok (reply.hasField "buckets") := rfl
  rw [decode_of_plain hq hs, hr, hl, Entries.hasField_eq, hb, ht]
  rfl

def keyed (bucket : Entries) : Value × Value := (bucket.field "key", .map bucket)

theorem keyedBuckets_listed {buckets : List Entries} (hb : reply.field? "buckets" = some (.list (buckets.map .map)))
    (hk : ∀ b ∈ buckets, (Entries.field b "key").isKey = true) :
    keyedBuckets (.map reply) = .ok (insertAll [] (buckets.map keyed)) := by
  have hall : (buckets.map Value.map).foldlM keyedBuckets.keyed [] = .ok (insertAll [] (buckets.map keyed)) := by
    rw [List.foldlM_map, insertAll, List.foldl_map]
    refine (Folds.foldlM_ok (fun _ => True) ?_ trivial).1
    intro es _ b hm
    rw [keyedBuckets.keyed, Value.get_map, Folds.ok_bind, Value.toKey, if_pos (hk b hm)]
    exact ⟨rfl, trivial⟩
  rw [keyedBuckets, Value.get_map, Entries.field_of_field? hb]
  exact hall

theorem keyedBuckets_eq (h : HasBuckets reply) : ∃ buckets, keyedBuckets (.map reply) = .ok buckets ∧
    ∀ name bucket, Tells reply name bucket →
      ∃ other, buckets.field? name = some (.map other) ∧ Tells reply name other := by
  rcases h with ⟨buckets, hb⟩ | ⟨buckets, hb, hk⟩
  · refine ⟨buckets.mapValues .map, ?_, ?_⟩
    · rw [keyedBuckets, Value.get_map, Entries.field_of_field? hb]
      rfl
    · rintro name bucket ht
      refine ⟨bucket, ?_, ht⟩
      rcases ht with ⟨hn, hf⟩ | ⟨hl, -, -⟩
      · rw [hb, Option.some.injEq, Value.map.injEq] at hn
        rw [hn, Entries.field?, find?_mapValues, hf]
        rfl
      · cases hb.symm.trans hl
  · have ht : TextKeys (buckets.map keyed) := by
      intro x hx
      obtain ⟨b, hm, rfl⟩ := List.mem_map.mp hx
      obtain ⟨name, hn⟩ := hk b hm
      exact ⟨name, Entries.field_of_field? hn _⟩
    have hkeys : ∀ b ∈ buckets, (Entries.field b "key").isKey = true := by
      intro b hm
      obtain ⟨name, hn⟩ := hk b hm
      rw [Entries.field_of_field? hn]
      rfl
    refine ⟨_, keyedBuckets_listed hb hkeys, ?_⟩
    intro name bucket htold
    obtain ⟨hm, hn⟩ := htold.of_listed hb
    have hkey : .text name ∈ keys (buckets.map keyed) :=
      List.mem_map.mpr ⟨keyed bucket, List.mem_map_of_mem hm, Entries.field_of_field? hn _⟩
    obtain ⟨v, hv⟩ := Option.isSome_iff_exists.mp (has_insertAll [] ht hkey)
    have hmem := (mem_of_mem_insertAll ht (mem_of_find?_text hv)).resolve_left List.not_mem_nil
    obtain ⟨other, ho, he⟩ := List.mem_map.mp hmem
    obtain ⟨hname, rfl⟩ := Prod.mk.inj he
    obtain ⟨own, hown⟩ := hk other ho
    rw [Entries.field_of_field? hown] at hname
    exact ⟨other, hv, .listed hb ho (by rw [hown, hname])⟩

/-- The buckets that a reply holds under their names, in a dictionary or in a list; it may hold none. -/
inductive Holds (reply : Entries) : Keyed Entries → Prop where
  | none : reply.field? "buckets" = .none → Holds reply []
  | named (buckets : Keyed Entries) : reply.field? "buckets" = some (.map (buckets.mapValues .map)) → Holds reply buckets
  | listed (buckets : List Entries) : reply.field? "buckets" = some (.list (buckets.map .map)) →
      (∀ b ∈ buckets, (Entries.field b "key").isKey = true) → Holds reply (buckets.map fun b => (Entries.field b "key", b))

theorem keyedBuckets_of_holds {buckets : Keyed Entries} (h : Holds reply buckets) :
    ∃ es, keyedBuckets (.map reply) = .ok es ∧
      ∀ name, OnceUnder buckets name → es.field? name = (buckets.find? (.text name)).map .map := by
  cases h with
  | none hn =>
      refine ⟨[], ?_, fun _ _ => rfl⟩
      rw [keyedBuckets, Value.get_map, Entries.field, hn]
      rfl
  | named _ hb =>
      refine ⟨buckets.mapValues .map, ?_, fun name _ => find?_mapValues _ _ _⟩
      rw [keyedBuckets, Value.get_map, Entries.field_of_field? hb]
      rfl
  | listed buckets hb hk =>
      refine ⟨_, keyedBuckets_listed hb hk, fun name hu => ?_⟩
      have hmap : buckets.map keyed = mapValues Value.map (buckets.map fun b => (Entries.field b "key", b)) := by
        rw [mapValues, List.map_map]
        rfl
      rw [hmap, Entries.field?, (hu.mapValues Value.map).find?_insertAll, find?_mapValues]

def countIn (bucket range : Entries) : RangeCount where
  lower := bucket.field "from"
  upper := bucket.field "to"
  lowerText := range.field "from" (.text "")
  upperText := range.field "to" (.text "")
  count := tally bucket

theorem rangeCount_eq {buckets bucket range : Entries}
    (h : buckets.field (Aggregation.rangeName range) (.map []) = .map bucket) :
    rangeCount buckets (.map range) = .ok (countIn bucket range) := by
  have hk : Aggregation.rangeKey (.map range) = .ok (Aggregation.rangeName range) := rfl
  rw [rangeCount, hk, Folds.ok_bind, h]
  rfl

theorem decodes_ranges (hq : name ≠ Aggregation.queriesName) (hs : statsField? name = none) {asked : List Entries}
    (hr : ranges.field? name = some (.list (asked.map .map))) (hb : HasBuckets reply)
    (ha : ∀ range ∈ asked, ∃ bucket, Tells reply (Aggregation.rangeName range) bucket) :
    ∃ found : Entries → Entries, (∀ range ∈ asked, Tells reply (Aggregation.rangeName range) (found range)) ∧
      Decodes ranges (.text name, .map reply)
        [(.text name, .ranges (asked.map fun range => countIn (found range) range))] := by
  obtain ⟨buckets, hk, hf⟩ := keyedBuckets_eq hb
  have hex : ∀ range ∈ asked, ∃ bucket, buckets.field? (Aggregation.rangeName range) = some (.map bucket) ∧
      Tells reply (Aggregation.rangeName range) bucket := by
    intro range hm
    obtain ⟨bucket, ht⟩ := ha range hm
    exact hf _ _ ht
  choose! found hfound htells using hex
  refine ⟨found, htells, ?_⟩
  intro records
  have hm : (asked.map Value.map).mapM (rangeCount buckets) =
      .ok (asked.map fun range => countIn (found range) range) := by
    rw [List.mapM_map]
    exact Folds.mapM_ok fun range hr => rangeCount_eq (Entries.field_of_field? (hfound range hr) _)
  have ho : ofRanges (.map reply) (.map ranges) name =
      .ok (.ranges (asked.map fun range => countIn (found range) range)) := by
    rw [ofRanges, hk, Folds.ok_bind, Value.require_map hr, Folds.ok_bind, Value.items_list, Folds.ok_bind, hm]
    rfl
  rw [decode_of_plain hq hs, Entries.hasField_eq, hr, ho]
  rfl

theorem statsField?_eq_some {field : String} (h : statsField? name = some field) : name = Aggregation.statsMark ++ field := by
  rw [statsField?] at h
  split at h
  · next hp =>
      obtain ⟨rest, hr⟩ := List.isPrefixOf_iff_prefix.mp hp
      have hd : name.toList.drop Aggregation.statsMark.length = rest := by
        rw [← hr]
        exact List.drop_left
      rw [hd] at h
      rw [← Option.some.inj h, ← String.toList_inj, String.toList_append, String.toList_ofList, hr]
  · cases h

/-- The keys under which a reply is recorded: its own name, the field that was measured, or the queries. -/
inductive KeyOf : Value × Value → Value → Prop where
  | own (name data : Value) : KeyOf (name, data) name
  | field (field : String) (data : Value) : KeyOf (.text (Aggregation.statsMark ++ field), data) (.text field)
  | query {reply buckets : Entries} {key : Value} : reply.field? "buckets" = some (.map buckets) → key ∈ keys buckets →
      KeyOf (.text Aggregation.queriesName, .map reply) key

theorem exists_queries {data : Value} {records : Keyed FacetRecord} (h : ofQueries data [] = .ok records) :
    ∃ xs : Keyed FacetRecord, (∀ records, ofQueries data records = .ok (records.insertAll xs)) ∧
      ∀ x ∈ xs, KeyOf (.text Aggregation.queriesName, data) x.1 := by
  rw [ofQueries] at h
  obtain ⟨buckets, hg, h⟩ := Folds.bind_eq_ok.mp h
  obtain ⟨es, he, h⟩ := Folds.bind_eq_ok.mp h
  obtain ⟨reply, rfl⟩ : ∃ reply, data = .map reply := by
    cases data with
    | map reply => exact ⟨reply, rfl⟩
    | _ => cases hg
  obtain rfl : buckets = .map es := by
    cases buckets with
    | map bs => exact congrArg Value.map (Except.ok.inj he)
    | _ => cases he
  have hcounts : ∀ q ∈ es, ∃ count, docCount q.2 = .ok count := by
    intro q hq
    obtain ⟨rs, rs', hrs⟩ := Folds.exists_of_foldlM h hq
    obtain ⟨count, hcount, -⟩ := Folds.bind_eq_ok.mp hrs
    exact ⟨count, hcount⟩
  choose! count hcount using hcounts
  refine ⟨es.map fun q => (q.1, .query (count q)), fun rs => ?_, ?_⟩
  · rw [ofQueries, hg, Folds.ok_bind, Value.entries_map, Folds.ok_bind, insertAll, List.foldl_map]
    refine (Folds.foldlM_ok (fun _ => True) (fun rs _ q hq => ⟨?_, trivial⟩) trivial).1
    rw [hcount q hq]
    rfl
  · intro x hx
    obtain ⟨q, hq, rfl⟩ := List.mem_map.mp hx
    rw [Value.get_map, Except.ok.injEq, Entries.field] at hg
    cases hb : Entries.field? reply "buckets" with
    | none =>
        rw [hb] at hg
        cases hg
        cases hq
    | some v =>
        rw [hb, Option.getD_some] at hg
        subst hg
        exact .query hb (List.mem_map_of_mem hq)

/-- A reply that is decoded by itself is decoded as the same records, whatever was decoded before. -/
def DecodesBySelf (ranges : Entries) (e : Value × Value) : Prop :=
  ∃ xs : Keyed FacetRecord, Decodes ranges e xs ∧ ∀ x ∈ xs, KeyOf e x.1

theorem decodesBySelf_singleton {e : Value × Value} {key : Value} (record : FacetRecord) (hk : KeyOf e key)
    (h : ∀ records, decode (.map ranges) records e.1 e.2 = .ok (records.insert key record)) : DecodesBySelf ranges e := by
  refine ⟨[(key, record)], h, ?_⟩
  intro x hx
  rw [List.mem_singleton.mp hx]
  exact hk

theorem decodesBySelf_plain {data : Value} {records : Keyed FacetRecord} (hq : name ≠ Aggregation.queriesName)
    (hs : statsField? name = none) (h : decode (.map ranges) [] (.text name) data = .ok records) :
    DecodesBySelf ranges (.text name, data) := by
  rw [decode_of_plain hq hs] at h
  split at h
  · next hr =>
      obtain ⟨record, ho, -⟩ := Folds.bind_eq_ok.mp h
      exact decodesBySelf_singleton record (.own _ _) fun records => by rw [decode_of_plain hq hs, if_pos hr, ho]; rfl
  · next hr =>
      obtain ⟨listed, hl, h⟩ := Folds.bind_eq_ok.mp h
      cases listed with
      | true =>
          obtain ⟨record, ho, -⟩ := Folds.bind_eq_ok.mp h
          refine decodesBySelf_singleton record (.own _ _) fun records => ?_
          rw [decode_of_plain hq hs, if_neg hr, hl, Folds.ok_bind, if_pos rfl, ho]
          rfl
      | false =>
          refine ⟨[], fun records => ?_, fun x hx => by cases hx⟩
          rw [decode_of_plain hq hs, if_neg hr, hl]
          rfl

theorem textName_of_decode {key data : Value} {records : Keyed FacetRecord}
    (h : decode (.map ranges) [] key data = .ok records) : ∃ s, key = .text s := by
  unfold decode at h
  split at h
  · next hq => exact ⟨_, (Value.same_text_right _ _).mp hq⟩
  · split at h
    · exact ⟨_, rfl⟩
    · cases h

theorem decodesBySelf_of_decode {e : Value × Value} {records : Keyed FacetRecord}
    (h : decode (.map ranges) [] e.1 e.2 = .ok records) : DecodesBySelf ranges e := by
  obtain ⟨key, data⟩ := e
  dsimp only at h
  obtain ⟨name, rfl⟩ := textName_of_decode h
  by_cases hq : name = Aggregation.queriesName
  · subst hq
    rw [decode, if_pos (Value.same_text_self _)] at h
    obtain ⟨xs, hx, hk⟩ := exists_queries h
    exact ⟨xs, fun records => by rw [decode, if_pos (Value.same_text_self _), hx], hk⟩
  · cases hs : statsField? name with
    | none => exact decodesBySelf_plain hq hs h
    | some field =>
        obtain rfl := statsField?_eq_some hs
        have hd : ∀ records, decode (.map ranges) records (.text (Aggregation.statsMark ++ field)) data =
            (do pure (records.insert (.text field) (← ofStats data))) := by
          intro records
          rw [decode, Value.same_text_of_ne hq]
          simp only [hs]
          rfl
        rw [hd] at h
        obtain ⟨record, hr, -⟩ := Folds.bind_eq_ok.mp h
        exact decodesBySelf_singleton record (.field field data) fun records => by rw [hd, hr]; rfl

end FacetRecord

end CatalogSearch.Engine
