import CatalogSearch.Proofs.Engine.SuitedReplies
import Mathlib.Data.List.Permutation

namespace CatalogSearch.Engine

open Query Query.FacetRequest Keyed Aggregation FacetRecord

variable {settings : Settings} {facets : Entries} {stats conditions : Value} {measured : List Value}
  {aggs : Keyed Aggregation} {size : Int} {f : String} {replies reply : Entries} {buckets : Keyed Entries}

/-- The ranges that the conditions on a field ask for, in their order. -/
def rangesOf (conditions : Value) : List Entries := (conditionsOf conditions).filterMap rangeOf?

theorem truthy_of_rangesOf (h : rangesOf conditions ≠ []) : conditions.truthy = true := by
  by_contra ht
  rw [Bool.not_eq_true] at ht
  apply h
  cases conditions with
  | map es =>
      obtain rfl : es = [] := by simpa [Value.truthy] using ht
      rfl
  | list xs | tuple xs | set xs =>
      obtain rfl : xs = [] := by simpa [Value.truthy] using ht
      rfl
  | _ => rfl

section Words

variable (hw : ∀ c ∈ f.toList, Text.isWord c = true)

include hw

theorem not_mem_of_words {c : Char} (hc : Text.isWord c = false) : c ∉ f.toList := by
  intro hm
  rw [hw c hm] at hc
  cases hc

theorem statsMark_ne (field : String) : statsMark ++ field ≠ f := by
  rintro rfl
  refine not_mem_of_words hw (c := ':') (by decide) ?_
  rw [String.toList_append]
  exact List.mem_append_left _ (by decide)

theorem fieldCondition_ne (field operand : List Char) : fieldCondition field operand ≠ f.toList := by
  intro h
  refine not_mem_of_words hw (c := ':') (by decide) ?_
  rw [← h, fieldCondition]
  split <;> simp

end Words

theorem mem_queries {q : List Char} (h : q ∈ (ofEntries facets).queries) :
    ∃ field operand, q = fieldCondition field operand := by
  rw [ofEntries_eq, List.mem_flatMap] at h
  obtain ⟨e, -, h⟩ := h
  rw [ofField] at h
  split at h
  · obtain ⟨condition, -, hq⟩ := List.mem_filterMap.mp h
    rw [queryOf?] at hq
    split at hq
    · cases hq
    · exact ⟨_, _, (Option.some.inj hq).symm⟩
  · cases h

theorem not_mem_queryNames (hw : ∀ c ∈ f.toList, Text.isWord c = true) :
    .text f ∉ keys (queryNames (ofEntries facets).queries) := by
  intro hm
  obtain ⟨q, hq, hname⟩ := mem_queryNames hm
  obtain ⟨field, operand, rfl⟩ := mem_queries hq
  rw [Value.ofChars, Value.text.injEq] at hname
  exact fieldCondition_ne hw field operand (by rw [hname, String.toList_ofList])

theorem eq_queryNames {queries : Entries} (h : (.text queriesName, .filters queries) ∈ plan size (ofEntries facets) measured) :
    queries = queryNames (ofEntries facets).queries := by
  rcases mem_plan.mp h with ⟨field, -, he⟩ | ⟨p, -, he⟩ | ⟨-, he⟩ | ⟨field, -, he⟩
  · cases (Prod.mk.inj he).2
  · cases (Prod.mk.inj he).2
  · exact Aggregation.filters.inj (Prod.mk.inj he).2
  · cases (Prod.mk.inj he).2

section Plan

variable (hd : facets.Distinct) (hc : (.text f, conditions) ∈ facets) (hr : rangesOf conditions ≠ [])
  (hq : f = queriesName → (ofEntries facets).queries = []) (hs : ∀ field ∈ measured, statsMark ++ field.display ≠ f)

include hd hc hr hq hs

theorem mem_plan_iff {a : Aggregation} : (.text f, a) ∈ plan size (ofEntries facets) measured ↔
    a = .range (.text f) ((rangesOf conditions).map sentBucket) := by
  have ht := truthy_of_rangesOf hr
  constructor
  · intro ha
    rcases mem_plan.mp ha with ⟨field, hf, he⟩ | ⟨⟨field, asked⟩, hf, he⟩ | ⟨hne, he⟩ | ⟨field, hf, he⟩
    · obtain ⟨rfl, -⟩ := Prod.mk.inj he
      obtain ⟨others, ho, hfalse⟩ := mem_fields.mp hf
      rw [Entries.eq_of_mem hd ho hc, ht] at hfalse
      cases hfalse
    · obtain ⟨rfl, rfl⟩ := Prod.mk.inj he
      obtain ⟨others, ho, -, hasked, -⟩ := mem_ranges.mp hf
      rw [hasked, Entries.eq_of_mem hd ho hc, rangesOf]
    · exact absurd (hq (Value.text.inj (Prod.mk.inj he).1)) hne
    · exact absurd (Value.text.inj (Prod.mk.inj he).1).symm (hs field hf)
  · rintro rfl
    exact mem_plan.mpr (.inr (.inl ⟨(.text f, rangesOf conditions), mem_ranges.mpr ⟨conditions, hc, ht, rfl, hr⟩, rfl⟩))

theorem find?_plan : (insertAll [] (plan size (ofEntries facets) measured)).find? (.text f) =
    some (.range (.text f) ((rangesOf conditions).map sentBucket)) := by
  have hm := @mem_plan_iff _ _ measured size _ hd hc hr hq hs
  have hu : OnceUnder (plan size (ofEntries facets) measured) f := fun a b ha hb => (hm.mp ha).trans (hm.mp hb).symm
  rw [hu.find?_insertAll, hu.find?_eq_some, hm]

end Plan

theorem field?_rangesOf (hd : facets.Distinct) (hc : (.text f, conditions) ∈ facets) (hr : rangesOf conditions ≠ []) :
    (ofEntries facets).rangeEntries.field? f = some (.list ((rangesOf conditions).map .map)) := by
  have hm : ∀ asked, (.text f, asked) ∈ (ofEntries facets).ranges ↔ asked = rangesOf conditions := by
    intro asked
    rw [mem_ranges]
    constructor
    · rintro ⟨others, ho, -, rfl, -⟩
      rw [Entries.eq_of_mem hd ho hc, rangesOf]
    · rintro rfl
      exact ⟨conditions, hc, truthy_of_rangesOf hr, rfl, hr⟩
  have hu : OnceUnder (ofEntries facets).ranges f := fun a b ha hb => ((hm a).mp ha).trans ((hm b).mp hb).symm
  have hentries : (ofEntries facets).rangeEntries =
      mapValues (fun asked : List Entries => Value.list (asked.map .map)) (ofEntries facets).ranges := rfl
  rw [Entries.field?, hentries, find?_mapValues, hu.find?_eq_some.mpr ((hm _).mpr rfl)]
  rfl

/-- What a reply counts for the ranges that were asked for; a range without a bucket has no hits. -/
def rangeCounts (buckets : Keyed Entries) (asked : List Entries) : FacetRecord :=
  .ranges (asked.map fun range => countIn ((buckets.find? (.text (rangeName range))).getD []) range)

theorem rangeCounts_perm {others : Keyed Entries} {asked : List Entries} (hp : others.Perm buckets)
    (hu : ∀ range ∈ asked, OnceUnder buckets (rangeName range)) :
    rangeCounts others asked = rangeCounts buckets asked := by
  rw [rangeCounts, rangeCounts, FacetRecord.ranges.injEq]
  refine List.map_congr_left fun range hr => ?_
  rw [(hu range hr).find?_perm hp]

theorem decodes_rangeCounts {ranges : Entries} {asked : List Entries} (hq : f ≠ queriesName) (hs : statsField? f = none)
    (hr : ranges.field? f = some (.list (asked.map .map))) (hh : Holds reply buckets)
    (hu : ∀ range ∈ asked, OnceUnder buckets (rangeName range)) :
    Decodes ranges (.text f, .map reply) [(.text f, rangeCounts buckets asked)] := by
  obtain ⟨es, hk, hes⟩ := keyedBuckets_of_holds hh
  have hm : (asked.map Value.map).mapM (rangeCount es) =
      .ok (asked.map fun range => countIn ((buckets.find? (.text (rangeName range))).getD []) range) := by
    rw [List.mapM_map]
    refine Folds.mapM_ok fun range hin => rangeCount_eq ?_
    rw [Entries.field, hes _ (hu range hin)]
    cases buckets.find? (.text (rangeName range)) <;> rfl
  have ho : FacetRecord.ofRanges (.map reply) (.map ranges) f = .ok (rangeCounts buckets asked) := by
    rw [FacetRecord.ofRanges, hk, Folds.ok_bind, Value.require_map hr, Folds.ok_bind, Value.items_list, Folds.ok_bind, hm]
    rfl
  intro records
  rw [decode_of_plain hq hs, Entries.hasField_eq, hr, ho]
  rfl

/-- Nothing that is asked for beside the ranges of a field is taken for something else: no field is counted under
the name of the queries, and there is nothing under the mark of statistics and the name of this field. -/
structure AskedBeside (aggs : Keyed Aggregation) (f : String) : Prop where
  queries : QueriesApart aggs
  unmarked : aggs.find? (.text (statsMark ++ f)) = none

/-- Replies of the shapes that were asked for, in any order, to each aggregation at most one; of the queries there are
hits of those that were sent. -/
structure RepliedTo (aggs : Keyed Aggregation) (replies : Entries) : Prop where
  once : replies.Distinct
  suited : Suited aggs replies
  sent : ∀ queries reply buckets, aggs.find? (.text queriesName) = some (.filters queries) →
    (.text queriesName, .map reply) ∈ replies → Entries.field? reply "buckets" = some (.map buckets) →
    ∀ name ∈ keys buckets, name ∈ keys queries

theorem name_of_keyOf (hw : ∀ c ∈ f.toList, Text.isWord c = true)
    (ha : AskedBeside (insertAll [] (plan size (ofEntries facets) measured)) f)
    (ho : RepliedTo (insertAll [] (plan size (ofEntries facets) measured)) replies) {e : Value × Value} (he : e ∈ replies)
    (hk : KeyOf e (.text f)) : e.1 = .text f := by
  obtain ⟨name, agg, reply, rfl, hf, -⟩ := ho.suited e he
  generalize hkey : Value.text f = key at hk
  cases hk with
  | own => rfl
  | field field =>
      obtain rfl := Value.text.inj hkey
      rw [ha.unmarked] at hf
      cases hf
  | query hb hmem =>
      subst hkey
      obtain ⟨queries, rfl⟩ := ha.queries agg hf
      have hsent := ho.sent queries _ _ hf he hb _ hmem
      rw [eq_queryNames (mem_of_find?_insertAll hf)] at hsent
      exact absurd hsent (not_mem_queryNames hw)

theorem find?_decodeAll (hw : ∀ c ∈ f.toList, Text.isWord c = true)
    (hp : RangesOverTerms (insertAll [] (plan size (ofEntries facets) measured)) (ofEntries facets).rangeEntries)
    (ha : AskedBeside (insertAll [] (plan size (ofEntries facets) measured)) f)
    (ho : RepliedTo (insertAll [] (plan size (ofEntries facets) measured)) replies)
    (he : (.text f, .map reply) ∈ replies) {record : FacetRecord}
    (hd : Decodes (ofEntries facets).rangeEntries (.text f, .map reply) [(.text f, record)]) :
    ∃ records, decodeAll (.map replies) (ofEntries facets).toValue = .ok records ∧
      records.find? (.text f) = some record := by
  have hex : ∀ e ∈ replies, ∃ xs : Keyed FacetRecord, Decodes (ofEntries facets).rangeEntries e xs ∧
      ∀ r, (.text f, r) ∈ xs ↔ e.1 = .text f ∧ r = record := by
    intro e hm
    by_cases hname : e.1 = .text f
    · obtain rfl : e = (.text f, .map reply) := Prod.ext hname (Entries.eq_of_mem ho.once (hname ▸ hm) he)
      exact ⟨_, hd, fun r => by simp⟩
    · obtain ⟨name, agg, other, rfl, hf, hsuits⟩ := ho.suited e hm
      obtain ⟨found, hfound, -⟩ := decodesSummed_of_suits hp ha.queries hf hsuits
      obtain ⟨xs, hx, hk⟩ := decodesBySelf_of_decode (hfound [])
      exact ⟨xs, hx, fun r => ⟨fun hr => absurd (name_of_keyOf hw ha ho hm (hk _ hr)) hname, fun hr => absurd hr.1 hname⟩⟩
  choose! xs hx hown using hex
  refine ⟨insertAll [] (replies.flatMap xs), ?_, ?_⟩
  · rw [decodeAll, (ofEntries facets).get_toValue.2.1, Folds.ok_bind, Value.orElse_map, Value.entries_map, Folds.ok_bind,
      ← insertAll_flatMap]
    exact (Folds.foldlM_ok (fun _ => True) (fun records _ e he => ⟨hx e he records, trivial⟩) trivial).1
  · have hall : ∀ r, (.text f, r) ∈ replies.flatMap xs ↔ r = record := by
      intro r
      rw [List.mem_flatMap]
      constructor
      · rintro ⟨e, hm, hr⟩
        exact ((hown e hm r).mp hr).2
      · rintro rfl
        exact ⟨_, he, (hown _ he r).mpr ⟨rfl, rfl⟩⟩
    have hu : OnceUnder (replies.flatMap xs) f := fun a b ha hb => ((hall a).mp ha).trans ((hall b).mp hb).symm
    rw [hu.find?_insertAll, hu.find?_eq_some, hall]

/-- A record of ranges shows every range, in written form, with the hits of the bucket of its name. -/
theorem shows_rangeCounts {asked : List Entries} (hp : ∀ range ∈ asked, ∃ told, range = rangeRecord told) (s : Summary) :
    ∃ s', s.ofRecord (.text f) (rangeCounts buckets asked).toValue = .ok s' ∧ ∀ range ∈ asked,
      s'.Shows f (label range) (tally ((buckets.find? (.text (rangeName range))).getD [])) := by
  refine ⟨_, ofRecord_ranges s f _, fun range hr => ?_⟩
  let shown : Keyed Value := asked.map fun range =>
    (label range, tally ((buckets.find? (.text (rangeName range))).getD []))
  have hfiled : FacetRecord.filed (.text f) (rangeCounts buckets asked) = Summary.under f shown := by
    rw [rangeCounts, filed, Summary.under, List.map_map, List.map_map]
    rfl
  obtain ⟨told, rfl⟩ := hp range hr
  have hlabel := label_rangeRecord told
  have hu : ∀ name, OnceUnder shown name := by
    intro name a b ha hb
    obtain ⟨range, hrange, hra⟩ := List.mem_map.mp ha
    obtain ⟨other, hother, hrb⟩ := List.mem_map.mp hb
    obtain ⟨hla, rfl⟩ := Prod.mk.inj hra
    obtain ⟨hlb, rfl⟩ := Prod.mk.inj hrb
    obtain ⟨told, rfl⟩ := hp range hrange
    obtain ⟨told', rfl⟩ := hp other hother
    rw [rangeName_of_label (hla.trans hlb.symm)]
  have hm : (label (rangeRecord told), tally ((buckets.find? (.text (rangeName (rangeRecord told)))).getD [])) ∈ shown :=
    List.mem_map_of_mem hr
  rw [← rangeCounts, hfiled]
  rw [hlabel] at hm ⊢
  exact Summary.shows_of_onceUnder (hu _) hm s

theorem rangeRecord_of_mem {range : Entries} (h : range ∈ rangesOf conditions) : ∃ told, range = rangeRecord told := by
  obtain ⟨condition, -, hr⟩ := List.mem_filterMap.mp h
  exact rangeRecord_of_rangeOf? hr

/-- The counts of a field's ranges land on the ranges that were asked for: each has the hits of the bucket
that was sent for it, in whatever order the buckets come back. Ranges share a bucket, and a written form, if
and only if they have the same bounds. -/
theorem range_counts_land (hd : facets.Distinct) (hw : ∀ c ∈ f.toList, Text.isWord c = true) (hq : f ≠ queriesName)
    (hc : (.text f, conditions) ∈ facets) (hr : rangesOf conditions ≠ [])
    (hb : Aggregation.build settings (ofEntries facets).toValue stats = .ok aggs) (ha : AskedBeside aggs f)
    (ho : RepliedTo aggs replies) (he : (.text f, .map reply) ∈ replies) (hh : Holds reply buckets)
    (hu : ∀ range ∈ rangesOf conditions, OnceUnder buckets (rangeName range)) :
    aggs.find? (.text f) = some (.range (.text f) ((rangesOf conditions).map sentBucket)) ∧
    (∃ records, decodeAll (.map replies) (ofEntries facets).toValue = .ok records ∧
      records.find? (.text f) = some (rangeCounts buckets (rangesOf conditions))) ∧
    (∀ others : Keyed Entries, others.Perm buckets →
      rangeCounts others (rangesOf conditions) = rangeCounts buckets (rangesOf conditions)) ∧
    (∀ s : Summary, ∃ s', s.ofRecord (.text f) (rangeCounts buckets (rangesOf conditions)).toValue = .ok s' ∧
      ∀ range ∈ rangesOf conditions,
        s'.Shows f (label range) (tally ((buckets.find? (.text (rangeName range))).getD []))) ∧
    ∀ told other, (sentBucket (rangeRecord told)).field? "key" = some (.text (rangeName (rangeRecord told))) ∧
      (rangeName (rangeRecord told) = rangeName (rangeRecord other) ↔ SameBounds (rangeRecord told) (rangeRecord other)) ∧
      (label (rangeRecord told) = label (rangeRecord other) ↔ SameBounds (rangeRecord told) (rangeRecord other)) := by
  obtain ⟨measured, hm⟩ := measuredFields_of_build hb
  obtain ⟨size, rfl⟩ := plan_of_build hb hm
  have hplain : statsField? f = none := by
    cases h : statsField? f with
    | none => rfl
    | some field => exact absurd (statsField?_eq_some h).symm (statsMark_ne hw field)
  have hdecodes := decodes_rangeCounts hq hplain (field?_rangesOf hd hc hr) hh hu
  refine ⟨?_, find?_decodeAll hw (rangesOverTerms_rangeEntries hb) ha ho he hdecodes, fun _ hp => rangeCounts_perm hp hu,
    shows_rangeCounts fun range => rangeRecord_of_mem, fun told other => ?_⟩
  · exact find?_plan hd hc hr (fun hf => absurd hf hq) fun field _ => statsMark_ne hw field.display
  · exact ⟨field?_sentBucket _, rangeName_eq_iff, label_eq_iff⟩

def upToFive : Entries := [(.text "from", .int 1), (.text "to", .int 5)]

def upToDash : Entries := [(.text "to", .text "a-b")]

def crateFacets : Entries :=
  [(.text "color", .list []), (.text "price", .list [.map upToFive, .map upToDash]), (.text "size", .text "m")]

def crateAggregations : Keyed Aggregation :=
  [(.text "color", .terms (.text "color.keyword") 100),
    (.text "price", .range (.text "price") ([upToFive, upToDash].map fun told => sentBucket (rangeRecord told))),
    (.text "_queries", .filters [(.text "size:m", .text "size:m")]), (.text "_stats:weight", .stats (.text "weight"))]

def redBucket : Entries := [(.text "key", .text "red"), (.text "doc_count", .int 2)]

def crateBucket : Entries := [(.text "key", .text "1-5"), (.text "doc_count", .int 3)]

def crateReply : Entries := [(.text "buckets", .list ([crateBucket].map .map))]

def redReply : Entries := [(.text "buckets", .list ([redBucket].map .map))]

def sizeHits : Keyed Entries := [(.text "size:m", [(.text "doc_count", .int 2)])]

def crateReplies : Entries :=
  [(.text "_stats:weight", .map [(.text "count", .int 3)]),
    (.text "_queries", .map [(.text "buckets", .map (sizeHits.mapValues .map))]), (.text "price", .map crateReply), (.text "color", .map redReply)]

theorem holds_crateReply : Holds crateReply [(.text "1-5", crateBucket)] := by
  have hkey : Entries.field crateBucket "key" = .text "1-5" := Entries.field_of_field? (Entries.field?_cons_self _ _ _) _
  rw [← hkey]
  refine .listed [crateBucket] (Entries.field?_cons_self _ _ _) fun b hb => ?_
  rw [List.mem_singleton.mp hb, hkey]
  rfl

theorem termOf_redBucket : termOf redBucket = .text "red" := by cbv

theorem suits_redReply (target : Value) (size : Int) : Suits (.terms target size) redReply := by
  refine .terms (Entries.field?_cons_self _ _ _) fun b hb => ?_
  rw [List.mem_singleton.mp hb, termOf_redBucket]
  rfl

theorem rangeOf?_upToFive : rangeOf? (.map upToFive) = some (rangeRecord upToFive) := by
  have h : Criterion.isRangeRecord upToFive = true := by
    simp [Criterion.isRangeRecord, upToFive, Entries.hasField, has, find?, Value.same_text]
  rw [rangeOf?, if_pos h]

theorem rangeOf?_upToDash : rangeOf? (.map upToDash) = some (rangeRecord upToDash) := by
  have h : Criterion.isRangeRecord upToDash = true := by
    simp [Criterion.isRangeRecord, upToDash, Entries.hasField, has, find?, Value.same_text]
  rw [rangeOf?, if_pos h]

theorem rangesOf_crate :
    rangesOf (.list [.map upToFive, .map upToDash]) = [rangeRecord upToFive, rangeRecord upToDash] := by
  simp [rangesOf, conditionsOf, Value.sequence?, rangeOf?_upToFive, rangeOf?_upToDash]

theorem ofEntries_crateFacets : ofEntries crateFacets =
    ⟨[.text "color"], [(.text "price", [rangeRecord upToFive, rangeRecord upToDash])], ["size:m".toList]⟩ := by
  have hprice : ofField (.text "price") (.list [.map upToFive, .map upToDash]) =
      ⟨[], [(.text "price", [rangeRecord upToFive, rangeRecord upToDash])], []⟩ := by
    simp [ofField, queryOf?, rangeOf?_upToFive, rangeOf?_upToDash, Value.truthy, Value.sequence?]
  have hsize : ofField (.text "size") (.text "m") = ⟨[], [], ["size:m".toList]⟩ := rfl
  rw [ofEntries, crateFacets, List.map_cons, List.map_cons, List.map_singleton, hprice, hsize]
  rfl

theorem build_crateFacets :
    Aggregation.build Setting.default (ofEntries crateFacets).toValue (.list [.text "weight"]) = .ok crateAggregations := by
  have hfields : ∀ field ∈ (ofEntries crateFacets).fields, ∃ name, field = .text name := by
    rw [ofEntries_crateFacets]
    exact fun field hf => ⟨_, List.mem_singleton.mp hf⟩
  have hn : statsMark ++ (Value.text "weight").display = "_stats:weight" := by decide
  have hsize : (Setting.default .facetLimit).toInt = .ok 100 := rfl
  have hmeasured : measuredFields (.list [.text "weight"]) = .ok [.text "weight"] := rfl
  refine (build_of_fieldNames hfields hsize hmeasured).trans (congrArg Except.ok ?_)
  rw [ofEntries_crateFacets]
  simp [plan, crateAggregations, insertAll, Keyed.insert, Value.same_text, hn, termsTarget, queryNames, queriesName,
    Value.ofChars]
  rfl

theorem repliedTo_crateReplies : RepliedTo crateAggregations crateReplies where
  once := by simp [crateReplies, Entries.Distinct, Value.same_text_of_ne]
  suited := by
    refine suited_of_nodup (by simp [crateAggregations, keys]) fun e he => ?_
    simp only [crateReplies, List.mem_cons, List.not_mem_nil, or_false] at he
    rcases he with rfl | rfl | rfl | rfl
    · exact ⟨_, .stats (.text "weight"), _, rfl, by simp [crateAggregations], .stats _ _⟩
    · exact ⟨_, .filters [(.text "size:m", .text "size:m")], _, rfl, by simp [crateAggregations],
        .filters (Entries.field?_cons_self _ _ _) fun b hb => ⟨_, congrArg Prod.fst (List.mem_singleton.mp hb)⟩⟩
    · exact ⟨_, _, _, rfl, List.mem_cons_of_mem _ List.mem_cons_self, .range holds_crateReply⟩
    · exact ⟨_, _, _, rfl, List.mem_cons_self, suits_redReply _ _⟩
  sent queries reply buckets hf he hb name hn := by
    simp [crateAggregations, find?_cons, Value.same_text, queriesName] at hf
    subst hf
    simp [crateReplies, queriesName] at he
    subst he
    obtain rfl := Value.map.inj (Option.some.inj ((Entries.field?_cons_self _ _ _).symm.trans hb))
    simpa [sizeHits, mapValues, keys] using hn

theorem askedBeside_crate : AskedBeside crateAggregations "price" where
  queries agg hf := by
    simp [crateAggregations, find?_cons, Value.same_text, queriesName] at hf
    exact ⟨_, hf.symm⟩
  unmarked := by
    have hm : statsMark ++ "price" = "_stats:price" := by decide
    simp [crateAggregations, find?_cons, Value.same_text, hm]
    rfl

theorem crate_counts_land : ∃ records record s,
    decodeAll (.map crateReplies) (ofEntries crateFacets).toValue = .ok records ∧
      records.find? (.text "price") = some record ∧ Summary.ofRecord [] (.text "price") record.toValue = .ok s ∧
      s.Shows "price" (.text "[1 TO 5]") (.int 3) ∧ s.Shows "price" (.text "[ TO a\\-b]") (.int 0) := by
  have hnames : rangeName (rangeRecord upToFive) = "1-5" ∧ rangeName (rangeRecord upToDash) = "*-a\\-b" := by
    constructor <;> cbv
  have hlabels : label (rangeRecord upToFive) = .text "[1 TO 5]" ∧ label (rangeRecord upToDash) = .text "[ TO a\\-b]" := by
    constructor <;> cbv
  have hcounts : tally crateBucket = .int 3 ∧ tally [] = .int 0 := by
    constructor <;> cbv
  have hd : crateFacets.Distinct := by
    simp [crateFacets, Entries.Distinct, Value.same_text_of_ne]
  have hu : ∀ name, OnceUnder [(Value.text "1-5", crateBucket)] name := OnceUnder.of_nodup (List.nodup_singleton _)
  obtain ⟨-, ⟨records, hdecode, hfind⟩, -, hshows, -⟩ := range_counts_land hd (List.all_eq_true.mp (by decide)) (by decide)
    (List.mem_cons_of_mem _ List.mem_cons_self) (by rw [rangesOf_crate]; exact List.cons_ne_nil _ _) build_crateFacets
    askedBeside_crate repliedTo_crateReplies (by simp [crateReplies]) holds_crateReply fun range _ => hu _
  obtain ⟨s, hs, hall⟩ := hshows []
  rw [rangesOf_crate] at hall
  refine ⟨records, _, s, hdecode, hfind, hs, ?_, ?_⟩
  · have h := hall _ List.mem_cons_self
    rw [hlabels.1, hnames.1, (hu _).find?_eq_some.mpr List.mem_cons_self, Option.getD_some, hcounts.1] at h
    exact h
  · have h := hall _ (List.mem_cons_of_mem _ List.mem_cons_self)
    have hnone : find? [(Value.text "1-5", crateBucket)] (.text "*-a\\-b") = none := by
      rw [find?_cons, Value.same_text_of_ne (by decide)]
      rfl
    rw [hlabels.2, hnames.2, hnone, Option.getD_none, hcounts.2] at h
    exact h

def besidePrice (name : String) : Entries := [(.text name, .list []), (.text "price", .list [.map upToFive])]

theorem ofEntries_besidePrice (name : String) :
    ofEntries (besidePrice name) = ⟨[.text name], [(.text "price", [rangeRecord upToFive])], []⟩ := by
  have hprice : ofField (.text "price") (.list [.map upToFive]) = ⟨[], [(.text "price", [rangeRecord upToFive])], []⟩ := by
    simp [ofField, queryOf?, rangeOf?_upToFive, Value.truthy, Value.sequence?]
  rw [ofEntries, besidePrice, List.map_cons, List.map_singleton, hprice]
  rfl

def besideAggregations (name : String) : Keyed Aggregation :=
  [(.text name, .terms (.text (fieldOf name)) 100), (.text "price", .range (.text "price") [sentBucket (rangeRecord upToFive)])]

section BesidePrice

variable {name : String} (hn : name ≠ "price")

include hn

theorem build_besidePrice :
    Aggregation.build Setting.default (ofEntries (besidePrice name)).toValue (.list []) = .ok (besideAggregations name) := by
  have hfields : ∀ field ∈ (ofEntries (besidePrice name)).fields, ∃ text, field = .text text := by
    rw [ofEntries_besidePrice]
    exact fun field hf => ⟨_, List.mem_singleton.mp hf⟩
  have hsize : (Setting.default .facetLimit).toInt = .ok 100 := rfl
  have hmeasured : measuredFields (.list []) = .ok [] := rfl
  refine (build_of_fieldNames hfields hsize hmeasured).trans (congrArg Except.ok ?_)
  rw [ofEntries_besidePrice]
  simp [plan, besideAggregations, insertAll, Keyed.insert, Value.same_text, termsTarget, hn]

theorem find?_besideAggregations : (besideAggregations name).find? (.text "price") =
    some (.range (.text "price") [sentBucket (rangeRecord upToFive)]) := by
  rw [besideAggregations, find?_cons, Value.same_text_of_ne hn.symm, find?_cons, Value.same_text_self]
  rfl

theorem suited_besidePrice (h : ∀ e ∈ replies, e = (.text name, .map redReply) ∨ e = (.text "price", .map crateReply)) :
    Suited (besideAggregations name) replies := by
  refine suited_of_nodup (by simp [besideAggregations, keys, hn]) fun e he => ?_
  rcases h e he with rfl | rfl
  · exact ⟨_, _, _, rfl, List.mem_cons_self, suits_redReply _ _⟩
  · exact ⟨_, _, _, rfl, List.mem_cons_of_mem _ List.mem_cons_self, .range holds_crateReply⟩

end BesidePrice

def takenReplies : Entries := [(.text "_queries", .map redReply), (.text "price", .map crateReply)]

def markedReplies : Entries := [(.text "price", .map crateReply), (.text "_stats:price", .map redReply)]

theorem decodeAll_takenReplies :
    decodeAll (.map takenReplies) (ofEntries (besidePrice "_queries")).toValue = .error .noSuchMember := by
  have hfirst : decode (.map (ofEntries (besidePrice "_queries")).rangeEntries) [] (.text queriesName) (.map redReply) =
      .error .noSuchMember := decode_queriesName (Entries.field?_cons_self _ _ _) []
  rw [decodeAll, (ofEntries (besidePrice "_queries")).get_toValue.2.1, Folds.ok_bind, Value.orElse_map, Value.entries_map,
    Folds.ok_bind, takenReplies, List.foldlM_cons]
  exact congrArg (· >>= _) hfirst

theorem decodeAll_markedReplies : ∃ records,
    decodeAll (.map markedReplies) (ofEntries (besidePrice "_stats:price")).toValue = .ok records ∧
      records.find? (.text "price") = some (.statistics (measuresOf redReply)) := by
  have hrange : Decodes (ofEntries (besidePrice "_stats:price")).rangeEntries (.text "price", .map crateReply)
      [(.text "price", rangeCounts [(.text "1-5", crateBucket)] [rangeRecord upToFive])] := by
    refine decodes_rangeCounts (by decide) (by decide) ?_ holds_crateReply fun range _ =>
      OnceUnder.of_nodup (by simp [keys]) _
    rw [ofEntries_besidePrice]
    exact Entries.field?_cons_self _ _ _
  have hmeasure : Decodes (ofEntries (besidePrice "_stats:price")).rangeEntries (.text "_stats:price", .map redReply)
      [(.text "price", .statistics (measuresOf redReply))] := decodes_stats "price"
  refine ⟨insertAll [] [(.text "price", rangeCounts [(.text "1-5", crateBucket)] [rangeRecord upToFive]),
    (.text "price", .statistics (measuresOf redReply))], ?_, find?_insert_self _ "price" _⟩
  rw [decodeAll, (ofEntries (besidePrice "_stats:price")).get_toValue.2.1, Folds.ok_bind, Value.orElse_map, Value.entries_map,
    Folds.ok_bind, markedReplies, List.foldlM_cons, hrange, Folds.ok_bind, List.foldlM_cons]
  exact congrArg (· >>= pure) (hmeasure _)

/-- A field by the name of the queries takes the ranges beside it along when its reply is not decoded, and one that is
called as if it were a measure takes their place. -/
theorem other_facets_hide_ranges :
    (∃ aggs, Aggregation.build Setting.default (ofEntries (besidePrice "_queries")).toValue (.list []) = .ok aggs ∧
      aggs.find? (.text "price") = some (.range (.text "price") [sentBucket (rangeRecord upToFive)]) ∧
      Suited aggs takenReplies ∧
      decodeAll (.map takenReplies) (ofEntries (besidePrice "_queries")).toValue = .error .noSuchMember) ∧
    ∃ aggs records measures,
      Aggregation.build Setting.default (ofEntries (besidePrice "_stats:price")).toValue (.list []) = .ok aggs ∧
      aggs.find? (.text "price") = some (.range (.text "price") [sentBucket (rangeRecord upToFive)]) ∧
      Suited aggs markedReplies ∧
      decodeAll (.map markedReplies) (ofEntries (besidePrice "_stats:price")).toValue = .ok records ∧
      records.find? (.text "price") = some (.statistics measures) := by
  obtain ⟨records, hdecode, hfind⟩ := decodeAll_markedReplies
  have htaken : Suited (besideAggregations "_queries") takenReplies := suited_besidePrice (by decide) (by simp [takenReplies])
  have hmarked : Suited (besideAggregations "_stats:price") markedReplies :=
    suited_besidePrice (by decide) (by simp [markedReplies])
  exact ⟨⟨_, build_besidePrice (by decide), find?_besideAggregations (by decide), htaken, decodeAll_takenReplies⟩,
    _, records, _, build_besidePrice (by decide), find?_besideAggregations (by decide), hmarked, hdecode, hfind⟩

end CatalogSearch.Engine
