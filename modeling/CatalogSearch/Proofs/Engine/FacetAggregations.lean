import CatalogSearch.Proofs.Engine.Labels
import CatalogSearch.Proofs.Value.Dictionaries
import Mathlib.Data.List.Induction

namespace CatalogSearch.Engine

open Query Query.FacetRequest Keyed Aggregation

variable {settings : Settings} {facets : Entries} {size : Int}

/-- What is asked of a field. A single condition need not come in a collection, and what does not count asks nothing. -/
def conditionsIn (conditions : Value) : List Value := if conditions.truthy then conditionsOf conditions else []

def record? : Value → Option Entries
  | .map told => if Criterion.isRangeRecord told then some told else none
  | _ => none

def recordsIn (conditions : Value) : List Entries := (conditionsIn conditions).filterMap record?

def othersIn (conditions : Value) : List Value := (conditionsIn conditions).filter fun c => (record? c).isNone

/-- A bound as it is sent: nothing for a blank one. -/
def boundFor (told : Entries) (name : String) : Entries :=
  if boundText told name = [] then [] else [(.text name, number (.ofChars (group (boundText told name))))]

def bucketFor (told : Entries) : Entries :=
  (.text "key", .ofChars (boundName told "from" ++ '-' :: boundName told "to")) :: boundFor told "from" ++ boundFor told "to"

def queryTexts (facets : Entries) : List (List Char) :=
  facets.flatMap fun e => (othersIn e.2).map fun c => fieldCondition e.1.chars (group c.operand)

def named (queries : List (List Char)) : Entries := queries.map fun q => (.ofChars q, .ofChars q)

/-- The aggregations that facets ask for: terms of the fields on which there are no conditions, the ranges of
each field that has any, and the different queries in the order in which they are met. -/
def requested (facets : Entries) (size : Int) : Keyed Aggregation :=
  ((facets.filter fun e => !e.2.truthy).map fun e => (e.1, .terms (.text (fieldOf e.1.display)) size)) ++
  (((facets.filter fun e => !(recordsIn e.2).isEmpty).map fun e => (e.1, .range e.1 ((recordsIn e.2).map bucketFor))) ++
  if (queryTexts facets).isEmpty then [] else
    [(.text queriesName, .filters (named (queryTexts facets).eraseDups))])

theorem rangeOf?_eq (c : Value) : rangeOf? c = (record? c).map rangeRecord := by
  cases c with
  | map told =>
      rw [rangeOf?, record?]
      split <;> rfl
  | _ => rfl

theorem ofField_eq (field conditions : Value) : ofField field conditions =
    ⟨if conditions.truthy then [] else [field],
      if (recordsIn conditions).isEmpty then [] else [(field, (recordsIn conditions).map rangeRecord)],
      (othersIn conditions).map fun c => fieldCondition field.chars (group c.operand)⟩ := by
  rw [recordsIn, othersIn, conditionsIn, ofField]
  split
  · have hr : (conditionsOf conditions).filterMap rangeOf? =
        ((conditionsOf conditions).filterMap record?).map rangeRecord := by
      rw [List.map_filterMap]
      exact List.filterMap_congr fun c _ => rangeOf?_eq c
    have hq : (conditionsOf conditions).filterMap (queryOf? field) =
        ((conditionsOf conditions).filter fun c => (record? c).isNone).map
          fun c => fieldCondition field.chars (group c.operand) := by
      rw [← List.filterMap_eq_map, List.filterMap_filter]
      refine List.filterMap_congr fun c _ => ?_
      rw [queryOf?, rangeOf?_eq]
      cases record? c <;> rfl
    simp only [← conditionsOf.eq_def, hr, hq, List.isEmpty_map]
  · rfl

theorem flatMap_ite {α β : Type} (p : α → Bool) (f : α → β) (xs : List α) :
    (xs.flatMap fun x => if p x then [] else [f x]) = (xs.filter fun x => !p x).map f := by
  induction xs with
  | nil => rfl
  | cons x xs ih =>
      rw [List.flatMap_cons, List.filter_cons, ih]
      cases p x <;> rfl

theorem ofEntries_parts (facets : Entries) : ofEntries facets =
    ⟨(facets.filter fun e => !e.2.truthy).map Prod.fst,
      (facets.filter fun e => !(recordsIn e.2).isEmpty).map fun e => (e.1, (recordsIn e.2).map rangeRecord),
      queryTexts facets⟩ := by
  rw [ofEntries_eq]
  simp only [ofField_eq]
  rw [flatMap_ite, flatMap_ite, queryTexts]

theorem sentBound_rangeRecord (told : Entries) {name : String} (hn : name = "from" ∨ name = "to") :
    sentBound (rangeRecord told) name = boundFor told name := by
  rw [sentBound, boundFor, field?_rangeRecord told hn]
  split <;> rfl

theorem sentBucket_rangeRecord (told : Entries) : sentBucket (rangeRecord told) = bucketFor told := by
  rw [sentBucket_eq, rangeName_rangeRecord, sentBound_rangeRecord told (.inl rfl), sentBound_rangeRecord told (.inr rfl)]
  rfl

theorem find?_named {queries : List (List Char)} {q : List Char} (h : q ∈ queries) :
    find? (named queries) (.ofChars q) = some (.ofChars q) := by
  have hk : .ofChars q ∈ keys (named queries) := List.mem_map_of_mem (f := Prod.fst) (List.mem_map_of_mem h)
  obtain ⟨v, hv⟩ := Option.isSome_iff_exists.mp ((has_text _ _).mpr hk)
  obtain ⟨p, -, he⟩ := List.mem_map.mp (mem_of_find?_text hv)
  obtain ⟨hp, rfl⟩ := Prod.mk.inj he
  exact hv.trans (congrArg some hp)

theorem apart_named {queries : List (List Char)} {q : List Char} (h : q ∉ queries) :
    ∀ e ∈ named queries, (Value.ofChars q).Apart e.1 := by
  intro e he
  obtain ⟨p, hp, rfl⟩ := List.mem_map.mp he
  refine Value.apart_text fun hs => h ?_
  rwa [String.ofList_inj.mp hs]

/-- A query that is asked for again leaves the first one where it is. -/
theorem queryNames_eq (queries : List (List Char)) : queryNames queries = named queries.eraseDups := by
  induction queries using List.reverseRecOn with
  | nil => rfl
  | append_singleton queries q ih =>
      have hstep : queryNames (queries ++ [q]) = Keyed.insert (queryNames queries) (.ofChars q) (.ofChars q) := by
        rw [queryNames, List.map_append, insertAll, List.foldl_append]
        rfl
      rw [hstep, ih, List.eraseDups_append]
      by_cases hq : q ∈ queries
      · have hnone : [q].removeAll queries = [] := by simp [List.removeAll, hq]
        rw [hnone, List.eraseDups_nil, List.append_nil]
        exact insert_of_find? (find?_named (List.mem_eraseDups.mpr hq))
      · have hone : [q].removeAll queries = [q] := by simp [List.removeAll, hq]
        rw [hone, insert_of_apart (apart_named fun hm => hq (List.mem_eraseDups.mp hm)), named, named, List.map_append]
        rfl

/-- Facets as they are told: a dictionary of fields, of which none has the name of the queries. -/
structure NamesFacets (facets : Entries) : Prop where
  distinct : facets.Distinct
  texts : TextKeys facets
  apart : ∀ e ∈ facets, e.1 ≠ .text queriesName

theorem eq_of_key (h : NamesFacets facets) {d e : Value × Value} (hd : d ∈ facets) (he : e ∈ facets) (hk : d.1 = e.1) :
    d = e := by
  obtain ⟨name, hn⟩ := h.texts d hd
  obtain ⟨key, v⟩ := d
  obtain ⟨other, w⟩ := e
  dsimp only at hn hk
  subst hk hn
  rw [Entries.eq_of_mem h.distinct hd he]

theorem nodup_keys (h : NamesFacets facets) : (keys facets).Nodup := by
  refine List.pairwise_map.mpr (h.distinct.imp_of_mem ?_)
  intro d e hd _ hs hk
  obtain ⟨name, hn⟩ := h.texts d hd
  rw [← hk, hn, Value.same_text_self] at hs
  cases hs

theorem recordsIn_of_not_truthy {conditions : Value} (h : conditions.truthy = false) : recordsIn conditions = [] := by
  rw [recordsIn, conditionsIn, h]
  rfl

theorem keys_requested (facets : Entries) (size : Int) : keys (requested facets size) =
    keys (facets.filter fun e => !e.2.truthy) ++ (keys (facets.filter fun e => !(recordsIn e.2).isEmpty) ++
      if (queryTexts facets).isEmpty then [] else [.text queriesName]) := by
  simp only [requested, keys, List.map_append, List.map_map]
  split <;> rfl

theorem mem_keys_filter {p : Value × Value → Bool} {key : Value} (h : key ∈ keys (facets.filter p)) :
    ∃ e ∈ facets, p e = true ∧ e.1 = key := by
  obtain ⟨e, he, hk⟩ := List.mem_map.mp h
  exact ⟨e, (List.mem_filter.mp he).1, (List.mem_filter.mp he).2, hk⟩

theorem nodup_keys_requested (h : NamesFacets facets) (size : Int) : (keys (requested facets size)).Nodup := by
  have hfiltered (p : Value × Value → Bool) : (keys (facets.filter p)).Nodup :=
    (nodup_keys h).sublist (List.filter_sublist.map Prod.fst)
  have hqueries (p : Value × Value → Bool) : ∀ key ∈ keys (facets.filter p),
      key ∉ if (queryTexts facets).isEmpty then [] else [.text queriesName] := by
    intro key hk hm
    obtain ⟨e, he, -, rfl⟩ := mem_keys_filter hk
    split at hm
    · cases hm
    · exact h.apart e he (List.mem_singleton.mp hm)
  -- ranges are conditions, so that a field with any of them is not counted by its values
  have hranges : ∀ key ∈ keys (facets.filter fun e => !e.2.truthy),
      key ∉ keys (facets.filter fun e => !(recordsIn e.2).isEmpty) := by
    intro key hc hr
    obtain ⟨d, hd, hfalse, rfl⟩ := mem_keys_filter hc
    obtain ⟨e, he, hsome, hk⟩ := mem_keys_filter hr
    rw [eq_of_key h he hd hk, recordsIn_of_not_truthy (by simpa using hfalse)] at hsome
    cases hsome
  have hlast : (if (queryTexts facets).isEmpty then [] else [Value.text queriesName]).Nodup := by
    split
    · exact List.nodup_nil
    · exact List.nodup_singleton _
  rw [keys_requested]
  refine List.Nodup.append (hfiltered _) (List.Nodup.append (hfiltered _) hlast (hqueries _)) ?_
  intro key hc hm
  rcases List.mem_append.mp hm with hr | hq
  · exact hranges key hc hr
  · exact hqueries _ key hc hq

theorem exists_text_of_mem_keys_requested (h : NamesFacets facets) {key : Value} (hk : key ∈ keys (requested facets size)) :
    ∃ name, key = .text name := by
  rw [keys_requested, List.mem_append, List.mem_append] at hk
  rcases hk with hk | hk | hk
  · obtain ⟨e, he, -, rfl⟩ := mem_keys_filter hk
    exact h.texts e he
  · obtain ⟨e, he, -, rfl⟩ := mem_keys_filter hk
    exact h.texts e he
  · split at hk
    · cases hk
    · exact ⟨_, List.mem_singleton.mp hk⟩

theorem plan_ofEntries (h : NamesFacets facets) (size : Int) :
    plan size (FacetRequest.ofEntries facets) [] = requested facets size := by
  have hcounted : (facets.filter fun e => !e.2.truthy).map (fun e => (e.1, Aggregation.terms (termsTarget e.1) size)) =
      (facets.filter fun e => !e.2.truthy).map fun e => (e.1, .terms (.text (fieldOf e.1.display)) size) := by
    refine List.map_congr_left fun e he => ?_
    obtain ⟨name, hn⟩ := h.texts e (List.mem_filter.mp he).1
    rw [hn, termsTarget, Value.display_text]
  simp only [plan, ofEntries_parts, List.map_map, Function.comp_def, List.map_nil, List.append_nil, hcounted, requested,
    queryNames_eq, sentBucket_rangeRecord]

/-- The engine is asked for what the facets ask for: each field without conditions, each range of a field in its
order, each different query once, and nothing else. -/
theorem facet_requests_arrive (settings : Settings) (h : NamesFacets facets) :
    build settings (FacetRequest.ofValue (.map facets)).toValue (.list []) =
        requested facets <$> (settings .facetLimit).toInt ∧
      ∀ size, (keys (requested facets size)).Nodup := by
  refine ⟨?_, nodup_keys_requested h⟩
  cases hs : (settings .facetLimit).toInt with
  | error e =>
      rw [build, hs]
      rfl
  | ok size =>
      have hp : (FacetRequest.ofEntries facets).Proper := FacetRequest.proper_ofEntries h.distinct h.texts
      have hfiled : insertAll [] (requested facets size) = requested facets size :=
        insertAll_eq_append _
          (separate_of_nodup (fun _ hk => exists_text_of_mem_keys_requested h hk) (nodup_keys_requested h size))
      rw [FacetRequest.ofValue, build_eq hp hs rfl, plan_ofEntries h, hfiled]
      rfl

def upToTen : Entries := [(.text "to", .int 10)]

def fromTen : Entries := [(.text "from", .text " 10 "), (.text "to", .null)]

def pricesAsked : Value := .tuple [.map upToTen, .text "5", .map fromTen]

/-- Facets of all kinds: a field of which nothing is asked, one on which two ranges and a text are asked for, one with a
text that comes again, and a single category. -/
def mixedFacets : Entries :=
  [(.text "color", .list []), (.text "price", pricesAsked), (.text "size", .list [.text "m", .text "big one", .text "m"]),
    (.text "categories", .int 5)]

theorem bucketFor_upToTen : bucketFor upToTen = [(.text "key", .text "*-10"), (.text "to", .int 10)] := by
  have hfrom : upToTen.field "from" = .null := by
    simp [upToTen, Entries.field, Entries.field?, find?, Value.same_text]
  have hto : upToTen.field "to" = .int 10 := by
    simp [upToTen, Entries.field, Entries.field?, find?, Value.same_text]
  rw [bucketFor, boundName, boundName, boundFor, boundFor, boundText, boundText, hfrom, hto]
  rfl

theorem bucketFor_fromTen : bucketFor fromTen = [(.text "key", .text "10-*"), (.text "from", .int 10)] := by
  have hfrom : fromTen.field "from" = .text " 10 " := by
    simp [fromTen, Entries.field, Entries.field?, find?, Value.same_text]
  have hto : fromTen.field "to" = .null := by
    simp [fromTen, Entries.field, Entries.field?, find?, Value.same_text]
  rw [bucketFor, boundName, boundName, boundFor, boundFor, boundText, boundText, hfrom, hto]
  rfl

theorem conditionsIn_pricesAsked : conditionsIn pricesAsked = [.map upToTen, .text "5", .map fromTen] := rfl

theorem record?_upToTen : record? (.map upToTen) = some upToTen := by
  have h : Criterion.isRangeRecord upToTen = true := by
    simp [Criterion.isRangeRecord, upToTen, Entries.hasField, has, find?, Value.same_text]
  rw [record?, if_pos h]

theorem record?_fromTen : record? (.map fromTen) = some fromTen := by
  have h : Criterion.isRangeRecord fromTen = true := by
    simp [Criterion.isRangeRecord, fromTen, Entries.hasField, has, find?, Value.same_text]
  rw [record?, if_pos h]

theorem record?_text (t : String) : record? (.text t) = none := rfl

theorem recordsIn_pricesAsked : recordsIn pricesAsked = [upToTen, fromTen] := by
  rw [recordsIn, conditionsIn_pricesAsked, List.filterMap_cons_some record?_upToTen, List.filterMap_cons_none (record?_text _),
    List.filterMap_cons_some record?_fromTen, List.filterMap_nil]

theorem queryTexts_mixedFacets : queryTexts mixedFacets =
    ["price:5".toList, "size:m".toList, "size:(big one)".toList, "size:m".toList,
      "(categories:5 OR show_in_categories:5)".toList] := by
  have hprice : othersIn pricesAsked = [.text "5"] := by
    simp [othersIn, conditionsIn_pricesAsked, List.filter_cons, record?_upToTen, record?_fromTen, record?_text]
  have hsize : othersIn (.list [.text "m", .text "big one", .text "m"]) = [.text "m", .text "big one", .text "m"] := rfl
  have hcolor : othersIn (.list []) = [] := rfl
  have hcategory : othersIn (.int 5) = [.int 5] := rfl
  have hid : (Value.int 5).operand = ['5'] := by cbv
  simp only [queryTexts, mixedFacets, List.flatMap_cons, List.flatMap_nil, hcolor, hprice, hsize, hcategory, List.map_cons,
    List.map_nil, hid]
  decide

theorem mixedFacets_are_requested :
    NamesFacets mixedFacets ∧ build Settings.initial (FacetRequest.ofValue (.map mixedFacets)).toValue (.list []) =
      .ok [(.text "color", .terms (.text "color.keyword") 100),
        (.text "price", .range (.text "price") [
          [(.text "key", .text "*-10"), (.text "to", .int 10)], [(.text "key", .text "10-*"), (.text "from", .int 10)]]),
        (.text "_queries", .filters (named ["price:5".toList, "size:m".toList, "size:(big one)".toList,
          "(categories:5 OR show_in_categories:5)".toList]))] := by
  have h : NamesFacets mixedFacets := by
    refine ⟨?_, ?_, ?_⟩
    · rw [Entries.Distinct]
      simp [mixedFacets, Value.same]
    · simp [TextKeys, mixedFacets]
    · simp [mixedFacets, queriesName]
  have hcounted : (mixedFacets.filter fun e => !e.2.truthy) = [(.text "color", .list [])] := rfl
  have hranged : (mixedFacets.filter fun e => !(recordsIn e.2).isEmpty) = [(.text "price", pricesAsked)] := by
    have hcolor : recordsIn (.list []) = [] := rfl
    have hsize : recordsIn (.list [.text "m", .text "big one", .text "m"]) = [] := rfl
    have hcategory : recordsIn (.int 5) = [] := rfl
    simp [mixedFacets, recordsIn_pricesAsked, hcolor, hsize, hcategory]
  refine ⟨h, (facet_requests_arrive Settings.initial h).1.trans ?_⟩
  have hsize : (Settings.initial .facetLimit).toInt = .ok 100 := rfl
  rw [hsize]
  refine congrArg Except.ok ?_
  rw [requested, hcounted, hranged, queryTexts_mixedFacets]
  simp only [List.map_cons, List.map_nil, recordsIn_pricesAsked, bucketFor_upToTen, bucketFor_fromTen]
  rfl

end CatalogSearch.Engine
