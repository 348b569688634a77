import CatalogSearch.Proofs.Engine.Labels
import CatalogSearch.Proofs.Engine.Records
import Mathlib.Data.List.Pairwise

namespace CatalogSearch.Engine

open Query Query.FacetRequest Keyed Aggregation FacetRecord

namespace Summary

variable {s : Summary} {heading : String} {key count : Value}

def addAll (s : Summary) (xs : List (Value × Value × Value)) : Summary := xs.foldl (fun s x => s.add x.1 x.2.1 x.2.2) s

def Shows (s : Summary) (heading : String) (key count : Value) : Prop :=
  ∃ es, s.find? (.text heading) = some es ∧ es.find? key = some count

def Clear (heading : String) (key : Value) (s : Summary) : Prop :=
  ∀ es, s.find? (.text heading) = some es → ∀ e ∈ es, e.1 = key ∨ key.Apart e.1

theorem find?_add_self (s : Summary) (heading : String) (key count : Value) : (s.add (.text heading) key count).find?
    (.text heading) = some (Keyed.insert ((s.find? (.text heading)).getD []) key count) :=
  Keyed.find?_insert_self s heading _

theorem find?_add_of_ne (s : Summary) {other : String} (h : heading ≠ other) (key count : Value) :
    (s.add (.text other) key count).find? (.text heading) = s.find? (.text heading) :=
  Keyed.find?_insert_of_ne s _ (Value.same_text_of_ne h)

theorem clear_add (hs : Clear heading key s) {other : String} {k : Value} (hk : other = heading → k = key ∨ key.Apart k)
    (c : Value) : Clear heading key (s.add (.text other) k c) := by
  intro es hes e he
  by_cases h : heading = other
  · subst h
    rw [find?_add_self, Option.some.injEq] at hes
    subst hes
    rcases key_of_mem_insert he with he | he
    · cases hf : s.find? (.text heading) with
      | none => rw [hf] at he; cases he
      | some old =>
          rw [hf] at he
          obtain ⟨d, hd, hde⟩ := List.mem_map.mp he
          rw [← hde]
          exact hs old hf d hd
    · rw [he]
      exact hk rfl
  · rw [find?_add_of_ne s h] at hes
    exact hs es hes e he

theorem shows_add_self (s : Summary) (heading : String) (hk : key.same key = true) (count : Value) :
    (s.add (.text heading) key count).Shows heading key count :=
  ⟨_, find?_add_self s heading key count, find?_insert_same _ hk count⟩

theorem shows_add (hs : Clear heading key s) (h : s.Shows heading key count) {other : String} {k : Value}
    (hk : other = heading → key.Apart k) (c : Value) : (s.add (.text other) k c).Shows heading key count := by
  obtain ⟨es, hes, hc⟩ := h
  by_cases hne : heading = other
  · subst hne
    refine ⟨_, find?_add_self s heading k c, ?_⟩
    rw [hes, Option.getD_some, find?_insert_apart (hs es hes) (hk rfl), hc]
  · exact ⟨es, by rw [find?_add_of_ne s hne, hes], hc⟩

/-- A count that is filed is shown, unless it shares its key with another count under its heading. -/
theorem shows_addAll {xs : List (Value × Value × Value)} (ht : ∀ x ∈ xs, ∃ name, x.1 = .text name)
    (hm : (.text heading, key, count) ∈ xs) (hk : key.same key = true)
    (hu : ∀ k c, (.text heading, k, c) ∈ xs → (k = key ∧ c = count) ∨ key.Apart k) :
    (addAll [] xs).Shows heading key count := by
  refine Folds.foldl_reaches_within hm (Clear heading key) (Shows · heading key count) ?_ ?_ ?_ ?_
  · rintro s hs ⟨name, k, c⟩ hx
    obtain ⟨other, rfl⟩ := ht _ hx
    refine clear_add hs ?_ c
    rintro rfl
    exact (hu k c hx).imp_left (·.1)
  · exact fun s _ => shows_add_self s heading hk count
  · rintro s hs ⟨name, k, c⟩ hx h
    obtain ⟨other, rfl⟩ := ht _ hx
    by_cases he : other = heading ∧ k = key
    · obtain ⟨rfl, rfl⟩ := he
      obtain rfl : c = count := ((hu k c hx).resolve_right fun ha => by rw [ha.1] at hk; cases hk).2
      exact shows_add_self s other hk c
    · refine shows_add hs h ?_ c
      rintro rfl
      exact (hu k c hx).resolve_left fun hk => he ⟨rfl, hk.1⟩
  · intro es hes
    cases hes

section

variable {xs : Keyed Value}

def under (heading : String) (xs : Keyed Value) : List (Value × Value × Value) := xs.map fun x => (.text heading, x)

theorem find?_under (s : Summary) (hne : xs ≠ []) : (s.addAll (under heading xs)).find? (.text heading) =
    some (insertAll ((s.find? (.text heading)).getD []) xs) := by
  induction xs generalizing s with
  | nil => exact absurd rfl hne
  | cons x xs ih =>
      rw [under, List.map_cons, addAll, List.foldl_cons, ← addAll, ← under]
      by_cases hxs : xs = []
      · subst hxs
        exact find?_add_self s heading x.1 x.2
      · rw [ih _ hxs, find?_add_self]
        rfl

theorem find?_under_of_ne (s : Summary) {other : String} (h : other ≠ heading) :
    (s.addAll (under heading xs)).find? (.text other) = s.find? (.text other) := by
  induction xs generalizing s with
  | nil => rfl
  | cons x xs ih =>
      rw [under, List.map_cons, addAll, List.foldl_cons, ← addAll, ← under, ih]
      exact find?_add_of_ne s h x.1 x.2

theorem shows_under (ht : TextKeys xs) (hu : ∀ name, OnceUnder xs name) {other : String} :
    (addAll [] (under heading xs)).Shows other key count ↔ other = heading ∧ (key, count) ∈ xs := by
  rw [← find?_insertAll_eq_some ht hu, Shows]
  by_cases hh : other = heading
  · subst hh
    by_cases hne : xs = []
    · subst hne
      constructor
      · rintro ⟨es, hes, -⟩
        cases hes
      · rintro ⟨-, h⟩
        cases h
    · rw [find?_under _ hne]
      simp [Keyed.find?]
  · rw [find?_under_of_ne _ hh]
    simp [hh, Keyed.find?]

theorem shows_of_onceUnder {name : String} (hu : OnceUnder xs name) (hm : (.text name, count) ∈ xs) (s : Summary) :
    (s.addAll (under heading xs)).Shows heading (.text name) count := by
  refine ⟨_, find?_under s (List.ne_nil_of_mem hm), ?_⟩
  rw [find?_insertAll, (hu.find?_perm xs.reverse_perm), hu.find?_eq_some.mpr hm]
  rfl

end

end Summary

namespace FacetRecord

variable {r : FacetRequest} {measured : List Value} {replies : Entries} {records : Keyed FacetRecord}

/-- The measures of a field as they are shown, of which the engine names some otherwise. -/
def statistical (reply : Entries) : Value := .ofFields [
  ("_type", .text "statistical"), ("count", reply.field "count" (.int 0)), ("total", reply.field "sum"),
  ("min", reply.field "min"), ("max", reply.field "max"), ("mean", reply.field "avg"),
  ("sum_of_squares", reply.field "sum_of_squares"), ("variance", reply.field "variance"),
  ("std_deviation", reply.field "std_deviation")]

def filed (name : Value) : FacetRecord → List (Value × Value × Value)
  | .query count => ((FacetKind.category? name.chars).map fun id => (.text categoryField, .ofChars id, count)).toList
  | .statistics measures => [(.text "stats", name, (FacetRecord.statistics measures).toValue)]
  | .ranges counts => counts.map fun c => (name, Summary.rangeLabel c.lowerText c.upperText, c.count)
  | .terms _ counts => counts.map fun c => (name, c.1, c.2)

theorem ofRecord?_ofFields (name : String) (fields : List (String × Value)) :
    FacetKind.ofRecord? (.text name) (.ofFields fields) = .ok (
      if (fields.lookup "terms").isSome then some .terms
      else if ((fields.lookup "_type").getD .null).same (.text "statistical") then some .statistics
      else if (fields.lookup "ranges").isSome then some .ranges
      else if (FacetKind.category? name.toList).isSome then some .category else none) := by
  simp only [FacetKind.ofRecord?, Value.ofFields, Entries.hasField_eq, Entries.field, Entries.field?_ofFields]
  split
  · rfl
  · split
    · rfl
    · split <;> rfl

theorem ofTerms_eq (s : Summary) (name other : Value) {counts : List (Value × Value)}
    (hk : ∀ c ∈ counts, c.1.isKey = true) :
    s.ofTerms name (FacetRecord.terms other counts).toValue = .ok (s.addAll ((FacetRecord.terms other counts).filed name)) := by
  have ht : (FacetRecord.terms other counts).toValue.require "terms" =
      .ok (.list (counts.map fun t => .ofFields [("term", t.1), ("count", t.2)])) := Entries.require_ofFields rfl
  rw [Summary.ofTerms, ht, Folds.ok_bind, Value.items_list, Folds.ok_bind, List.foldlM_map, filed, Summary.addAll,
    List.foldl_map]
  refine (Folds.foldlM_ok (fun _ => True) ?_ trivial).1
  intro s _ c hc
  rw [Entries.require_ofFields (v := c.2) rfl, Folds.ok_bind, Entries.require_ofFields (v := c.1) rfl, Folds.ok_bind, Value.toKey,
    if_pos (hk c hc)]
  exact ⟨rfl, trivial⟩

theorem ofRanges_eq (s : Summary) (name : Value) (counts : List RangeCount) :
    s.ofRanges name (FacetRecord.ranges counts).toValue = .ok (s.addAll ((FacetRecord.ranges counts).filed name)) := by
  have hr : (FacetRecord.ranges counts).toValue.require "ranges" = .ok (.list (counts.map RangeCount.toValue)) :=
    Entries.require_ofFields rfl
  rw [Summary.ofRanges, hr, Folds.ok_bind, Value.items_list, Folds.ok_bind, List.foldlM_map, filed, Summary.addAll,
    List.foldl_map]
  refine (Folds.foldlM_ok (fun _ => True) ?_ trivial).1
  intro s _ c _
  have hl : (RangeCount.toValue c).get "from_str" (.text "") = .ok c.lowerText := Entries.get_ofFields _ _ _
  have hu : (RangeCount.toValue c).get "to_str" (.text "") = .ok c.upperText := Entries.get_ofFields _ _ _
  have hc : (RangeCount.toValue c).require "total_count" = .ok c.count := Entries.require_ofFields rfl
  rw [hl, Folds.ok_bind, hu, Folds.ok_bind, hc]
  exact ⟨rfl, trivial⟩

theorem ofRecord_statistics (s : Summary) (field : String) (reply : Entries) :
    s.ofRecord (.text field) (FacetRecord.statistics (measuresOf reply)).toValue =
      .ok (s.add (.text "stats") (.text field) (statistical reply)) := by
  have hk : FacetKind.ofRecord? (.text field) (FacetRecord.statistics (measuresOf reply)).toValue =
      .ok (some .statistics) := by
    refine (ofRecord?_ofFields _ _).trans ?_
    simp [measuresOf, measures, List.lookup_cons, Value.same_text]
  rw [Summary.ofRecord, hk]
  rfl

theorem ofRecord_ranges (s : Summary) (name : String) (counts : List RangeCount) :
    s.ofRecord (.text name) (FacetRecord.ranges counts).toValue =
      .ok (s.addAll ((FacetRecord.ranges counts).filed (.text name))) := by
  have hk : FacetKind.ofRecord? (.text name) (FacetRecord.ranges counts).toValue = .ok (some .ranges) := by
    refine (ofRecord?_ofFields name _).trans ?_
    simp [List.lookup_cons, Value.same_text]
  rw [Summary.ofRecord, hk]
  exact ofRanges_eq s _ _

theorem ofRecord?_query (q : List Char) (count : Value) :
    FacetKind.ofRecord? (.ofChars q) (FacetRecord.query count).toValue =
      .ok (if (FacetKind.category? q).isSome then some .category else none) := by
  have h := ofRecord?_ofFields (String.ofList q) [("_type", .text "query"), ("count", count)]
  rw [String.toList_ofList] at h
  refine h.trans ?_
  simp [List.lookup_cons, Value.same_text]

theorem filed_query (q : List Char) (count : Value) : (FacetRecord.query count).filed (.ofChars q) =
    ((FacetKind.category? q).map fun id => (.text categoryField, .ofChars id, count)).toList := by
  rw [filed, Value.chars_ofChars]

theorem ofRecord_query (s : Summary) (q : List Char) (count : Value) :
    s.ofRecord (.ofChars q) (FacetRecord.query count).toValue =
      .ok (((FacetKind.category? q).map fun id => s.add (.text categoryField) (.ofChars id) count).getD s) := by
  rw [Summary.ofRecord, ofRecord?_query, Folds.ok_bind, Value.chars_ofChars]
  cases FacetKind.category? q with
  | none => rfl
  | some id =>
      have hcount : (FacetRecord.query count).toValue.get "count" (.int 0) = .ok count := Entries.get_ofFields _ _ _
      simp only [Option.isSome_some, if_true, hcount]
      rfl

theorem ofRecord_eq {name : Value} {record : FacetRecord} (h : Recorded r measured replies name record) (s : Summary) :
    s.ofRecord name record.toValue = .ok (s.addAll (record.filed name)) := by
  cases h with
  | @terms name reply buckets other hf he ht =>
      have hk : FacetKind.ofRecord? (.text name)
          (FacetRecord.terms other (buckets.map fun b => (termOf b, tally b))).toValue = .ok (some .terms) :=
        ofRecord?_ofFields name _
      rw [Summary.ofRecord, hk]
      refine ofTerms_eq s _ other ?_
      intro c hc
      obtain ⟨b, hb, rfl⟩ := List.mem_map.mp hc
      exact (ht.keys b hb).1
  | ranges found => exact ofRecord_ranges s _ _
  | @query q count hq =>
      rw [ofRecord_query, filed_query]
      cases FacetKind.category? q <;> rfl
  | statistics => exact ofRecord_statistics s _ _

def summaryOf (records : Keyed FacetRecord) : Summary := Summary.addAll [] (records.flatMap fun x => x.2.filed x.1)

theorem ofRecords_eq (h : ∀ x ∈ records, Recorded r measured replies x.1 x.2) :
    Summary.ofRecords (toValues records) = .ok (summaryOf records) := by
  rw [Summary.ofRecords, toValues, Value.orElse_map, Value.entries_map, Folds.ok_bind, mapValues, List.foldlM_map,
    summaryOf, Summary.addAll, List.foldl_flatMap]
  refine (Folds.foldlM_ok (fun _ => True) ?_ trivial).1
  intro s _ x hx
  exact ⟨ofRecord_eq (h x hx) s, trivial⟩

theorem summary_of_counted_and_measured {name : String} {counts reply : Entries} {record : FacetRecord}
    (hc : Decodes r.rangeEntries (.text name, .map counts) [(.text name, record)]) : ∃ records,
    decodeAll (.map [(.text name, .map counts), (.text (statsMark ++ name), .map reply)]) r.toValue = .ok records ∧
      Summary.ofRecords (toValues records) = .ok [(.text "stats", [(.text name, statistical reply)])] := by
  have hmeasures : Decodes r.rangeEntries (.text (statsMark ++ name), .map reply)
      [(.text name, .statistics (measuresOf reply))] := decodes_stats name
  refine ⟨[(.text name, .statistics (measuresOf reply))], ?_, ?_⟩
  · rw [decodeAll, r.get_toValue.2.1, Folds.ok_bind, Value.orElse_map, Value.entries_map, Folds.ok_bind, List.foldlM_cons,
      hc, Folds.ok_bind, List.foldlM_cons, hmeasures, Folds.ok_bind, List.foldlM_nil]
    simp only [insertAll, List.foldl_cons, List.foldl_nil, Keyed.insert, Value.same_text_self, if_true]
    rfl
  · rw [Summary.ofRecords, toValues, Value.orElse_map, Value.entries_map, Folds.ok_bind, mapValues, List.map_singleton,
      List.foldlM_cons, ofRecord_statistics]
    rfl

inductive Filed (r : FacetRequest) (measured : List Value) (replies : Entries) : String → Value → Value → Prop where
  | term {name : String} {reply : Entries} {buckets : List Entries} {b : Entries} : .text name ∈ r.fields →
      (.text name, .map reply) ∈ replies → TermsIn reply buckets → b ∈ buckets →
      Filed r measured replies name (termOf b) (tally b)
  | range {name : String} {reply : Entries} {asked : List Entries} {range bucket : Entries} :
      (.text name, asked) ∈ r.ranges → (.text name, .map reply) ∈ replies → range ∈ asked →
      Tells reply (rangeName range) bucket → Filed r measured replies name (label range) (tally bucket)
  | category {q id : List Char} (count : Value) : q ∈ r.queries → FacetKind.category? q = some id →
      Filed r measured replies categoryField (.ofChars id) count
  | measure {field : Value} {reply : Entries} : field ∈ measured →
      (.text (statsMark ++ field.display), .map reply) ∈ replies →
      Filed r measured replies "stats" (.text field.display) (statistical reply)

theorem filed_of_recorded {name : Value} {record : FacetRecord} (h : Recorded r measured replies name record)
    {x : Value × Value × Value} (hx : x ∈ record.filed name) :
    ∃ heading, x.1 = .text heading ∧ Filed r measured replies heading x.2.1 x.2.2 := by
  cases h with
  | terms other hf he ht =>
      obtain ⟨c, hc, rfl⟩ := List.mem_map.mp hx
      obtain ⟨b, hb, rfl⟩ := List.mem_map.mp hc
      exact ⟨_, rfl, .term hf he ht hb⟩
  | ranges found hr he ht hf =>
      obtain ⟨c, hc, rfl⟩ := List.mem_map.mp hx
      obtain ⟨range, hm, rfl⟩ := List.mem_map.mp hc
      exact ⟨_, rfl, .range hr he hm (hf range hm)⟩
  | @query q count hq =>
      rw [filed_query, Option.mem_toList, Option.map_eq_some_iff] at hx
      obtain ⟨id, hc, rfl⟩ := hx
      exact ⟨_, rfl, .category count hq hc⟩
  | statistics hf he =>
      obtain rfl := List.mem_singleton.mp hx
      exact ⟨_, rfl, .measure hf he⟩

section

variable {name : String} {reply : Entries} {k c : Value}

theorem agrees_with_term (hp : r.Proper) (hu : Unmixed r measured) (hd : replies.Distinct) {buckets : List Entries}
    {b : Entries} (hf : .text name ∈ r.fields) (he : (.text name, .map reply) ∈ replies) (ht : TermsIn reply buckets)
    (hb : b ∈ buckets) (h : Filed r measured replies name k c) :
    (k = termOf b ∧ c = tally b) ∨ (termOf b).Apart k := by
  cases h with
  | @term _ other others b' hf' he' ht' hb' =>
      obtain rfl := Value.map.inj (Entries.eq_of_mem hd he he')
      obtain rfl := buckets_inj ht.listed ht'.listed
      by_cases heq : b = b'
      · exact .inl ⟨by rw [heq], by rw [heq]⟩
      · have hsymm : Std.Symm fun a b : Entries => (termOf a).Apart (termOf b) := ⟨fun _ _ h => h.symm⟩
        exact .inr (ht.apart.forall hb hb' heq)
  | range hr => exact absurd rfl (hp.apart _ hf _ hr)
  | category count hq hc =>
      rw [hu.categories hf _ hq] at hc
      cases hc
  | measure hm => exact absurd (List.mem_append_left _ hf) (hu.heading (List.ne_nil_of_mem hm))

theorem agrees_with_range (hp : r.Proper) (hu : Unmixed r measured) (hd : replies.Distinct) {asked : List Entries}
    {range bucket : Entries} (hr : (.text name, asked) ∈ r.ranges) (he : (.text name, .map reply) ∈ replies)
    (ht : RangesIn reply (asked.map sentBucket)) (hm : range ∈ asked) (hb : Tells reply (rangeName range) bucket)
    (h : Filed r measured replies name k c) : (k = label range ∧ c = tally bucket) ∨ (label range).Apart k := by
  obtain ⟨told, rfl⟩ := hp.prepared _ hr range hm
  cases h with
  | term hf => exact absurd rfl (hp.apart _ hf _ hr)
  | @range _ other asked' range' bucket' hr' he' hm' hb' =>
      obtain rfl := Value.map.inj (Entries.eq_of_mem hd he he')
      have hasked : (Value.text name, asked) = (.text name, asked') := hp.once _ hr _ hr' rfl
      obtain ⟨-, rfl⟩ := Prod.mk.inj hasked
      obtain ⟨told', rfl⟩ := hp.prepared _ hr range' hm'
      by_cases hl : label (rangeRecord told') = label (rangeRecord told)
      · rw [rangeName_of_label hl] at hb'
        exact .inl ⟨hl, ht.once _ _ _ hb' hb⟩
      · rw [label_rangeRecord, label_rangeRecord] at hl ⊢
        exact .inr (Value.apart_text fun hs => hl (congrArg Value.text hs.symm))
  | category count hq hc => exact .inr (category_apart_label hc told)
  | measure hm => exact absurd (counted_of_ranges hr) (hu.heading (List.ne_nil_of_mem hm))

theorem agrees_with_measure (hu : Unmixed r measured) (hd : replies.Distinct) {field : Value} (hf : field ∈ measured)
    (he : (.text (statsMark ++ field.display), .map reply) ∈ replies) (h : Filed r measured replies "stats" k c) :
    (k = .text field.display ∧ c = statistical reply) ∨ (Value.text field.display).Apart k := by
  have hheading := hu.heading (List.ne_nil_of_mem hf)
  generalize hn : "stats" = heading at h hheading
  cases h with
  | term hf' => exact absurd (List.mem_append_left _ hf') hheading
  | range hr => exact absurd (counted_of_ranges hr) hheading
  | category => exact absurd hn (by decide)
  | @measure other reply' hf' he' =>
      by_cases hs : other.display = field.display
      · rw [hs] at he' ⊢
        obtain rfl := Value.map.inj (Entries.eq_of_mem hd he he')
        exact .inl ⟨rfl, rfl⟩
      · exact .inr (Value.apart_text (Ne.symm hs))

end

theorem recorded_of_counted (hu : Unmixed r measured) {name : String} (hc : .text name ∈ counted r)
    {record : FacetRecord} (h : Recorded r measured replies (.text name) record) :
    (∃ other reply buckets, .text name ∈ r.fields ∧ (.text name, .map reply) ∈ replies ∧ TermsIn reply buckets ∧
      record = .terms other (buckets.map fun b => (termOf b, tally b))) ∨
    ∃ reply asked, ∃ found : Entries → Entries, (.text name, asked) ∈ r.ranges ∧ (.text name, .map reply) ∈ replies ∧
      RangesIn reply (asked.map sentBucket) ∧ (∀ range ∈ asked, Tells reply (rangeName range) (found range)) ∧
      record = .ranges (asked.map fun range => countIn (found range) range) := by
  generalize hk : Value.text name = key at h hc
  cases h with
  | terms other hf he ht =>
      cases hk
      exact .inl ⟨other, _, _, hf, he, ht, rfl⟩
  | ranges found hr he ht hf =>
      cases hk
      exact .inr ⟨_, _, found, hr, he, ht, hf, rfl⟩
  | query count hq => exact absurd hc (hu.queries _ hq)
  | statistics hf => exact absurd hc (hu.measures _ hf).1

theorem recorded_of_measured (hu : Unmixed r measured) {field : Value} (hm : field ∈ measured) {record : FacetRecord}
    (h : Recorded r measured replies (.text field.display) record) :
    ∃ reply, (.text (statsMark ++ field.display), .map reply) ∈ replies ∧ record = .statistics (measuresOf reply) := by
  obtain ⟨hc, hq⟩ := hu.measures field hm
  generalize hk : Value.text field.display = key at h hc
  cases h with
  | terms other hf => exact absurd (List.mem_append_left _ hf) hc
  | ranges found hr => exact absurd (counted_of_ranges hr) hc
  | @query q count hq' =>
      have hs : field.display = String.ofList q := Value.text.inj hk
      rw [hs, String.toList_ofList] at hq
      exact absurd hq' hq
  | statistics hf he =>
      rw [Value.text.inj hk]
      exact ⟨_, he, rfl⟩

theorem shows_of_recorded (hr : ∀ x ∈ records, Recorded r measured replies x.1 x.2) {heading : String} {key count : Value}
    {x : Value × FacetRecord} (hx : x ∈ records) (hm : (.text heading, key, count) ∈ x.2.filed x.1)
    (hk : key.same key = true)
    (hu : ∀ k c, Filed r measured replies heading k c → (k = key ∧ c = count) ∨ key.Apart k) :
    (summaryOf records).Shows heading key count := by
  have hfiled : ∀ y ∈ records.flatMap fun x => x.2.filed x.1, ∃ name, y.1 = .text name ∧
      Filed r measured replies name y.2.1 y.2.2 := by
    intro y hy
    obtain ⟨z, hz, hy⟩ := List.mem_flatMap.mp hy
    exact filed_of_recorded (hr z hz) hy
  refine Summary.shows_addAll ?_ (List.mem_flatMap.mpr ⟨x, hx, hm⟩) hk ?_
  · intro y hy
    obtain ⟨name, hn, -⟩ := hfiled y hy
    exact ⟨name, hn⟩
  · intro k c hy
    obtain ⟨name, hn, hf⟩ := hfiled _ hy
    cases hn
    exact hu k c hf

end FacetRecord

/-- A summary has all that was asked for: the terms of a field with their counts, the ranges in written
form with the counts of their buckets, and the measures of a field as the engine took them. -/
structure Returned (asked : Entries) (measured : List Value) (replies : Entries) (s : Summary) : Prop where
  terms : ∀ name conditions, (.text name, conditions) ∈ asked → conditions.truthy = false →
    ∃ reply buckets, (.text name, .map reply) ∈ replies ∧ TermsIn reply buckets ∧
      ∀ b ∈ buckets, s.Shows name (termOf b) (tally b)
  ranges : ∀ name conditions, (.text name, conditions) ∈ asked → conditions.truthy = true →
    ∀ condition ∈ conditionsOf conditions, ∀ range, rangeOf? condition = some range →
      ∃ reply bucket, (.text name, .map reply) ∈ replies ∧ Tells reply (rangeName range) bucket ∧
        s.Shows name (label range) (tally bucket)
  measures : ∀ field ∈ measured, ∃ reply, (.text (statsMark ++ field.display), .map reply) ∈ replies ∧
    s.Shows "stats" (.text field.display) (statistical reply)

section

variable {r : FacetRequest} {measured : List Value} {replies : Entries} {size : Int} {records : Keyed FacetRecord}

theorem replied_to (hp : r.Proper) (h : Replied (insertAll [] (plan size r measured)) replies) {name : String}
    {a : Aggregation} (ha : (.text name, a) ∈ plan size r measured) : .text name ∈ keys replies := by
  have hh := has_insertAll [] (textKeys_plan hp) (List.mem_map_of_mem (f := Prod.fst) ha)
  obtain ⟨a', ha'⟩ := exists_mem_of_has hh
  obtain ⟨reply, hr⟩ := h.all _ ha'
  exact List.mem_map_of_mem hr

theorem replied_of_plan (hp : r.Proper) (hd : replies.Distinct)
    (hall : ∀ a ∈ plan size r measured, ∃ reply, (a.1, .map reply) ∈ replies ∧ Answers a.2 reply)
    (hown : ∀ e ∈ replies, e.1 ∈ keys (plan size r measured)) : Replied (insertAll [] (plan size r measured)) replies := by
  have hmem : ∀ a ∈ insertAll [] (plan size r measured), a ∈ plan size r measured := fun a ha =>
    (mem_of_mem_insertAll (textKeys_plan hp) ha).resolve_left List.not_mem_nil
  refine ⟨hd, ?_, ?_⟩
  · intro a ha
    obtain ⟨reply, he, -⟩ := hall a (hmem a ha)
    exact ⟨reply, he⟩
  · rintro ⟨key, data⟩ he
    have hk := hown _ he
    obtain ⟨a, ha, hkey⟩ := List.mem_map.mp hk
    obtain ⟨name, hname⟩ := textKeys_plan hp a ha
    obtain rfl : key = .text name := hkey.symm.trans hname
    obtain ⟨agg, hagg⟩ := exists_mem_of_has (has_insertAll [] (textKeys_plan hp) hk)
    obtain ⟨reply, hr, hans⟩ := hall _ (hmem _ hagg)
    exact ⟨_, hagg, rfl, reply, Entries.eq_of_mem hd he hr, hans⟩

theorem exists_record (hp : r.Proper) (hu : Unmixed r measured)
    (h : Replied (insertAll [] (plan size r measured)) replies) (hc : Complete r measured replies records) {name : String}
    {a : Aggregation} (hn : .text name ∈ counted r) (ha : (.text name, a) ∈ plan size r measured) :
    ∃ record, (.text name, record) ∈ records := by
  obtain ⟨hq, hs⟩ := hu.plain name hn
  have hkey := hc.all name (replied_to hp h ha) hq
  rw [hs] at hkey
  exact exists_mem_of_has hkey

theorem terms_shown (hp : r.Proper) (hu : Unmixed r measured)
    (h : Replied (insertAll [] (plan size r measured)) replies) (hc : Complete r measured replies records) {name : String}
    (hf : .text name ∈ r.fields) : ∃ reply buckets, (.text name, .map reply) ∈ replies ∧ TermsIn reply buckets ∧
      ∀ b ∈ buckets, (summaryOf records).Shows name (termOf b) (tally b) := by
  have hn : .text name ∈ counted r := List.mem_append_left _ hf
  obtain ⟨record, hm⟩ := exists_record hp hu h hc hn (mem_plan.mpr (.inl ⟨_, hf, rfl⟩))
  rcases recorded_of_counted hu hn (hc.sources _ hm) with
    ⟨other, reply, buckets, -, he, ht, rfl⟩ | ⟨reply, ranges, found, hr, -⟩
  · refine ⟨reply, buckets, he, ht, fun b hb => ?_⟩
    refine shows_of_recorded hc.sources hm ?_ (ht.keys b hb).2 fun k c => agrees_with_term hp hu h.once hf he ht hb
    exact List.mem_map_of_mem (List.mem_map_of_mem hb)
  · exact absurd rfl (hp.apart _ hf _ hr)

theorem ranges_shown (hp : r.Proper) (hu : Unmixed r measured)
    (h : Replied (insertAll [] (plan size r measured)) replies) (hc : Complete r measured replies records) {name : String}
    {asked : List Entries} (hr : (.text name, asked) ∈ r.ranges) {range : Entries} (hin : range ∈ asked) :
    ∃ reply bucket, (.text name, .map reply) ∈ replies ∧ Tells reply (rangeName range) bucket ∧
      (summaryOf records).Shows name (label range) (tally bucket) := by
  have hn : .text name ∈ counted r := counted_of_ranges hr
  obtain ⟨record, hm⟩ := exists_record hp hu h hc hn (mem_plan.mpr (.inr (.inl ⟨_, hr, rfl⟩)))
  rcases recorded_of_counted hu hn (hc.sources _ hm) with
    ⟨other, reply, buckets, hf, -⟩ | ⟨reply, ranges, found, hr', he, ht, hf, rfl⟩
  · exact absurd rfl (hp.apart _ hf _ hr)
  · obtain ⟨-, rfl⟩ := Prod.mk.inj (hp.once _ hr _ hr' rfl)
    refine ⟨reply, found range, he, hf range hin, ?_⟩
    have hself : (label range).same (label range) = true := Value.same_text_self _
    refine shows_of_recorded hc.sources hm ?_ hself fun k c => agrees_with_range hp hu h.once hr he ht hin (hf range hin)
    exact List.mem_map.mpr ⟨_, List.mem_map_of_mem hin, rfl⟩

theorem measures_shown (hp : r.Proper) (hu : Unmixed r measured)
    (h : Replied (insertAll [] (plan size r measured)) replies) (hc : Complete r measured replies records) {field : Value}
    (hf : field ∈ measured) : ∃ reply, (.text (statsMark ++ field.display), .map reply) ∈ replies ∧
      (summaryOf records).Shows "stats" (.text field.display) (statistical reply) := by
  have hreplied := replied_to hp h (mem_plan.mpr (.inr (.inr (.inr ⟨field, hf, rfl⟩))))
  have hkey := hc.all _ hreplied (mark_ne_queriesName _)
  rw [statsField?_mark] at hkey
  obtain ⟨record, hm⟩ := exists_mem_of_has hkey
  obtain ⟨reply, he, rfl⟩ := recorded_of_measured hu hf (hc.sources _ hm)
  refine ⟨reply, he, ?_⟩
  refine shows_of_recorded hc.sources hm ?_ (Value.same_text_self _) fun k c => agrees_with_measure hu h.once hf he
  exact List.mem_singleton_self _

theorem returned_of_replied {asked : Entries} (hd : asked.Distinct) (ht : TextKeys asked)
    (hu : Unmixed (ofEntries asked) measured)
    (h : Replied (insertAll [] (plan size (ofEntries asked) measured)) replies) :
    ∃ records s, decodeAll (.map replies) (ofEntries asked).toValue = .ok records ∧
      Summary.ofRecords (toValues records) = .ok s ∧ Returned asked measured replies s := by
  have hp := proper_ofEntries hd ht
  obtain ⟨records, hdec, hc⟩ := decodeAll_eq hp hu h
  refine ⟨records, summaryOf records, hdec, ofRecords_eq hc.sources, ?_, ?_, ?_⟩
  · intro name conditions hm hfalse
    exact terms_shown hp hu h hc (mem_fields.mpr ⟨conditions, hm, hfalse⟩)
  · intro name conditions hm htrue condition hcondition range hrange
    have hin : range ∈ (conditionsOf conditions).filterMap rangeOf? := List.mem_filterMap.mpr ⟨condition, hcondition, hrange⟩
    exact ranges_shown hp hu h hc (mem_ranges.mpr ⟨conditions, hm, htrue, rfl, List.ne_nil_of_mem hin⟩) hin
  · exact fun field hf => measures_shown hp hu h hc hf

end

end CatalogSearch.Engine
