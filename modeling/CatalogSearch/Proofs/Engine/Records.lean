import CatalogSearch.Proofs.Engine.Replies

namespace CatalogSearch.Engine

open Query Keyed Aggregation

/-- The fields that are counted, by their values or by ranges. -/
def counted (r : FacetRequest) : List Value := r.fields ++ r.ranges.map Prod.fst

theorem counted_of_ranges {r : FacetRequest} {name : Value} {asked : List Entries} (h : (name, asked) ∈ r.ranges) :
    name ∈ counted r :=
  List.mem_append_right _ (List.mem_map_of_mem h)

/-- What is asked for shares no name: records lie side by side under the names of fields and the texts of
queries, and so do the headings of what is made of them. -/
structure Unmixed (r : FacetRequest) (measured : List Value) : Prop where
  plain : ∀ name, .text name ∈ counted r → name ≠ queriesName ∧ FacetRecord.statsField? name = none
  queries : ∀ q ∈ r.queries, .ofChars q ∉ counted r
  measures : ∀ field ∈ measured, .text field.display ∉ counted r ∧ field.display.toList ∉ r.queries
  heading : measured ≠ [] → .text "stats" ∉ counted r
  categories : .text categoryField ∈ r.fields → ∀ q ∈ r.queries, FacetKind.category? q = none

namespace FacetRecord

variable {r : FacetRequest} {measured : List Value} {replies : Entries} {size : Int}

/-- A record under its name, and the reply it was decoded from. -/
inductive Recorded (r : FacetRequest) (measured : List Value) (replies : Entries) : Value → FacetRecord → Prop where
  | terms {name : String} {reply : Entries} {buckets : List Entries} (other : Value) : .text name ∈ r.fields →
      (.text name, .map reply) ∈ replies → TermsIn reply buckets →
      Recorded r measured replies (.text name) (.terms other (buckets.map fun b => (termOf b, tally b)))
  | ranges {name : String} {reply : Entries} {asked : List Entries} (found : Entries → Entries) :
      (.text name, asked) ∈ r.ranges → (.text name, .map reply) ∈ replies → RangesIn reply (asked.map sentBucket) →
      (∀ range ∈ asked, Tells reply (rangeName range) (found range)) →
      Recorded r measured replies (.text name) (.ranges (asked.map fun range => countIn (found range) range))
  | query {q : List Char} (count : Value) : q ∈ r.queries → Recorded r measured replies (.ofChars q) (.query count)
  | statistics {field : Value} {reply : Entries} : field ∈ measured →
      (.text (statsMark ++ field.display), .map reply) ∈ replies →
      Recorded r measured replies (.text field.display) (.statistics (measuresOf reply))

theorem Recorded.textKey {name : Value} {record : FacetRecord} (h : Recorded r measured replies name record) :
    ∃ s, name = .text s := by
  cases h <;> exact ⟨_, rfl⟩

/-- A reply is decoded as records of its own; other than that to the queries, it has one under its name. -/
def Decoded (r : FacetRequest) (measured : List Value) (replies : Entries) (e : Value × Value) : Prop :=
  ∃ xs : Keyed FacetRecord, Decodes r.rangeEntries e xs ∧ (∀ x ∈ xs, Recorded r measured replies x.1 x.2) ∧
    ∀ name, e.1 = .text name → name ≠ queriesName → .text ((statsField? name).getD name) ∈ keys xs

theorem decoded_singleton {name : String} {data key : Value} {record : FacetRecord}
    (hd : Decodes r.rangeEntries (.text name, data) [(key, record)]) (hr : Recorded r measured replies key record)
    (hk : .text ((statsField? name).getD name) = key) : Decoded r measured replies (.text name, data) := by
  refine ⟨_, hd, ?_, ?_⟩
  · intro x hx
    rw [List.mem_singleton.mp hx]
    exact hr
  · rintro _ ⟨⟩ -
    rw [hk]
    exact List.mem_singleton_self _

theorem decoded_queries {reply : Entries} {buckets : Keyed Entries}
    (hb : reply.field? "buckets" = some (.map (buckets.mapValues .map)))
    (hk : ∀ b ∈ buckets, b.1 ∈ keys (queryNames r.queries)) :
    Decoded r measured replies (.text queriesName, .map reply) := by
  refine ⟨_, decodes_queries hb, ?_, ?_⟩
  · intro x hx
    obtain ⟨b, hm, rfl⟩ := List.mem_map.mp hx
    obtain ⟨q, hq, hname⟩ := mem_queryNames (hk b hm)
    dsimp only
    rw [hname]
    exact .query _ hq
  · rintro _ ⟨⟩ hne
    exact absurd rfl hne

theorem decoded_of_replied (hp : r.Proper) (hu : Unmixed r measured)
    (h : Replied (insertAll [] (plan size r measured)) replies) {e : Value × Value} (he : e ∈ replies) :
    Decoded r measured replies e := by
  obtain ⟨a, ha, hname, reply, hreply, hans⟩ := h.own e he
  have hm := (mem_of_mem_insertAll (textKeys_plan hp) ha).resolve_left List.not_mem_nil
  obtain ⟨key, data⟩ := e
  dsimp only at hname hreply
  subst hname hreply
  rcases mem_plan.mp hm with ⟨field, hf, rfl⟩ | ⟨⟨field, asked⟩, hr, rfl⟩ | ⟨-, rfl⟩ | ⟨field, hf, rfl⟩
  · cases hans with | terms ht =>
    obtain ⟨name, rfl⟩ := hp.fieldNames field hf
    obtain ⟨hq, hs⟩ := hu.plain name (List.mem_append_left _ hf)
    have hd := decodes_terms hq hs (FacetRequest.hasField_rangeEntries hp hf) ht.listed
    exact decoded_singleton hd (.terms _ hf he ht) (by rw [hs]; rfl)
  · cases hans with | range ht =>
    obtain ⟨name, rfl⟩ := hp.rangeNames _ hr
    obtain ⟨hq, hs⟩ := hu.plain name (counted_of_ranges hr)
    have ha : ∀ range ∈ asked, ∃ bucket, Tells reply (rangeName range) bucket := fun range hm =>
      ht.all _ (List.mem_map_of_mem hm) _ (field?_sentBucket range)
    obtain ⟨found, hfound, hd⟩ := decodes_ranges hq hs (FacetRequest.field?_rangeEntries hp hr) ht.buckets ha
    exact decoded_singleton hd (.ranges found hr he ht hfound) (by rw [hs]; rfl)
  · cases hans with | filters hb hk => exact decoded_queries hb hk
  · exact decoded_singleton (decodes_stats field.display) (.statistics hf he) (by rw [statsField?_mark]; rfl)

/-- Nothing is recorded that was not replied, and under the name of every reply there is a record. -/
structure Complete (r : FacetRequest) (measured : List Value) (replies : Entries) (records : Keyed FacetRecord) : Prop where
  sources : ∀ x ∈ records, Recorded r measured replies x.1 x.2
  all : ∀ name, .text name ∈ keys replies → name ≠ queriesName → has records (.text ((statsField? name).getD name))

theorem decodeAll_eq (hp : r.Proper) (hu : Unmixed r measured)
    (h : Replied (insertAll [] (plan size r measured)) replies) :
    ∃ records, decodeAll (.map replies) r.toValue = .ok records ∧ Complete r measured replies records := by
  have hex : ∀ e ∈ replies, Decoded r measured replies e := fun e he => decoded_of_replied hp hu h he
  choose! xs hd hr hk using hex
  have hrecorded : ∀ x ∈ replies.flatMap xs, Recorded r measured replies x.1 x.2 := by
    intro x hx
    obtain ⟨e, he, hx⟩ := List.mem_flatMap.mp hx
    exact hr e he x hx
  have ht : TextKeys (replies.flatMap xs) := fun x hx => (hrecorded x hx).textKey
  refine ⟨insertAll [] (replies.flatMap xs), ?_, ?_, ?_⟩
  · rw [decodeAll, r.get_toValue.2.1, Folds.ok_bind, Value.orElse_map, Value.entries_map, Folds.ok_bind,
      ← insertAll_flatMap]
    exact (Folds.foldlM_ok (fun _ => True) (fun records _ e he => ⟨hd e he records, trivial⟩) trivial).1
  · intro x hx
    exact hrecorded x ((mem_of_mem_insertAll ht hx).resolve_left List.not_mem_nil)
  · intro name hname hne
    obtain ⟨e, he, hkey⟩ := List.mem_map.mp hname
    refine has_insertAll [] ht ?_
    obtain ⟨x, hx, hxkey⟩ := List.mem_map.mp (hk e he name hkey hne)
    exact List.mem_map.mpr ⟨x, List.mem_flatMap.mpr ⟨e, he, hx⟩, hxkey⟩

theorem decodeAll_fails {reply : Entries} {buckets : List Value} (he : (.text queriesName, .map reply) ∈ replies)
    (hb : reply.field? "buckets" = some (.list buckets)) : ∃ e, decodeAll (.map replies) r.toValue = .error e := by
  rw [decodeAll, r.get_toValue.2.1, Folds.ok_bind, Value.orElse_map, Value.entries_map, Folds.ok_bind]
  exact Folds.foldlM_fails he (fun records => ⟨_, decode_queriesName hb records⟩) []

end FacetRecord

end CatalogSearch.Engine
