import CatalogSearch.Engine.Script
import CatalogSearch.Proofs.Catalog.SortFields
import CatalogSearch.Proofs.Web.FilterArguments
import CatalogSearch.Proofs.Web.Requests

namespace CatalogSearch

namespace Catalog.Tables

theorem lookup_listing_eq (t : Tables) (store : Value) (rows : List AttributeRow) (code : String) :
    (t.listing store rows).lookup code =
      (rows.find? fun row => code == row.code).map fun row => .known (t.attributeOf store row) := by
  induction rows with
  | nil => rfl
  | cons row rows ih =>
      rw [listing, List.map_cons, List.lookup_cons, List.find?_cons]
      cases code == row.code with
      | true => rfl
      | false => exact ih

/-- The sort field of what is listed under a key has one name in each language, whatever store it is listed for. -/
theorem sortField_sortables (t : Tables) (store other key : Value) (language : Option (List Char)) :
    (((t.sortables store).find? key).getD (.bare key)).sortField language =
      (((t.sortables other).find? key).getD (.bare key)).sortField language := by
  cases key with
  | text code =>
      rw [Listing.find?, Listing.find?, sortables, sortables, lookup_listing_eq, lookup_listing_eq]
      cases (t.attributes.filter fun a => isSet a.isSortable).find? fun row => code == row.code <;> rfl
  | _ => rfl

/-- A field that the documents of a store can be sorted by: the score, a position, a price of the store's
website, or what is listed to sort by, in the store's language. -/
inductive SortsIn (t : Tables) (s : Store) : List Char → Prop where
  | score : SortsIn t s SortKey.scoreField.toList
  | position (category : Int) : SortsIn t s (SortKey.positionField (toString category).toList)
  | price (group : Int) : SortsIn t s (SortKey.priceField group s.website)
  | listed (key : Value) :
      SortsIn t s ((((t.sortables (.int s.id)).find? key).getD (.bare key)).sortField s.language?)

theorem sortsIn_ofEntry (t : Tables) {s : Store} {context : Context} (hw : context.website = s.website)
    (hl : context.locale = s.locale) (store field direction : Value) :
    SortsIn t s (SortKey.ofEntry context (t.sortables store) field direction).field := by
  have hlanguage : context.language? = s.language? := by rw [Context.language?, hl]; rfl
  unfold SortKey.ofEntry
  dsimp only
  split
  · cases context.category with
    | none => exact .score
    | some category => exact .position category
  · split
    · exact .score
    · split
      · rw [hw]
        exact .price _
      · rw [hlanguage, t.sortField_sortables store (.int s.id)]
        exact .listed field

theorem store_id {tables : Option Tables} {n : Int} {s : Store} (h : (Catalog.stored tables).store (.int n) = .ok s) :
    s.id = n := by
  unfold Catalog.store at h
  dsimp only at h
  split at h
  · rw [unknownStore_int] at h
    cases h
    rfl
  · simp only [Folds.bind_eq_ok] at h
    obtain ⟨key, hk, t, -, _, -, h⟩ := h
    cases hk
    split at h
    · next s' hs =>
        cases h
        obtain ⟨row, hrow, rfl⟩ := Option.map_eq_some_iff.mp hs
        exact t.find?_refersTo hrow
    · rw [unknownStore_int] at h
      cases h
      rfl

end Catalog.Tables

namespace Web

open Engine Action Query Service

variable {σ : Type} {settings : Settings} {tables : Option Catalog.Tables} {request : Request} {i : Inquiry}

theorem contextOf_stored {told : Value} {c : Context} (h : contextOf settings (.stored tables) told = .ok c) :
    ∃ s, (Catalog.stored tables).store (.int c.store) = .ok s ∧ s.id = c.store ∧ c.website = s.website ∧
      c.locale = s.locale := by
  simp only [contextOf, Folds.bind_eq_ok] at h
  obtain ⟨storeId, -, s, hs, group, -, category, -, h⟩ := h
  cases h
  have hid := Catalog.Tables.store_id hs
  refine ⟨s, ?_, rfl, rfl, rfl⟩
  rw [← hid] at hs
  exact hs

/-- Values that name a store: its identity, and what reads as this. -/
def Names (v : Value) (store : Int) : Prop := v = .int store ∨ v.integerOf? = some store

/-- A search that is told of no store but that of its context. -/
def Inquiry.InContext (settings : Settings) (i : Inquiry) : Prop :=
  Names ((i.told settings).storeIn i.context) i.context.store

theorem first?_eq_none {args : Arguments} {name : String} (h : name ∉ args.names) : args.first? name = none := by
  rw [Arguments.mem_names_iff, not_not] at h
  rw [Arguments.first?, List.lookup_eq_none_iff]
  intro a ha
  rw [bne_iff_ne]
  rintro rfl
  have hm : a.2 ∈ args.all a.1 := List.mem_map_of_mem (List.mem_filter.mpr ⟨ha, by simp⟩)
  rw [h] at hm
  cases hm

theorem get_toValue (args : Arguments) (name : String) : args.toValue.get name = .ok (args.valueOf name) := by
  have hlookup : ∀ names : List String, ((names.map fun n => (n, args.valueOf n)).lookup name).getD .null =
      if name ∈ names then args.valueOf name else .null := by
    intro names
    induction names with
    | nil => rfl
    | cons n names ih =>
        rw [List.map_cons, List.lookup_cons]
        by_cases hn : name = n
        · simp [hn]
        · rw [beq_false_of_ne hn, ih]
          simp [hn]
  rw [Arguments.toValue, Entries.get_ofFields, hlookup]
  split
  · rfl
  · next hn =>
      rw [Arguments.valueOf, first?_eq_none hn]
      rfl

theorem inContext_ofArguments {args : Arguments} (h : Inquiry.ofArguments settings (.stored tables) args = .ok i) :
    i.InContext settings := by
  obtain ⟨c, hc, h⟩ := Folds.bind_eq_ok.mp h
  obtain ⟨params, hp, h⟩ := Folds.bind_eq_ok.mp h
  cases h
  obtain ⟨filters, -, hp⟩ := Folds.bind_eq_ok.mp hp
  cases hp
  simp only [contextOf, get_toValue, Folds.ok_bind, Folds.bind_eq_ok] at hc
  obtain ⟨s, hs, hc⟩ := hc
  cases hc
  have hid := Catalog.Tables.store_id hs
  left
  rw [Inquiry.told, Params.storeIn, ofValue_ofFields]
  change (Arguments.integerOr .null (args.valueOf "store_id")).orNull (.int s.id) = .int s.id
  cases hv : (args.valueOf "store_id").integerOf? with
  | none =>
      rw [Arguments.integerOr, hv]
      rfl
  | some n =>
      rw [hv] at hid
      rw [Arguments.integerOr, hv, hid]
      rfl

theorem context_ofRequest (h : Inquiry.ofRequest settings (.stored tables) request = .ok i) :
    ∃ s, (Catalog.stored tables).store (.int i.context.store) = .ok s ∧ s.id = i.context.store ∧
      i.context.website = s.website ∧ i.context.locale = s.locale := by
  rw [Inquiry.ofRequest] at h
  split at h
  · simp only [Inquiry.ofPayload, Inquiry.ofTold, Folds.bind_eq_ok] at h
    obtain ⟨json, -, told, -, c, hc, query, -, params, -, entityType, -, h⟩ := h
    cases h
    exact contextOf_stored hc
  · obtain ⟨c, hc, h⟩ := Folds.bind_eq_ok.mp h
    obtain ⟨params, -, h⟩ := Folds.bind_eq_ok.mp h
    cases h
    exact contextOf_stored hc

def storeClause (p : Params) (context : Context) : List Char := "store_id:".toList ++ exactText (p.storeIn context).chars

theorem mem_storeClause {p : Params} {context : Context} {query : Value} {filters : Entries} {n : Int}
    (hn : (p.storeIn context).integerOf? = some n) (hpos : 0 < n) (h : scopedFilters p context query = .ok filters) :
    storeClause p context ∈ filterClauses filters := by
  obtain ⟨told, -, h⟩ := Folds.bind_eq_ok.mp h
  cases h
  rw [hn, Option.getD_some, if_pos hpos]
  refine mem_filterClauses (Keyed.mem_of_find?_text (x := p.storeIn context) ?_) (filterClauses_store hn)
  change Entries.field? _ "store_id" = _
  rw [Entries.field?_set_of_ne _ _ (by decide)]
  split
  · exact Entries.field?_set_self _ _ _
  · rw [Entries.field?_set_of_ne _ _ (by decide)]
    exact Entries.field?_set_self _ _ _

/-- A search that runs in a store: its hits are documents of the store, and are sorted by fields of these. -/
structure RunsIn (settings : Settings) (t : Catalog.Tables) (s : Store) (i : Inquiry) (body : Body) : Prop where
  named : Names ((i.told settings).storeIn i.context) s.id
  kept : ∃ filters, scopedFilters (i.told settings) i.context i.query = .ok filters ∧
    storeClause (i.told settings) i.context ∈ filterClauses filters ∧ body.Carries (conjunction (filterClauses filters))
  sorted : ∃ keys, sortKeys i.context (t.sortables ((i.told settings).storeIn i.context)) (i.told settings).sortBy =
      .ok keys ∧ (∀ k ∈ keys, t.SortsIn s k.field) ∧
    ((∀ more, (i.told settings).extra = .map more → Entries.hasField more "sort" = false) →
      body.sort = keys.map fun k => (.ofChars k.field, .ofChars k.direction))

theorem kept_of_sends {body : Body} {n : Int} (hn : ((i.told settings).storeIn i.context).integerOf? = some n)
    (hpos : 0 < n) {catalog : Catalog} (h : i.Sends settings catalog body) :
    ∃ filters, scopedFilters (i.told settings) i.context i.query = .ok filters ∧
      storeClause (i.told settings) i.context ∈ filterClauses filters ∧
        body.Carries (conjunction (filterClauses filters)) := by
  obtain ⟨ps, hp, hb⟩ := h
  obtain ⟨_, _, filters, _, -, -, hf, -, hps⟩ := engineParams_eq_closed hp
  have hclause := mem_storeClause hn hpos hf
  have htext : ps.field? "filters" = some (.ofChars (conjunction (filterClauses filters))) := by
    rw [hps, field?_filters_closed]
  exact ⟨filters, hf, hclause, Body.carries_of_build hb htext (conjunction_ne_nil hclause (List.cons_ne_nil _ _))⟩

theorem sorted_of_sends {body : Body} (h : i.Sends settings (.stored tables) body) :
    ∃ t keys, tables = some t ∧
      sortKeys i.context (t.sortables ((i.told settings).storeIn i.context)) (i.told settings).sortBy = .ok keys ∧
      ((∀ more, (i.told settings).extra = .map more → Entries.hasField more "sort" = false) →
        body.sort = keys.map fun k => (.ofChars k.field, .ofChars k.direction)) := by
  obtain ⟨ps, hp, hb⟩ := h
  obtain ⟨sortables, keys, filters, start, hs, hk, -, -, hps⟩ := engineParams_eq_closed hp
  cases tables with
  | none => cases hs
  | some t =>
      cases hs
      refine ⟨t, keys, rfl, hk, fun hx => ?_⟩
      have hfield : ps.field? "sort" = some (.list (keys.map SortKey.toValue)) := by rw [hps, field?_sort_closed hx]
      exact Except.ok.inj ((Body.built_of_build hb).sort.symm.trans (Body.sortOf_keys hfield))

theorem runsIn_of_sends {s : Store} {body : Body} {n : Int} (hi : i.InContext settings) (hid : s.id = i.context.store)
    (hw : i.context.website = s.website) (hl : i.context.locale = s.locale)
    (hn : ((i.told settings).storeIn i.context).integerOf? = some n) (hpos : 0 < n)
    (h : i.Sends settings (.stored tables) body) : ∃ t, tables = some t ∧ RunsIn settings t s i body := by
  obtain ⟨t, keys, ht, hk, hsort⟩ := sorted_of_sends h
  refine ⟨t, ht, hid ▸ hi, kept_of_sends hn hpos h, keys, hk, ?_, hsort⟩
  intro k hm
  obtain ⟨entries, -, hkeys⟩ := Folds.bind_eq_ok.mp hk
  cases hkeys
  obtain ⟨e, -, rfl⟩ := List.mem_map.mp hm
  exact t.sortsIn_ofEntry hw hl _ _ _

/-- A search whose parameters tell of no store but that of its context runs in this store, and so does every
search that is asked for by arguments. -/
theorem one_search_in_one_store [Engine σ] (l : Link σ) :
    (∀ i, Inquiry.ofRequest settings (.stored tables) request = .ok i →
      ∃ s, (Catalog.stored tables).store (.int i.context.store) = .ok s ∧ s.id = i.context.store ∧
        (request.method.toUpper ≠ "POST" → i.InContext settings) ∧
        ∀ n body, i.InContext settings → ((i.told settings).storeIn i.context).integerOf? = some n → 0 < n →
          i.Sends settings (.stored tables) body → ∃ t, tables = some t ∧ RunsIn settings t s i body) ∧
    ∀ index body,
      .called (.search index body) ∈ (exec (respond (.stored tables) request) settings l).2.events →
      .called (.search index body) ∈ l.events ∨ ∃ i, Inquiry.ofRequest settings (.stored tables) request = .ok i ∧
        i.Sends settings (.stored tables) body := by
  refine ⟨?_, ?_⟩
  · intro i hi
    obtain ⟨s, hs, hid, hw, hl⟩ := context_ofRequest hi
    refine ⟨s, hs, hid, ?_, ?_⟩
    · intro hm
      rw [Inquiry.ofRequest, if_neg hm] at hi
      exact inContext_ofArguments hi
    · intro n body hc hn hpos hsends
      exact runsIn_of_sends hc hid hw hl hn hpos hsends
  · intro index body he
    rcases emits_respond l _ he with he | he
    · exact .inl he
    · exact .inr (he index body rfl)

def lampRequest : Request := { address := "/api/search", told := some [("store_id", "1"), ("order", "name")] }

def lampContext : Context := { store := 1, website := 1, locale := some "de_DE" }

def lampInquiry : Inquiry where
  query := .text ""
  params := .ofFields [
    ("offset", .int 0), ("store_id", .int 1), ("filters", .map []), ("facets", .map []),
    ("sort_by", .list [.ofFields [("name", .text "asc")]])]
  entityType := defaultEntityType
  context := lampContext

theorem store_lampTables : (Catalog.stored (some Catalog.Tables.lampTables)).store (.int 1) =
    .ok ⟨1, 1, some "de_DE", some "UTC"⟩ := by
  have hfit : Catalog.fits 1 = true := by simp [Catalog.fits, twoTo]
  rw [Catalog.Tables.store_eq _ hfit]
  simp [Catalog.Tables.storeAt, Catalog.Tables.store?, Catalog.Tables.lampTables, Catalog.refersTo_int,
    Catalog.Tables.storeOf]

theorem toUpper_lampRequest : lampRequest.method.toUpper ≠ "POST" := by
  rw [lampRequest, toUpper_get]
  decide

theorem ofRequest_lampRequest :
    Inquiry.ofRequest Setting.default (.stored (some Catalog.Tables.lampTables)) lampRequest = .ok lampInquiry := by
  have hc : contextOf Setting.default (.stored (some Catalog.Tables.lampTables)) lampRequest.arguments.toValue =
      .ok lampContext := by
    have hone : (lampRequest.arguments.valueOf "store_id").integerOf? = some 1 := by decide
    rw [contextOf, get_toValue, get_toValue, get_toValue, Folds.ok_bind, hone]
    dsimp only [Option.getD_some]
    rw [store_lampTables]
    rfl
  rw [Inquiry.ofRequest, if_neg toUpper_lampRequest, Inquiry.ofArguments, hc]
  rfl

theorem told_lampInquiry : lampInquiry.told Setting.default = {
    offset := .int 0, limit := .int 9999, sortBy := .list [.ofFields [("name", .text "asc")]], fields := .list []
    extra := .map [], store := .int 1, filters := .map [], facets := .map [], rangeFilters := .map []
    stats := .list [] } := ofValue_ofFields _ _

theorem exists_lamp_body : ∃ body, lampInquiry.Sends Setting.default (.stored (some Catalog.Tables.lampTables)) body := by
  apply Inquiry.exists_sends
  · rw [told_lampInquiry]
    exact ⟨rfl, rfl, rfl, rfl, rfl⟩
  · rw [told_lampInquiry]
    exact ⟨_, rfl⟩
  · rfl

theorem lamps_are_searched_in_one_store : ∃ i body t s,
    Inquiry.ofRequest Setting.default (.stored (some Catalog.Tables.lampTables)) lampRequest = .ok i ∧
    i.Sends Setting.default (.stored (some Catalog.Tables.lampTables)) body ∧ s.id = 1 ∧
    RunsIn Setting.default t s i body := by
  obtain ⟨body, hbody⟩ := exists_lamp_body
  obtain ⟨s, -, hid, hget, hruns⟩ := (@one_search_in_one_store Script Setting.default
    (some Catalog.Tables.lampTables) lampRequest _ ⟨[], false, none, [], []⟩).1 lampInquiry ofRequest_lampRequest
  have hone : ((lampInquiry.told Setting.default).storeIn lampInquiry.context).integerOf? = some 1 := by
    rw [told_lampInquiry]
    decide
  obtain ⟨t, -, hrun⟩ := hruns 1 body (hget toUpper_lampRequest) hone (by decide) hbody
  exact ⟨lampInquiry, body, t, s, ofRequest_lampRequest, hbody, hid, hrun⟩

def twoStoreTables : Catalog.Tables := { Catalog.Tables.lampTables with
  stores := [⟨1, "en", "English", 1, "en_US", "UTC", some true⟩, ⟨2, "de", "German", 1, "de_DE", "UTC", some true⟩] }

def crossRequest : Request where
  method := "POST"
  address := "/api/search"
  payload := pure (some (.object [
    ("context", .object [("store_id", .int 1)]),
    ("params", .object [("store_id", .int 2), ("sort_by", .array [.object [("name", .text "asc")]])])]))

def crossInquiry : Inquiry where
  query := .text ""
  params := .ofFields [("store_id", .int 2), ("sort_by", .list [.ofFields [("name", .text "asc")]])]
  entityType := defaultEntityType
  context := { store := 1, website := 1, locale := some "en_US" }

theorem store_twoStoreTables : (Catalog.stored (some twoStoreTables)).store (.int 1) = .ok ⟨1, 1, some "en_US", some "UTC"⟩ ∧
    (Catalog.stored (some twoStoreTables)).store (.int 2) = .ok ⟨2, 1, some "de_DE", some "UTC"⟩ := by
  have hone : Catalog.fits 1 = true := by simp [Catalog.fits, twoTo]
  have htwo : Catalog.fits 2 = true := by simp [Catalog.fits, twoTo]
  rw [Catalog.Tables.store_eq _ hone, Catalog.Tables.store_eq _ htwo]
  simp [Catalog.Tables.storeAt, Catalog.Tables.store?, twoStoreTables, Catalog.refersTo_int, Catalog.Tables.storeOf]

theorem ofRequest_crossRequest :
    Inquiry.ofRequest Setting.default (.stored (some twoStoreTables)) crossRequest = .ok crossInquiry := by
  have hc : contextOf Setting.default (.stored (some twoStoreTables)) (.ofFields [("store_id", .int 1)]) =
      .ok crossInquiry.context := by
    have hone : (Value.int 1).integerOf? = some 1 := by decide
    simp only [contextOf, Entries.get_ofFields, Folds.ok_bind, List.lookup_cons_self, Option.getD_some, hone]
    rw [store_twoStoreTables.1]
    rfl
  have hparams : (Json.object [("store_id", .int 2), ("sort_by", .array [.object [("name", .text "asc")]])]).toValue =
      crossInquiry.params := by
    rw [Json.toValue_object (by simp), crossInquiry]
    simp [Json.toValue, Json.toValues, Json.toEntries, Entries.set, Keyed.insert, Value.ofFields]
  have hcontext : (Json.object [("store_id", .int 1)]).toValue = .ofFields [("store_id", .int 1)] :=
    Json.toValue_object (by simp)
  rw [Inquiry.ofRequest, if_pos (show crossRequest.method.toUpper = "POST" from toUpper_post), crossRequest,
    Inquiry.ofPayload_object (by simp), Inquiry.ofTold]
  simp only [Inquiry.member_ofFields, Folds.ok_bind, List.map_cons, List.map_nil, hparams, hcontext]
  change (contextOf _ _ (.ofFields [("store_id", .int 1)]) >>= _) = _
  rw [hc]
  rfl

theorem told_crossInquiry : crossInquiry.told Setting.default = {
    offset := .int 0, limit := .int 9999, sortBy := .list [.ofFields [("name", .text "asc")]], fields := .list []
    extra := .map [], store := .int 2, filters := .map [], facets := .map [], rangeFilters := .map []
    stats := .list [] } := ofValue_ofFields _ _

theorem exists_cross_body : ∃ body, crossInquiry.Sends Setting.default (.stored (some twoStoreTables)) body := by
  apply Inquiry.exists_sends
  · rw [told_crossInquiry]
    exact ⟨rfl, rfl, rfl, rfl, rfl⟩
  · rw [told_crossInquiry]
    exact ⟨_, rfl⟩
  · rfl

/-- A search of the second store in the context of the first is sorted by a field of the first: documents of
the second have this field in another language. -/
theorem other_stores_are_sorted_amiss : ∃ body s,
    Inquiry.ofRequest Setting.default (.stored (some twoStoreTables)) crossRequest = .ok crossInquiry ∧
    crossInquiry.Sends Setting.default (.stored (some twoStoreTables)) body ∧
    body.sort = [(.text "sort_by_name_en", .text "asc")] ∧
    storeClause (crossInquiry.told Setting.default) crossInquiry.context = "store_id:2".toList ∧
    (Catalog.stored (some twoStoreTables)).store (.int 2) = .ok s ∧ s.language? = some "de".toList := by
  obtain ⟨body, hsends⟩ := exists_cross_body
  obtain ⟨t, keys, ht, hk, hsort⟩ := sorted_of_sends hsends
  refine ⟨body, _, ofRequest_crossRequest, hsends, ?_, ?_, store_twoStoreTables.2, by decide⟩
  · cases ht
    rw [told_crossInquiry] at hk hsort
    have hentries : SortKey.entries (.list [.ofFields [("name", .text "asc")]]) = .ok [(.text "name", .text "asc")] := rfl
    rw [sortKeys, hentries] at hk
    have hkeys : keys = [⟨"sort_by_name_en".toList, "asc".toList⟩] := by
      rw [← Except.ok.inj hk, List.map_singleton, SortKey.ofEntry]
      simp only [Value.same_text_of_ne (show "name" ≠ "position" by decide),
        Value.same_text_of_ne (show "name" ≠ "relevance" by decide),
        Value.same_text_of_ne (show "name" ≠ "price" by decide)]
      decide
    rw [hsort, hkeys]
    · rfl
    · rintro more ⟨⟩
      rfl
  · rw [told_crossInquiry]
    decide

end Web

end CatalogSearch
