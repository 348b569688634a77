import CatalogSearch.Engine.Script
import CatalogSearch.Proofs.Query.Conjuncts
import CatalogSearch.Proofs.Web.Requests

namespace CatalogSearch

namespace Service

open Query Conjuncts

variable {separators : List Char} {must : List Mandate} {told : Entries} {clause : List Char} {p : Params}
  {context : Context} {query : Value}

/-- A filter is told of a field that no mandate takes the place of. -/
def Free (must : List Mandate) (e : Value × Value) : Prop := ∀ m ∈ must, e.1 ≠ .text m.1

theorem of_mem_clausesUnder (h : clause ∈ clausesUnder must told) :
    (∃ m ∈ must, clause = m.2) ∨ ∃ e ∈ told, Free must e ∧ clause ∈ filterClauses [e] := by
  rw [clausesUnder, List.mem_append] at h
  rcases h with h | h
  · obtain ⟨e, he, hc⟩ := List.mem_flatMap.mp h
    unfold clausesOf at hc
    split at hc
    · next own hl =>
        obtain ⟨name, -, hl⟩ := Option.bind_eq_some_iff.mp hl
        obtain ⟨before, after, rfl, -⟩ := List.lookup_eq_some_iff.mp hl
        exact .inl ⟨(name, own), by simp, List.mem_singleton.mp hc⟩
    · next hl =>
        refine .inr ⟨e, he, ?_, hc⟩
        intro m hm hk
        rw [hk] at hl
        have hne := List.lookup_eq_none_iff.mp hl m hm
        simp at hne
  · obtain ⟨m, hm, rfl⟩ := List.mem_map.mp h
    exact .inl ⟨m, (List.mem_filter.mp hm).1, rfl⟩

/-- A search whose store and whose filters are each told in one word. -/
structure Contained (separators : List Char) (p : Params) (context : Context) (query : Value) (told : Entries) : Prop where
  store : (p.storeIn context).integerOf?.getD 0 > 0 → Held separators (p.storeIn context).chars
  filters : ∀ e ∈ told, Free (mandates p context query) e →
    ∀ criterion, Criterion.ofValue? e.1.chars e.2 = some criterion → InOneWord separators e.1.chars criterion

theorem mandate_eq_filterClause (hs : Separates separators) (h : Contained separators p context query told)
    {m : Mandate} (hm : m ∈ mandates p context query) :
    ∃ criterion : Criterion, m.2 = criterion.filterClause m.1.toList ∧ InOneWord separators m.1.toList criterion := by
  have hstoreId : Solid separators "store_id".toList := solid_of_all hs (by decide)
  have hstock : Solid separators "in_stock".toList := solid_of_all hs (by decide)
  have hvisibility : Solid separators "visibility".toList := solid_of_all hs (by decide)
  rw [mandates, List.mem_append, List.mem_append] at hm
  rcases hm with hm | hm | hm
  · split at hm
    · next hpos =>
        have hne : "store_id".toList ≠ categoryField.toList := by decide
        have hclause : (Criterion.equals (p.storeIn context).chars).filterClause "store_id".toList =
            "store_id".toList ++ ':' :: exactText (p.storeIn context).chars := by
          rw [Criterion.filterClause, fieldCondition, if_neg hne]
        rw [List.mem_singleton.mp hm]
        refine ⟨.equals (p.storeIn context).chars, hclause.symm, hstoreId, ?_⟩
        rintro t ⟨⟩
        exact h.store hpos
    · cases hm
  · split at hm
    · cases hm
    · rw [List.mem_singleton.mp hm]
      refine ⟨.equals "1".toList, by decide, hstock, ?_⟩
      rintro t ⟨⟩
      exact held_of_all hs (by decide)
  · rw [List.mem_singleton.mp hm]
    exact ⟨.anyOf _, rfl, hvisibility, by rintro t ⟨⟩⟩

theorem isConjunction_scopedText (hs : Separates separators) (h : Contained separators p context query told) :
    IsConjunction separators (scopedText p context query told) (clausesUnder (mandates p context query) told) := by
  have hne : clausesUnder (mandates p context query) told ≠ [] := by
    intro he
    have htext : scopedText p context query told ≠ [] := scopedText_ne_nil told
    rw [scopedText, he] at htext
    exact htext rfl
  refine isConjunction_conjunction hs hne fun clause hc => ?_
  suffices hclause : ∃ (field : List Char) (criterion : Criterion), clause = criterion.filterClause field ∧
      InOneWord separators field criterion by
    obtain ⟨field, criterion, rfl, hw⟩ := hclause
    exact ⟨hw.passes hs, filterClause_not_mem_operators field criterion⟩
  rcases of_mem_clausesUnder hc with ⟨m, hm, rfl⟩ | ⟨e, he, hfree, hc⟩
  · obtain ⟨criterion, hm⟩ := mandate_eq_filterClause hs h hm
    exact ⟨_, criterion, hm⟩
  · obtain ⟨_, hmem, hc⟩ := List.mem_filterMap.mp hc
    rw [List.mem_singleton.mp hmem] at hc
    obtain ⟨criterion, hcriterion, rfl⟩ := Option.map_eq_some_iff.mp hc
    exact ⟨_, criterion, rfl, h.filters e he hfree criterion hcriterion⟩

end Service

namespace Web

open Engine Action Query Conjuncts Service

variable {σ : Type} {settings : Settings} {catalog : Catalog} {request : Request} {i : Inquiry} {separators : List Char}

theorem visibility_contextOf {told : Value} {c : Context} (h : contextOf settings catalog told = .ok c) :
    c.searchVisibility ≠ [] ∧ c.catalogVisibility ≠ [] := by
  simp only [contextOf, Folds.bind_eq_ok] at h
  obtain ⟨_, -, s, -, _, -, _, -, h⟩ := h
  cases h
  exact ⟨List.cons_ne_nil _ _, List.cons_ne_nil _ _⟩

theorem visibility_ofPayload {payload : Outcome (Option Json)}
    (h : Inquiry.ofPayload settings catalog payload = .ok i) :
    i.context.searchVisibility ≠ [] ∧ i.context.catalogVisibility ≠ [] := by
  simp only [Inquiry.ofPayload, Inquiry.ofTold, Folds.bind_eq_ok] at h
  obtain ⟨json, -, _, -, c, hc, query, -, params, -, entityType, -, h⟩ := h
  cases h
  exact visibility_contextOf hc

theorem filters_ofPayload {payload : Outcome (Option Json)} (h : Inquiry.ofPayload settings catalog payload = .ok i) :
    Json.Tells (i.told settings).filters := by
  simp only [Inquiry.ofPayload, Inquiry.ofTold, Folds.bind_eq_ok] at h
  obtain ⟨json, -, _, -, c, -, query, -, params, hparams, entityType, -, h⟩ := h
  cases h
  have htold : Json.Tells (((json.map Json.toValue).getD .null).orElse (.map [])) := by
    refine Json.Tells.orElse ?_ Json.tells_empty
    cases json with
    | none => exact Json.tells_null
    | some x => exact ⟨x, rfl⟩
  obtain ⟨v, hv, hparams⟩ := Folds.bind_eq_ok.mp hparams
  cases hparams
  have hp : Json.Tells (v.orElse (.map [])) := (htold.get hv).orElse Json.tells_empty
  rw [Inquiry.told, Params.ofValue]
  dsimp only
  split
  · next es he =>
      rw [he] at hp
      exact hp.field Json.tells_empty "filters"
  · exact Json.tells_empty

theorem carries_of_sends {body : Body} (hm : request.method.toUpper = "POST")
    (h : Inquiry.ofRequest settings catalog request = .ok i) (hb : i.Sends settings catalog body) :
    ∃ told, ((i.told settings).filters.orElse (.map [])).toEntries = .ok told ∧ told.names.Nodup ∧
      body.Carries (scopedText (i.told settings) i.context i.query told) := by
  obtain ⟨ps, hp, hb⟩ := hb
  rw [Inquiry.ofRequest, if_pos hm] at h
  have hvis : i.context.visibility i.query ≠ [] := visibility_ne_nil (visibility_ofPayload h) i.query
  have hfilters : Json.Tells (i.told settings).filters := filters_ofPayload h
  have hd : ∀ es, (i.told settings).filters = .map es → Entries.Distinct es := by
    intro es he
    rw [he] at hfilters
    exact hfilters.isRecord.distinct
  obtain ⟨told, ht, hn, hf⟩ := field?_engineParams hvis hd hp
  exact ⟨told, ht, hn, Body.carries_of_build hb hf (scopedText_ne_nil told)⟩

/-- The filters that a search is told are put under its mandates, of which each is a clause of the text that
every hit must match. Where store and filters are each told in one word there is nothing else in the text but
clauses with `AND` between them. -/
theorem payloads_stay_in_scope [Engine σ] (hm : request.method.toUpper = "POST") (hs : Separates separators) (l : Link σ) :
    (∀ i body, Inquiry.ofRequest settings catalog request = .ok i → i.Sends settings catalog body →
      ∃ told, ((i.told settings).filters.orElse (.map [])).toEntries = .ok told ∧ told.names.Nodup ∧
        body.Carries (scopedText (i.told settings) i.context i.query told) ∧
        (∀ m ∈ mandates (i.told settings) i.context i.query,
          m.2 ∈ clausesUnder (mandates (i.told settings) i.context i.query) told) ∧
        (Contained separators (i.told settings) i.context i.query told →
          IsConjunction separators (scopedText (i.told settings) i.context i.query told)
            (clausesUnder (mandates (i.told settings) i.context i.query) told))) ∧
    ∀ index body,
      .called (.search index body) ∈ (exec (respond catalog request) settings l).2.events →
      .called (.search index body) ∈ l.events ∨
        ∃ i, Inquiry.ofRequest settings catalog request = .ok i ∧ i.Sends settings catalog body := by
  refine ⟨?_, ?_⟩
  · intro i body hi hb
    obtain ⟨told, ht, hn, hc⟩ := carries_of_sends hm hi hb
    refine ⟨told, ht, hn, hc, ?_, isConjunction_scopedText hs⟩
    intro m hm
    exact mem_clausesUnder (nodup_mandates _ i.context i.query) hm told
  · intro index body he
    rcases emits_respond l _ he with he | he
    · exact .inl he
    · exact .inr (he index body rfl)

def fieldRequest (field text : String) : Request where
  method := "POST"
  address := "/api/search"
  payload := pure (some (.object [("params", .object [("filters", .object [(field, .text text)])])]))

def fieldInquiry (field text : String) : Inquiry where
  query := .text ""
  params := .ofFields [("filters", .ofFields [(field, .text text)])]
  entityType := defaultEntityType
  context := { store := 1, locale := some "en_US" }

theorem toUpper_fieldRequest (field text : String) : (fieldRequest field text).method.toUpper = "POST" := toUpper_post

theorem ofRequest_fieldRequest (field text : String) :
    Inquiry.ofRequest Setting.default (.held [] [] []) (fieldRequest field text) = .ok (fieldInquiry field text) := by
  have hparams : (Json.object [("filters", .object [(field, .text text)])]).toValue = (fieldInquiry field text).params := by
    rw [Json.toValue_object (by simp), List.map_singleton, Json.toValue_object (by simp), List.map_singleton, Json.toValue]
    rfl
  rw [Inquiry.ofRequest, if_pos (toUpper_fieldRequest field text), fieldRequest, Inquiry.ofPayload_object (by simp),
    Inquiry.ofTold]
  simp only [Inquiry.member_ofFields, Folds.ok_bind, List.map_cons, List.map_nil, hparams]
  have hc : contextOf Setting.default (.held [] [] []) (.map []) = .ok (fieldInquiry field text).context := rfl
  change (contextOf _ _ (.map []) >>= _) = _
  rw [hc]
  rfl

theorem told_fieldInquiry (field text : String) : (fieldInquiry field text).told Setting.default = {
    offset := .int 0, limit := .int 9999, sortBy := .list [.ofFields [("relevance", .text "desc")]], fields := .list []
    extra := .map [], store := .null, filters := .ofFields [(field, .text text)], facets := .map []
    rangeFilters := .map [], stats := .list [] } := ofValue_ofFields _ _

def fieldScope : List (List Char) := ["store_id:1".toList, "in_stock:1".toList, "(visibility:2 OR visibility:4)".toList]

theorem mandates_fieldInquiry (field text : String) :
    mandates ((fieldInquiry field text).told Setting.default) (fieldInquiry field text).context
      (fieldInquiry field text).query = List.zip ["store_id", "in_stock", "visibility"] fieldScope := by
  have hstore : ((fieldInquiry field text).told Setting.default).storeIn (fieldInquiry field text).context = .int 1 := by
    rw [told_fieldInquiry]
    rfl
  have hone : (Value.int 1).integerOf?.getD 0 > 0 := by decide
  have hclause : "store_id:".toList ++ exactText (Value.int 1).chars = "store_id:1".toList := by decide
  rw [mandates, hstore, if_pos hone, hclause]
  rfl

theorem clausesUnder_fieldInquiry {field : String} (hf : field ∉ ["store_id", "in_stock", "visibility"])
    (text : String) :
    clausesUnder (mandates ((fieldInquiry field text).told Setting.default) (fieldInquiry field text).context
      (fieldInquiry field text).query) [(.text field, .text text)] =
        fieldCondition field.toList (exactText text.toList) :: fieldScope := by
  have hname : field ∉ (List.zip ["store_id", "in_stock", "visibility"] fieldScope).map Prod.fst := hf
  have hclause : filterClauses [(.text field, .text text)] = [fieldCondition field.toList (exactText text.toList)] := by
    rw [filterClauses_singleton]
    rfl
  have hothers : ∀ name ∈ ["store_id", "in_stock", "visibility"],
      Entries.hasField [(.text field, .text text)] name = false := by
    intro name hn
    have hne : name ≠ field := fun he => hf (he ▸ hn)
    simp [Entries.hasField, Keyed.has, Keyed.find?, Value.same_text_of_ne hne]
  rw [mandates_fieldInquiry, clausesUnder, List.flatMap_singleton, clausesOf_text hname, hclause]
  simp [fieldScope, hothers]

theorem toEntries_fieldInquiry (field text : String) :
    (((fieldInquiry field text).told Setting.default).filters.orElse (.map [])).toEntries =
      .ok [(.text field, .text text)] := by
  rw [told_fieldInquiry]
  rfl

theorem exists_field_body {field : String} (hf : field ∉ ["store_id", "in_stock", "visibility"]) (text : String) :
    ∃ body, (fieldInquiry field text).Sends Setting.default (.held [] [] []) body ∧
      body.Carries (conjunction (fieldCondition field.toList (exactText text.toList) :: fieldScope)) := by
  obtain ⟨body, hb⟩ : ∃ body, (fieldInquiry field text).Sends Setting.default (.held [] [] []) body := by
    apply Inquiry.exists_sends
    · rw [told_fieldInquiry]
      exact ⟨rfl, rfl, rfl, rfl, rfl⟩
    · rw [told_fieldInquiry]
      exact ⟨_, rfl⟩
    · rfl
  obtain ⟨told, ht, -, hc⟩ := carries_of_sends (toUpper_fieldRequest field text) (ofRequest_fieldRequest field text) hb
  cases (toEntries_fieldInquiry field text).symm.trans ht
  rw [scopedText, clausesUnder_fieldInquiry hf] at hc
  exact ⟨body, hb, hc⟩

theorem separates_tab : Separates [' ', '\t'] := ⟨by decide, by decide⟩

theorem contained_red : Contained [' ', '\t'] ((fieldInquiry "colour" "dark red").told Setting.default)
    (fieldInquiry "colour" "dark red").context (fieldInquiry "colour" "dark red").query
      [(.text "colour", .text "dark red")] where
  store := by
    intro _
    rw [told_fieldInquiry]
    exact held_of_all separates_tab (by decide)
  filters := by
    intro e he _ criterion hc
    rw [List.mem_singleton.mp he] at hc ⊢
    cases hc
    refine ⟨solid_of_all separates_tab (by decide), ?_⟩
    rintro t ⟨⟩
    exact .inl (by decide)

theorem red_products_stay_in_scope : (fieldRequest "colour" "dark red").method.toUpper = "POST" ∧
    Separates [' ', '\t'] ∧ ∃ body,
      Inquiry.ofRequest Setting.default (.held [] [] []) (fieldRequest "colour" "dark red") =
        .ok (fieldInquiry "colour" "dark red") ∧
      (fieldInquiry "colour" "dark red").Sends Setting.default (.held [] [] []) body ∧
      body.Carries (conjunction ("colour:\"dark red\"".toList :: fieldScope)) ∧
      IsConjunction [' ', '\t'] (conjunction ("colour:\"dark red\"".toList :: fieldScope))
        ("colour:\"dark red\"".toList :: fieldScope) := by
  have hm := toUpper_fieldRequest "colour" "dark red"
  have hs := separates_tab
  have hi := ofRequest_fieldRequest "colour" "dark red"
  have hname : "colour" ∉ ["store_id", "in_stock", "visibility"] := by decide
  have hclause : fieldCondition "colour".toList (exactText "dark red".toList) = "colour:\"dark red\"".toList := by decide
  obtain ⟨body, hb, -⟩ := exists_field_body hname "dark red"
  obtain ⟨told, ht, -, hc, -, hcontained⟩ := (@payloads_stay_in_scope Script Setting.default (.held [] [] [])
    (fieldRequest "colour" "dark red") [' ', '\t'] _ hm hs ⟨[], false, none, [], []⟩).1 _ body hi hb
  cases (toEntries_fieldInquiry _ _).symm.trans ht
  have hconjunction := hcontained contained_red
  rw [scopedText, clausesUnder_fieldInquiry hname, hclause] at hc hconjunction
  exact ⟨hm, hs, body, hi, hb, hc, hconjunction⟩

theorem exists_broken {field text : String} {clause : List Char} {words : List (List Char)}
    (hf : field ∉ ["store_id", "in_stock", "visibility"])
    (hc : fieldCondition field.toList (exactText text.toList) = clause)
    (hw : topWords separators [] (conjunction (clause :: fieldScope)) = some words) (hm : "OR".toList ∈ words) :
    ∃ body, Inquiry.ofRequest Setting.default (.held [] [] []) (fieldRequest field text) =
        .ok (fieldInquiry field text) ∧
      (fieldInquiry field text).Sends Setting.default (.held [] [] []) body ∧
      body.Carries (conjunction (clause :: fieldScope)) ∧
      ∀ clauses, ¬IsConjunction separators (conjunction (clause :: fieldScope)) clauses := by
  have hor : "OR".toList ∈ operators := by decide
  obtain ⟨body, hb, hcarries⟩ := exists_field_body hf text
  rw [hc] at hcarries
  exact ⟨body, ofRequest_fieldRequest field text, hb, hcarries, not_isConjunction hw hor hm (by decide)⟩

/-- A name can bring an operator into the filters, and so can a text with a tab where tabs separate words. -/
theorem names_and_tabs_break_out :
    (∃ body, Inquiry.ofRequest Setting.default (.held [] [] []) (fieldRequest "x:1 OR y" "z") =
        .ok (fieldInquiry "x:1 OR y" "z") ∧
      (fieldInquiry "x:1 OR y" "z").Sends Setting.default (.held [] [] []) body ∧
      body.Carries (conjunction ("x:1 OR y:z".toList :: fieldScope)) ∧
      ∀ clauses, ¬IsConjunction [' '] (conjunction ("x:1 OR y:z".toList :: fieldScope)) clauses) ∧
    ∃ body, Inquiry.ofRequest Setting.default (.held [] [] []) (fieldRequest "x" "1\tOR\ty") =
        .ok (fieldInquiry "x" "1\tOR\ty") ∧
      (fieldInquiry "x" "1\tOR\ty").Sends Setting.default (.held [] [] []) body ∧
      body.Carries (conjunction ("x:1\tOR\ty".toList :: fieldScope)) ∧
      ∀ clauses, ¬IsConjunction [' ', '\t'] (conjunction ("x:1\tOR\ty".toList :: fieldScope)) clauses := by
  have hname : topWords [' '] [] (conjunction ("x:1 OR y:z".toList :: fieldScope)) =
      some (["x:1".toList, "OR".toList] ++ ("y:z".toList :: fieldScope).intersperse "AND".toList) := by decide
  have htab : topWords [' ', '\t'] [] (conjunction ("x:1\tOR\ty".toList :: fieldScope)) =
      some (["x:1".toList, "OR".toList] ++ ("y".toList :: fieldScope).intersperse "AND".toList) := by decide
  exact ⟨exists_broken (by decide) (by decide) hname (by decide), exists_broken (by decide) (by decide) htab (by decide)⟩

end Web

end CatalogSearch
