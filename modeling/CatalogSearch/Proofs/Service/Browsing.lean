import CatalogSearch.Proofs.Query.SearchText
import CatalogSearch.Proofs.Service.ScopedSearch

namespace CatalogSearch.Service

open Engine Action Query Reader SearchText

variable {σ : Type} {settings : Settings} {catalog : Catalog} {p : Params} {query : Value} {context : Context}

/-- A text of white space browses, and anything else that does not count. -/
def browses : Value → Bool
  | .text s => Text.allBlank s.toList
  | v => !v.truthy

def visibleIds (context : Context) (query : Value) : List Int :=
  if browses query then context.catalogVisibility else context.searchVisibility

theorem visibility_eq (context : Context) (query : Value) : context.visibility query = visibleIds context query := by
  have hasks : ∀ cs, (!(Text.trim cs).isEmpty) = !Text.allBlank cs := by
    intro cs
    rw [Bool.not_inj_iff, Bool.eq_iff_iff, List.isEmpty_iff, Text.trim_eq_nil_iff]
  unfold Context.visibility visibleIds browses
  cases query <;> simp only [hasks] <;> split <;> simp_all

/-- A query that asks nothing of any field, or consists of spaces, leaves everything to match. -/
def matchesAll : Value → Bool
  | .map es => es.all fun e => seeksNothing e.1.chars e.2
  | v => v.operand.all (· == ' ')

theorem clauseText_ne_nil (field : List Char) (c : Criterion) : clauseText field c ≠ [] := by
  cases c with
  | equals text =>
      rw [clauseText, fieldCondition]
      split <;> simp
  | anyOf texts => exact List.cons_ne_nil _ _
  | between lower upper => simp [clauseText]

theorem searchClauses_eq_nil_iff (es : Entries) : searchClauses es = [] ↔ matchesAll (.map es) = true := by
  rw [searchClauses, List.filterMap_eq_nil_iff, matchesAll, List.all_eq_true]
  refine forall₂_congr fun e _ => ?_
  rw [searchEntry?_eq, Option.map_eq_none_iff, spelled?_eq_none_iff]

theorem searchConditions_eq_nil_iff (query : Value) : searchConditions query = [] ↔ matchesAll query = true := by
  cases query with
  | map es =>
      rw [← searchClauses_eq_nil_iff, searchConditions]
      constructor
      · intro h
        by_contra hne
        obtain ⟨clause, hc⟩ := List.exists_mem_of_ne_nil _ hne
        rw [searchClauses_eq_map] at h hc
        obtain ⟨a, -, rfl⟩ := List.mem_map.mp hc
        exact conjunction_ne_nil hc (clauseText_ne_nil a.1 a.2) h
      · intro h
        rw [h]
        rfl
  | _ => exact group_eq_nil_iff _

/-- Queries that browse but do not match everything, or match everything without browsing: white space
that is not spaces, and fields of which none seeks anything. -/
inductive Overlooked : Value → Prop where
  | blank {s : String} : (∀ c ∈ s.toList, Text.isBlank c = true) → (∃ c ∈ s.toList, c ≠ ' ') → Overlooked (.text s)
  | unasked {es : Entries} : es ≠ [] → (∀ e ∈ es, seeksNothing e.1.chars e.2 = true) → Overlooked (.map es)

theorem overlooked_text_iff (s : String) :
    Overlooked (.text s) ↔ browses (.text s) = true ∧ matchesAll (.text s) = false := by
  have hb : browses (.text s) = true ↔ ∀ c ∈ s.toList, Text.isBlank c = true := List.all_eq_true
  have hm : matchesAll (.text s) = false ↔ ∃ c ∈ s.toList, c ≠ ' ' := by
    simp [matchesAll, Value.operand, Value.chars]
  rw [hb, hm]
  constructor
  · rintro ⟨hb, hm⟩
    exact ⟨hb, hm⟩
  · rintro ⟨hb, hm⟩
    exact .blank hb hm

theorem overlooked_map_iff (es : Entries) :
    Overlooked (.map es) ↔ browses (.map es) = false ∧ matchesAll (.map es) = true := by
  have hb : browses (.map es) = false ↔ es ≠ [] := by simp [browses, Value.truthy]
  rw [hb, matchesAll, List.all_eq_true]
  constructor
  · rintro (_ | ⟨hne, hs⟩)
    exact ⟨hne, hs⟩
  · rintro ⟨hne, hs⟩
    exact .unasked hne hs

theorem browses_of_matchesAll_text {s : String} (h : matchesAll (.text s) = true) : browses (.text s) = true := by
  have hs : ∀ c ∈ s.toList, (c == ' ') = true := List.all_eq_true.mp h
  refine List.all_eq_true.mpr fun c hc => ?_
  rw [eq_of_beq (hs c hc)]
  decide

theorem agree_iff (hq : query.isText = true ∨ query.isMap = true) :
    (browses query = true ↔ matchesAll query = true) ↔ ¬Overlooked query := by
  cases query with
  | text s =>
      have hm := browses_of_matchesAll_text (s := s)
      rw [overlooked_text_iff, ← Bool.not_eq_true (matchesAll _)]
      tauto
  | map es =>
      have hb : browses (.map es) = true → matchesAll (.map es) = true := by
        cases es with
        | nil => exact fun _ => rfl
        | cons e es => exact fun h => absurd h Bool.false_ne_true
      rw [overlooked_map_iff, ← Bool.not_eq_true (browses _)]
      tauto
  | _ => simp [Value.isText, Value.isMap] at hq

theorem conditions_of_build {ps : Entries} {body : Body}
    (h : Body.build settings (.ofChars (searchConditions query)) ps = .ok body) :
    body.conditions = if matchesAll query then none else some (.ofChars (searchConditions query)) := by
  rw [(Body.built_of_build h).conditions]
  by_cases hm : matchesAll query = true
  · rw [(searchConditions_eq_nil_iff query).mpr hm, if_pos hm]
    rfl
  · have hne : searchConditions query ≠ [] := fun he => hm ((searchConditions_eq_nil_iff query).mp he)
    rw [if_neg hm, if_pos (Body.truthy_ofChars hne)]

theorem field?_visibility {filters : Entries} (h : scopedFilters p context query = .ok filters) :
    filters.field? "visibility" = some (.list ((visibleIds context query).map .int)) := by
  obtain ⟨told, -, h⟩ := Folds.bind_eq_ok.mp h
  cases h
  rw [Entries.field?_set_self, visibility_eq]

def visibilityClause (context : Context) (query : Value) : List Char :=
  Criterion.disjunction "visibility".toList ((visibleIds context query).map fun n => (toString n).toList)

/-- What is sent for a query: its visibility among the filters, and what is to match. -/
structure SendsQuery (context : Context) (query : Value) (filters : Entries) (body : Body) : Prop where
  visible : filters.field? "visibility" = some (.list ((visibleIds context query).map .int))
  carried : visibleIds context query ≠ [] →
    visibilityClause context query ∈ filterClauses filters ∧ body.Carries (conjunction (filterClauses filters))
  matched : body.Demands
    (if matchesAll query then Body.everything else Aggregation.queryText (.ofChars (searchConditions query)))
  agree : (browses query = true ↔ body.conditions = none) ↔ ¬Overlooked query

theorem sendsQuery_of_build (hq : query.isText = true ∨ query.isMap = true) {ps : Entries} {body : Body}
    (hp : engineParams catalog p context query = .ok ps)
    (hb : Body.build settings (.ofChars (searchConditions query)) ps = .ok body) :
    ∃ filters, scopedFilters p context query = .ok filters ∧ SendsQuery context query filters body := by
  obtain ⟨_, _, filters, start, -, -, hf, -, hps⟩ := engineParams_eq_closed hp
  have hc := conditions_of_build hb
  have ht : ps.field? "filters" = some (.ofChars (conjunction (filterClauses filters))) := by
    rw [hps, field?_filters_closed]
  refine ⟨filters, hf, field?_visibility hf, ?_, ?_, ?_⟩
  · intro hne
    have hm := mem_filterClauses (Keyed.mem_of_find?_text (field?_visibility hf)) (filterClauses_visibility hne)
    exact ⟨hm, Body.carries_of_build hb ht (conjunction_ne_nil hm (List.cons_ne_nil _ _))⟩
  · have hd := Body.demands_of_build hb
    rw [hc] at hd
    by_cases hm : matchesAll query = true <;> simpa [hm, Body.mustOf] using hd
  · rw [← agree_iff hq, hc]
    by_cases hm : matchesAll query = true <;> simp [hm]

/-- A search filters by the visibility of the catalog where its query browses, and matches everything where
its query asks for nothing. Both hold of the same queries, but for those that are overlooked. -/
theorem browsing_and_matching [Engine σ] {params entityType : Value} {given : Option Context}
    (hq : query.isText = true ∨ query.isMap = true) (l : Link σ) :
    (∀ c ps body, contextOf settings catalog (Params.ofValue settings params) given = .ok c →
      engineParams catalog (Params.ofValue settings params) c query = .ok ps →
      Body.build settings (.ofChars (searchConditions query)) ps = .ok body →
      ∃ filters, scopedFilters (Params.ofValue settings params) c query = .ok filters ∧
        SendsQuery c query filters body) ∧
    ∀ index body,
      .called (.search index body) ∈ (exec (search catalog query params entityType given) settings l).2.events →
      .called (.search index body) ∈ l.events ∨
        ∃ c ps, contextOf settings catalog (Params.ofValue settings params) given = .ok c ∧
          engineParams catalog (Params.ofValue settings params) c query = .ok ps ∧
            Body.build settings (.ofChars (searchConditions query)) ps = .ok body := by
  refine ⟨?_, ?_⟩
  · intro c ps body _ hp hb
    exact sendsQuery_of_build hq hp hb
  · intro index body he
    rcases emits_search l _ he with he | he
    · exact .inl he
    · exact .inr (he index body rfl)

def bareParams : Value := .ofFields [("store_id", .int 2), ("sort_by", .list [])]

def bareSearch : Params where
  offset := .int 0
  limit := .int 9999
  sortBy := .list []
  fields := .list []
  extra := .map []
  store := .int 2
  filters := .map []
  facets := .map []
  rangeFilters := .map []
  stats := .list []

theorem ofValue_bareParams : Params.ofValue Setting.default bareParams = bareSearch := by
  simp [Params.ofValue, bareParams, bareSearch, Value.ofFields, Entries.field, Entries.field?, Keyed.find?,
    Value.same_text, Setting.default]

theorem exists_bare_body (query : Value) :
    ∃ ps body, engineParams (.held [] [] []) bareSearch shopContext query = .ok ps ∧
      Body.build Setting.default (.ofChars (searchConditions query)) ps = .ok body := by
  obtain ⟨ps, hp⟩ : ∃ ps, engineParams (.held [] [] []) bareSearch shopContext query = .ok ps := ⟨_, rfl⟩
  obtain ⟨body, hb⟩ := exists_build Setting.default ⟨rfl, rfl, rfl, rfl, rfl⟩ hp rfl
    (.ofChars (searchConditions query))
  exact ⟨ps, body, hp, hb⟩

theorem spaces_browse_and_match_all : (Value.text "  ").isText = true ∧ ∃ ps body, ∃ filters : Entries,
    engineParams (.held [] [] []) bareSearch shopContext (.text "  ") = .ok ps ∧
    Body.build Setting.default (.ofChars (searchConditions (.text "  "))) ps = .ok body ∧
    filters.field? "visibility" = some (.list [.int 2, .int 4]) ∧ body.Demands Body.everything := by
  obtain ⟨ps, body, hp, hb⟩ := exists_bare_body (.text "  ")
  have hs := (@browsing_and_matching Script Setting.default (.held [] [] []) (.text "  ") _ bareParams
    defaultEntityType (some shopContext) (.inl rfl) ⟨[], false, none, [], []⟩).1
  rw [ofValue_bareParams] at hs
  obtain ⟨filters, -, hsent⟩ := hs shopContext ps body rfl hp hb
  exact ⟨rfl, ps, body, filters, hp, hb, hsent.visible, hsent.matched⟩

/-- A tab browses, but is looked for; a field with an empty text is searched for among all that matches. -/
theorem tabs_and_empty_fields_are_overlooked :
    (∃ ps body, engineParams (.held [] [] []) bareSearch shopContext (.text "\t") = .ok ps ∧
      Body.build Setting.default (.ofChars (searchConditions (.text "\t"))) ps = .ok body ∧
      shopContext.visibility (.text "\t") = shopContext.catalogVisibility ∧ body.conditions = some (.text "\t")) ∧
    ∃ ps body,
      engineParams (.held [] [] []) bareSearch shopContext (.map [(.text "name", .text "")]) = .ok ps ∧
      Body.build Setting.default (.ofChars (searchConditions (.map [(.text "name", .text "")]))) ps = .ok body ∧
      shopContext.visibility (.map [(.text "name", .text "")]) = shopContext.searchVisibility ∧
      body.conditions = none := by
  obtain ⟨ps, body, hp, hb⟩ := exists_bare_body (.text "\t")
  obtain ⟨ps', body', hp', hb'⟩ := exists_bare_body (.map [(.text "name", .text "")])
  refine ⟨⟨ps, body, hp, hb, ?_, ?_⟩, ps', body', hp', hb', ?_, ?_⟩
  · rw [visibility_eq]
    decide
  · rw [conditions_of_build hb]
    rfl
  · rw [visibility_eq]
    rfl
  · rw [conditions_of_build hb']
    rfl

end CatalogSearch.Service
