import CatalogSearch.Engine.Script
import CatalogSearch.Proofs.Engine.Bodies
import CatalogSearch.Proofs.Engine.Traces
import CatalogSearch.Proofs.Service.Scope

namespace CatalogSearch.Service

open Engine Action Query

variable {σ : Type} {settings : Settings} {catalog : Catalog} {p : Params} {query : Value} {context : Context}

/-- The context that a search is given, or else that of the store it asks for. -/
def contextOf (settings : Settings) (catalog : Catalog) (p : Params) (given : Option Context) : Outcome Context :=
  match given with
  | some c => .ok c
  | none => defaultContext settings catalog p.store

def scopedText (p : Params) (context : Context) (query : Value) (told : Entries) : List Char :=
  conjunction (clausesUnder (mandates p context query) told)

theorem conjunction_ne_nil {clauses : List (List Char)} {clause : List Char} (hc : clause ∈ clauses)
    (hne : clause ≠ []) :
    conjunction clauses ≠ [] := by
  intro he
  obtain ⟨first, rest, rfl⟩ := List.exists_cons_of_ne_nil (List.ne_nil_of_mem hc)
  by_cases hr : rest = []
  · subst hr
    rw [conjunction, List.intercalate_singleton] at he
    exact hne (by rw [List.mem_singleton.mp hc, he])
  · rw [conjunction, List.intercalate_cons_of_ne_nil hr, List.append_eq_nil_iff, List.append_eq_nil_iff] at he
    exact absurd he.1.2 (by decide)

theorem scopedText_ne_nil (told : Entries) : scopedText p context query told ≠ [] := by
  have hm : ("visibility", Criterion.disjunction "visibility".toList
      ((context.visibility query).map fun n => (toString n).toList)) ∈
      mandates p context query :=
    List.mem_append_right _ (List.mem_append_right _ (List.mem_singleton_self _))
  refine conjunction_ne_nil (mem_clausesUnder (nodup_mandates p context query) hm told) ?_
  exact List.cons_ne_nil _ _

theorem visibility_ne_nil (h : context.searchVisibility ≠ [] ∧ context.catalogVisibility ≠ []) (query : Value) :
    context.visibility query ≠ [] := by
  unfold Context.visibility
  dsimp only
  split <;> split
  exacts [h.1, h.2, h.1, h.2]

theorem visibility_defaultContext {store : Value} (h : defaultContext settings catalog store = .ok context) :
    context.searchVisibility ≠ [] ∧ context.catalogVisibility ≠ [] := by
  obtain ⟨s, -, h⟩ := Folds.bind_eq_ok.mp h
  cases h
  exact ⟨List.cons_ne_nil _ _, List.cons_ne_nil _ _⟩

section

variable [Engine σ] {params entityType : Value} {given : Option Context}

/-- The engine is searched only with a body that was built from the parameters of the search. -/
theorem emits_clientSearch {conditions : Value} {ps : Entries} :
    Emits (fun e => ∀ index body, e = .called (.search index body) →
        Body.build settings conditions ps = .ok body) settings
      (Client.search conditions (.map ps) entityType : Action σ _) := by
  refine emits_whenConnected (by intro _ _ h; cases h) ?_
  refine emits_read.bind ?_
  intro l x hx
  cases hx
  refine (emits_ofOutcome _).bind ?_
  intro l es hes
  rw [exec_ofOutcome] at hes
  cases hes
  refine (emits_ofOutcome _).bind ?_
  intro l body hb
  rw [exec_ofOutcome] at hb
  refine (emits_ask ?_).bind ?_
  · rintro _ _ ⟨⟩
    exact hb
  · intro l x _
    refine emits_orWarn fun v => ?_
    refine (emits_ofOutcome _).bind ?_
    intro l aggregations _
    refine (emits_ofOutcome _).bind ?_
    intro l facets _
    exact emits_pure _

def searchIn (catalog : Catalog) (p : Params) (query entityType : Value) (c : Context) : Action σ Value := do
  let engineParams ← ofOutcome (engineParams catalog p c query)
  match ← Client.search (.ofChars (searchConditions query)) (.map engineParams) entityType with
  | none => return .map []
  | some result => ofOutcome (summarize (p.facets.truthy || p.stats.truthy) result)

theorem exec_search {c : Context} (hc : contextOf settings catalog (Params.ofValue settings params) given = .ok c)
    (l : Link σ) : exec (search catalog query params entityType given) settings l =
      exec (searchIn catalog (Params.ofValue settings params) query entityType c) settings l := by
  rw [search, exec_bind, exec_read, andThen_ok]
  cases given with
  | some own =>
      cases hc
      rw [exec_bind, exec_pure, andThen_ok]
      rfl
  | none =>
      rw [exec_bind, exec_ofOutcome]
      change andThen (contextOf settings catalog (Params.ofValue settings params) none, l) _ = _
      rw [hc, andThen_ok]
      rfl

theorem events_of_clientSearch {conditions : Value} {ps : Entries} {body : Body} {l : Link σ} (hc : l.connected = true)
    (hb : Body.build settings conditions ps = .ok body) :
    (exec (Client.search conditions (.map ps) entityType) settings l).2.events =
      l.events ++ [.called (.search (settings.indexFor entityType) body)] := by
  rw [Client.search, exec_whenConnected (exec_connect hc), exec_bind, exec_read, andThen_ok, exec_bind, exec_ofOutcome,
    Value.entries_map, andThen_ok, exec_bind, exec_ofOutcome, hb, andThen_ok, exec_bind, exec_ask, andThen_ok]
  cases (Engine.answer (.search (settings.indexFor entityType) body) l.engine).1 with
  | error fault =>
      rw [orWarn]
      split <;> rfl
  | ok response =>
      simp only [orWarn, exec_bind, exec_ofOutcome]
      cases response.get "aggregations" (.map []) with
      | error e => rfl
      | ok aggregations =>
          rw [andThen_ok]
          cases FacetRecord.decodeAll aggregations ((ps.field "facets").orElse (.map [])) <;> rfl

theorem events_of_searchIn {ps : Entries} {body : Body} {l : Link σ} (hc : l.connected = true)
    (hp : engineParams catalog p context query = .ok ps)
    (hb : Body.build settings (.ofChars (searchConditions query)) ps = .ok body) :
    (exec (searchIn catalog p query entityType context) settings l).2.events =
      l.events ++ [.called (.search (settings.indexFor entityType) body)] := by
  rw [searchIn, exec_bind, exec_ofOutcome, hp, andThen_ok, exec_bind, ← events_of_clientSearch hc hb]
  rcases exec (Client.search (.ofChars (searchConditions query)) (.map ps) entityType) settings l with ⟨e | result, l'⟩
  · rfl
  · cases result with
    | none => rfl
    | some result => rw [andThen_ok, exec_ofOutcome]

theorem emits_searchIn {c : Context} (hc : contextOf settings catalog (Params.ofValue settings params) given = .ok c) :
    Emits (fun e => ∀ index body, e = .called (.search index body) →
      ∃ c ps, contextOf settings catalog (Params.ofValue settings params) given = .ok c ∧
        engineParams catalog (Params.ofValue settings params) c query = .ok ps ∧
          Body.build settings (.ofChars (searchConditions query)) ps = .ok body)
    settings (searchIn catalog (Params.ofValue settings params) query entityType c : Action σ Value) := by
  refine (emits_ofOutcome _).bind ?_
  intro l ps hp
  rw [exec_ofOutcome] at hp
  refine Emits.bind ?_ ?_
  · intro l e he
    rcases emits_clientSearch l e he with he | he
    · exact .inl he
    · exact .inr fun index body hb => ⟨c, ps, hc, hp, he index body hb⟩
  · intro l x _
    cases x with
    | none => exact emits_pure _
    | some result => exact emits_ofOutcome _

theorem emits_search : Emits (fun e => ∀ index body, e = .called (.search index body) →
      ∃ c ps, contextOf settings catalog (Params.ofValue settings params) given = .ok c ∧
        engineParams catalog (Params.ofValue settings params) c query = .ok ps ∧
          Body.build settings (.ofChars (searchConditions query)) ps = .ok body)
    settings (search catalog query params entityType given : Action σ Value) := by
  refine emits_read.bind ?_
  intro l x hx
  cases hx
  cases given with
  | some c =>
      refine (emits_pure c).bind ?_
      intro l x hx
      cases hx
      exact emits_searchIn rfl
  | none =>
      refine (emits_ofOutcome _).bind ?_
      intro l c hc
      rw [exec_ofOutcome] at hc
      exact emits_searchIn hc

/-- Whatever a search is told, the filters it hands over are those that were told, under its mandates;
every body built from them makes hits pass these filters, and the engine is searched with no other body. -/
theorem search_keeps_mandates (hd : ∀ es, (Params.ofValue settings params).filters = .map es → Entries.Distinct es)
    (hv : ∀ c, given = some c → c.searchVisibility ≠ [] ∧ c.catalogVisibility ≠ []) (l : Link σ) :
    (∀ c ps, contextOf settings catalog (Params.ofValue settings params) given = .ok c →
      engineParams catalog (Params.ofValue settings params) c query = .ok ps →
      ∃ told, ((Params.ofValue settings params).filters.orElse (.map [])).toEntries = .ok told ∧ told.names.Nodup ∧
        ps.field? "filters" = some (.ofChars (scopedText (Params.ofValue settings params) c query told)) ∧
        (∀ m ∈ mandates (Params.ofValue settings params) c query,
          m.2 ∈ clausesUnder (mandates (Params.ofValue settings params) c query) told) ∧
        ∀ conditions body, Body.build settings conditions ps = .ok body →
          body.Carries (scopedText (Params.ofValue settings params) c query told)) ∧
    ∀ index body,
      .called (.search index body) ∈ (exec (search catalog query params entityType given) settings l).2.events →
      .called (.search index body) ∈ l.events ∨
        ∃ c ps, contextOf settings catalog (Params.ofValue settings params) given = .ok c ∧
          engineParams catalog (Params.ofValue settings params) c query = .ok ps ∧
            Body.build settings (.ofChars (searchConditions query)) ps = .ok body := by
  refine ⟨?_, ?_⟩
  · intro c ps hc hp
    have hvis : c.visibility query ≠ [] := by
      refine visibility_ne_nil ?_ query
      cases given with
      | some own =>
          cases hc
          exact hv c rfl
      | none => exact visibility_defaultContext hc
    obtain ⟨told, ht, hn, hf⟩ := field?_engineParams hvis hd hp
    refine ⟨told, ht, hn, hf, ?_, ?_⟩
    · intro m hm
      exact mem_clausesUnder (nodup_mandates _ c query) hm told
    · intro conditions body hb
      exact Body.carries_of_build hb hf (scopedText_ne_nil told)
  · intro index body he
    rcases emits_search l _ he with he | he
    · exact .inl he
    · exact .inr (he index body rfl)

end

def nosyFilters : Entries := [(.text "visibility", .text "1"), (.text "colour", .text "red")]

def nosyParams : Value := .ofFields [
  ("filters", .map nosyFilters),
  ("params", .ofFields [("filters", .text "colour:red"), ("in_stock", .text "0")]),
  ("store_id", .int 2), ("offset", .int 0), ("limit", .int 10), ("sort_by", .list [])]

def nosySearch : Params where
  offset := .int 0
  limit := .int 10
  sortBy := .list []
  fields := .list []
  extra := .ofFields [("filters", .text "colour:red"), ("in_stock", .text "0")]
  store := .int 2
  filters := .map nosyFilters
  facets := .map []
  rangeFilters := .map []
  stats := .list []

theorem ofValue_nosyParams : Params.ofValue Setting.default nosyParams = nosySearch := by
  simp [Params.ofValue, nosyParams, nosySearch, Value.ofFields, Entries.field, Entries.field?, Keyed.find?,
    Value.same_text]

def shopContext : Context := { store := 2, website := 1 }

def nosyText : List Char := "(visibility:3 OR visibility:4) AND colour:red AND store_id:2 AND in_stock:1".toList

theorem nosy_search_keeps_mandates :
    (∀ es, (Params.ofValue Setting.default nosyParams).filters = .map es → Entries.Distinct es) ∧
    (∀ c, some shopContext = some c → c.searchVisibility ≠ [] ∧ c.catalogVisibility ≠ []) ∧
    ∃ ps, engineParams (.held [] [] []) (Params.ofValue Setting.default nosyParams) shopContext (.text "lamp") =
      .ok ps ∧
      ps.field? "filters" = some (.ofChars nosyText) ∧
      ∀ conditions body, Body.build Setting.default conditions ps = .ok body → body.Carries nosyText := by
  have hd : ∀ es, (Params.ofValue Setting.default nosyParams).filters = .map es → Entries.Distinct es := by
    rw [ofValue_nosyParams]
    intro es he
    cases he
    exact .cons (by simp [Value.same_text_of_ne]) (.cons (by simp) .nil)
  have hv : ∀ c, some shopContext = some c → c.searchVisibility ≠ [] ∧ c.catalogVisibility ≠ [] := by
    rintro c ⟨⟩
    exact ⟨List.cons_ne_nil _ _, List.cons_ne_nil _ _⟩
  have hs := (@search_keeps_mandates Script Setting.default (.held [] [] []) (.text "lamp") _ nosyParams
    defaultEntityType (some shopContext) hd hv ⟨[], false, none, [], []⟩).1
  refine ⟨hd, hv, ?_⟩
  rw [ofValue_nosyParams] at hs ⊢
  obtain ⟨ps, hp⟩ : ∃ ps, engineParams (.held [] [] []) nosySearch shopContext (.text "lamp") = .ok ps := ⟨_, rfl⟩
  obtain ⟨told, ht, -, hf, -, hb⟩ := hs shopContext ps rfl hp
  cases ht
  have hrest : ((mandates nosySearch shopContext (.text "lamp")).filter fun m => !nosyFilters.hasField m.1) =
      [("store_id", "store_id:2".toList), ("in_stock", "in_stock:1".toList)] := by
    have hstore : "store_id:".toList ++ exactText ((nosySearch.storeIn shopContext).chars) =
        "store_id:2".toList := by decide
    have hpos : (nosySearch.storeIn shopContext).integerOf?.getD 0 > 0 := by decide
    rw [mandates, if_pos hpos, hstore]
    simp [shopContext, nosyFilters, Entries.hasField, Keyed.has, Keyed.find?, Value.same_text]
  have htext : scopedText nosySearch shopContext (.text "lamp") nosyFilters = nosyText := by
    rw [scopedText, clausesUnder, hrest]
    decide
  rw [htext] at hf hb
  exact ⟨ps, hp, hf, hb⟩

end CatalogSearch.Service
