import CatalogSearch.Proofs.Web.OneStore

namespace CatalogSearch.Web

open Engine Action Query Service

namespace Arguments

/-- The arguments but for those of one name. -/
def without (args : Arguments) (name : String) : Arguments := args.filter fun a => a.1 ≠ name

variable {name other : String} {settings : Settings} {catalog : Catalog} (args : Arguments)

theorem first?_without_self : (args.without name).first? name = none := by
  rw [first?, List.lookup_eq_none_iff]
  intro a ha
  have hne := (List.mem_filter.mp ha).2
  rw [bne_iff_ne]
  rintro rfl
  simp at hne

theorem first?_without (h : other ≠ name) : (args.without name).first? other = args.first? other := by
  induction args with
  | nil => rfl
  | cons a args ih =>
      rw [without, List.filter_cons, first?, first?, List.lookup_cons]
      by_cases ha : a.1 = name
      · rw [if_neg (by simpa using ha), ha, beq_false_of_ne h]
        exact ih
      · rw [if_pos (by simpa using ha), List.lookup_cons]
        split
        · rfl
        · exact ih

theorem without_without (name : String) : (args.without name).without name = args.without name := by
  rw [without, without, List.filter_filter]
  simp

theorem valueOf_without (h : other ≠ name) : (args.without name).valueOf other = args.valueOf other := by
  rw [valueOf, valueOf, args.first?_without h]

theorem all_without (h : other ≠ name) : (args.without name).all other = args.all other := by
  rw [all, all, without, List.filter_filter]
  congr 1
  apply List.filter_congr
  intro a _
  by_cases ha : a.1 = other <;> simp [ha, h]

theorem names_without (name : String) : (args.without name).names = args.names.filter fun n => n ≠ name := by
  have hfold : ∀ seen : List String,
      (args.without name).foldl (fun seen a => if a.1 ∈ seen then seen else seen ++ [a.1])
          (seen.filter fun n => n ≠ name) =
        (args.foldl (fun seen a => if a.1 ∈ seen then seen else seen ++ [a.1]) seen).filter fun n => n ≠ name := by
    induction args with
    | nil => exact fun _ => rfl
    | cons a args ih =>
        intro seen
        rw [List.foldl_cons, ← ih, without, List.filter_cons]
        by_cases ha : a.1 = name
        · rw [if_neg (by simpa using ha)]
          split
          · rfl
          · rw [List.filter_append, List.filter_singleton, ha]
            simp [without]
        · rw [if_pos (by simpa using ha), List.foldl_cons]
          by_cases hs : a.1 ∈ seen
          · rw [if_pos hs, if_pos (by simp [hs, ha])]
            rfl
          · rw [if_neg hs, if_neg (by simp [hs]), List.filter_append, List.filter_singleton]
            simp [ha, without]
  exact hfold []

theorem filters_without (h : FilterName.read? name.toList = none) : (args.without name).filters = args.filters := by
  have hself : args.asked? name = none := by rw [asked?, h]; rfl
  have hother : ∀ n : String, n ≠ name → (args.without name).asked? n = args.asked? n := by
    intro n hn
    rw [asked?, asked?, args.all_without hn]
  have htold : (args.without name).told = args.told := by
    rw [told, told, names_without, List.filterMap_filter]
    apply List.filterMap_congr
    intro n _
    by_cases hn : n = name
    · simp [hn, hself]
    · simp [hn, hother n hn]
  rw [filters_eq, filters_eq, htold]

/-- Arguments that are read as integers wherever they are read. -/
def integers : List String := ["offset", "store_id", "customer_group_id", "category_id"]

def texts : List String := ["q", "type", "facet", "order", "dir", "stats"]

theorem read?_number : ∀ name ∈ "limit" :: integers, FilterName.read? name.toList = none := by decide

theorem ne_of_text : ∀ name ∈ "limit" :: integers, ∀ other ∈ texts, other ≠ name := by decide

theorem integerOf?_without (h : (args.valueOf name).integerOf? = none) (other : String) :
    ((args.without name).valueOf other).integerOf? = (args.valueOf other).integerOf? := by
  by_cases ho : other = name
  · rw [ho, h, valueOf, first?_without_self]
    rfl
  · rw [args.valueOf_without ho]

/-- The number of hits that arguments ask for, if they ask for one; it may be one that cannot be read. -/
def limit? (args : Arguments) : Option Value :=
  if args.isGiven "limit" then some (integerOr .null (args.valueOf "limit")) else none

theorem limit_eq : args.limit = args.limit?.toList.map ("limit", ·) := by
  rw [limit, limit?]
  split <;> rfl

def inquiry (limit : Option Value) (filters : Entries) (context : Context) : Inquiry where
  query := .ofChars (Text.trim (args.valueOf "q").operand)
  params := .ofFields ([
    ("offset", integerOr (.int 0) (args.valueOf "offset")), ("store_id", integerOr .null (args.valueOf "store_id")),
    ("filters", .map filters), ("facets", .map args.facets)] ++
    limit.toList.map ("limit", ·) ++ args.order ++ args.stats)
  entityType := ((args.first? "type").map Value.text).getD defaultEntityType
  context

theorem ofArguments_eq : Inquiry.ofArguments settings catalog args = (do
    let context ← contextOf settings catalog args.toValue
    let filters ← args.filters
    pure (args.inquiry args.limit? filters context)) := by
  simp only [Inquiry.ofArguments, params, limit_eq, bind_assoc, pure_bind]
  rfl

theorem contextOf_without
    (h : ∀ other ∈ integers, ((args.without name).valueOf other).integerOf? = (args.valueOf other).integerOf?) :
    contextOf settings catalog (args.without name).toValue = contextOf settings catalog args.toValue := by
  simp only [contextOf, get_toValue, Folds.ok_bind, h "store_id" (by decide), h "customer_group_id" (by decide),
    h "category_id" (by decide)]

theorem inquiry_without (hn : name ∈ "limit" :: integers)
    (h : ∀ other ∈ integers, ((args.without name).valueOf other).integerOf? = (args.valueOf other).integerOf?) :
    (args.without name).inquiry = args.inquiry := by
  have hne := ne_of_text name hn
  have hor : ∀ other ∈ integers, ∀ default,
      integerOr default ((args.without name).valueOf other) = integerOr default (args.valueOf other) := by
    intro other ho default
    rw [integerOr, integerOr, h other ho]
  have hfacets : (args.without name).facets = args.facets := by
    rw [facets, facets, args.all_without (hne "facet" (by decide))]
  have horder : (args.without name).order = args.order := by
    rw [order, order, args.first?_without (hne "order" (by decide)), args.first?_without (hne "dir" (by decide))]
  have hstats : (args.without name).stats = args.stats := by
    rw [stats, stats, args.all_without (hne "stats" (by decide))]
  funext limit filters context
  rw [inquiry, inquiry, args.valueOf_without (hne "q" (by decide)), args.first?_without (hne "type" (by decide)),
    hor "offset" (by decide), hor "store_id" (by decide), hfacets, horder, hstats]

theorem ofArguments_without (hn : name ∈ integers) (h : (args.valueOf name).integerOf? = none) :
    Inquiry.ofArguments settings catalog (args.without name) = Inquiry.ofArguments settings catalog args := by
  have hnumber : name ∈ "limit" :: integers := List.mem_cons_of_mem _ hn
  have hsame : ∀ other ∈ integers, ((args.without name).valueOf other).integerOf? = (args.valueOf other).integerOf? :=
    fun other _ => args.integerOf?_without h other
  have hlimit : (args.without name).limit? = args.limit? := by
    rw [limit?, limit?, isGiven, isGiven, args.valueOf_without (by rintro rfl; revert hn; decide)]
  rw [ofArguments_eq, ofArguments_eq, args.contextOf_without hsame, args.filters_without (read?_number name hnumber),
    args.inquiry_without hnumber hsame, hlimit]

theorem ofArguments_eq_without_limit : Inquiry.ofArguments settings catalog args = (do
    let context ← contextOf settings catalog (args.without "limit").toValue
    let filters ← (args.without "limit").filters
    pure ((args.without "limit").inquiry args.limit? filters context)) := by
  have hsame : ∀ other ∈ integers,
      ((args.without "limit").valueOf other).integerOf? = (args.valueOf other).integerOf? := by
    intro other ho
    rw [args.valueOf_without (by rintro rfl; revert ho; decide)]
  rw [ofArguments_eq, args.contextOf_without hsame, args.filters_without (read?_number _ List.mem_cons_self),
    args.inquiry_without List.mem_cons_self hsame]

theorem told_inquiry (limit : Option Value) (filters : Entries) (context : Context) :
    (args.inquiry limit filters context).told settings =
      { (args.inquiry none filters context).told settings with limit := limit.getD (settings .rowsLimit) } := by
  have horder : ∀ other, other ≠ "sort_by" → args.order.lookup other = none := by
    intro other ho
    unfold order
    split <;> simp [List.lookup_cons, beq_false_of_ne ho]
  have hstats : ∀ other, other ≠ "stats" → args.stats.lookup other = none := by
    intro other ho
    unfold stats
    split <;> simp [List.lookup_cons, beq_false_of_ne ho]
  rw [Inquiry.told, Inquiry.told, inquiry, inquiry, ofValue_ofFields, ofValue_ofFields]
  cases limit <;> simp [List.lookup_append, List.lookup_cons, horder, hstats]

/-- The number of hits that the engine is asked for. -/
def size (settings : Settings) (limit : Option Value) : Int := (limit.getD (settings .rowsLimit)).integerOf?.getD 9999

end Arguments

section

variable [Engine σ] {name : String} {args others : Arguments}

/-- A search depends on how many hits are asked for only through the number that the engine is told. -/
theorem exec_search_inquiry {limit other : Option Value}
    (h : Arguments.size settings limit = Arguments.size settings other) (filters : Entries) (context : Context) (l : Link σ) :
    exec (Inquiry.search catalog (args.inquiry limit filters context)) settings l =
      exec (Inquiry.search catalog (args.inquiry other filters context)) settings l := by
  have hsize : ∀ (p : Params) (c : Context) (query : Value),
      engineParams catalog { p with limit := limit.getD (settings .rowsLimit) } c query =
        engineParams catalog { p with limit := other.getD (settings .rowsLimit) } c query := by
    intro p c query
    rw [Arguments.size, Arguments.size] at h
    rw [engineParams, engineParams, h]
    rfl
  have htold : ∀ limit, Params.ofValue settings (args.inquiry limit filters context).params =
      { Params.ofValue settings (args.inquiry none filters context).params with
        limit := limit.getD (settings .rowsLimit) } := fun limit => args.told_inquiry limit filters context
  rw [Inquiry.search, Inquiry.search, exec_search rfl, exec_search rfl, htold limit, htold other, searchIn, searchIn]
  dsimp only [Arguments.inquiry]
  rw [hsize]

theorem exec_searchByArguments_of_size (ha : args.without "limit" = others.without "limit")
    (hs : Arguments.size settings args.limit? = Arguments.size settings others.limit?) (l : Link σ) :
    exec (searchByArguments catalog args) settings l = exec (searchByArguments catalog others) settings l := by
  rw [exec_searchByArguments, exec_searchByArguments, Arguments.ofArguments_eq_without_limit,
    Arguments.ofArguments_eq_without_limit, ha]
  simp only [exec_bind, exec_ofOutcome, andThen_bind]
  refine congrArg (andThen _) (funext fun context => funext fun l => ?_)
  exact congrArg (andThen _) (funext fun filters => funext fun l => exec_search_inquiry hs filters context l)

structure Request.Alike (r other : Request) : Prop where
  method : other.method = r.method
  path : other.location.path = r.location.path
  payload : other.payload = r.payload

theorem exec_respond_congr {other : Request} (ha : request.Alike other)
    (hs : ∀ l : Link σ, exec (searchByArguments catalog request.arguments) settings l =
      exec (searchByArguments catalog other.arguments) settings l) (l : Link σ) :
    exec (respond catalog request) settings l = exec (respond catalog other) settings l := by
  have hserve : ∀ resource, ∀ l : Link σ,
      exec (serve catalog request resource) settings l = exec (serve catalog other resource) settings l := by
    intro resource l
    cases resource with
    | search =>
        rw [serve, serve, ha.method, ha.payload]
        split
        · rfl
        · simp only [ifEnabled, exec_bind, exec_read, andThen_ok]
          split
          · rw [exec_bind, exec_bind, hs]
          · rfl
    | status => rfl
    | file => rfl
  unfold respond
  dsimp only
  rw [ha.method, ha.path]
  split
  · rfl
  · rfl
  · rfl
  · split
    · rfl
    · split
      · rw [exec_bind, exec_bind, hserve]
      · exact hserve _ l

/-- An argument for an integer that does not read as one counts as if it were left out. If it is the number of
hits, it counts as 9999 instead, which is the same only where this is the usual number. -/
theorem unreadable_arguments_count_as_absent {bare : Request} (hb : request.Alike bare)
    (ha : bare.arguments = request.arguments.without name) (h : (request.arguments.valueOf name).integerOf? = none)
    (l : Link σ) :
    (name ∈ Arguments.integers →
      exec (respond catalog request) settings l = exec (respond catalog bare) settings l) ∧
    (name = "limit" → (request.arguments.isGiven name = true → (settings .rowsLimit).integerOf?.getD 9999 = 9999) →
      exec (respond catalog request) settings l = exec (respond catalog bare) settings l) ∧
    (name = "limit" → request.arguments.isGiven name = true → ∀ most : Request, request.Alike most →
      most.arguments = ("limit", "9999") :: bare.arguments →
      exec (respond catalog request) settings l = exec (respond catalog most) settings l) := by
  have hlimit : request.arguments.isGiven "limit" = true → name = "limit" →
      request.arguments.limit? = some .null := by
    rintro hg rfl
    rw [Arguments.limit?, if_pos hg, Arguments.integerOr, h]
    rfl
  refine ⟨?_, ?_, ?_⟩
  · intro hn
    refine exec_respond_congr hb (fun l => ?_) l
    rw [exec_searchByArguments, exec_searchByArguments, ha, request.arguments.ofArguments_without hn h]
  · rintro rfl husual
    have hbare : bare.arguments.limit? = none := by
      rw [ha, Arguments.limit?, Arguments.isGiven, Arguments.valueOf, Arguments.first?_without_self]
      rfl
    refine exec_respond_congr hb (exec_searchByArguments_of_size ?_ ?_) l
    · rw [ha, Arguments.without_without]
    · rw [hbare]
      cases hg : request.arguments.isGiven "limit" with
      | true => rw [hlimit hg rfl, Arguments.size, Arguments.size, Option.getD_none, husual hg]; rfl
      | false => rw [Arguments.limit?, hg]; rfl
  · rintro rfl hg most hm hma
    refine exec_respond_congr hm (exec_searchByArguments_of_size ?_ ?_) l
    · have hdrop : ∀ args : Arguments, Arguments.without (("limit", "9999") :: args) "limit" = args.without "limit" :=
        fun _ => rfl
      rw [hma, hdrop, ha, Arguments.without_without]
    · have hmost : most.arguments.limit? = some (.int 9999) := by
        have hread : (Value.text "9999").integerOf? = some 9999 := by decide
        rw [hma, Arguments.limit?, Arguments.isGiven, Arguments.valueOf, Arguments.first?, List.lookup_cons_self]
        change (if (Value.text "9999").truthy = true then some (Arguments.integerOr .null (.text "9999")) else none) = _
        rw [if_pos (by decide), Arguments.integerOr, hread]
        rfl
      rw [hlimit hg rfl, hmost]
      rfl

theorem events_of_respond {i : Inquiry} {body : Body} {l : Link σ} (hm : request.method = "GET")
    (hr : Route.ofPath request.location.path "GET" = .found .search) (he : isEnabled settings = true)
    (hc : l.connected = true) (hi : Inquiry.ofArguments settings catalog request.arguments = .ok i)
    (hs : i.Sends settings catalog body) : (exec (respond catalog request) settings l).2.events =
      l.events ++ [.called (.search (settings.indexFor i.entityType) body)] := by
  obtain ⟨ps, hp, hb⟩ := hs
  have hmethod : request.method.toUpper = "GET" := by rw [hm, toUpper_get]
  have hsearch : (exec (searchByArguments catalog request.arguments) settings l).2.events =
      l.events ++ [.called (.search (settings.indexFor i.entityType) body)] := by
    rw [exec_searchByArguments, exec_bind, exec_ofOutcome, hi, andThen_ok, Inquiry.search, exec_search rfl]
    exact events_of_searchIn hc hp hb
  have hrespond : exec (respond catalog request) settings l =
      exec (ifEnabled (searchByArguments catalog request.arguments)) settings l := by
    unfold respond
    dsimp only
    rw [hmethod, hr]
    dsimp only
    rw [if_neg (by decide), if_neg (by decide), serve, hmethod, if_neg (by decide)]
  rw [hrespond, ifEnabled, exec_bind, exec_read, andThen_ok, if_pos he, exec_bind, ← hsearch]
  rcases exec (searchByArguments catalog request.arguments) settings l with ⟨e | answer, l'⟩
  · rfl
  · rw [andThen_ok, exec_ofOutcome]

end

def lampCatalog : Catalog := .stored (some Catalog.Tables.lampTables)

def bareRequest : Request := { address := "/api/search?q=lamp" }

def vagueRequest : Request := { address := "/api/search?q=lamp&limit=abc" }

def vagueOffsetRequest : Request := { address := "/api/search?offset=x&q=lamp" }

def fullRequest : Request := { address := "/api/search?limit=9999&q=lamp" }

def pagedSettings : Settings := (Settings.initial.set .enabled (.bool true)).set .rowsLimit (.int 50)

def idleLink : Link Script := ⟨[], true, none, [], []⟩

theorem alike_vagueRequest : vagueRequest.Alike bareRequest := ⟨rfl, by decide, rfl⟩

theorem arguments_bareRequest : bareRequest.arguments = vagueRequest.arguments.without "limit" := by decide

theorem unread_arguments_are_overlooked :
    exec (respond lampCatalog vagueOffsetRequest) pagedSettings idleLink =
      exec (respond lampCatalog bareRequest) pagedSettings idleLink ∧
    exec (respond lampCatalog vagueRequest) Settings.initial idleLink =
      exec (respond lampCatalog bareRequest) Settings.initial idleLink ∧
    exec (respond lampCatalog vagueRequest) pagedSettings idleLink =
      exec (respond lampCatalog fullRequest) pagedSettings idleLink := by
  have hoffset : vagueOffsetRequest.Alike bareRequest := ⟨rfl, by decide, rfl⟩
  have hbare : bareRequest.arguments = vagueOffsetRequest.arguments.without "offset" := by decide
  have hfull : vagueRequest.Alike fullRequest := ⟨rfl, by decide, rfl⟩
  refine ⟨?_, ?_, ?_⟩
  · exact (unreadable_arguments_count_as_absent hoffset hbare (by decide) idleLink).1 (by decide)
  · exact (unreadable_arguments_count_as_absent alike_vagueRequest arguments_bareRequest (by decide) idleLink).2.1 rfl
      fun _ => rfl
  · exact (unreadable_arguments_count_as_absent alike_vagueRequest arguments_bareRequest (by decide) idleLink).2.2 rfl
      (by decide) fullRequest hfull (by decide)

def lampSearch (limit : Option Value) : Inquiry := Arguments.inquiry [("q", "lamp")] limit [] lampContext

theorem ofArguments_lamp {args : Arguments} (h : args.without "limit" = [("q", "lamp")]) {limit : Option Value}
    (hl : args.limit? = limit) : Inquiry.ofArguments pagedSettings lampCatalog args = .ok (lampSearch limit) := by
  have hc : contextOf pagedSettings lampCatalog (Arguments.toValue [("q", "lamp")]) = .ok lampContext := by
    have hdefault : defaultStoreId pagedSettings = 1 := rfl
    have hnone : Value.integerOf? .null = none := rfl
    rw [contextOf, get_toValue, get_toValue, get_toValue, Folds.ok_bind]
    change (lampCatalog.store (.int (Option.getD (Value.integerOf? .null) (defaultStoreId pagedSettings))) >>= _) = _
    rw [hnone, Option.getD_none, hdefault, lampCatalog, store_lampTables]
    rfl
  rw [Arguments.ofArguments_eq_without_limit, h, hc, hl]
  rfl

theorem told_lampSearch (limit : Option Value) : (lampSearch limit).told pagedSettings = {
    offset := .int 0, limit := limit.getD (.int 50), sortBy := .list [.ofFields [("relevance", .text "desc")]]
    fields := .list [], extra := .map [], store := .null, filters := .map [], facets := .map []
    rangeFilters := .map [], stats := .list [] } := by
  rw [lampSearch, Arguments.told_inquiry, Inquiry.told, Arguments.inquiry, ofValue_ofFields]
  rfl

theorem events_of_lampSearch (hm : request.method = "GET")
    (hr : Route.ofPath request.location.path "GET" = .found .search)
    (h : request.arguments.without "limit" = [("q", "lamp")]) {limit : Option Value}
    (hl : request.arguments.limit? = limit) : ∃ body,
    (exec (respond lampCatalog request) pagedSettings idleLink).2.events =
      [.called (.search (pagedSettings.indexFor defaultEntityType) body)] ∧
    body.size = Arguments.size pagedSettings limit := by
  obtain ⟨body, ps, hp, hb⟩ : ∃ body, (lampSearch limit).Sends pagedSettings lampCatalog body := by
    apply Inquiry.exists_sends
    · rw [told_lampSearch]
      exact ⟨rfl, rfl, rfl, rfl, rfl⟩
    · rw [told_lampSearch]
      exact ⟨_, rfl⟩
    · rfl
  refine ⟨body, ?_, ?_⟩
  · rw [events_of_respond hm hr rfl rfl (ofArguments_lamp h hl) ⟨ps, hp, hb⟩]
    rfl
  · rw [told_lampSearch] at hp
    refine size_of_engineParams hp hb ?_
    rintro more ⟨⟩
    rfl

/-- A number of hits that cannot be read is not overlooked where another one than 9999 is usual. -/
theorem unread_limit_is_not_overlooked : vagueRequest.Alike bareRequest ∧
    bareRequest.arguments = vagueRequest.arguments.without "limit" ∧
    (vagueRequest.arguments.valueOf "limit").integerOf? = none ∧
    ∃ index vague bare,
      (exec (respond lampCatalog vagueRequest) pagedSettings idleLink).2.events = [.called (.search index vague)] ∧
      (exec (respond lampCatalog bareRequest) pagedSettings idleLink).2.events = [.called (.search index bare)] ∧
      vague.size = 9999 ∧ bare.size = 50 := by
  have hvague : vagueRequest.arguments.limit? = some .null := by
    have hunread : (Value.text "abc").integerOf? = none := by decide
    rw [show vagueRequest.arguments = [("q", "lamp"), ("limit", "abc")] by decide]
    change some (Arguments.integerOr .null (.text "abc")) = _
    rw [Arguments.integerOr, hunread]
    rfl
  have hbare : bareRequest.arguments.limit? = none := by
    rw [show bareRequest.arguments = [("q", "lamp")] by decide]
    rfl
  obtain ⟨vague, he, hsize⟩ := events_of_lampSearch rfl (by decide) (by decide) hvague
  obtain ⟨bare, he', hsize'⟩ := events_of_lampSearch rfl (by decide) (by decide) hbare
  exact ⟨alike_vagueRequest, arguments_bareRequest, by decide, _, vague, bare, he, he', hsize, hsize'⟩

end CatalogSearch.Web
