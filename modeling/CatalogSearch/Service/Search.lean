import CatalogSearch.Catalog.Lookup
import CatalogSearch.Engine.Client
import CatalogSearch.Query.Facets
import CatalogSearch.Sorting
namespace CatalogSearch.Service

open Engine Action

variable {σ : Type} [Engine σ]

structure Params where
  offset : Value
  limit : Value
  sortBy : Value
  fields : Value
  extra : Value
  store : Value
  filters : Value
  facets : Value
  rangeFilters : Value
  stats : Value

namespace Params

def ofValue (settings : Settings) (params : Value) : Params :=
  let given (name : String) (default : Value) : Value := match params with
    | .map es => Entries.field es name default
    | _ => default
  { offset := given "offset" (.int 0)
    limit := given "limit" (settings .rowsLimit)
    sortBy := given "sort_by" (.list [.ofFields [("relevance", .text "desc")]])
    fields := given "fields" (.list [])
    extra := given "params" (.map [])
    store := given "store_id" .null
    filters := given "filters" (.map [])
    facets := given "facets" (.map [])
    rangeFilters := given "range_filters" (.map [])
    stats := given "stats" (.list []) }

def storeIn (p : Params) (context : Context) : Value := p.store.orNull (.int context.store)

end Params

def defaultStoreId (settings : Settings) : Int := ((settings .defaultStore).integerOf?).getD 0

def defaultContext (settings : Settings) (catalog : Catalog) (store : Value) : Outcome Context := do
  let store ← catalog.store (store.orNull (.int (defaultStoreId settings)))
  pure { Context.ofStore store with showOutOfStock := (settings .showOutOfStock).isOn }

/-- The filters of a search: those that were told, and over them the store, the stock and the visibility. -/
def scopedFilters (p : Params) (context : Context) (query : Value) : Outcome Entries := do
  let told ← (p.filters.orElse (.map [])).toEntries
  let store := p.storeIn context
  let filters := if (store.integerOf?.getD 0) > 0 then told.set "store_id" store else told
  let filters := if context.showOutOfStock then filters else filters.set "in_stock" (.text "1")
  pure (filters.set "visibility" (.list ((context.visibility query).map .int)))

def extraParams (p : Params) (params : Entries) : Entries :=
  match p.extra with
  | .map es => List.foldl (fun acc (e : Value × Value) => Keyed.insert acc e.1 e.2) params es
  | _ => params

/-- The parameters of the engine for a search. The filters, and the ranges and measures if there are
any, cannot be told in another way. -/
def engineParams (catalog : Catalog) (p : Params) (context : Context) (query : Value) : Outcome Entries := do
  let params : Entries := [
    (.text "offset", .int (p.offset.integerOf?.getD 0)), (.text "limit", .int (p.limit.integerOf?.getD 9999))]
  let params ← if p.fields.truthy then do pure (params.set "fields" (.list (← p.fields.items))) else pure params
  let keys ← sortKeys context (← catalog.sortables (p.storeIn context)) p.sortBy
  let params := params.set "sort" (.list (keys.map SortKey.toValue))
  let params :=
    if p.facets.truthy then params.set "facets" (Query.FacetRequest.ofValue p.facets).toValue else params
  let params := extraParams p params
  let filters := Query.filterClauses (← scopedFilters p context query)
  let params := params.set "filters" (.ofChars (Query.conjunction filters))
  let params := if p.rangeFilters.truthy then params.set "range_filters" p.rangeFilters else params
  pure (if p.stats.truthy then params.set "stats" p.stats else params)

def summarize (withFacets : Bool) (result : ResultSet) : Outcome Value := do
  let records ← result.records
  let ids ← records.mapM fun record => record.get "id"
  let total ← result.totalHits
  let answer := [("ids", .list ids), ("total_count", .int total)]
  if withFacets then pure (.ofFields (answer ++ [("facets", (← Summary.ofRecords result.facets).toValue)]))
  else pure (.ofFields answer)

def search (catalog : Catalog) (query params : Value) (entityType : Value := defaultEntityType)
    (context : Option Context := none) : Action σ Value := do
  let settings ← read
  let p := Params.ofValue settings params
  let context ← match context with
    | some c => pure c
    | none => ofOutcome (defaultContext settings catalog p.store)
  let engineParams ← ofOutcome (engineParams catalog p context query)
  match ← Client.search (.ofChars (Query.searchConditions query)) (.map engineParams) entityType with
  | none => return .map []
  | some result => ofOutcome (summarize (p.facets.truthy || p.stats.truthy) result)

def statistics (catalog : Catalog) (query params : Value) (entityType : Value := defaultEntityType)
    (context : Option Context := none) : Action σ Value := do
  let answer ← search catalog query params entityType context
  ofOutcome (do (← answer.get "facets" (.map [])).get "stats" (.map []))

end CatalogSearch.Service
