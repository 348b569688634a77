import CatalogSearch.Engine.Mapping
import CatalogSearch.Settings
namespace CatalogSearch.Engine

inductive Aggregation where
  | terms (field : Value) (size : Int)
  | range (field : Value) (buckets : List Entries)
  | filters (queries : Entries)
  | stats (field : Value)

namespace Aggregation

def queriesName : String := "_queries"

def statsMark : String := "_stats:"

def queryText (query : Value) : Value := .ofFields [("query_string", .ofFields [("query", query)])]

def toValue : Aggregation → Value
  | .terms field size => .ofFields [("terms", .ofFields [("field", field), ("size", .int size)])]
  | .range field buckets => .ofFields [("range", .ofFields [("field", field), ("ranges", .list (buckets.map .map))])]
  | .filters queries =>
      .ofFields [("filters", .ofFields [("filters", .map (Keyed.mapValues queryText queries))])]
  | .stats field => .ofFields [("extended_stats", .ofFields [("field", field)])]

def untokenized : List String := ["price_", "position_category_", "sort_by_"]

def isUntokenized (name : String) : Bool :=
  (catalogMapping.properties.lookup name).isSome || untokenized.any fun start => start.toList.isPrefixOf name.toList

def fieldOf (name : String) : String := if isUntokenized name then name else name ++ "." ++ keywordSubfield

def termsField : Value → Outcome Value
  | .text name => pure (.text (fieldOf name))
  | .set _ => throw .noSuchMember
  | v => do let _ ← v.toKey; throw .noSuchMember

def rangeKey (range : Value) : Outcome String := do
  let lower ← range.get "from" (.text "*")
  let upper ← range.get "to" (.text "*")
  pure (lower.display ++ "-" ++ upper.display)

def number (v : Value) : Value :=
  match v.number? with
  | none => v
  | some x => match x.toInt? with
    | some n => .int n
    | none => .real x

def bucket (range : Value) : Outcome Entries := do
  let key ← rangeKey range
  let es ← range.entries
  let bound (name : String) : List (Value × Value) := match es.field? name with
    | some v => [(.text name, number v)]
    | none => []
  pure ((.text "key", .text key) :: bound "from" ++ bound "to")

def ofFields (size : Int) (fields : List Value) (aggs : Keyed Aggregation) : Outcome (Keyed Aggregation) :=
  fields.foldlM (fun aggs field => do pure (aggs.insert field (.terms (← termsField field) size))) aggs

def ofRanges (ranges : Entries) (aggs : Keyed Aggregation) : Outcome (Keyed Aggregation) :=
  ranges.foldlM (fun aggs r => do pure (aggs.insert r.1 (.range r.1 (← (← r.2.items).mapM bucket)))) aggs

def ofQueries (queries : Value) (aggs : Keyed Aggregation) : Outcome (Keyed Aggregation) := do
  if queries.truthy then
    let named ← (← queries.items).foldlM (fun es q => do pure (Keyed.insert es (← q.toKey) q)) ([] : Entries)
    pure (aggs.insert (.text queriesName) (.filters named))
  else pure aggs

def ofStats (fields : List Value) (aggs : Keyed Aggregation) : Keyed Aggregation :=
  fields.foldl (fun aggs field => aggs.insert (.text (statsMark ++ field.display)) (.stats field)) aggs

def build (settings : Settings) (facets stats : Value) : Outcome (Keyed Aggregation) := do
  let size ← (settings .facetLimit).toInt
  let aggs ← ofFields size (← (← facets.get "fields" (.list [])).items) []
  let aggs ← ofRanges (← (← facets.get "ranges" (.map [])).entries) aggs
  let aggs ← ofQueries (← facets.get "queries") aggs
  let fields ← if stats.isText then pure [stats] else stats.items
  pure (ofStats fields aggs)

end Aggregation

inductive Filter where
  | query (text : Value)
  | range (field : Value) (bounds : Entries)

namespace Filter

def toValue : Filter → Value
  | .query text => Aggregation.queryText text
  | .range field bounds => .ofFields [("range", .map [(field, .map bounds)])]

def isGiven (v : Value) : Bool := !(v.same .null) && !(v.same (.text ""))

def ofRange? (field bounds : Value) : Option Filter :=
  match bounds with
  | .map es =>
      let bound (name target : String) : Entries :=
        let given := Entries.field es name
        if isGiven given then [(.text target, Aggregation.number given)] else []
      match bound "from" "gte" ++ bound "to" "lte" with
      | [] => none
      | given => some (.range field given)
  | _ => none

end Filter

/-- A search as the engine takes it. Without conditions everything matches. -/
structure Body where
  conditions : Option Value
  filters : List Filter
  offset : Int
  size : Int
  sort : Entries
  aggregations : Keyed Aggregation
  source : Option (List Value)
  extras : List (String × Value)

namespace Body

def passed : List String := ["min_score", "timeout", "track_scores", "explain", "_source"]

def filtersOf (params : Entries) : Outcome (List Filter) := do
  let text := params.field "filters"
  let ranges ← ((params.field "range_filters").orElse (.map [])).entries
  pure ((if text.truthy then [.query text] else []) ++ ranges.filterMap fun r => Filter.ofRange? r.1 r.2)

def count (params : Entries) (name : String) : Outcome Int := ((params.field name).orElse (.int 0)).toInt

def sortOf (params : Entries) : Outcome Entries := do
  (← ((params.field "sort").orElse (.list [])).items).flatMapM Value.entries

def build (settings : Settings) (conditions : Value) (params : Entries) : Outcome Body := do
  let filters ← filtersOf params
  let offset ← count params "offset"
  let size ← count params "limit"
  let sort ← sortOf params
  let aggregations ← Aggregation.build settings ((params.field "facets").orElse (.map []))
    ((params.field "stats").orElse (.list []))
  let fields := params.field "fields"
  let source ← if fields.truthy then some <$> fields.items else pure none
  let extras := passed.filterMap fun name => (params.field? name).map (name, ·)
  pure { conditions := if conditions.truthy then some conditions else none
         filters, offset, size, sort, aggregations, source, extras }

def sortValue (field direction : Value) : Value :=
  if field.same (.text "_score") then .map [(field, direction)]
  else .map [(field, .ofFields [("order", direction), ("missing", .text "_last"), ("unmapped_type", .text "keyword")])]

def toValue (b : Body) : Value :=
  let must := match b.conditions with
    | some text => Aggregation.queryText text
    | none => .ofFields [("match_all", .map [])]
  let query := Value.ofFields [("bool", .ofFields [("must", .list [must]), ("filter", .list (b.filters.map Filter.toValue))])]
  let fields : Entries := [
    (.text "query", query), (.text "from", .int b.offset), (.text "size", .int b.size),
    (.text "track_total_hits", .bool true)]
  let fields := if b.sort.isEmpty then fields else fields.set "sort" (.list (b.sort.map fun s => sortValue s.1 s.2))
  let fields :=
    if b.aggregations.isEmpty then fields
    else fields.set "aggs" (.map (b.aggregations.mapValues Aggregation.toValue))
  let fields := match b.source with
    | some names => fields.set "_source" (.list names)
    | none => fields
  .map (b.extras.foldl (fun es e => Entries.set es e.1 e.2) fields)

end Body

end CatalogSearch.Engine
