import CatalogSearch.Query.Criterion
namespace CatalogSearch.Query

/-- What is to be counted beside a search: the values of fields, ranges of fields, and hits of queries. -/
structure FacetRequest where
  fields : List Value := []
  ranges : List (Value × List Entries) := []
  queries : List (List Char) := []

namespace FacetRequest

def merge (a b : FacetRequest) : FacetRequest := ⟨a.fields ++ b.fields, a.ranges ++ b.ranges, a.queries ++ b.queries⟩

def rangeRecord (es : Entries) : Entries :=
  let rest := (es.erase "from").erase "to"
  ["from", "to"].foldl (fun acc name =>
    let text := Text.trim (es.field name).operand
    if text.isEmpty then acc else acc.set name (.ofChars (group text))) rest

def rangeOf? : Value → Option Entries
  | .map es => if Criterion.isRangeRecord es then some (rangeRecord es) else none
  | _ => none

def queryOf? (field : Value) (condition : Value) : Option (List Char) :=
  if (rangeOf? condition).isSome then none
  else some (fieldCondition field.chars (group condition.operand))

def ofField (field conditions : Value) : FacetRequest :=
  if conditions.truthy then
    let conditions := conditions.sequence?.getD [conditions]
    let ranges := conditions.filterMap rangeOf?
    ⟨[], if ranges.isEmpty then [] else [(field, ranges)], conditions.filterMap (queryOf? field)⟩
  else ⟨[field], [], []⟩

def ofEntries (es : Entries) : FacetRequest := (es.map fun e => ofField e.1 e.2).foldl merge {}

def ofValue : Value → FacetRequest
  | .map es => ofEntries es
  | _ => {}

def toValue (r : FacetRequest) : Value :=
  Value.ofFields (
    (if r.fields.isEmpty then [] else [("fields", .list r.fields)]) ++
    (if r.ranges.isEmpty then [] else [("ranges", .map (r.ranges.map fun p => (p.1, .list (p.2.map .map))))]) ++
    (if r.queries.isEmpty then [] else [("queries", .list (r.queries.map .ofChars))]))

end FacetRequest

end CatalogSearch.Query
