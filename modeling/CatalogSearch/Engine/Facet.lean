import CatalogSearch.Engine.Body
import CatalogSearch.Text.Character
import CatalogSearch.Query.Criterion
namespace CatalogSearch.Engine

structure RangeCount where
  lower : Value
  upper : Value
  lowerText : Value
  upperText : Value
  count : Value

/-- What the engine has counted or measured, under one name. -/
inductive FacetRecord where
  | query (count : Value)
  | statistics (measures : List (String × Value))
  | ranges (counts : List RangeCount)
  | terms (other : Value) (counts : List (Value × Value))

namespace FacetRecord

def RangeCount.toValue (r : RangeCount) : Value :=
  .ofFields [("from", r.lower), ("to", r.upper), ("from_str", r.lowerText), ("to_str", r.upperText),
    ("count", r.count), ("total_count", r.count)]

def toValue : FacetRecord → Value
  | .query count => .ofFields [("_type", .text "query"), ("count", count)]
  | .statistics measures => .ofFields (("_type", .text "statistical") :: measures)
  | .ranges counts => .ofFields [("_type", .text "range"), ("ranges", .list (counts.map RangeCount.toValue))]
  | .terms other counts =>
      .ofFields [("_type", .text "terms"), ("other", other),
        ("terms", .list (counts.map fun t => .ofFields [("term", t.1), ("count", t.2)]))]

def docCount (bucket : Value) : Outcome Value := bucket.get "doc_count" (.int 0)

def ofQueries (data : Value) (records : Keyed FacetRecord) : Outcome (Keyed FacetRecord) := do
  (← (← data.get "buckets" (.map [])).entries).foldlM
    (fun records q => do pure (records.insert q.1 (.query (← docCount q.2)))) records

def measures : List (String × String) := [
  ("total", "sum"), ("min", "min"), ("max", "max"), ("mean", "avg"), ("sum_of_squares", "sum_of_squares"),
  ("variance", "variance"), ("std_deviation", "std_deviation")]

def ofStats (data : Value) : Outcome FacetRecord := do
  let count ← data.get "count" (.int 0)
  let rest ← measures.mapM fun m => do pure (m.1, ← data.get m.2)
  pure (.statistics (("count", count) :: rest))

def keyedBuckets (data : Value) : Outcome Entries := do
  match ← data.get "buckets" (.list []) with
  | .map es => return es
  | buckets => (← buckets.items).foldlM keyed []
where
  keyed (es : Entries) (bucket : Value) : Outcome Entries := do
    pure (Keyed.insert es (← (← bucket.get "key").toKey) bucket)

def rangeCount (buckets : Entries) (range : Value) : Outcome RangeCount := do
  let bucket := buckets.field (← Aggregation.rangeKey range) (.map [])
  pure ⟨← bucket.get "from", ← bucket.get "to", ← range.get "from" (.text ""), ← range.get "to" (.text ""),
    ← docCount bucket⟩

def ofRanges (data ranges : Value) (name : String) : Outcome FacetRecord := do
  let buckets ← keyedBuckets data
  pure (.ranges (← (← (← ranges.require name).items).mapM (rangeCount buckets)))

def termCount (bucket : Value) : Outcome (Value × Value) := do
  let key ← bucket.get "key"
  pure (← bucket.get "key_as_string" key, ← docCount bucket)

def ofTerms (data : Value) : Outcome FacetRecord := do
  let other ← data.get "sum_other_doc_count" (.int 0)
  pure (.terms other (← (← (← data.require "buckets").items).mapM termCount))

def statsField? (name : String) : Option String :=
  if Aggregation.statsMark.toList.isPrefixOf name.toList then
    some (String.ofList (name.toList.drop Aggregation.statsMark.length))
  else none

/-- The record of one aggregation; what was not asked for as a range and has no buckets is left out. -/
def decode (ranges : Value) (records : Keyed FacetRecord) (name data : Value) : Outcome (Keyed FacetRecord) := do
  if name.same (.text Aggregation.queriesName) then ofQueries data records
  else match name with
    | .text s => match statsField? s with
      | some field => do pure (records.insert (.text field) (← ofStats data))
      | none => do
          if ← name.isIn ranges then pure (records.insert name (← ofRanges data ranges s))
          else if ← (Value.text "buckets").isIn data then pure (records.insert name (← ofTerms data))
          else pure records
    | _ => throw .noSuchMember

def decodeAll (aggregations facets : Value) : Outcome (Keyed FacetRecord) := do
  let ranges ← facets.get "ranges" (.map [])
  (← (aggregations.orElse (.map [])).entries).foldlM (fun records a => decode ranges records a.1 a.2) []

def toValues (records : Keyed FacetRecord) : Value := .map (records.mapValues toValue)

end FacetRecord

/-- What a facet says, told from what its record holds. -/
inductive FacetKind where
  | terms
  | statistics
  | ranges
  | category
  deriving DecidableEq

namespace FacetKind

def name : FacetKind → String
  | terms => "terms"
  | statistics => "stats"
  | ranges => "ranges"
  | category => "categories"

def afterDigits? (cs : List Char) : Option (List Char × List Char) :=
  match cs.span Text.isDigit with
  | ([], _) => none
  | found => some found

def afterText? (start cs : List Char) : Option (List Char) :=
  if start.isPrefixOf cs then some (cs.drop start.length) else none

def categoryHere? (cs : List Char) : Option (List Char) := do
  let (id, rest) ← afterDigits? (← afterText? ('(' :: Query.categoryField.toList ++ [':']) cs)
  let (_, rest) ← afterDigits? (← afterText? (" OR ".toList ++ Query.shownField.toList ++ [':']) rest)
  guard (rest.head? == some ')')
  pure id

def category? : List Char → Option (List Char)
  | [] => none
  | c :: cs => (categoryHere? (c :: cs)).orElse fun _ => category? cs

def ofRecord? (name : Value) (data : Value) : Outcome (Option FacetKind) :=
  match data with
  | .map es =>
      if Entries.hasField es "terms" then pure (some terms)
      else if (Entries.field es "_type").same (.text "statistical") then pure (some statistics)
      else if Entries.hasField es "ranges" then pure (some ranges)
      else match name with
        | .text s => pure (if (category? s.toList).isSome then some category else none)
        | _ => throw .wrongKind
  | _ => pure none

end FacetKind

abbrev Summary := Keyed Entries

namespace Summary

def add (s : Summary) (name key count : Value) : Summary :=
  s.insert name (Keyed.insert ((s.find? name).getD []) key count)

def toValue (s : Summary) : Value := .map (s.mapValues .map)

def ofTerms (s : Summary) (name data : Value) : Outcome Summary := do
  (← (← data.require "terms").items).foldlM (fun s term => do
    let count ← term.require "count"
    pure (s.add name (← (← term.require "term").toKey) count)) s

def rangeLabel (lower upper : Value) : Value := .text s!"[{lower.display} TO {upper.display}]"

def ofRanges (s : Summary) (name data : Value) : Outcome Summary := do
  (← (← data.require "ranges").items).foldlM (fun s range => do
    let lower ← range.get "from_str" (.text "")
    let upper ← range.get "to_str" (.text "")
    pure (s.add name (rangeLabel lower upper) (← range.require "total_count"))) s

def ofRecord (s : Summary) (name data : Value) : Outcome Summary := do
  match ← FacetKind.ofRecord? name data with
  | some .terms => s.ofTerms name data
  | some .statistics => do pure (s.add (.text "stats") name (.map (← data.entries)))
  | some .ranges => s.ofRanges name data
  | some .category => do
      let category := (FacetKind.category? name.chars).getD []
      pure (s.add (.text Query.categoryField) (.ofChars category) (← data.get "count" (.int 0)))
  | none => pure s

def ofRecords (records : Value) : Outcome Summary := do
  (← (records.orElse (.map [])).entries).foldlM (fun s r => s.ofRecord r.1 r.2) []

end Summary

end CatalogSearch.Engine
