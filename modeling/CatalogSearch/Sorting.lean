import CatalogSearch.Attribute
namespace CatalogSearch

structure SortKey where
  field : List Char
  direction : List Char
  deriving DecidableEq

namespace SortKey

def scoreField : String := "_score"

def toValue (k : SortKey) : Value := .map [(.ofChars k.field, .ofChars k.direction)]

def positionField (category : List Char) : List Char := "position_category_".toList ++ category

def priceField (group website : Int) : List Char := s!"price_{group}_{website}".toList

/-- The entries of a sort order: a dictionary of fields and directions, or a list of such
dictionaries, of each of which the first entry counts. -/
def entries (sortBy : Value) : Outcome Entries :=
  match sortBy with
  | .map es => pure es
  | v => do
      let items ← if v.truthy then v.items else pure []
      (items.filter Value.truthy).flatMapM fun item => do pure ((← item.entries).take 1)

/-- Positions only exist inside a category; elsewhere, and where asked for, the best match comes first. -/
def ofEntry (context : Context) (sortables : Listing) (field direction : Value) : SortKey :=
  let direction := Text.lower (Text.trim (direction.orElse (.text "asc")).chars)
  let best : SortKey := ⟨scoreField.toList, "desc".toList⟩
  if field.same (.text "position") then
    match context.category with
    | none => best
    | some category => ⟨positionField (toString category).toList, direction⟩
  else if field.same (.text "relevance") then best
  else if field.same (.text "price") then ⟨priceField context.customerGroup context.website, direction⟩
  else ⟨((sortables.find? field).getD (.bare field)).sortField context.language?, direction⟩

end SortKey

def sortKeys (context : Context) (sortables : Listing) (sortBy : Value) : Outcome (List SortKey) := do
  pure ((← SortKey.entries sortBy).map fun e => SortKey.ofEntry context sortables e.1 e.2)

end CatalogSearch
