import CatalogSearch.Query.Escape
import CatalogSearch.Value.Access
import CatalogSearch.Text.Character
namespace CatalogSearch.Query

def categoryField : String := "categories"

def shownField : String := "show_in_categories"

def priceField : String := "price"

def wildcard : String := "*"

/-- A field that must hold what `operand` says. A category may be held in either of two ways. -/
def fieldCondition (field operand : List Char) : List Char :=
  if field = categoryField.toList then
    '(' :: categoryField.toList ++ ':' :: operand ++ " OR ".toList ++ shownField.toList ++ ':' :: operand ++ [')']
  else field ++ ':' :: operand

/-- What is asked of one field, with every value as its text. A bound without a text is open. -/
inductive Criterion where
  | equals (text : List Char)
  | anyOf (texts : List (List Char))
  | between (lower upper : List Char)
  deriving DecidableEq

namespace Criterion

def isRangeRecord (es : Entries) : Bool := es.hasField "from" || es.hasField "to"

def bound (v : Value) : List Char := if Text.allBlank v.operand then [] else v.operand

/-- Collections ask for any of their items, except that a collection of prices gives the two bounds of
a range. An empty collection asks for nothing. -/
def ofValue? (field : List Char) (v : Value) : Option Criterion :=
  match v with
  | .map es =>
      if isRangeRecord es then some (.between (bound (Entries.field es "from")) (bound (Entries.field es "to")))
      else if es.isEmpty then none
      else some (.anyOf ((Keyed.values es).map Value.operand))
  | v => match v.sequence? with
    | some xs =>
        if field = priceField.toList then some (.between (bound (xs.getD 0 .null)) (bound (xs.getD 1 .null)))
        else if xs.isEmpty then none
        else some (.anyOf (xs.map Value.operand))
    | none => some (.equals v.operand)

def disjunction (field : List Char) (texts : List (List Char)) : List Char :=
  '(' :: " OR ".toList.intercalate (texts.map fun t => fieldCondition field (exactText t)) ++ [')']

def range (field : List Char) (prepare : List Char → List Char) (lower upper : List Char) : List Char :=
  field ++ ':' :: '[' :: prepare lower ++ " TO ".toList ++ prepare upper ++ [']']

def filterClause (field : List Char) : Criterion → List Char
  | .equals t => fieldCondition field (exactText t)
  | .anyOf ts => disjunction field ts
  | .between a b => range field exactText a b

def searchClause? (field : List Char) : Criterion → Option (List Char)
  | .equals t => if group t = [] then none else some (fieldCondition field (group t))
  | .anyOf ts => some (disjunction field ts)
  | .between a b => some (range field group a b)

end Criterion

def conjunction (clauses : List (List Char)) : List Char := " AND ".toList.intercalate clauses

def filterClauses (filters : Entries) : List (List Char) :=
  filters.filterMap fun e => (Criterion.ofValue? e.1.chars e.2).map (Criterion.filterClause e.1.chars)

def compileFilters (filters : Value) : Outcome (List (List Char)) := do
  if filters.truthy then pure (filterClauses (← filters.entries)) else pure []

/-- A single star asks only that a field holds something. -/
def searchEntry? (field : List Char) (v : Value) : Option (List Char) :=
  if v.same (.text wildcard) then some (fieldCondition field wildcard.toList)
  else (Criterion.ofValue? field v).bind (Criterion.searchClause? field)

def searchClauses (query : Entries) : List (List Char) :=
  query.filterMap fun e => searchEntry? e.1.chars e.2

def searchConditions : Value → List Char
  | .map es => conjunction (searchClauses es)
  | v => group v.operand

end CatalogSearch.Query
