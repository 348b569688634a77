import CatalogSearch.Store
namespace CatalogSearch

inductive AttributeKind where
  | plain
  | date
  | decimal
  | option (multiselect : Bool)
  deriving DecidableEq

structure Attribute where
  code : String
  backendType : String
  inputType : String
  options : Entries
  kind : AttributeKind

namespace Attribute

/-- Dates come before options, options before decimals; a type left empty is the usual one. -/
def build (code : String) (backendType inputType : Option String) (usesSource : Bool) (options : Entries) : Attribute :=
  let chosen (given : Option String) (usual : String) : String := if given.getD "" = "" then usual else given.getD ""
  let backendType := chosen backendType "varchar"
  let inputType := chosen inputType "text"
  { code, backendType, inputType
    options := options.foldl (fun es e => Entries.set es e.1.display e.2) []
    kind :=
      if backendType = "datetime" then .date
      else if usesSource then .option (inputType = "multiselect")
      else if backendType = "decimal" then .decimal
      else .plain }

def hasSource (a : Attribute) : Bool :=
  match a.kind with
  | .option _ => true
  | _ => false

def hasLabels (a : Attribute) : Bool := a.kind == .option false

def isLocalized (a : Attribute) : Bool := a.kind != .date && a.kind != .decimal

def label (a : Attribute) (v : Value) : Value :=
  match v with
  | .null => .null
  | v => Entries.field a.options v.display

def commaParts (cs : List Char) : List Value := ((Text.pieces ',' cs).filter (· ≠ [])).map .ofChars

def indexValue [Calendar.Zones] (a : Attribute) (s : Store) (v : Value) : Value :=
  match a.kind, v with
  | .date, .list xs => .list ((xs.map s.date).filter Value.truthy)
  | .date, v => s.date v
  | .option true, v => if v.truthy then .list (commaParts v.first.chars) else v
  | _, v => v

def optionLabel (a : Attribute) (v : Value) : Value :=
  if v.truthy && a.hasLabels then a.label v.first else .null

def sortValue (a : Attribute) (v : Value) : Value :=
  match a.kind with
  | .decimal => match v.first.number? with
    | some x => .real x
    | none => .null
  | .option _ => a.label v.first
  | _ => v.first

end Attribute

/-- What a catalog lists under a code: an attribute, or a value that is none. -/
inductive Listed where
  | known (a : Attribute)
  | bare (v : Value)

abbrev Listing := List (String × Listed)

namespace Listing

def find? (l : Listing) (key : Value) : Option Listed :=
  match key with
  | .text code => l.lookup code
  | _ => none

def present? (l : Listing) (key : Value) : Option Listed :=
  match find? l key with
  | some (.bare .null) => none
  | found => found

end Listing

def sortFieldName (code : List Char) (language : Option (List Char)) : List Char :=
  "sort_by_".toList ++ code ++ match language with
    | some l => '_' :: l
    | none => []

def Attribute.sortField (a : Attribute) (language : Option (List Char)) : List Char :=
  sortFieldName a.code.toList (if a.isLocalized then language else none)

def Listed.sortField (l : Listed) (language : Option (List Char)) : List Char :=
  match l with
  | .known a => a.sortField language
  | .bare v => sortFieldName v.chars language

end CatalogSearch
