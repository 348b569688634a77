import CatalogSearch.Value.Basic
namespace CatalogSearch.Value

def isHidden (name : String) : Bool := name.toList.head? == some '_'

mutual

/-- A value made of dictionaries, lists and scalars: tuples become lists and objects dictionaries of
the fields they show. -/
def plain : Value → Value
  | .map es => .map (plainEntries es)
  | .list xs => .list (plainItems xs)
  | .tuple xs => .list (plainItems xs)
  | .object fs => .map (plainFields fs)
  | v => v

def plainItems : List Value → List Value
  | [] => []
  | x :: xs => plain x :: plainItems xs

def plainEntries : List (Value × Value) → List (Value × Value)
  | [] => []
  | (k, v) :: es => (k, plain v) :: plainEntries es

def plainFields : List (String × Value) → List (Value × Value)
  | [] => []
  | (name, v) :: fs => if isHidden name then plainFields fs else (.text name, plain v) :: plainFields fs

end

end CatalogSearch.Value
