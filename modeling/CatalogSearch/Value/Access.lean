import CatalogSearch.Failure
import CatalogSearch.Number.Reader
namespace CatalogSearch.Value

def entries : Value → Outcome Entries
  | .map es => pure es
  | _ => throw .noSuchMember

def get (v : Value) (name : String) (default : Value := .null) : Outcome Value := do
  pure (Entries.field (← v.entries) name default)

def items : Value → Outcome (List Value)
  | .list xs | .tuple xs | .set xs => pure xs
  | .map es => pure (Keyed.keys es)
  | .text s => pure (s.toList.map fun c => ofChars [c])
  | _ => throw .wrongKind

def require (v : Value) (name : String) : Outcome Value :=
  match v with
  | .map es => match Entries.field? es name with
    | some x => pure x
    | none => throw .missingKey
  | _ => throw .wrongKind

def toKey (v : Value) : Outcome Value := if v.isKey then pure v else throw .wrongKind

def occursIn (part : List Char) : List Char → Bool
  | [] => part.isEmpty
  | c :: cs => part.isPrefixOf (c :: cs) || occursIn part cs

def isIn (v container : Value) : Outcome Bool :=
  match container with
  | .map es => do pure (Keyed.has es (← v.toKey))
  | .set xs => do pure (xs.any (← v.toKey).same)
  | .list xs | .tuple xs => pure (xs.any v.same)
  | .text s => match v with
    | .text part => pure (occursIn part.toList s.toList)
    | _ => throw .wrongKind
  | _ => throw .wrongKind

def pair (v : Value) : Outcome (Value × Value) := do
  match ← v.items with
  | [k, x] => pure (← k.toKey, x)
  | _ => throw .badValue

/-- A dictionary from a dictionary or from key-value pairs, of which a later one wins. -/
def toEntries : Value → Outcome Entries
  | .map es => pure es
  | v => do (← v.items).foldlM (fun es p => do let (k, x) ← p.pair; pure (Keyed.insert es k x)) []

def toInt : Value → Outcome Int
  | .bool b => pure (if b then 1 else 0)
  | .int n => pure n
  | .real x => match x.truncate? with
    | some n => pure n
    | none => throw (if x.isInfinite then .outOfRange else .badValue)
  | .text s => match Number.readInt? s.toList with
    | some n => pure n
    | none => throw .badValue
  | _ => throw .wrongKind

def withField (v : Value) (name : String) (x : Value) : Outcome Value :=
  match v with
  | .map es => pure (.map (Entries.set es name x))
  | _ => throw .wrongKind

def append (v item : Value) : Outcome Value :=
  match v with
  | .list xs => pure (.list (xs ++ [item]))
  | _ => throw .noSuchMember

def toReal (v : Value) : Outcome Binary64 :=
  match v with
  | .real x => pure x
  | v => match v.integer?.map Binary64.ofInt with
    | some x => if x.isInfinite then throw .outOfRange else pure x
    | none => throw .wrongKind

def add (a b : Value) : Outcome Value := do
  match a.integer?, b.integer? with
  | some m, some n => pure (.int (m + n))
  | _, _ =>
      if a.isNumber && b.isNumber then pure (.real ((← a.toReal).add (← b.toReal)))
      else throw .wrongKind

end CatalogSearch.Value
