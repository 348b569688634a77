import CatalogSearch.Failure
import CatalogSearch.Calendar.HttpDate
namespace CatalogSearch

/-- What a JSON text says, with members of objects in the order in which they came. -/
inductive Json where
  | null
  | bool (b : Bool)
  | int (n : Int)
  | real (x : Binary64)
  | text (s : String)
  | array (items : List Json)
  | object (members : List (String × Json))

namespace Json

instance : Inhabited Json := ⟨.null⟩

def realText : Binary64 → List Char
  | .infinite negative => (if negative then "-Infinity" else "Infinity").toList
  | .undefined => "NaN".toList
  | x => x.write .plain

mutual

def toValue : Json → Value
  | .null => .null
  | .bool b => .bool b
  | .int n => .int n
  | .real x => .real x
  | .text s => .text s
  | .array items => .list (toValues items)
  | .object members => .map (toEntries [] members)

def toValues : List Json → List Value
  | [] => []
  | x :: xs => toValue x :: toValues xs

def toEntries (before : Entries) : List (String × Json) → Entries
  | [] => before
  | (name, x) :: members => toEntries (before.set name (toValue x)) members

end

inductive KeyKind where
  | null
  | number
  | text
  deriving DecidableEq

def KeyKind.ofValue? : Value → Option KeyKind
  | .null => some null
  | .bool _ | .int _ | .real _ => some number
  | .text _ => some text
  | _ => none

def haveOrder (keys : List Value) : Bool :=
  let kinds := keys.map KeyKind.ofValue?
  kinds.all fun k => k.isSome && k == kinds.headD none

def scaled? : Value → Option (Int × Int)
  | .real (.finite negative m e) => some (if negative then -(m : Int) else m, e)
  | .real _ => none
  | v => v.integer?.map (·, 0)

def keyLe (a b : Value) : Bool :=
  match scaled? a, scaled? b with
  | some (m, i), some (n, j) => m * twoTo (i - min i j).toNat ≤ n * twoTo (j - min i j).toNat
  | _, _ => match a, b with
    | .text s, .text t => !decide (t < s)
    | _, _ => true

def keyText : Value → String
  | .text s => s
  | .bool b => if b then "true" else "false"
  | .null => "null"
  | .real x => String.ofList (realText x)
  | v => v.display

def ofMoment (t : Calendar.Moment) : Outcome Json :=
  match Calendar.HttpDate.write? t with
  | some cs => pure (.text (String.ofList cs))
  | none => throw .outOfRange

mutual

/-- A value as JSON: keys become texts in their order, tuples arrays, and dates texts in the notation of
HTTP. Sets and objects have no form in JSON. -/
def ofValue : Value → Outcome Json
  | .null => pure .null
  | .bool b => pure (.bool b)
  | .int n => pure (.int n)
  | .real x => pure (.real x)
  | .text s => pure (.text s)
  | .list xs => do pure (.array (← ofValues xs))
  | .tuple xs => do pure (.array (← ofValues xs))
  | .map es => do
      if !haveOrder (Keyed.keys es) then throw .wrongKind
      let members ← ((ofEntries es).mergeSort fun a b => keyLe a.1 b.1).mapM fun e => do pure (keyText e.1, ← e.2)
      pure (.object members)
  | .date d => ofMoment d.midnight
  | .moment t => ofMoment t
  | .set _ => throw .wrongKind
  | .object _ => throw .wrongKind

def ofValues : List Value → Outcome (List Json)
  | [] => pure []
  | x :: xs => do pure ((← ofValue x) :: (← ofValues xs))

def ofEntries : List (Value × Value) → List (Value × Outcome Json)
  | [] => []
  | (k, v) :: es => (k, ofValue v) :: ofEntries es

end

end Json

end CatalogSearch
