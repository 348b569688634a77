import CatalogSearch.Calendar.Moment
import CatalogSearch.Number.Binary64
namespace CatalogSearch

/-- The values that requests, documents and answers are made of. -/
inductive Value where
  | null
  | bool (b : Bool)
  | int (n : Int)
  | real (x : Binary64)
  | text (s : String)
  | list (items : List Value)
  | tuple (items : List Value)
  | set (items : List Value)
  | map (entries : List (Value × Value))
  | object (fields : List (String × Value))
  | date (d : Calendar.Date)
  | moment (t : Calendar.Moment)

namespace Value

instance : Inhabited Value := ⟨.null⟩

def ofChars (cs : List Char) : Value := .text (String.ofList cs)

/-- Null, false, zero, the empty text and empty collections do not count. -/
def truthy : Value → Bool
  | .null => false
  | .bool b => b
  | .int n => n != 0
  | .real x => !x.isZero
  | .text s => !s.isEmpty
  | .list xs | .tuple xs | .set xs => !xs.isEmpty
  | .map es => !es.isEmpty
  | .object _ | .date _ | .moment _ => true

def orElse (v other : Value) : Value := if v.truthy then v else other

def orNull (v other : Value) : Value :=
  match v with
  | .null => other
  | v => v

def isNull : Value → Bool
  | .null => true
  | _ => false

def isMap : Value → Bool
  | .map _ => true
  | _ => false

def isText : Value → Bool
  | .text _ => true
  | _ => false

def sequence? : Value → Option (List Value)
  | .list xs | .tuple xs | .set xs => some xs
  | _ => none

def integer? : Value → Option Int
  | .bool b => some (if b then 1 else 0)
  | .int n => some n
  | _ => none

def isNumber : Value → Bool
  | .bool _ | .int _ | .real _ => true
  | _ => false

def sameNumber (a b : Value) : Bool :=
  match a, b with
  | .real x, .real y => x.same y
  | .real x, b => b.integer?.isSome && x.toInt? == b.integer?
  | a, .real y => a.integer?.isSome && y.toInt? == a.integer?
  | a, b => a.integer?.isSome && a.integer? == b.integer?

mutual

/-- Equality as dictionary keys and searches see it: numbers by what they are worth, collections by
their members. Values have no identity here: an object, or a real that is no number, is the same as nothing,
even where it stands on both sides. -/
def same : Value → Value → Bool
  | .null, b => match b with | .null => true | _ => false
  | .text s, b => match b with | .text t => s == t | _ => false
  | .date d, b => match b with | .date e => d == e | _ => false
  | .moment t, b => match b with | .moment u => t.same u | _ => false
  | .list xs, b => match b with | .list ys => sameItems xs ys | _ => false
  | .tuple xs, b => match b with | .tuple ys => sameItems xs ys | _ => false
  | .set xs, b => match b with | .set ys => xs.length == ys.length && sameMembers xs ys | _ => false
  | .map es, b => match b with | .map fs => es.length == fs.length && sameEntries es fs | _ => false
  | .object _, _ => false
  | .bool a, b => sameNumber (.bool a) b
  | .int n, b => sameNumber (.int n) b
  | .real x, b => sameNumber (.real x) b

def sameItems : List Value → List Value → Bool
  | [], ys => ys.isEmpty
  | x :: xs, ys => match ys with | [] => false | y :: ys => same x y && sameItems xs ys

def sameMembers : List Value → List Value → Bool
  | [], _ => true
  | x :: xs, ys => ys.any (fun y => same x y) && sameMembers xs ys

def sameEntries : List (Value × Value) → List (Value × Value) → Bool
  | [], _ => true
  | (k, v) :: es, fs => fs.any (fun f => same k f.1 && same v f.2) && sameEntries es fs

end

mutual

def isKey : Value → Bool
  | .list _ | .set _ | .map _ => false
  | .tuple xs => areKeys xs
  | _ => true

def areKeys : List Value → Bool
  | [] => true
  | x :: xs => isKey x && areKeys xs

end

end Value

/-- Things under keys, in the order in which the keys came. -/
abbrev Keyed (α : Type) := List (Value × α)

namespace Keyed

variable {α β : Type}

def find? (es : Keyed α) (key : Value) : Option α := (List.find? (fun e => key.same e.1) es).map Prod.snd

def has (es : Keyed α) (key : Value) : Bool := (find? es key).isSome

def insert : Keyed α → Value → α → Keyed α
  | [], key, x => [(key, x)]
  | e :: es, key, x => if key.same e.1 then (e.1, x) :: es else e :: insert es key x

def keys (es : Keyed α) : List Value := es.map Prod.fst

def values (es : Keyed α) : List α := es.map Prod.snd

def mapValues (f : α → β) (es : Keyed α) : Keyed β := es.map fun e => (e.1, f e.2)

end Keyed

abbrev Entries := Keyed Value

namespace Entries

def field? (es : Entries) (name : String) : Option Value := Keyed.find? es (.text name)

def field (es : Entries) (name : String) (default : Value := .null) : Value := (field? es name).getD default

def hasField (es : Entries) (name : String) : Bool := Keyed.has es (.text name)

def set (es : Entries) (name : String) (v : Value) : Entries := Keyed.insert es (.text name) v

def erase (es : Entries) (name : String) : Entries := es.filter fun e => !(Value.text name).same e.1

end Entries

def Value.ofFields (fields : List (String × Value)) : Value := .map (fields.map fun f => (.text f.1, f.2))

end CatalogSearch
