import CatalogSearch.Catalog.Tables
import CatalogSearch.Number.Reader
import CatalogSearch.Number.Shortest
import CatalogSearch.Value.Access
/-!
What the cells of tables hold. Columns of numbers and of texts make what is put into them, or looked up
in them, their own kind of thing where they can.
-/
namespace CatalogSearch.Catalog

def isTextMargin (c : Char) : Bool := c == ' ' || ('\t' ≤ c && c ≤ '\r')

def trimTextMargin (cs : List Char) : List Char :=
  ((cs.dropWhile isTextMargin).reverse.dropWhile isTextMargin).reverse

def ofReal (x : Binary64) : Value :=
  match x.toInt? with
  | some n => if fits n && fits (-n) then .int n else .real x
  | none => .real x

def textNumber? (cs : List Char) : Option Value :=
  let (negative, body) := Number.signed (trimTextMargin cs)
  let n : Int := Number.natOfDigits body
  let n := if negative then -n else n
  if !body.isEmpty && body.all Number.isPlainDigit && fits n then some (.int n)
  else (Number.readDecimal? negative body).map ofReal

def asNumber (v : Value) : Value :=
  match v with
  | .bool b => .int (if b then 1 else 0)
  | .text s => (textNumber? s.toList).getD v
  | .real x => ofReal x
  | v => v

/-- A number in a column of texts has up to fifteen digits, and always a point. -/
def realText : Binary64 → List Char
  | .finite negative m e =>
      if m = 0 then ['0', '.', '0']
      else (if negative then ['-'] else []) ++ NumberStyle.stored.write (Decimal.rounded 15 m e).normal
  | .infinite negative => (if negative then "-Inf" else "Inf").toList
  | .undefined => []

def asText (v : Value) : Value :=
  match v with
  | .null | .real .undefined => .null
  | .bool b => .text (if b then "1" else "0")
  | .real x => .ofChars (realText x)
  | v => .ofChars v.chars

def checkPlain (v : Value) : Outcome Unit :=
  match v with
  | .int n => if fits n then pure () else throw .outOfRange
  | .list _ | .tuple _ | .set _ | .map _ | .object _ => throw .unstorable
  | _ => pure ()

/-- Whether one statement takes so many values, where there is a limit to them. Only the statements that name the
products of a batch are held to it: the others come with a few values, which are always taken. -/
def takes (limit : Option Nat) (n : Nat) : Bool := limit.all (n ≤ ·)

/-- Hands a list of values to a statement that takes so many more of its own. Nulls are part of its text. -/
def hand (limit : Option Nat) (values : List Value) (more : Nat := 0) : Outcome Unit :=
  if takes limit (values.countP (fun v => !v.isNull) + more) then values.forM checkPlain else throw .tooManyValues

def refersTo (v : Value) (id : Int) : Bool := (asNumber v).same (.int id)

/-- What a row is asked for by: a value, which may come as the only one of a collection or under `id`. -/
def asked (v : Value) : Outcome Value :=
  match v with
  | .map es => match Entries.field? es "id" with
    | some key => key.toKey
    | none => throw .badIdentity
  | v => match v.sequence? with
    | none => v.toKey
    | some [key] => key.toKey
    | some _ => throw .badIdentity

end CatalogSearch.Catalog
