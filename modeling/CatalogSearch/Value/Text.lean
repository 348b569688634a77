import CatalogSearch.Value.Basic
import CatalogSearch.Calendar.Iso
import CatalogSearch.Number.Shortest
import CatalogSearch.Text.Printable
namespace CatalogSearch

namespace Calendar

def listed (parts : List Nat) : List Char := [',', ' '].intercalate (parts.map fun n => Nat.toDigits 10 n)

def Date.literal (d : Date) : List Char :=
  "datetime.date(".toList ++ listed [d.year, d.month, d.day] ++ [')']

def spanLiteral (micro : Int) : List Char :=
  let days := micro.fdiv 86400000000
  let rest := (micro - days * 86400000000).toNat
  let parts := (if days = 0 then [] else ["days=".toList ++ (toString days).toList]) ++
    (if rest / 1000000 = 0 then [] else ["seconds=".toList ++ Nat.toDigits 10 (rest / 1000000)]) ++
    (if rest % 1000000 = 0 then [] else ["microseconds=".toList ++ Nat.toDigits 10 (rest % 1000000)])
  "datetime.timedelta(".toList ++ [',', ' '].intercalate parts ++ [')']

def Moment.literal (t : Moment) : List Char :=
  let time := [t.hour, t.minute] ++
    (if t.micro ≠ 0 then [t.second, t.micro] else if t.second ≠ 0 then [t.second] else [])
  let zone := match t.offset with
    | none => []
    | some 0 => ", tzinfo=datetime.timezone.utc".toList
    | some n => ", tzinfo=datetime.timezone(".toList ++ spanLiteral n ++ [')']
  let fold := if t.again then ", fold=1".toList else []
  "datetime.datetime(".toList ++ listed ([t.date.year, t.date.month, t.date.day] ++ time) ++ fold ++ zone ++ [')']

end Calendar

namespace Value

def commas (parts : List (List Char)) : List Char := [',', ' '].intercalate parts

mutual

def literal : Value → List Char
  | .null => "None".toList
  | .bool b => (if b then "True" else "False").toList
  | .int n => (toString n).toList
  | .real x => x.write .plain
  | .text s => Text.quoted s.toList
  | .list xs => '[' :: commas (literals xs) ++ [']']
  | .tuple xs => '(' :: commas (literals xs) ++ (if xs.length = 1 then [',', ')'] else [')'])
  | .set xs => if xs.isEmpty then "set()".toList else '\x7b' :: commas (literals xs) ++ ['\x7d']
  | .map es => '\x7b' :: commas (entryLiterals es) ++ ['\x7d']
  | .object _ => "object".toList
  | .date d => d.literal
  | .moment t => t.literal

def literals : List Value → List (List Char)
  | [] => []
  | x :: xs => literal x :: literals xs

def entryLiterals : List (Value × Value) → List (List Char)
  | [] => []
  | (k, v) :: es => (literal k ++ ':' :: ' ' :: literal v) :: entryLiterals es

end

/-- The text of a value: texts as they are, days and moments in ISO notation, all else written out. -/
def chars : Value → List Char
  | .text s => s.toList
  | .date d => Calendar.Iso.writeDay d
  | .moment t => Calendar.Iso.write ' ' t
  | v => literal v

def display (v : Value) : String := String.ofList v.chars

def operand : Value → List Char
  | .null => []
  | v => v.chars

end Value

end CatalogSearch
