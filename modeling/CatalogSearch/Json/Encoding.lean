import CatalogSearch.Json.Reader
/-!
JSON texts as bytes. A JSON text begins with a plain character, so the zeros among its first bytes tell
how its characters are encoded.
-/
namespace CatalogSearch.Json

inductive Encoding where
  | utf8
  | utf16 (bigEndian : Bool)
  | utf32 (bigEndian : Bool)
  deriving DecidableEq

namespace Encoding

def ofBytes : List UInt8 → Encoding
  | [a, b] => if a = 0 then utf16 true else if b = 0 then utf16 false else utf8
  | a :: b :: c :: d :: _ =>
      if a = 0 then (if b = 0 then utf32 true else utf16 true)
      else if b = 0 then (if c = 0 ∧ d = 0 then utf32 false else utf16 false)
      else utf8
  | _ => utf8

def number (bigEndian : Bool) (bytes : List UInt8) : Nat :=
  (if bigEndian then bytes else bytes.reverse).foldl (fun n b => 256 * n + b.toNat) 0

def pairs? (bigEndian : Bool) : List UInt8 → Option (List Nat)
  | [] => some []
  | a :: b :: rest => (number bigEndian [a, b] :: ·) <$> pairs? bigEndian rest
  | _ => none

def fours? (bigEndian : Bool) : List UInt8 → Option (List Nat)
  | [] => some []
  | a :: b :: c :: d :: rest => (number bigEndian [a, b, c, d] :: ·) <$> fours? bigEndian rest
  | _ => none

def charOf? (code : Nat) : Option Char :=
  if h : code.isValidChar then some (Char.ofNatAux code h)
  else if isHigh code || isLow code then some unknown
  else none

def byteOrderMark : Char := '\uFEFF'

def withoutMark : List Char → List Char
  | c :: cs => if c = byteOrderMark then cs else c :: cs
  | [] => []

def decode? (bytes : List UInt8) : Encoding → Option (List Char)
  | utf8 => (String.fromUTF8? ⟨bytes.toArray⟩).map fun s => withoutMark s.toList
  | utf16 bigEndian => (pairs? bigEndian bytes).map joinHalves
  | utf32 bigEndian => do (← fours? bigEndian bytes).mapM charOf?

end Encoding

def ofBytes (bytes : List UInt8) : Reading Json := do
  read (← wellFormed ((Encoding.ofBytes bytes).decode? bytes))

end CatalogSearch.Json
