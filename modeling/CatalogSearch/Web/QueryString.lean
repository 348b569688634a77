import CatalogSearch.Text.Character
import CatalogSearch.Text.Pieces
/-!
The arguments in the query of an address: pairs joined by `&`, in which `+` is a space and `%` with
two digits a byte. Bytes that do not make up a character stay as they are written.
-/
namespace CatalogSearch.Web

/-- The arguments of a request in the order in which they came; a name may come again. -/
abbrev Arguments := List (String × String)

namespace QueryString

inductive Piece where
  | char (c : Char)
  | byte (n : Nat)
  deriving DecidableEq

def Piece.ofCode (n : Nat) : Piece := if n < 0x80 then .char (Char.ofNat n) else .byte n

def unescape : List Char → List Piece
  | '%' :: a :: b :: cs => match Text.hexNumber? [a, b] with
    | some n => .ofCode n :: unescape cs
    | none => .char '%' :: unescape (a :: b :: cs)
  | c :: cs => .char c :: unescape cs
  | [] => []

/-- How many bytes follow a first byte, the bits it has itself, and the least code they may make up. -/
def lead? (n : Nat) : Option (Nat × Nat × Nat) :=
  if 0xC2 ≤ n ∧ n ≤ 0xDF then some (1, n - 0xC0, 0x80)
  else if 0xE0 ≤ n ∧ n ≤ 0xEF then some (2, n - 0xE0, 0x800)
  else if 0xF0 ≤ n ∧ n ≤ 0xF4 then some (3, n - 0xF0, 0x10000)
  else none

def follow? (code : Nat) : Piece → Option Nat
  | .byte n => if n < 0xC0 then some (64 * code + (n - 0x80)) else none
  | .char _ => none

def character? (first : Nat) (rest : List Piece) : Option (Char × Nat) := do
  let (count, bits, least) ← lead? first
  guard (count ≤ rest.length)
  let code ← (rest.take count).foldlM follow? bits
  guard (least ≤ code)
  if h : code.isValidChar then pure (Char.ofNatAux code h, count) else none

def percent (n : Nat) : List Char := '%' :: (Text.hex 2 n).map Char.toUpper

def decode (skipped : Nat) : List Piece → List Char
  | [] => []
  | p :: ps => match skipped, p with
    | skipped + 1, _ => decode skipped ps
    | 0, .char c => c :: decode 0 ps
    | 0, .byte n => match character? n ps with
      | some (c, count) => c :: decode count ps
      | none => percent n ++ decode 0 ps

def decoded (cs : List Char) : String := String.ofList (decode 0 (unescape (Text.replace '+' ' ' cs)))

def argument (cs : List Char) : String × String :=
  let (name, rest) := cs.span (· != '=')
  (decoded name, decoded rest.tail)

def read (query : List Char) : Arguments := ((Text.pieces '&' query).filter (· ≠ [])).map argument

end QueryString

end CatalogSearch.Web
