import CatalogSearch.Json.Basic
import CatalogSearch.Number.Reader
import CatalogSearch.Text.Character
/-!
A reader of JSON texts. Numbers without a fraction and an exponent are integers; `NaN` and
`Infinity` are read too. A code of half a character without its other half stands for an unknown one.
-/
namespace CatalogSearch.Json

inductive Trouble where
  | malformed
  | tooDeep
  deriving DecidableEq

abbrev Reading := Except Trouble

def wellFormed {α : Type} : Option α → Reading α
  | some x => pure x
  | none => throw .malformed

def isSpace (c : Char) : Bool := c == ' ' || c == '\t' || c == '\n' || c == '\r'

def skip (cs : List Char) : List Char := cs.dropWhile isSpace

def escapes : List (Char × Char) := [
  ('"', '"'), ('\\', '\\'), ('/', '/'), ('b', '\x08'), ('f', '\x0c'), ('n', '\n'), ('r', '\r'), ('t', '\t')]

def readCodes? : List Char → Option (List Nat × List Char)
  | [] => none
  | '"' :: rest => some ([], rest)
  | '\\' :: 'u' :: a :: b :: c :: d :: rest => do
      let code ← Text.hexNumber? [a, b, c, d]
      let (codes, rest) ← readCodes? rest
      pure (code :: codes, rest)
  | '\\' :: c :: rest => do
      let escaped ← escapes.lookup c
      let (codes, rest) ← readCodes? rest
      pure (escaped.toNat :: codes, rest)
  | c :: rest => do
      guard (0x20 ≤ c.toNat)
      let (codes, rest) ← readCodes? rest
      pure (c.toNat :: codes, rest)

def isHigh (n : Nat) : Bool := 0xD800 ≤ n && n ≤ 0xDBFF

def isLow (n : Nat) : Bool := 0xDC00 ≤ n && n ≤ 0xDFFF

def unknown : Char := '\uFFFD'

def joinHalves : List Nat → List Char
  | [] => []
  | [n] => [if isHigh n || isLow n then unknown else Char.ofNat n]
  | n :: m :: rest =>
      if isHigh n && isLow m then Char.ofNat (0x10000 + (n - 0xD800) * 0x400 + (m - 0xDC00)) :: joinHalves rest
      else (if isHigh n || isLow n then unknown else Char.ofNat n) :: joinHalves (m :: rest)

def readText? (cs : List Char) : Option (String × List Char) := do
  let (codes, rest) ← readCodes? cs
  pure (String.ofList (joinHalves codes), rest)

def words : List (String × Json) := [
  ("null", .null), ("true", .bool true), ("false", .bool false), ("NaN", .real .undefined),
  ("Infinity", .real (.infinite false)), ("-Infinity", .real (.infinite true))]

def readWord? (cs : List Char) : Option (Json × List Char) :=
  words.findSome? fun w => if w.1.toList.isPrefixOf cs then some (w.2, cs.drop w.1.length) else none

def digits (cs : List Char) : List Char × List Char := cs.span Number.isPlainDigit

def readWhole (cs : List Char) : List Char × List Char :=
  match cs with
  | '0' :: rest => (['0'], rest)
  | cs => digits cs

def readFraction (cs : List Char) : List Char × List Char :=
  match cs with
  | '.' :: rest => match digits rest with
    | ([], _) => ([], cs)
    | (ds, rest) => ('.' :: ds, rest)
  | cs => ([], cs)

def readExponent (cs : List Char) : List Char × List Char :=
  match cs with
  | c :: rest =>
      if c = 'e' ∨ c = 'E' then
        let (sign, rest) := match rest with
          | '+' :: rest => (['+'], rest)
          | '-' :: rest => (['-'], rest)
          | rest => ([], rest)
        match digits rest with
        | ([], _) => ([], cs)
        | (ds, rest) => (c :: sign ++ ds, rest)
      else ([], cs)
  | [] => ([], [])

def readNumber? (cs : List Char) : Option (Json × List Char) := do
  let (negative, rest) := match cs with
    | '-' :: rest => (true, rest)
    | cs => (false, cs)
  let (whole, rest) := readWhole rest
  guard (!whole.isEmpty)
  let (fraction, rest) := readFraction rest
  let (exponent, rest) := readExponent rest
  if fraction.isEmpty && exponent.isEmpty then do
    guard (whole.length ≤ Number.maxDigits)
    let n : Int := Number.natOfDigits whole
    pure (.int (if negative then -n else n), rest)
  else do
    let x ← Number.readDecimal? negative (whole ++ fraction ++ exponent)
    pure (.real x, rest)

mutual

def readValue (room : Nat) : Nat → List Char → Reading (Json × List Char)
  | 0, _ => throw .malformed
  | fuel + 1, cs => match skip cs, room with
    | '"' :: rest, _ => do
        let (s, rest) ← wellFormed (readText? rest)
        pure (.text s, rest)
    | '[' :: _, 0 | '\x7b' :: _, 0 => throw .tooDeep
    | '[' :: rest, room + 1 => match skip rest with
      | ']' :: rest => pure (.array [], rest)
      | rest => do
          let (items, rest) ← readItems room fuel rest
          pure (.array items, rest)
    | '\x7b' :: rest, room + 1 => match skip rest with
      | '\x7d' :: rest => pure (.object [], rest)
      | rest => do
          let (members, rest) ← readMembers room fuel rest
          pure (.object members, rest)
    | rest, _ => wellFormed ((readWord? rest).orElse fun _ => readNumber? rest)

def readItems (room : Nat) : Nat → List Char → Reading (List Json × List Char)
  | 0, _ => throw .malformed
  | fuel + 1, cs => do
      let (item, rest) ← readValue room fuel cs
      match skip rest with
      | ']' :: rest => pure ([item], rest)
      | ',' :: rest => do
          let (items, rest) ← readItems room fuel rest
          pure (item :: items, rest)
      | _ => throw .malformed

def readMembers (room : Nat) : Nat → List Char → Reading (List (String × Json) × List Char)
  | 0, _ => throw .malformed
  | fuel + 1, cs => match skip cs with
    | '"' :: rest => do
        let (name, rest) ← wellFormed (readText? rest)
        match skip rest with
        | ':' :: rest => do
            let (item, rest) ← readValue room fuel rest
            match skip rest with
            | '\x7d' :: rest => pure ([(name, item)], rest)
            | ',' :: rest => do
                let (members, rest) ← readMembers room fuel rest
                pure ((name, item) :: members, rest)
            | _ => throw .malformed
        | _ => throw .malformed
    | _ => throw .malformed

end

/-- Each step of the reader takes at least one character, or is the first step into an item. -/
def fuelFor (cs : List Char) : Nat := 2 * cs.length + 2

def maxDepth : Nat := 975

def read (cs : List Char) : Reading Json := do
  let (json, rest) ← readValue maxDepth (fuelFor cs) cs
  if (skip rest).isEmpty then pure json else throw .malformed

end CatalogSearch.Json
