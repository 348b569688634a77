import CatalogSearch.Number.Binary64
import CatalogSearch.Text.Character
namespace CatalogSearch.Number

open Text

/-- Spaces a number may stand between; the information separators are not among them. -/
def isMargin (c : Char) : Bool := isBlank c && !(0x1C ≤ c.toNat && c.toNat ≤ 0x1F)

def plainDigit (c : Char) : Char :=
  match digitValue? c with
  | some d => Char.ofNat (48 + d)
  | none => c

def isPlainDigit (c : Char) : Bool := '0' ≤ c && c ≤ '9'

def trimMargin (cs : List Char) : List Char :=
  ((cs.dropWhile isMargin).reverse.dropWhile isMargin).reverse

/-- Drops single underscores between digits; any other underscore spoils the number. -/
def bridged (afterDigit : Bool) : List Char → Option (List Char)
  | [] => some []
  | c :: cs =>
      if c = '_' then
        if afterDigit && (cs.head?.map isPlainDigit).getD false then bridged false cs else none
      else (c :: ·) <$> bridged (isPlainDigit c) cs

def signed : List Char → Bool × List Char
  | '-' :: cs => (true, cs)
  | '+' :: cs => (false, cs)
  | cs => (false, cs)

def natOfDigits (cs : List Char) : Nat := cs.foldl (fun n c => 10 * n + (c.toNat - 48)) 0

def maxDigits : Nat := 4300

def readInt? (cs : List Char) : Option Int := do
  let (negative, digits) := signed (← bridged false ((trimMargin cs).map plainDigit))
  guard (!digits.isEmpty && digits.all isPlainDigit && digits.length ≤ maxDigits)
  let n := natOfDigits digits
  pure (if negative then -(n : Int) else n)

def readExponent? : List Char → Option Int
  | [] => some 0
  | c :: cs => do
      guard (c = 'e' || c = 'E')
      let (negative, digits) := signed cs
      guard (!digits.isEmpty && digits.all isPlainDigit)
      let n := natOfDigits digits
      pure (if negative then -(n : Int) else n)

def readFraction : List Char → List Char × List Char
  | '.' :: cs => cs.span isPlainDigit
  | cs => ([], cs)

def readDecimal? (negative : Bool) (cs : List Char) : Option Binary64 := do
  let (whole, rest) := cs.span isPlainDigit
  let (fraction, rest) := readFraction rest
  guard (!whole.isEmpty || !fraction.isEmpty)
  let exponent ← readExponent? rest
  let digits := whole ++ fraction
  pure (Binary64.ofDecimal negative (natOfDigits digits) digits.length (exponent - fraction.length))

def readReal? (cs : List Char) : Option Binary64 := do
  let (negative, body) := signed (← bridged false ((trimMargin cs).map plainDigit))
  let name := String.ofList (body.map Char.toLower)
  if name = "inf" ∨ name = "infinity" then pure (.infinite negative)
  else if name = "nan" then pure .undefined
  else readDecimal? negative body

end CatalogSearch.Number
