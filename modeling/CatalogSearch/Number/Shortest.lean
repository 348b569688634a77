import CatalogSearch.Number.Binary64
namespace CatalogSearch

structure Decimal where
  digits : Nat
  exponent : Int
  deriving DecidableEq

namespace Decimal

def compareBinary (a : Nat) (i : Int) (b : Nat) (j : Int) : Ordering :=
  compare (a * tenTo i.toNat * twoTo (-j).toNat) (b * twoTo j.toNat * tenTo (-i).toNat)

def leadingExponent (m : Nat) (e : Int) : Int :=
  let guess := (((m.log2 : Int) + e) * 30103).fdiv 100000
  if compareBinary 1 (guess + 1) m e != .gt then guess + 1
  else if compareBinary 1 guess m e != .gt then guess
  else guess - 1

/-- Whether a decimal reads back as `m * 2 ^ e`: it lies between the midpoints to the two
neighbouring binary numbers, which themselves go to the even significand. -/
def readsBack (m : Nat) (e : Int) (d : Decimal) : Bool :=
  let below := if m = twoTo 52 ∧ e > -1074 then 4 * m - 1 else 4 * m - 2
  let lower := compareBinary d.digits d.exponent below (e - 2)
  let upper := compareBinary d.digits d.exponent (4 * m + 2) (e - 2)
  (lower == .gt || (lower == .eq && m % 2 == 0)) && (upper == .lt || (upper == .eq && m % 2 == 0))

def onGrid? (m : Nat) (e k : Int) : Option Decimal :=
  let q := (m * twoTo e.toNat * tenTo (-k).toNat) / (twoTo (-e).toNat * tenTo k.toNat)
  let down : Decimal := ⟨q, k⟩
  let up : Decimal := ⟨q + 1, k⟩
  match readsBack m e down, readsBack m e up with
  | true, false => some down
  | false, true => some up
  | false, false => none
  | true, true =>
      match compareBinary (2 * q + 1) k (2 * m) e with
      | .gt => some down
      | .lt => some up
      | .eq => some (if q % 2 = 0 then down else up)

/-- The fewest digits that read back as `m * 2 ^ e`, and of those the nearest; seventeen are always enough. -/
def shortest (m : Nat) (e : Int) : Decimal :=
  let lead := leadingExponent m e
  ((List.range 17).findSome? fun n : Nat => onGrid? m e (lead - n)).getD ⟨m, e⟩

def rounded (digits m : Nat) (e : Int) : Decimal :=
  let k := leadingExponent m e - digits + 1
  let num := m * twoTo e.toNat * tenTo (-k).toNat
  let den := twoTo (-e).toNat * tenTo k.toNat
  ⟨(2 * num + den) / (2 * den), k⟩

def normal (d : Decimal) : Decimal :=
  if h : d.digits ≠ 0 ∧ d.digits % 10 = 0 then normal ⟨d.digits / 10, d.exponent + 1⟩ else d
  termination_by d.digits
  decreasing_by exact Nat.div_lt_self (Nat.pos_of_ne_zero h.1) (by decide)

end Decimal

/-- Where a number is written with a point alone, by the exponent of its first digit, how many digits an
exponent has at least, and whether there is a point in front of it even if no digit follows. -/
structure NumberStyle where
  least : Int
  greatest : Int
  exponentWidth : Nat
  alwaysPoint : Bool

def NumberStyle.plain : NumberStyle := ⟨-4, 15, 2, false⟩

def NumberStyle.stored : NumberStyle := ⟨-4, 14, 2, true⟩

namespace NumberStyle

def zeros (n : Int) : List Char := List.replicate n.toNat '0'

def exponentText (style : NumberStyle) (x : Int) : List Char :=
  let ds := Nat.toDigits 10 x.natAbs
  (if x < 0 then '-' else '+') :: zeros (style.exponentWidth - ds.length) ++ ds

def write (style : NumberStyle) (d : Decimal) : List Char :=
  let ds := Nat.toDigits 10 d.digits
  let x := d.exponent + ds.length - 1
  if style.least ≤ x ∧ x ≤ style.greatest then
    if x < 0 then '0' :: '.' :: zeros (-x - 1) ++ ds
    else if ds.length ≤ x + 1 then ds ++ zeros (x + 1 - ds.length) ++ ['.', '0']
    else ds.take (x + 1).toNat ++ '.' :: ds.drop (x + 1).toNat
  else match ds with
    | [] => []
    | [c] => c :: (if style.alwaysPoint then ['.', '0'] else []) ++ 'e' :: exponentText style x
    | c :: cs => c :: '.' :: cs ++ 'e' :: exponentText style x

end NumberStyle

def Binary64.write (style : NumberStyle) : Binary64 → List Char
  | .finite negative m e =>
      (if negative then ['-'] else []) ++
        if m = 0 then ['0', '.', '0'] else style.write (Decimal.shortest m e).normal
  | .infinite negative => (if negative then ['-'] else []) ++ ['i', 'n', 'f']
  | .undefined => ['n', 'a', 'n']

end CatalogSearch
