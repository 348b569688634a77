namespace CatalogSearch

def twoTo (k : Nat) : Nat := Nat.pow 2 k

def tenTo (k : Nat) : Nat := Nat.pow 10 k

/-- A 64-bit binary floating point number as the number it stands for, `significand * 2 ^ exponent`,
or one of the values beyond the numbers. A significand below `2 ^ 52` occurs with exponent -1074 only. -/
inductive Binary64 where
  | finite (negative : Bool) (significand : Nat) (exponent : Int)
  | infinite (negative : Bool)
  | undefined
  deriving DecidableEq

namespace Binary64

def zero (negative : Bool) : Binary64 := .finite negative 0 (-1074)

def roundHalfEven (num den : Nat) : Nat :=
  let q := num / den
  match compare (2 * (num % den)) den with
  | .lt => q
  | .gt => q + 1
  | .eq => if q % 2 = 0 then q else q + 1

def floorLog2 (num den : Nat) : Int :=
  let k : Int := (num.log2 : Int) - den.log2
  if den * twoTo k.toNat ≤ num * twoTo (-k).toNat then k else k - 1

/-- The number nearest to `num / den`; a half goes to the even significand. -/
def ofRatio (negative : Bool) (num den : Nat) : Binary64 :=
  if num = 0 then zero negative
  else
    let e := max (floorLog2 num den - 52) (-1074)
    let m := roundHalfEven (num * twoTo (-e).toNat) (den * twoTo e.toNat)
    let (m, e) := if m = twoTo 53 then (twoTo 52, e + 1) else (m, e)
    if e > 971 then .infinite negative else .finite negative m e

/-- The number nearest to `digits * 10 ^ exponent`; `width` bounds the count of digits and spares
the work on numbers far out of range. -/
def ofDecimal (negative : Bool) (digits : Nat) (width : Nat) (exponent : Int) : Binary64 :=
  if digits = 0 then zero negative
  else if exponent > 400 then .infinite negative
  else if exponent + width < -400 then zero negative
  else ofRatio negative (digits * tenTo exponent.toNat) (tenTo (-exponent).toNat)

def ofInt (n : Int) : Binary64 := ofRatio (n < 0) n.natAbs 1

def isInfinite : Binary64 → Bool
  | .infinite _ => true
  | _ => false

def truncate? : Binary64 → Option Int
  | .finite negative m e =>
      let n : Int := (m * twoTo e.toNat / twoTo (-e).toNat : Nat)
      some (if negative then -n else n)
  | _ => none

def toInt? : Binary64 → Option Int
  | .finite negative m e =>
      if m * twoTo e.toNat % twoTo (-e).toNat = 0 then truncate? (.finite negative m e) else none
  | _ => none

def isZero : Binary64 → Bool
  | .finite _ m _ => m == 0
  | _ => false

/-- Equality of the numbers: the two zeros are equal, and what stands for no number equals nothing. -/
def same : Binary64 → Binary64 → Bool
  | .undefined, _ => false
  | a, b => a == b || (a.isZero && b.isZero)

def add : Binary64 → Binary64 → Binary64
  | .finite s m e, .finite t n f =>
      let low := min e f
      let a : Int := (m * twoTo (e - low).toNat : Nat)
      let b : Int := (n * twoTo (f - low).toNat : Nat)
      let sum := (if s then -a else a) + (if t then -b else b)
      if sum = 0 then zero (s && t)
      else ofRatio (sum < 0) (sum.natAbs * twoTo low.toNat) (twoTo (-low).toNat)
  | .infinite s, .infinite t => if s = t then .infinite s else .undefined
  | .infinite s, .finite .. => .infinite s
  | .finite .., .infinite t => .infinite t
  | .undefined, _ => .undefined
  | _, .undefined => .undefined

end Binary64

end CatalogSearch
