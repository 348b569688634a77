import CatalogSearch.Calendar.Moment
import CatalogSearch.Number.Binary64
/-!
The ISO 8601 notation of days and moments: `2024-01-05`, `20240105`, `2024-W01-5`, followed by any
single character and a time such as `10:00:00.5+01:00`. A reader and a writer.
-/
namespace CatalogSearch.Calendar.Iso

def digit? (c : Char) : Option Nat := if '0' ≤ c ∧ c ≤ '9' then some (c.toNat - 48) else none

def digits? : Nat → Nat → List Char → Option (Nat × List Char)
  | 0, value, cs => some (value, cs)
  | _ + 1, _, [] => none
  | n + 1, value, c :: cs => do digits? n (10 * value + (← digit? c)) cs

def stop : Char := '\x00'

def charAt (cs : List Char) (i : Nat) : Char := cs.getD i stop

def isDigitAt (cs : List Char) (i : Nat) : Bool := (digit? (charAt cs i)).isSome

/-- How many characters belong to the day. Where a week could be followed by a day of the week or by
a time, an hour after a hyphen is preferred, and times are taken to come in pairs of digits. -/
def dayLength (cs : List Char) : Nat :=
  if cs.length = 7 then 7
  else if charAt cs 4 = '-' then
    if charAt cs 5 = 'W' then
      if charAt cs 8 = '-' then (if isDigitAt cs 10 then 8 else 10) else 8
    else 10
  else if charAt cs 4 = 'W' then
    let run := 7 + ((cs.drop 7).takeWhile fun c => (digit? c).isSome).length
    if run < 9 then run else if run % 2 = 0 then 7 else 8
  else 8

def readWeekDay? (extended : Bool) (cs : List Char) : Option Nat :=
  match extended, cs with
  | _, [] => some 1
  | true, '-' :: cs => (digits? 1 0 cs).map Prod.fst
  | true, _ => none
  | false, cs => (digits? 1 0 cs).map Prod.fst

def readDay? (cs : List Char) : Option Date := do
  let (year, cs) ← digits? 4 0 cs
  let extended := cs.head? == some '-'
  let cs := if extended then cs.tail else cs
  match cs with
  | 'W' :: cs => do
      let (week, cs) ← digits? 2 0 cs
      ofWeek? year week (← readWeekDay? extended cs)
  | cs => do
      let (month, cs) ← digits? 2 0 cs
      guard (!extended || cs.head? == some '-')
      let (day, cs) ← digits? 2 0 (if extended then cs.tail else cs)
      guard cs.isEmpty
      let date : Date := ⟨year, month, day⟩
      guard date.isValid
      pure date

structure Clock where
  fields : List Nat
  micro : Nat
  ended : Bool

def readFraction? (next : Char) (cs : List Char) : Option Clock := do
  let width := min 6 cs.length
  let (value, rest) ← digits? width 0 cs
  let rest := rest.dropWhile fun c => (digit? c).isSome
  pure ⟨[], value * tenTo (6 - width), rest.headD next == stop⟩

/-- Reads `fields` pairs of digits and a fraction. `next` is the character behind the text, and
`colons` tells whether the fields are separated, once that is known. What is in the one place behind
a field is not looked at when it is the last. -/
def readClock? (next : Char) (colons : Option Bool) : Nat → List Char → Option Clock
  | 0, cs => readFraction? next cs
  | fields + 1, cs => do
      let (value, rest) ← digits? 2 0 cs
      let c := rest.headD next
      let separated := colons.getD (c == ':')
      let clock ←
        if rest.length ≤ 1 then some ⟨[], 0, c == stop⟩
        else if separated && c == ':' then readClock? next (some separated) fields rest.tail
        else if c == '.' || c == ',' then readFraction? next rest.tail
        else if separated then none
        else readClock? next (some separated) fields rest
      pure { clock with fields := value :: clock.fields }

def Clock.seconds (c : Clock) : Nat := c.fields.getD 0 0 * 3600 + c.fields.getD 1 0 * 60 + c.fields.getD 2 0

/-- An offset of no whole seconds is none at all, and one of a day or more is refused. -/
def readOffset? (sign : Int) (cs : List Char) : Option Int := do
  let clock ← readClock? stop none 3 cs
  guard clock.ended
  if clock.seconds = 0 then pure 0
  else do
    let total : Int := clock.seconds * 1000000 + clock.micro
    guard (total < 86400000000)
    pure (sign * total)

def isOffsetMark (c : Char) : Bool := c == '+' || c == '-' || c == 'Z'

def readTime? (cs : List Char) : Option (Clock × Option Int) := do
  let (body, rest) := cs.span fun c => !isOffsetMark c
  let clock ← readClock? (rest.headD stop) none 3 body
  match rest with
  | [] => do guard clock.ended; pure (clock, none)
  | 'Z' :: after => do guard (after.headD stop == stop); pure (clock, some 0)
  | mark :: after => pure (clock, some (← readOffset? (if mark = '-' then -1 else 1) after))

def places (cs : List Char) : List Char := cs.flatMap fun c => List.replicate c.utf8Size c

def read? (cs : List Char) : Option Moment := do
  let date ← readDay? (cs.take (dayLength cs))
  match cs.drop (dayLength cs) with
  | [] => pure date.midnight
  | _ :: time => do
      let (clock, offset) ← readTime? (places time)
      let moment : Moment :=
        ⟨date, clock.fields.getD 0 0, clock.fields.getD 1 0, clock.fields.getD 2 0, clock.micro, offset, false⟩
      guard moment.isValid
      pure moment

def padded (width n : Nat) : List Char :=
  let ds := Nat.toDigits 10 n
  List.replicate (width - ds.length) '0' ++ ds

def writeDay (d : Date) : List Char := padded 4 d.year ++ '-' :: padded 2 d.month ++ '-' :: padded 2 d.day

def writeMicro (micro : Nat) : List Char := if micro = 0 then [] else '.' :: padded 6 micro

def writeOffset (offset : Int) : List Char :=
  let n := offset.natAbs
  let seconds := n / 1000000
  let rest := if n % 60000000 = 0 then [] else ':' :: padded 2 (seconds % 60) ++ writeMicro (n % 1000000)
  (if offset < 0 then '-' else '+') :: padded 2 (seconds / 3600) ++ ':' :: padded 2 (seconds / 60 % 60) ++ rest

def writeTime (t : Moment) : List Char :=
  padded 2 t.hour ++ ':' :: padded 2 t.minute ++ ':' :: padded 2 t.second ++ writeMicro t.micro ++
    (t.offset.map writeOffset).getD []

def write (mark : Char) (t : Moment) : List Char := writeDay t.date ++ mark :: writeTime t

end CatalogSearch.Calendar.Iso
