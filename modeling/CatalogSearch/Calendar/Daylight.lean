import CatalogSearch.Calendar.Zone
/-!
Some zones by the rules that hold for their clocks at present, for use where there is no other table of zones.
-/
namespace CatalogSearch.Calendar

structure Change where
  month : Nat
  week : Option Nat
  hour : Nat

def Change.sunday (c : Change) (year : Nat) : Date :=
  let first : Date := ⟨year, c.month, 1⟩
  let day := 7 - first.weekday
  match c.week with
  | some n => ⟨year, c.month, day + 7 * (n - 1)⟩
  | none => ⟨year, c.month, day + 7 * ((daysIn year c.month - day) / 7)⟩

def Change.wall (c : Change) (year : Nat) : Int := ({ (c.sunday year).midnight with hour := c.hour } : Moment).wall

/-- The distance from the zero meridian in seconds, and the changes between which clocks run one hour
ahead. Both changes are by the clock that runs ahead. -/
structure Daylight where
  standard : Int
  summer : Option (Change × Change) := none
  within : standard.natAbs + 3600 < 86400 := by decide

namespace Daylight

/-- A time that the spring change skips or the autumn change repeats is by the clocks from before the change, or by
those from after it if it is there again. -/
def isAhead (d : Daylight) (t : Moment) : Bool :=
  match d.summer with
  | none => false
  | some (starts, ends) =>
      let hour := if t.again then 3600000000 else 0
      starts.wall t.date.year ≤ t.wall + hour && t.wall + hour < ends.wall t.date.year

def zone (d : Daylight) : Zone where
  seconds t := d.standard + if d.isAhead t then 3600 else 0
  within t := by
    have h := d.within
    split <;> omega

def europeanSummer : Change × Change := (⟨3, none, 3⟩, ⟨10, none, 3⟩)

def americanSummer : Change × Change := (⟨3, some 2, 3⟩, ⟨11, some 1, 2⟩)

def named : List (String × Daylight) := [
  ("Asia/Kolkata", { standard := 19800 }),
  ("Asia/Tokyo", { standard := 32400 }),
  ("Europe/Berlin", { standard := 3600, summer := some europeanSummer }),
  ("America/New_York", { standard := -18000, summer := some americanSummer })]

scoped instance : Zones := ⟨fun name => (named.lookup name).map zone⟩

end Daylight

end CatalogSearch.Calendar
