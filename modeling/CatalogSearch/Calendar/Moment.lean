import CatalogSearch.Calendar.Date
namespace CatalogSearch.Calendar

/-- A time of a day, with its distance from the zero meridian in microseconds where that is known, and whether clocks
show it again after they were set back. -/
structure Moment where
  date : Date
  hour : Nat
  minute : Nat
  second : Nat
  micro : Nat
  offset : Option Int
  again : Bool
  deriving DecidableEq

def Date.midnight (d : Date) : Moment := ⟨d, 0, 0, 0, 0, none, false⟩

def Moment.isValid (t : Moment) : Bool :=
  t.date.isValid && t.hour < 24 && t.minute < 60 && t.second < 60 && t.micro < 1000000

def Moment.wall (t : Moment) : Int :=
  ((((t.date.ordinal : Int) * 24 + t.hour) * 60 + t.minute) * 60 + t.second) * 1000000 + t.micro

def Moment.same (t u : Moment) : Bool :=
  match t.offset, u.offset with
  | some a, some b => t.wall - a == u.wall - b
  | none, none => { t with again := u.again } == u
  | _, _ => false

end CatalogSearch.Calendar
