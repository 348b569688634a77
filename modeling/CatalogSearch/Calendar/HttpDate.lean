import CatalogSearch.Calendar.Iso
/-!
The notation of moments in HTTP headers, always on the zero meridian: `Fri, 05 Jan 2024 10:00:00 GMT`.
-/
namespace CatalogSearch.Calendar.HttpDate

def weekdays : List String := ["Mon", "Tue", "Wed", "Thu", "Fri", "Sat", "Sun"]

def months : List String := ["Jan", "Feb", "Mar", "Apr", "May", "Jun", "Jul", "Aug", "Sep", "Oct", "Nov", "Dec"]

def dayMicros : Int := 86400000000

def clockMicros (t : Moment) : Int := ((t.hour * 60 + t.minute) * 60 + t.second : Nat) * 1000000 + t.micro

/-- The same moment on the zero meridian, if its day is still in the calendar. A moment without an
offset is taken to be there already. -/
def toMeridian? (t : Moment) : Option Moment := do
  let micros := clockMicros t - t.offset.getD 0
  let days := micros.fdiv dayMicros
  let rest := (micros - days * dayMicros).toNat
  let seconds := rest / 1000000
  let yearDay : Int := daysBefore t.date.year t.date.month + t.date.day - 1
  let date := nearYear t.date.year (yearDay + days)
  guard date.isValid
  pure ⟨date, seconds / 3600, seconds / 60 % 60, seconds % 60, rest % 1000000, some 0, false⟩

def write? (t : Moment) : Option (List Char) := do
  let t ← toMeridian? t
  let date := (weekdays.getD t.date.weekday "").toList ++ ',' :: ' ' :: Iso.padded 2 t.date.day ++ ' ' ::
    (months.getD (t.date.month - 1) "").toList ++ ' ' :: Iso.padded 4 t.date.year
  let time := Iso.padded 2 t.hour ++ ':' :: Iso.padded 2 t.minute ++ ':' :: Iso.padded 2 t.second
  pure (date ++ ' ' :: time ++ " GMT".toList)

end CatalogSearch.Calendar.HttpDate
