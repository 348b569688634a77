import CatalogSearch.Calendar.Moment
namespace CatalogSearch.Calendar

/-- A zone by the distance of its clocks from the zero meridian in seconds, less than a day at any time on them. -/
structure Zone where
  seconds : Moment → Int
  within : ∀ t, (seconds t).natAbs < 86400

namespace Zone

def utc : Zone := ⟨fun _ => 0, fun _ => by decide⟩

def offsetAt (z : Zone) (t : Moment) : Int := z.seconds t * 1000000

end Zone

/-- The time zones of the world by their names, as the system knows them. -/
class Zones where
  find? : String → Option Zone

end CatalogSearch.Calendar
