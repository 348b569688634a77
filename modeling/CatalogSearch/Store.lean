import CatalogSearch.Value.Reading
import CatalogSearch.Calendar.Iso
import CatalogSearch.Calendar.Zone
namespace CatalogSearch

/-- A view of the shop with a language and a clock of its own. -/
structure Store where
  id : Int
  website : Int := 0
  locale : Option String := some "en_US"
  timezone : Option String := some "UTC"

namespace Store

def language? (s : Store) : Option (List Char) := Locale.language? (s.locale.getD "").toList

/-- No name, one that is not known and `UTC` in any spelling stand for the zero meridian. -/
def zone [Calendar.Zones] (s : Store) : Calendar.Zone :=
  let name := s.timezone.getD ""
  if name.isEmpty || name.toList.map Char.toUpper == ['U', 'T', 'C'] then .utc
  else (Calendar.Zones.find? name).getD .utc

def emptyDates : List String := ["", "0000-00-00", "0000-00-00 00:00:00"]

/-- A time without an offset is a time on the store's clock. -/
def place [Calendar.Zones] (s : Store) (t : Calendar.Moment) : Calendar.Moment :=
  { t with offset := some (t.offset.getD (s.zone.offsetAt t)) }

def writeMoment [Calendar.Zones] (s : Store) (t : Calendar.Moment) : Value :=
  .ofChars (Calendar.Iso.write 'T' (s.place t))

def date [Calendar.Zones] (s : Store) : Value → Value
  | .null => .null
  | .moment t => s.writeMoment t
  | .date d => s.writeMoment d.midnight
  | v =>
      let text := Text.trim v.chars
      if String.ofList text ∈ emptyDates then .null
      else match Calendar.Iso.read? text with
        | some t => s.writeMoment t
        | none => v

end Store

/-- Who searches, and where: the store, the customer's group and the category. -/
structure Context where
  store : Int := 0
  website : Int := 0
  customerGroup : Int := 0
  locale : Option String := none
  category : Option Int := none
  showOutOfStock : Bool := false
  searchVisibility : List Int := [3, 4]
  catalogVisibility : List Int := [2, 4]

namespace Context

def ofStore (s : Store) : Context := { store := s.id, website := s.website, locale := s.locale }

def language? (c : Context) : Option (List Char) := Locale.language? (c.locale.getD "").toList

/-- A query that asks for something sees what may be found by search, any other what may be browsed. -/
def visibility (c : Context) (query : Value) : List Int :=
  let asks := match query with
    | .text s => !(Text.trim s.toList).isEmpty
    | v => v.truthy
  if asks then c.searchVisibility else c.catalogVisibility

end Context

end CatalogSearch
