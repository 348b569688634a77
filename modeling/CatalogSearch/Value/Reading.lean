import CatalogSearch.Text.Lower
import CatalogSearch.Text.Pieces
import CatalogSearch.Value.Access
namespace CatalogSearch

namespace Locale

open Text

/-- What stands before the first hyphen or underscore of a locale, in small letters. -/
def language? (locale : List Char) : Option (List Char) :=
  let language := lower (trim ((pieces '_' (replace '-' '_' locale)).headD []))
  if language = [] then none else some language

end Locale

namespace Value

def affirmations : List String := ["1", "true", "yes", "y", "on", "t", "x"]

def isOn : Value → Bool
  | .null => false
  | .bool b => b
  | v => String.ofList (Text.lower (Text.trim v.chars)) ∈ affirmations

def number? (v : Value) : Option Binary64 :=
  match v with
  | .null => none
  | v => Number.readReal? (Text.replace ',' '.' v.chars)

def integerOf? : Value → Option Int
  | .null => none
  | v => Number.readInt? (Text.trim v.chars)

/-- The first item of a list or tuple, null if there is none; any other value is its own first. -/
def first : Value → Value
  | .list xs | .tuple xs => xs.headD .null
  | v => v

def language? (locale : Value) : Option (List Char) :=
  if locale.truthy then Locale.language? locale.chars else none

end Value

end CatalogSearch
