import CatalogSearch.Service.Search
import CatalogSearch.Text.Word
import CatalogSearch.Web.QueryString
namespace CatalogSearch.Web

namespace Arguments

def first? (args : Arguments) (name : String) : Option String := args.lookup name

def all (args : Arguments) (name : String) : List String := (args.filter (·.1 = name)).map Prod.snd

def names (args : Arguments) : List String :=
  args.foldl (fun seen a => if a.1 ∈ seen then seen else seen ++ [a.1]) []

def valueOf (args : Arguments) (name : String) : Value := ((args.first? name).map Value.text).getD .null

def isGiven (args : Arguments) (name : String) : Bool := (args.valueOf name).truthy

def toValue (args : Arguments) : Value := .ofFields (args.names.map fun name => (name, args.valueOf name))

end Arguments

structure FilterName where
  field : String
  bound : Option String
  deriving DecidableEq

namespace FilterName

/-- What may stand behind a field; a line break at the end of the name is overlooked. -/
def bounds : List (String × Option String) := [
  ("", none), ("\n", none), ("[from]", some "from"), ("[from]\n", some "from"), ("[to]", some "to"),
  ("[to]\n", some "to")]

/-- A name such as `filters[color]` or `filters[price][from]`. -/
def read? (name : List Char) : Option FilterName := do
  let opening := "filters[".toList
  guard (opening.isPrefixOf name)
  let (field, rest) := (name.drop opening.length).span Text.isWord
  guard (!field.isEmpty && rest.head? == some ']')
  let bound ← bounds.lookup (String.ofList rest.tail)
  pure ⟨String.ofList field, bound⟩

end FilterName

namespace Arguments

/-- One end of a range goes into the range of its field; a field that has a plain filter has none. -/
def addBound (filters : Entries) (field bound : String) (v : Value) : Outcome Entries :=
  match filters.field field (.map []) with
  | .map range => pure (filters.set field (.map (Entries.set range bound v)))
  | _ => throw .wrongKind

def addFilter (args : Arguments) (filters : Entries) (name : String) : Outcome Entries :=
  match FilterName.read? name.toList, ((args.all name).filter (· ≠ "")).map Value.text with
  | none, _ | _, [] => pure filters
  | some ⟨field, some bound⟩, v :: _ => addBound filters field bound v
  | some ⟨field, none⟩, [v] => pure (filters.set field v)
  | some ⟨field, none⟩, vs => pure (filters.set field (.list vs))

def filters (args : Arguments) : Outcome Entries := args.names.foldlM (addFilter args) []

def facets (args : Arguments) : Entries :=
  ((args.all "facet").filter (· ≠ "")).foldl (fun es field => es.set field (.list [])) []

def integerOr (default : Value) (v : Value) : Value := (v.integerOf?.map Value.int).getD default

def limit (args : Arguments) : List (String × Value) :=
  if args.isGiven "limit" then [("limit", integerOr .null (args.valueOf "limit"))] else []

def order (args : Arguments) : List (String × Value) :=
  match args.first? "order" with
  | none | some "" => []
  | some field => [("sort_by", .list [.ofFields [(field, .text ((args.first? "dir").getD "asc"))]])]

def stats (args : Arguments) : List (String × Value) :=
  match args.all "stats" with
  | [] => []
  | fields => [("stats", .list (fields.map .text))]

def params (args : Arguments) : Outcome Value := do
  let told := [
    ("offset", integerOr (.int 0) (args.valueOf "offset")),
    ("store_id", integerOr .null (args.valueOf "store_id")),
    ("filters", .map (← args.filters)),
    ("facets", .map args.facets)]
  pure (.ofFields (told ++ args.limit ++ args.order ++ args.stats))

end Arguments

def contextOf (settings : Settings) (catalog : Catalog) (told : Value) : Outcome Context := do
  let store := ((← told.get "store_id").integerOf?).getD (Service.defaultStoreId settings)
  let context := Context.ofStore (← catalog.store (.int store))
  pure { context with
    customerGroup := ((← told.get "customer_group_id").integerOf?).getD 0
    category := (← told.get "category_id").integerOf?
    showOutOfStock := (settings .showOutOfStock).isOn }

end CatalogSearch.Web
