import CatalogSearch.Value.Basic
namespace CatalogSearch.Catalog

structure StoreRow where
  id : Int
  code : String
  name : String
  website : Int
  locale : String
  timezone : String
  isActive : Option Bool

structure AttributeRow where
  id : Int
  code : String
  label : Option String
  backendType : String
  inputType : String
  usesSource : Option Bool
  isSearchable : Option Bool
  isSortable : Option Bool

structure OptionRow where
  id : Int
  attributeId : Int
  storeId : Option Int
  value : String
  label : String

structure ProductRow where
  id : Int
  sku : String
  visibility : Value
  inStock : Option Bool
  isActive : Option Bool

structure ValueRow where
  id : Int
  productId : Int
  attributeId : Int
  storeId : Option Int
  value : Option String

structure CategoryRow where
  id : Int
  productId : Int
  categoryId : Int
  position : Value
  isDirect : Option Bool

structure PriceRow where
  id : Int
  productId : Int
  customerGroup : Int
  website : Int
  price : Binary64

/-- The tables of the catalog, as they are read where no order is asked for: categories and prices in an order of
the database's own, the others in that of their identities. (An index puts options in another one, which does not
show: of options for one value it keeps the order.) -/
structure Tables where
  stores : List StoreRow := []
  attributes : List AttributeRow := []
  options : List OptionRow := []
  products : List ProductRow := []
  values : List ValueRow := []
  categories : List CategoryRow := []
  prices : List PriceRow := []

/-- Integers of the tables have 64 bits. -/
def fits (n : Int) : Bool := -twoTo 63 ≤ n && n < twoTo 63

inductive Table where
  | stores | attributes | options | products | values | categories | prices
  deriving DecidableEq

namespace Tables

/-- A flag that is not set is as good as one that is off. -/
def isSet (flag : Option Bool) : Bool := flag == some true

def activeStores (t : Tables) : List StoreRow := t.stores.filter fun s => isSet s.isActive

def activeProducts (t : Tables) : List ProductRow := t.products.filter fun p => isSet p.isActive

end Tables

end CatalogSearch.Catalog
