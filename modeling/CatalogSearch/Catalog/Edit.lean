import CatalogSearch.Catalog.Column
import CatalogSearch.Settings
namespace CatalogSearch.Catalog

abbrev Cells := Entries

namespace Cells

def given : Option α → Outcome α
  | some x => pure x
  | none => throw .constraintViolated

def integer? (c : Cells) (name : String) : Outcome (Option Int) :=
  match Entries.field c name with
  | .null => pure none
  | .int n => pure (some n)
  | _ => throw .constraintViolated

def integer (c : Cells) (name : String) : Outcome Int := do given (← c.integer? name)

def number (c : Cells) (name : String) : Outcome Value :=
  match Entries.field c name with
  | .null => throw .constraintViolated
  | v => pure v

def text? (c : Cells) (name : String) : Option String :=
  match Entries.field c name with
  | .text s => some s
  | _ => none

def text (c : Cells) (name : String) : Outcome String := given (c.text? name)

def flag? (c : Cells) (name : String) : Option Bool :=
  match Entries.field c name with
  | .bool b => some b
  | _ => none

def amount (c : Cells) (name : String) : Outcome Binary64 :=
  match Entries.field c name with
  | .real x => pure x
  | _ => throw .constraintViolated

end Cells

namespace Tables

variable {α : Type}

/-- A row in its place among the rows, unless its identity is taken or it may not stand beside one of them. -/
def place (id : α → Int) (clashes : α → α → Bool) (row : α) (rows : List α)
    (before : α → α → Bool := fun a b => id a < id b) : Outcome (List α) :=
  if rows.any fun r => id r == id row || clashes r row then throw .constraintViolated
  else pure (rows.filter (before · row) ++ row :: rows.filter (before row ·))

def ids (t : Tables) : Table → List Int
  | .stores => t.stores.map StoreRow.id
  | .attributes => t.attributes.map AttributeRow.id
  | .options => t.options.map OptionRow.id
  | .products => t.products.map ProductRow.id
  | .values => t.values.map ValueRow.id
  | .categories => t.categories.map CategoryRow.id
  | .prices => t.prices.map PriceRow.id

def nextId : List Int → Int
  | [] => 1
  | id :: ids => ids.foldl max id + 1

def storeRow (c : Cells) : Outcome StoreRow := do
  pure ⟨← c.integer "id", ← c.text "code", ← c.text "name", ← c.integer "website_id", ← c.text "locale_code",
    ← c.text "timezone", c.flag? "is_active"⟩

def attributeRow (c : Cells) : Outcome AttributeRow := do
  pure ⟨← c.integer "id", ← c.text "code", c.text? "label", ← c.text "backend_type", ← c.text "frontend_input",
    c.flag? "uses_source", c.flag? "is_searchable", c.flag? "used_for_sort_by"⟩

def optionRow (c : Cells) : Outcome OptionRow := do
  pure ⟨← c.integer "id", ← c.integer "attribute_id", ← c.integer? "store_id", ← c.text "value", ← c.text "label"⟩

def productRow (c : Cells) : Outcome ProductRow := do
  pure ⟨← c.integer "id", ← c.text "sku", ← c.number "visibility", c.flag? "in_stock", c.flag? "is_active"⟩

def valueRow (c : Cells) : Outcome ValueRow := do
  pure ⟨← c.integer "id", ← c.integer "product_id", ← c.integer "attribute_id", ← c.integer? "store_id",
    c.text? "value"⟩

def categoryRow (c : Cells) : Outcome CategoryRow := do
  pure ⟨← c.integer "id", ← c.integer "product_id", ← c.integer "category_id", Entries.field c "position",
    c.flag? "is_direct"⟩

def priceRow (c : Cells) : Outcome PriceRow := do
  pure ⟨← c.integer "id", ← c.integer "product_id", ← c.integer "customer_group_id", ← c.integer "website_id",
    ← c.amount "price"⟩

/-- Two options clash in the same store only; what is for all stores may be there more than once. -/
def optionsClash (a b : OptionRow) : Bool :=
  a.attributeId == b.attributeId && a.storeId.isSome && a.storeId == b.storeId && a.value == b.value

def categoriesClash (a b : CategoryRow) : Bool := a.productId == b.productId && a.categoryId == b.categoryId

def pricesClash (a b : PriceRow) : Bool :=
  a.productId == b.productId && a.customerGroup == b.customerGroup && a.website == b.website

def precedes : List Int → List Int → Bool
  | a :: as, b :: bs => a < b || (a == b && precedes as bs)
  | _, _ => false

/-- The rows of a product lie side by side, in the order of what they may not share. -/
def categoryBefore (a b : CategoryRow) : Bool := precedes [a.productId, a.categoryId] [b.productId, b.categoryId]

def priceBefore (a b : PriceRow) : Bool :=
  precedes [a.productId, a.customerGroup, a.website] [b.productId, b.customerGroup, b.website]

def put (t : Tables) (table : Table) (c : Cells) : Outcome Tables := do
  match table with
  | .stores =>
      let rows ← place StoreRow.id (fun a b => a.code == b.code) (← storeRow c) t.stores
      pure { t with stores := rows }
  | .attributes =>
      let rows ← place AttributeRow.id (fun a b => a.code == b.code) (← attributeRow c) t.attributes
      pure { t with attributes := rows }
  | .options =>
      let rows ← place OptionRow.id optionsClash (← optionRow c) t.options
      pure { t with options := rows }
  | .products =>
      let rows ← place ProductRow.id (fun a b => a.sku == b.sku) (← productRow c) t.products
      pure { t with products := rows }
  | .values =>
      let rows ← place ValueRow.id (fun _ _ => false) (← valueRow c) t.values
      pure { t with values := rows }
  | .categories =>
      let rows ← place CategoryRow.id categoriesClash (← categoryRow c) t.categories categoryBefore
      pure { t with categories := rows }
  | .prices =>
      let rows ← place PriceRow.id pricesClash (← priceRow c) t.prices priceBefore
      pure { t with prices := rows }

def insert (t : Tables) (table : Table) (fields : Entries) : Outcome Tables := do
  let id := (fields.field "id").orNull (.int (nextId (t.ids table)))
  t.put table (← table.newCells (fields.set "id" id))

def insertAll (t : Tables) (table : Table) (rows : List Entries) : Outcome Tables :=
  rows.foldlM (fun t fields => t.insert table fields) t

def flagValue (flag : Option Bool) : Value := (flag.map Value.bool).getD .null

def integerValue (n : Option Int) : Value := (n.map Value.int).getD .null

def textValue (s : Option String) : Value := (s.map Value.text).getD .null

def cells (fields : List (String × Value)) : Cells := fields.map fun f => (.text f.1, f.2)

def take? (t : Tables) (table : Table) (id : Int) : Option (Cells × Tables) :=
  match table with
  | .stores => (t.stores.find? (·.id == id)).map fun r =>
      (cells [("id", .int r.id), ("code", .text r.code), ("name", .text r.name), ("website_id", .int r.website),
        ("locale_code", .text r.locale), ("timezone", .text r.timezone), ("is_active", flagValue r.isActive)],
        { t with stores := t.stores.filter (·.id != id) })
  | .attributes => (t.attributes.find? (·.id == id)).map fun r =>
      (cells [("id", .int r.id), ("code", .text r.code), ("label", textValue r.label),
        ("backend_type", .text r.backendType), ("frontend_input", .text r.inputType),
        ("uses_source", flagValue r.usesSource), ("is_searchable", flagValue r.isSearchable),
        ("used_for_sort_by", flagValue r.isSortable)],
        { t with attributes := t.attributes.filter (·.id != id) })
  | .options => (t.options.find? (·.id == id)).map fun r =>
      (cells [("id", .int r.id), ("attribute_id", .int r.attributeId), ("store_id", integerValue r.storeId),
        ("value", .text r.value), ("label", .text r.label)],
        { t with options := t.options.filter (·.id != id) })
  | .products => (t.products.find? (·.id == id)).map fun r =>
      (cells [("id", .int r.id), ("sku", .text r.sku), ("visibility", r.visibility),
        ("in_stock", flagValue r.inStock), ("is_active", flagValue r.isActive)],
        { t with products := t.products.filter (·.id != id) })
  | .values => (t.values.find? (·.id == id)).map fun r =>
      (cells [("id", .int r.id), ("product_id", .int r.productId), ("attribute_id", .int r.attributeId),
        ("store_id", integerValue r.storeId), ("value", textValue r.value)],
        { t with values := t.values.filter (·.id != id) })
  | .categories => (t.categories.find? (·.id == id)).map fun r =>
      (cells [("id", .int r.id), ("product_id", .int r.productId), ("category_id", .int r.categoryId),
        ("position", r.position), ("is_direct", flagValue r.isDirect)],
        { t with categories := t.categories.filter (·.id != id) })
  | .prices => (t.prices.find? (·.id == id)).map fun r =>
      (cells [("id", .int r.id), ("product_id", .int r.productId), ("customer_group_id", .int r.customerGroup),
        ("website_id", .int r.website), ("price", .real r.price)],
        { t with prices := t.prices.filter (·.id != id) })

def find? (t : Tables) (table : Table) (v : Value) : Outcome (Option Int) := do
  let key ← asked v
  checkPlain key
  pure ((t.ids table).find? (refersTo key))

def update (t : Tables) (table : Table) (id : Value) (changes : Entries) : Outcome Tables := do
  match (← t.find? table id).bind (t.take? table) with
  | none => if changes.isEmpty then pure t else throw .noSuchMember
  | some (cells, rest) => rest.put table (← table.changedCells cells changes)

def withoutProduct (t : Tables) (id : Int) : Tables :=
  { t with
    values := t.values.filter (·.productId != id)
    categories := t.categories.filter (·.productId != id)
    prices := t.prices.filter (·.productId != id) }

/-- Deletes a row, which must be there, and with a product or an attribute all that belongs to it alone. -/
def delete (t : Tables) (table : Table) (id : Value) : Outcome Tables := do
  match (← t.find? table id).bind fun id => (t.take? table id).map (id, ·.2) with
  | none => throw .noSuchRow
  | some (id, rest) => match table with
    | .products => pure (rest.withoutProduct id)
    | .attributes => pure { rest with options := rest.options.filter (·.attributeId != id) }
    | _ => pure rest

def localeVariable : String := "STOREFRONT_DEFAULT_LOCALE"

def timezoneVariable : String := "STOREFRONT_DEFAULT_TIMEZONE"

def defaultStore (env : Environment) : StoreRow where
  id := 1
  code := "default"
  name := "Default Store View"
  website := 1
  locale := (env.lookup localeVariable).getD "en_US"
  timezone := (env.lookup timezoneVariable).getD "UTC"
  isActive := some true

def ready (env : Environment) (t : Option Tables) : Tables :=
  let t := t.getD {}
  if t.stores.isEmpty then { t with stores := [defaultStore env] } else t

end Tables

end CatalogSearch.Catalog
