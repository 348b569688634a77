import CatalogSearch.Catalog.Cell
namespace CatalogSearch.Catalog

inductive Kind where
  | number
  | text
  | flag
  | amount
  deriving DecidableEq

structure Column where
  name : String
  kind : Kind
  default : Value := .null

namespace Column

def amount (v : Value) : Outcome Binary64 :=
  match v with
  | .text s => match Number.readReal? s.toList with
    | some x => pure x
    | none => throw .badValue
  | v => v.toReal

def read (c : Column) (v : Value) : Outcome Value :=
  match c.kind, v with
  | _, .null => pure .null
  | .flag, v =>
      if v.same (.bool true) then pure (.bool true)
      else if v.same (.bool false) then pure (.bool false)
      else throw .unfit
  | .amount, v => match amount v with
    | .ok x => pure (.real x)
    | .error _ => throw .unfit
  | _, v => pure v

def hold (c : Column) (v : Value) : Outcome Value := do
  checkPlain v
  match c.kind, v with
  | .number, v => pure (asNumber v)
  | .text, v => pure (asText v)
  | .amount, .real .undefined => pure .null
  | .amount, .real x => pure (.real (if x.isZero then .zero false else x))
  | _, v => pure v

end Column

namespace Table

def columns : Table → List Column
  | .stores => [
      ⟨"id", .number, .null⟩, ⟨"code", .text, .null⟩, ⟨"name", .text, .null⟩, ⟨"website_id", .number, .int 1⟩,
      ⟨"locale_code", .text, .text "en_US"⟩, ⟨"timezone", .text, .text "UTC"⟩, ⟨"is_active", .flag, .bool true⟩]
  | .attributes => [
      ⟨"id", .number, .null⟩, ⟨"code", .text, .null⟩, ⟨"label", .text, .null⟩,
      ⟨"backend_type", .text, .text "varchar"⟩, ⟨"frontend_input", .text, .text "text"⟩,
      ⟨"uses_source", .flag, .bool false⟩, ⟨"is_searchable", .flag, .bool false⟩,
      ⟨"used_for_sort_by", .flag, .bool false⟩]
  | .options => [
      ⟨"id", .number, .null⟩, ⟨"attribute_id", .number, .null⟩, ⟨"store_id", .number, .null⟩,
      ⟨"value", .text, .null⟩, ⟨"label", .text, .null⟩]
  | .products => [
      ⟨"id", .number, .null⟩, ⟨"sku", .text, .null⟩, ⟨"visibility", .number, .int 4⟩,
      ⟨"in_stock", .flag, .bool true⟩, ⟨"is_active", .flag, .bool true⟩]
  | .values => [
      ⟨"id", .number, .null⟩, ⟨"product_id", .number, .null⟩, ⟨"attribute_id", .number, .null⟩,
      ⟨"store_id", .number, .null⟩, ⟨"value", .text, .null⟩]
  | .categories => [
      ⟨"id", .number, .null⟩, ⟨"product_id", .number, .null⟩, ⟨"category_id", .number, .null⟩,
      ⟨"position", .number, .int 0⟩, ⟨"is_direct", .flag, .bool true⟩]
  | .prices => [
      ⟨"id", .number, .null⟩, ⟨"product_id", .number, .null⟩, ⟨"customer_group_id", .number, .int 0⟩,
      ⟨"website_id", .number, .int 1⟩, ⟨"price", .amount, .null⟩]

def hasColumn (table : Table) (name : Value) : Bool := table.columns.any fun c => name.same (.text c.name)

def hold (table : Table) (value : Column → Value) : Outcome Entries := do
  let read ← table.columns.mapM fun c => do pure (c, ← c.read (value c))
  read.mapM fun (c, v) => do pure (.text c.name, ← c.hold v)

def newCells (table : Table) (told : Entries) : Outcome Entries := do
  if told.all fun e => table.hasColumn e.1 then
    table.hold fun c => (told.field c.name).orNull c.default
  else throw .wrongKind

/-- The cells of a row after changes to it, where null stays null. What is no column is overlooked. -/
def changedCells (table : Table) (cells changes : Entries) : Outcome Entries :=
  table.hold fun c => (changes.field? c.name).getD (cells.field c.name)

end Table

end CatalogSearch.Catalog
