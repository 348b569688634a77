import CatalogSearch.Catalog.Cell
import CatalogSearch.Attribute
namespace CatalogSearch.Catalog

namespace Tables

def isFor (storeId : Option Int) (store : Value) : Bool :=
  match storeId with
  | none => false
  | some id => (Value.int id).same store

/-- The labels of an attribute: those for all stores, and over them those for this store. -/
def optionsOf (t : Tables) (attributeId : Int) (store : Value) : Entries :=
  let rows := t.options.filter (·.attributeId == attributeId)
  let add (es : Entries) (o : OptionRow) : Entries := es.set o.value (.text o.label)
  let shared := (rows.filter (·.storeId.isNone)).foldl add []
  (rows.filter fun o => isFor o.storeId store).foldl add shared

def attributeOf (t : Tables) (store : Value) (row : AttributeRow) : Attribute :=
  .build row.code (some row.backendType) (some row.inputType) (isSet row.usesSource)
    (if isSet row.usesSource then t.optionsOf row.id store else [])

def listing (t : Tables) (store : Value) (rows : List AttributeRow) : Listing :=
  rows.map fun row => (row.code, .known (t.attributeOf store row))

def searchables (t : Tables) (store : Value) : Listing :=
  t.listing store (t.attributes.filter fun a => isSet a.isSearchable)

def sortables (t : Tables) (store : Value) : Listing :=
  t.listing store (t.attributes.filter fun a => isSet a.isSortable)

def storeOf (row : StoreRow) : Store := ⟨row.id, row.website, some row.locale, some row.timezone⟩

def store? (t : Tables) (key : Value) : Option Store := (t.stores.find? fun s => refersTo key s.id).map storeOf

def visibleValues (t : Tables) (store : Value) (ids : List Value) : List ValueRow :=
  let rows := t.values.filter fun v => ids.any fun id => refersTo id v.productId
  rows.filter (·.storeId.isNone) ++ rows.filter fun v => v.storeId.any (refersTo store)

def codeOf? (t : Tables) (v : ValueRow) : Option String :=
  (t.attributes.find? (·.id == v.attributeId)).map AttributeRow.code

def storedValue (v : ValueRow) : Value := (v.value.map Value.text).getD .null

/-- Adds a stored value to the row of its product. The first value of the store itself takes the place
of the values for all stores. -/
def addValue (code : String) (isFirstOfStore : Bool) (v : ValueRow) (row : Entries) : Entries :=
  let before := if isFirstOfStore then [] else (row.field code).sequence?.getD []
  row.set code (.list (before ++ [storedValue v]))

def loadValue (state : Keyed Entries × List (Int × String)) (entry : ValueRow × String) :
    Outcome (Keyed Entries × List (Int × String)) := do
  let (rows, owned) := state
  let (v, code) := entry
  match rows.find? (.int v.productId) with
  | none => throw .missingKey
  | some row =>
      let first := v.storeId.isSome && !owned.contains (v.productId, code)
      pure (rows.insert (.int v.productId) (addValue code first v row),
        if first then (v.productId, code) :: owned else owned)

def coded (t : Tables) (values : List ValueRow) : List (ValueRow × String) :=
  values.filterMap fun v => (t.codeOf? v).map (v, ·)

def blankRows (ids : List Value) : Keyed Entries := ids.foldl (fun rows id => rows.insert id []) []

def loadRows (t : Tables) (store : Value) (ids : List Value) : Outcome (Keyed Entries) := do
  pure (← (t.coded (t.visibleValues store ids)).foldlM loadValue (blankRows ids, [])).1

def touch (rows : Value) (id : Int) (change : Value → Outcome Value) : Outcome Value := do
  let es ← rows.entries
  pure (.map (Keyed.insert es (.int id) (← change ((Keyed.find? es (.int id)).getD (.map [])))))

def addProduct (rows : Value) (p : ProductRow) : Outcome Value :=
  touch rows p.id fun row => do
    let row ← row.withField "in_stock" (.int (if isSet p.inStock then 1 else 0))
    row.withField "visibility" p.visibility

def addCategory (rows : Value) (c : CategoryRow) : Outcome Value :=
  touch rows c.productId fun row => do
    let field := if isSet c.isDirect then "categories" else "show_in_categories"
    let row ← row.withField field (← (← row.get field (.list [])).append (.int c.categoryId))
    row.withField s!"position_category_{c.categoryId}" (c.position.orElse (.int 0))

def addPrice (rows : Value) (p : PriceRow) : Outcome Value :=
  touch rows p.productId fun row => row.withField s!"price_{p.customerGroup}_{p.website}" (.real p.price)

def isAsked (ids : List Value) (id : Int) : Bool := ids.any fun v => refersTo v id

def addStock (t : Tables) (ids : List Value) (rows : Value) : Outcome Value := do
  let rows ← (t.products.filter fun p => isAsked ids p.id).foldlM addProduct rows
  (t.categories.filter fun c => isAsked ids c.productId).foldlM addCategory rows

def addPrices (t : Tables) (website : Int) (ids : List Value) (rows : Value) : Outcome Value :=
  (t.prices.filter fun p => isAsked ids p.productId && p.website == website).foldlM addPrice rows

end Tables

end CatalogSearch.Catalog

namespace CatalogSearch

/-- Where attributes and stores are looked up: in memory, or in tables, if there are any. One statement on tables
may take no more than so many values. -/
inductive Catalog where
  | held (searchables sortables : Listing) (stores : List Store)
  | stored (tables : Option Catalog.Tables) (limit : Option Nat := none)

namespace Catalog

def tables? (t : Option Tables) : Outcome Tables :=
  match t with
  | some t => pure t
  | none => throw .noSuchTable

def searchables (c : Catalog) (store : Value) : Outcome Listing :=
  match c with
  | held found _ _ => pure found
  | stored t _ => do pure ((← tables? t).searchables store)

def sortables (c : Catalog) (store : Value) : Outcome Listing :=
  match c with
  | held _ found _ => pure found
  | stored t _ => do pure ((← tables? t).sortables store)

def unknownStore (id : Value) : Outcome Store := do
  pure { id := ← (id.orElse (.int 0)).toInt }

def store (c : Catalog) (id : Value) : Outcome Store :=
  match c with
  | held _ _ stores => do
      let key ← id.toKey
      match stores.reverse.find? fun s => (Value.int s.id).same key with
      | some s => pure s
      | none => unknownStore id
  | stored t _ => do
      if !id.truthy then unknownStore id
      else
        let key ← asked id
        let t ← tables? t
        checkPlain key
        match t.store? key with
        | some s => pure s
        | none => unknownStore id

/-- An attribute by its code; among those in memory one to search by comes before one to sort by. -/
def attribute? (c : Catalog) (code store : Value) : Outcome (Option Listed) :=
  match c with
  | held searchables sortables _ => do
      let code ← code.toKey
      match searchables.find? code with
      | some (.known a) => pure (some (.known a))
      | some (.bare v) => pure (if v.truthy then some (.bare v) else sortables.find? code)
      | none => pure (sortables.find? code)
  | stored t _ => do
      let t ← tables? t
      checkPlain code
      pure ((t.attributes.find? fun a => (asText code).same (.text a.code)).map fun a =>
        .known (t.attributeOf store a))

/-- A truth value is part of the text of a statement. -/
def toldOf (store : Value) : List Value :=
  match store with
  | .bool _ => []
  | store => [store]

def loadRows (c : Catalog) (store ids : Value) : Outcome (Keyed Entries) := do
  let ids ← (← ids.items).mapM Value.toKey
  match c, ids with
  | held .., _ => throw .noSuchMember
  | stored .., [] => pure []
  | stored t limit, ids => do
      let t ← tables? t
      hand limit (Keyed.keys (Tables.blankRows ids) ++ toldOf store)
      t.loadRows store ids

def stores (c : Catalog) : Outcome (List Store) :=
  match c with
  | held .. => throw .noSuchMember
  | stored t _ => do (← tables? t).activeStores.mapM fun s => c.store (.int s.id)

def addShopFields (c : Catalog) (store : Value) (ids : List Value) (rows : Value) : Outcome Value :=
  match c with
  | held .. => pure rows
  | stored t limit => do
      if ids.isEmpty then pure rows
      else
        let s ← c.store store
        let t ← tables? t
        hand limit ids
        let rows ← t.addStock ids rows
        hand limit ids 1
        t.addPrices s.website ids rows

end Catalog

end CatalogSearch
