import CatalogSearch.Catalog.Lookup
import CatalogSearch.Engine.Client
namespace CatalogSearch.Service

open Engine Action

variable {σ α : Type} [Engine σ]

def documentsFor [Calendar.Zones] (settings : Settings) (catalog : Catalog) (storeId : Value) (rows : Keyed Entries)
    (entityType : Value) : Outcome (List Document) := do
  let rows ← (← catalog.addShopFields storeId (Keyed.keys rows) (.map (rows.mapValues .map))).entries
  let store ← catalog.store storeId
  let searchables ← catalog.searchables (.int store.id)
  let sortables ← catalog.sortables (.int store.id)
  let rows ← enrichRows store searchables sortables rows
  documents settings entityType (rows.mapValues .map)

def send (documents : List Document) (entityType : Value) : Action σ Value := do
  let added ← if documents.isEmpty then pure (.int 0) else Client.addDocuments (.list (documents.map Document.toValue))
  let _ ← Client.refreshIndex entityType
  return added

def save [Calendar.Zones] (catalog : Catalog) (storeId : Value) (rows : Keyed Entries)
    (entityType : Value := defaultEntityType) : Action σ Value := do
  send (← ofOutcome (documentsFor (← read) catalog storeId rows entityType)) entityType

def rowsOf (indexes : Value) : Outcome (Keyed Entries) := do
  (← indexes.entries).mapM fun e => do pure (e.1, ← e.2.toEntries)

/-- Whether the engine answers. It is asked once; every failure counts as no. -/
def probe : Action σ Bool := do
  match (← get).available with
  | some available => return available
  | none =>
      let available ← match ← attempt Client.status with
        | .ok _ => pure true
        | .error failure => do
            if ((← read) .searchDebug).isOn then warn ("Elasticsearch engine is not available: " ++ failure.message)
            pure false
      modify fun l => { l with available := some available }
      return available

def isEnabled (settings : Settings) : Bool := (settings .enabled).truthy

def chunks (more : Nat) : List α → List (List α)
  | [] => []
  | x :: xs => (x :: xs.take more) :: chunks more (xs.drop more)
  termination_by xs => xs.length
  decreasing_by simp only [List.length_drop, List.length_cons]; omega

def batches (size : Int) (items : List α) : List (List α) :=
  if size = 0 then []
  else if size < 0 then chunks items.length items
  else chunks (size.toNat - 1) items

/-- The active products in batches, beginning with the first positive identity. No size is no limit, and
the tables take no size that they could not hold. -/
def productBatches (size : Value) (tables : Option Catalog.Tables) : Outcome (List (List Int)) := do
  let size ← (size.orNull (.int (-1))).toInt
  let t ← Catalog.tables? tables
  if Catalog.fits size then pure (batches size ((t.activeProducts.filter fun p => 0 < p.id).map (·.id)))
  else throw .outOfRange

def reindexBatch [Calendar.Zones] (catalog : Catalog) (store : Store) (batch : List Int) (processed : Value) :
    Action σ Value := do
  let rows ← ofOutcome (catalog.loadRows (.int store.id) (.list (batch.map .int)))
  let added ← save catalog (.int store.id) rows
  ofOutcome (processed.add added)

def reindexStore [Calendar.Zones] (catalog : Catalog) (batches : Outcome (List (List Int))) (store : Store)
    (processed : Value) : Action σ Value := do
  let _ ← Client.cleanIndex (.int store.id)
  (← ofOutcome batches).foldlM (fun processed batch => reindexBatch catalog store batch processed) processed

def reindex [Calendar.Zones] (tables : Option Catalog.Tables) (rebuild : Bool) (limit : Option Nat := none) :
    Action σ Value := do
  if rebuild then let _ ← Client.deleteIndex
  if !(← Client.ensureIndex) then return .int 0
  let size ← ofOutcome ((← setting .batchSize).toInt)
  let catalog := Catalog.stored tables limit
  let stores ← ofOutcome catalog.stores
  let batches := productBatches (.int size) tables
  stores.foldlM (fun processed store => reindexStore catalog batches store processed) (.int 0)

/-- Indexes the catalog if the engine holds fewer documents than there are products. -/
def reindexIfNeeded [Calendar.Zones] (tables : Option Catalog.Tables) (limit : Option Nat := none) :
    Action σ Unit := do
  let settings ← read
  if !isEnabled settings then return ()
  if !(← probe) then
    warn "Elasticsearch is not reachable; skipping catalog reindex."
    return ()
  let t ← ofOutcome (Catalog.tables? tables)
  let products := t.activeProducts.length
  if products = 0 then return ()
  let documents ← Client.countDocuments
  let force := (settings .forceReindex).truthy
  if !force && documents.any fun n => (products : Int) ≤ n then return ()
  let _ ← afresh (reindex tables force limit)

/-- While debugging, only the process that serves requests has this variable set to `true`. -/
def servingVariable : String := "WERKZEUG_RUN_MAIN"

def isScheduled (env : Environment) (settings : Settings) : Bool :=
  (settings .autoIndex).truthy && (!(settings .debug).truthy || env.lookup servingVariable == some "true")

def schedule [Calendar.Zones] (env : Environment) (tables : Option Catalog.Tables) (limit : Option Nat := none) :
    Action σ Unit := do
  if !isScheduled env (← read) then return ()
  record .workerStarted
  match ← attempt (afresh (reindexIfNeeded tables limit)) with
  | .ok _ => return ()
  | .error failure => record (.workerDied failure)

end CatalogSearch.Service
