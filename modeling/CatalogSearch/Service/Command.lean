import CatalogSearch.Service.Indexing
namespace CatalogSearch.Service

open Engine Action

variable {σ : Type} [Engine σ]

structure Report where
  lines : List String
  exitCode : Nat

/-- The command does its own indexing, so a worker has to be asked for. -/
def commandEnvironment (env : Environment) : Environment :=
  match env.lookup Setting.autoIndex.key with
  | some _ => env
  | none => (Setting.autoIndex.key, "0") :: env

def rebuildOption : String := "--rebuild"

def reindexCommand [Calendar.Zones] (arguments : List String) (tables : Option Catalog.Tables)
    (limit : Option Nat := none) : Action σ Report := do
  let settings ← read
  if !isEnabled settings then return ⟨["Elasticsearch is disabled. Set ELASTICSEARCH_ENABLED=1."], 1⟩
  if !(← probe) then return ⟨["Elasticsearch is not reachable."], 1⟩
  let t ← ofOutcome (Catalog.tables? tables)
  let products := t.activeProducts.length
  if products = 0 then return ⟨["No products found to index."], 0⟩
  let rebuild := arguments.contains rebuildOption || (settings .forceReindex).truthy
  let processed ← afresh (reindex tables rebuild limit)
  return ⟨[s!"Indexing {products} products per store view...", s!"Done. Indexed {processed.display} documents."], 0⟩

end CatalogSearch.Service
