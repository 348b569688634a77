import CatalogSearch.Engine.Facet
import CatalogSearch.Value.Plain
namespace CatalogSearch.Engine

structure ResultSet where
  response : Value
  facets : Value

namespace ResultSet

def ofResponse (response facets : Value) : ResultSet := ⟨response.orElse (.map []), facets.orElse (.map [])⟩

def hasError (r : ResultSet) : Outcome Bool := do pure (← r.response.get "error").truthy

def hits (r : ResultSet) : Outcome (List Value) := do
  (← (← r.response.get "hits" (.map [])).get "hits" (.list [])).items

def totalHits (r : ResultSet) : Outcome Int := do
  let total ← (← r.response.get "hits" (.map [])).get "total" (.int 0)
  let total ← if total.isMap then total.get "value" (.int 0) else pure total
  (total.orElse (.int 0)).toInt

def count (r : ResultSet) : Outcome Nat := List.length <$> r.hits

def records (r : ResultSet) : Outcome (List Value) := do
  if ← r.hasError then pure []
  else (← r.hits).mapM fun hit => do pure (← hit.get "_source" (.map [])).plain

end ResultSet

end CatalogSearch.Engine
