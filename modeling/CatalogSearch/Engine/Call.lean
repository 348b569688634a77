import CatalogSearch.Engine.Body
import CatalogSearch.Document
namespace CatalogSearch.Engine

structure Address where
  url : Value
  timeout : Value
  verifyCerts : Bool
  credentials : Option (Value × Value)

/-- What the engine can be asked to do; it has to be connected to before anything else. -/
inductive Call where
  | connect (address : Address)
  | info
  | search (index : String) (body : Body)
  | count (index : String)
  | deleteByQuery (index : String) (query : Value)
  | indexExists (index : String)
  | createIndex (index : String) (mapping : IndexMapping)
  | refresh (index : String)
  | deleteIndices (pattern : String)
  | bulk (documents : List Value)

inductive Event where
  | called (call : Call)
  | workerStarted
  | workerDied (failure : Failure)

end CatalogSearch.Engine

namespace CatalogSearch

/-- Something that answers calls, and may change by them. -/
class Engine (σ : Type) where
  answer : Engine.Call → σ → Except Fault Value × σ

end CatalogSearch
