import CatalogSearch.Engine.Call
import CatalogSearch.Engine.ResultSet
namespace CatalogSearch.Engine

variable {σ α : Type} [Engine σ]

/-- The engine, what has been said to it and about it, and whether it has been reached and found well. -/
structure Link (σ : Type) where
  engine : σ
  connected : Bool := false
  available : Option Bool := none
  events : List Event := []
  warnings : List String := []

/-- A computation that may use the engine and may fail; what it did before it failed stays done. -/
abbrev Action (σ α : Type) := ReaderT Settings (ExceptT Failure (StateM (Link σ))) α

namespace Action

def setting (s : Setting) : Action σ Value := do pure ((← read) s)

def record (e : Event) : Action σ Unit := modify fun l => { l with events := l.events ++ [e] }

def warn (text : String) : Action σ Unit := modify fun l => { l with warnings := l.warnings ++ [text] }

def ofOutcome (o : Outcome α) : Action σ α := liftM (m := Except Failure) o

def ask (call : Call) : Action σ (Except Fault Value) := do
  record (.called call)
  modifyGet fun l => let (a, engine) := Engine.answer call l.engine; (a, { l with engine })

def demand (call : Call) : Action σ Value := do
  match ← ask call with
  | .ok v => return v
  | .error fault => throw (.engine fault)

def attempt (a : Action σ α) : Action σ (Outcome α) := fun settings => do
  let l ← get
  let (outcome, l) := (a settings).run l
  set l
  pure outcome

def afresh (a : Action σ α) : Action σ α := fun settings => do
  let outer ← get
  let (outcome, l) := (a settings).run { outer with connected := false, available := none }
  set { l with connected := outer.connected, available := outer.available }
  ofOutcome outcome settings

/-- Faults of the engine are answered by a warning and a default, all others are passed on. -/
def orWarn (answer : Except Fault Value) (what : String) (default : α) (k : Value → Action σ α) : Action σ α :=
  match answer with
  | .ok v => k v
  | .error fault =>
      if fault.isEngine then do
        warn ("Elasticsearch " ++ what ++ " failed: " ++ fault.message)
        pure default
      else throw (.engine fault)

end Action

namespace Client

open CatalogSearch.Engine.Action

def address (settings : Settings) : Address where
  url := settings .url
  timeout := settings .timeout
  verifyCerts := (settings .verifyCerts).truthy
  credentials :=
    if (settings .username).truthy && (settings .password).truthy then some (settings .username, settings .password)
    else none

/-- Whether there is an engine to ask. A connection is made where there is none yet, and a fault in
making it is not survived. -/
def connect : Action σ Bool := do
  if (← get).connected then return true
  let settings ← read
  if !(settings .url).truthy then return false
  let _ ← demand (.connect (address settings))
  modify fun l => { l with connected := true }
  return true

def whenConnected (default : α) (a : Action σ α) : Action σ α := do
  if ← connect then a else pure default

def status : Action σ Value := do
  if !(← connect) then throw .noEngineUrl
  demand .info

def ensureIndex (entityType : Value := defaultEntityType) : Action σ Bool := whenConnected false do
  let index := (← read).indexFor entityType
  orWarn (← ask (.indexExists index)) "index setup" false fun found => do
    if found.truthy then return true
    orWarn (← ask (.createIndex index catalogMapping)) "index setup" false fun _ => return true

def addDocuments (documents : Value) : Action σ Value := whenConnected (.int 0) do
  let documents ← ofOutcome documents.items
  orWarn (← ask (.bulk documents)) "bulk index" (.int 0) fun answer => do
    match ← ofOutcome answer.items with
    | [success, _] => return success.orElse (.int 0)
    | _ => throw .badValue

def refreshIndex (entityType : Value := defaultEntityType) : Action σ Bool := whenConnected false do
  orWarn (← ask (.refresh ((← read).indexFor entityType))) "refresh" false fun _ => return true

def selection (store id : Value) : Value :=
  let ofStore : List Value := match store with
    | .null => []
    | store => [.ofFields [("term", .ofFields [("store_id", store)])]]
  let ofIds : List Value := match id with
    | .null => []
    | id => [.ofFields [("terms", .ofFields [("id", .list (id.sequence?.getD [id]))])]]
  match ofStore ++ ofIds with
  | [] => .ofFields [("match_all", .map [])]
  | filters => .ofFields [("bool", .ofFields [("filter", .list filters)])]

def cleanIndex (store : Value := .null) (id : Value := .null) (entityType : Value := defaultEntityType) :
    Action σ Bool := whenConnected false do
  orWarn (← ask (.deleteByQuery ((← read).indexFor entityType) (selection store id))) "clean" false fun _ => return true

def deleteIndex : Action σ Bool := whenConnected false do
  orWarn (← ask (.deleteIndices ((← read).indexFor (.text "*")))) "delete" false fun _ => return true

def countDocuments (entityType : Value := defaultEntityType) : Action σ (Option Int) := whenConnected none do
  orWarn (← ask (.count ((← read).indexFor entityType))) "count" none fun answer => do
    return some (← ofOutcome (do (← answer.get "count" (.int 0)).toInt))

def search (conditions params : Value) (entityType : Value := defaultEntityType) : Action σ (Option ResultSet) :=
  whenConnected none do
    let settings ← read
    let params ← ofOutcome params.entries
    let body ← ofOutcome (Body.build settings conditions params)
    orWarn (← ask (.search (settings.indexFor entityType) body)) "search" none fun response => do
      let aggregations ← ofOutcome (response.get "aggregations" (.map []))
      let facets ← ofOutcome (FacetRecord.decodeAll aggregations ((params.field "facets").orElse (.map [])))
      return some (.ofResponse response (FacetRecord.toValues facets))

end Client

end CatalogSearch.Engine
