import CatalogSearch.Json.Encoding
import CatalogSearch.Service.Indexing
import CatalogSearch.Web.Arguments
import CatalogSearch.Web.Location
namespace CatalogSearch.Web

open Engine Action

variable {σ : Type} [Engine σ]

/-- A request to an address. Arguments that come beside the address take the place of those in it. -/
structure Request where
  method : String := "GET"
  address : String
  told : Option Arguments := none
  payload : Outcome (Option Json) := pure none

namespace Request

def location (r : Request) : Location := .read r.address.toList

def arguments (r : Request) : Arguments := r.told.getD (QueryString.read r.location.query)

end Request

structure Response where
  status : Nat
  body : Option Json

def isJsonType (contentType : List Char) : Bool :=
  let name := Text.lower (Text.trim ((Text.pieces ';' contentType).headD []))
  name == "application/json".toList ||
    ("application/".toList.isPrefixOf name && "+json".toList.reverse.isPrefixOf name.reverse)

/-- The content of a request; content of another type or without form counts as none. -/
def payloadOf (contentType : List Char) (content : List UInt8) : Outcome (Option Json) :=
  if isJsonType contentType then
    match Json.ofBytes content with
    | .ok json => pure (some json)
    | .error .malformed => pure none
    | .error .tooDeep => throw .tooDeep
  else pure none

inductive Resource where
  | search
  | status
  | file
  deriving DecidableEq

namespace Resource

def methods : Resource → List String
  | search => ["GET", "HEAD", "OPTIONS", "POST"]
  | status | file => ["GET", "HEAD", "OPTIONS"]

def folder : List Char := "/static/".toList

def ofPath? (path : List Char) : Option Resource :=
  if path = "/api/search".toList then some search
  else if path = "/api/search/status".toList then some status
  else if folder.isPrefixOf path && ((path.drop folder.length).head?.map (· != '/')).getD false then some file
  else none

end Resource

def mergeSlashes : List Char → List Char
  | '/' :: '/' :: cs => '/' :: mergeSlashes cs
  | c :: cs => c :: mergeSlashes cs
  | [] => []

inductive Route where
  | found (resource : Resource)
  | moved
  | refused
  | missing
  deriving DecidableEq

/-- Slashes in front of a path count as one. A path that would lead somewhere with fewer slashes has moved
there. -/
def Route.ofPath (path : List Char) (method : String) : Route :=
  let path := '/' :: path.dropWhile (· == '/')
  match Resource.ofPath? path, Resource.ofPath? (mergeSlashes path) with
  | some resource, _ => if method ∈ resource.methods then .found resource else .refused
  | none, some resource => if method ∈ resource.methods then .moved else .refused
  | none, none => .missing

def empty (status : Nat) : Response := ⟨status, none⟩

def reply (status : Nat) (answer : Value) : Outcome Response := do pure ⟨status, some (← Json.ofValue answer)⟩

def ifEnabled (a : Action σ Value) : Action σ Response := do
  if Service.isEnabled (← read) then ofOutcome (reply 200 (← a))
  else ofOutcome (reply 503 (.ofFields [("error", .text "Search engine is disabled.")]))

def searchByArguments (catalog : Catalog) (args : Arguments) : Action σ Value := do
  let query := Value.ofChars (Text.trim (args.valueOf "q").operand)
  let context ← ofOutcome (contextOf (← read) catalog args.toValue)
  let params ← ofOutcome args.params
  let entityType := ((args.first? "type").map Value.text).getD defaultEntityType
  Service.search catalog query params entityType (some context)

def searchByPayload (catalog : Catalog) (payload : Outcome (Option Json)) : Action σ Value := do
  let told := (((← ofOutcome payload).map Json.toValue).getD .null).orElse (.map [])
  let asked := (← ofOutcome (told.get "context")).orElse (.map [])
  let context ← ofOutcome (contextOf (← read) catalog asked)
  let query := (← ofOutcome (told.get "query")).orElse (.text "")
  let params := (← ofOutcome (told.get "params")).orElse (.map [])
  let entityType := (← ofOutcome (told.get "type")).orElse defaultEntityType
  Service.search catalog query params entityType (some context)

def statusReport : Action σ Response := do
  let available ← Service.probe
  ofOutcome (reply 200 (.ofFields [
    ("enabled", .bool (Service.isEnabled (← read))), ("available", .bool available)]))

def serve (catalog : Catalog) (request : Request) : Resource → Action σ Response
  | .search =>
      if request.method.toUpper = "POST" then ifEnabled (searchByPayload catalog request.payload)
      else ifEnabled (searchByArguments catalog request.arguments)
  | .status => statusReport
  | .file => return empty 404

def respond (catalog : Catalog) (request : Request) : Action σ Response := do
  let method := request.method.toUpper
  match Route.ofPath request.location.path method with
  | .missing => return empty 404
  | .refused => return empty 405
  | .moved => return empty 308
  | .found resource =>
      if method = "OPTIONS" then return empty 200
      else if method = "HEAD" then return empty (← serve catalog request resource).status
      else serve catalog request resource

end CatalogSearch.Web
