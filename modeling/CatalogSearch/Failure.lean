import CatalogSearch.Value.Text
namespace CatalogSearch

inductive Fault where
  | rejected (name : String) (status : Value) (message : String) (cause : List Char)
  | unsupported (message : String)
  | disconnected
  | insecure
  | timedOut
  | transport (message : String)
  | unserializable (message : String)
  | other (name message : String)

namespace Fault

/-- The causes are those the body of a rejection gives: the reason of the first root cause, the
resource it is about, and the reason behind it. A body without a root cause gives none. -/
def causeOf (body : Value) : List Char :=
  match body with
  | .map es => match Entries.field? es "error" with
    | some (.map err) => match Entries.field? err "root_cause" with
      | some (.list (.map root :: _)) => match Entries.field? root "reason" with
        | some reason =>
            let behind := match Entries.field? err "caused_by" with
              | some (.map origin) => Entries.field origin "reason"
              | _ => .null
            let parts := [Entries.field root "resource.id", Entries.field root "resource.type", behind]
            Value.commas (reason.literal :: (parts.filter Value.truthy).map Value.chars)
        | none => []
      | _ => []
    | some err => err.literal
    | none => []
  | _ => []

def message : Fault → String
  | .rejected name status message cause =>
      let parts := [status.chars, Text.quoted message.toList] ++ (if cause.isEmpty then [] else [cause])
      name ++ "(" ++ String.ofList (Value.commas parts) ++ ")"
  | .disconnected => "Connection error"
  | .insecure => "TLS error"
  | .timedOut => "Connection timed out"
  | .unsupported message | .transport message | .unserializable message | .other _ message => message

def isEngine : Fault → Bool
  | .other .. => false
  | _ => true

end Fault

inductive Failure where
  | noSuchMember
  | wrongKind
  | badValue
  | missingKey
  | outOfRange
  | constraintViolated
  | unfit
  | unstorable
  | badIdentity
  | noSuchRow
  | noSuchTable
  | tooManyValues
  | noEngineUrl
  | tooDeep
  | engine (fault : Fault)

def Failure.message : Failure → String
  | .noEngineUrl => "ELASTICSEARCH_URL is not configured"
  | .engine fault => fault.message
  | _ => ""

abbrev Outcome := Except Failure

end CatalogSearch
