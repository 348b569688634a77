import CatalogSearch.Engine.Call
namespace CatalogSearch.Engine

inductive Method where
  | connect | info | search | count | deleteByQuery | indexExists | createIndex | refresh | deleteIndices | bulk
  deriving DecidableEq

def Call.method : Call → Method
  | connect _ => .connect
  | info => .info
  | search .. => .search
  | count _ => .count
  | deleteByQuery .. => .deleteByQuery
  | indexExists _ => .indexExists
  | createIndex .. => .createIndex
  | refresh _ => .refresh
  | deleteIndices _ => .deleteIndices
  | bulk _ => .bulk

/-- Answers to give, in order, to the calls of each kind. -/
abbrev Script := List (Method × List (Except Fault Value))

namespace Script

def usual : Call → Value
  | .info => .ofFields [("version", .ofFields [("number", .text "8.13.0")])]
  | .search .. => .ofFields [("hits", .ofFields [("total", .ofFields [("value", .int 0)]), ("hits", .list [])])]
  | .count _ => .ofFields [("count", .int 0)]
  | .indexExists _ => .bool false
  | .bulk documents => .tuple [.int documents.length, .list []]
  | _ => .map []

def next? (m : Method) : Script → Option (Except Fault Value × Script)
  | [] => none
  | (k, answers) :: rest =>
      if k = m then match answers with
        | [] => none
        | a :: answers => some (a, (k, answers) :: rest)
      else (next? m rest).map fun r => (r.1, (k, answers) :: r.2)

def answer (call : Call) (s : Script) : Except Fault Value × Script :=
  (next? call.method s).getD (.ok (usual call), s)

instance : Engine Script := ⟨answer⟩

end Script

end CatalogSearch.Engine
