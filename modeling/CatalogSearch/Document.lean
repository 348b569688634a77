import CatalogSearch.Attribute
import CatalogSearch.Settings
namespace CatalogSearch

/-- What the engine stores: fields under an identity, in an index. -/
structure Document where
  index : String
  id : Value
  source : Entries

namespace Document

def toValue (d : Document) : Value :=
  .ofFields [("_index", .text d.index), ("_id", d.id), ("_source", .map d.source)]

def optionsField : String := "_options"

def storeField : String := "store_id"

def uniqueField : String := "unique"

end Document

namespace Row

def distinct (xs : List Value) : List Value :=
  xs.foldl (fun seen x => if seen.any x.same then seen else seen ++ [x]) []

def clean (xs : List Value) : Outcome (List Value) := do
  pure ((distinct (← xs.mapM Value.toKey)).filter Value.truthy)

def cleaned : Value → Outcome Value
  | .list xs | .tuple xs => do pure (.list (← clean xs))
  | v => pure v

def addLabel (row : Entries) (label : Value) : Outcome Entries :=
  match label with
  | .null => pure row
  | label => do pure (row.set Document.optionsField (← (row.field Document.optionsField (.list [])).append label))

def index [Calendar.Zones] (store : Store) (searchables : Listing) (row : Entries) (key value : Value) :
    Outcome (Entries × Value) :=
  match searchables.present? key with
  | none => pure (row, value)
  | some (.bare _) => throw .noSuchMember
  | some (.known a) => do
      let value := a.indexValue store value
      pure (← addLabel row (a.optionLabel value), value)

def sort (store : Store) (sortables : Listing) (row : Entries) (key value : Value) : Outcome Entries :=
  match sortables.present? key with
  | none => pure row
  | some (.bare _) => throw .noSuchMember
  | some (.known a) => pure (Keyed.insert row (.ofChars (a.sortField store.language?)) (a.sortValue value))

/-- One field of a row; what an earlier field has written into it counts. -/
def enrichField [Calendar.Zones] (store : Store) (searchables sortables : Listing) (row : Entries) (key : Value) :
    Outcome Entries := do
  let value ← cleaned ((Keyed.find? row key).getD .null)
  let (row, value) ← index store searchables row key value
  sort store sortables (Keyed.insert row key value) key value

def enrich [Calendar.Zones] (store : Store) (searchables sortables : Listing) (row : Entries) : Outcome Entries := do
  let row ← (Keyed.keys row).foldlM (enrichField store searchables sortables) row
  pure (row.set Document.storeField (.int store.id))

end Row

def enrichRows [Calendar.Zones] (store : Store) (searchables sortables : Listing) (indexes : Entries) :
    Outcome (Keyed Entries) :=
  indexes.mapM fun e => do pure (e.1, ← Row.enrich store searchables sortables (← e.2.toEntries))

def documentOf (settings : Settings) (entityType id : Value) (row : Value) : Outcome Document := do
  let row ← row.toEntries
  match row.field? Document.storeField with
  | none => throw .missingKey
  | some store =>
      let unique : Value := .text (id.display ++ "|" ++ store.display)
      pure ⟨settings.indexFor entityType, unique, (row.set Document.uniqueField unique).set "id" id⟩

def documents (settings : Settings) (entityType : Value) (indexes : Entries) : Outcome (List Document) :=
  indexes.mapM fun e => documentOf settings entityType e.1 e.2

end CatalogSearch
