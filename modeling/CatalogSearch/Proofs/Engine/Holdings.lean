import CatalogSearch.Proofs.Engine.Runs
import CatalogSearch.Proofs.Value.Keys
import Mathlib.Logic.Function.Basic

namespace CatalogSearch.Engine

abbrev Documents := String → Option Entries

/-- An engine that holds documents in indices and never fails. -/
structure Holdings where
  names : List String
  documents : String → Documents

namespace Holdings

def products (e : Holdings) (settings : Settings) : Documents := e.documents (settings.indexFor defaultEntityType)

/-- Whether a field of a document has a value, or one of several. -/
def hasTerm (filter : Value) (source : Entries) : Bool :=
  match filter with
  | .map [(.text "term", .map [(.text name, v)])] => (source.field? name).any v.same
  | .map [(.text "terms", .map [(.text name, .list vs)])] => (source.field? name).any fun x => vs.any (·.same x)
  | _ => false

def selects (query : Value) (source : Entries) : Bool :=
  match query with
  | .map [(.text "match_all", _)] => true
  | .map [(.text "bool", .map [(.text "filter", .list filters)])] => filters.all (hasTerm · source)
  | _ => false

/-- Whether a pattern is for an index; a star at its end stands for any ending. -/
def covers (pattern index : String) : Bool :=
  match pattern.toList.reverse with
  | '*' :: start => start.reverse.isPrefixOf index.toList
  | _ => pattern == index

def put (e : Holdings) (document : Value) : Holdings :=
  match document with
  | .map [(.text "_index", .text index), (.text "_id", .text name), (.text "_source", .map source)] =>
      { e with documents := Function.update e.documents index (Function.update (e.documents index) name (some source)) }
  | _ => e

def remove (e : Holdings) (index : String) (query : Value) : Holdings :=
  { e with documents := Function.update e.documents index fun name =>
      (e.documents index name).filter fun source => !selects query source }

def drop (e : Holdings) (pattern : String) : Holdings where
  names := e.names.filter fun index => !covers pattern index
  documents := fun index => if covers pattern index then fun _ => none else e.documents index

def create (e : Holdings) (index : String) : Holdings := { e with names := index :: e.names }

/-- What indexing asks for is done and answered; all else is left to other engines. -/
def answer (call : Call) (e : Holdings) : Except Fault Value × Holdings :=
  match call with
  | .indexExists index => (.ok (.bool (index ∈ e.names)), e)
  | .createIndex index _ => (.ok (.map []), e.create index)
  | .deleteByQuery index query => (.ok (.map []), e.remove index query)
  | .deleteIndices pattern => (.ok (.map []), e.drop pattern)
  | .bulk documents => (.ok (.tuple [.int documents.length, .list []]), documents.foldl put e)
  | _ => (.ok (.map []), e)

instance : Engine Holdings := ⟨answer⟩

open Engine.Action

variable {settings : Settings} {e e' : Holdings}

theorem yields_connect (hu : (settings .url).truthy) (e : Holdings) :
    Yields settings (Client.connect : Action Holdings _) e true e := by
  refine ends_get fun l => ?_
  by_cases hc : l.connected
  · rw [if_pos hc]
    exact yields_pure true e
  · rw [if_neg hc]
    refine (yields_read e).bind ?_
    rw [hu]
    have hd : Yields settings (demand (.connect (Client.address settings)) : Action Holdings _) e (.map []) e :=
      (yields_ask rfl).bind (yields_pure _ e)
    refine hd.bind ?_
    refine Ends.bind (x := ()) ?_ (yields_pure true e)
    refine yields_modify ?_ e
    exact fun _ => rfl

theorem yields_whenConnected {α : Type} {a : Action Holdings α} {default x : α} (hu : (settings .url).truthy)
    (ha : Yields settings a e x e') : Yields settings (Client.whenConnected default a) e x e' :=
  (yields_connect hu e).bind ha

theorem yields_cleanIndex (hu : (settings .url).truthy) (store : Int) (e : Holdings) :
    Yields settings (Client.cleanIndex (.int store) : Action Holdings _) e true
      (e.remove (settings.indexFor defaultEntityType) (Client.selection (.int store) .null)) := by
  refine yields_whenConnected hu ?_
  refine (yields_read e).bind ?_
  refine (yields_ask rfl).bind ?_
  exact yields_pure true _

theorem yields_deleteIndex (hu : (settings .url).truthy) (e : Holdings) :
    Yields settings (Client.deleteIndex : Action Holdings _) e true (e.drop (settings.indexFor (.text "*"))) := by
  refine yields_whenConnected hu ?_
  refine (yields_read e).bind ?_
  refine (yields_ask rfl).bind ?_
  exact yields_pure true _

theorem yields_refreshIndex (hu : (settings .url).truthy) (e : Holdings) :
    Yields settings (Client.refreshIndex : Action Holdings _) e true e := by
  refine yields_whenConnected hu ?_
  refine (yields_read e).bind ?_
  refine (yields_ask rfl).bind ?_
  exact yields_pure true _

theorem yields_ensureIndex (hu : (settings .url).truthy) (e : Holdings) :
    ∃ e' : Holdings, e'.documents = e.documents ∧
      Yields settings (Client.ensureIndex : Action Holdings _) e true e' := by
  have ha : Engine.answer (.indexExists (settings.indexFor defaultEntityType)) e =
      (.ok (.bool (settings.indexFor defaultEntityType ∈ e.names)), e) := rfl
  by_cases hn : settings.indexFor defaultEntityType ∈ e.names
  · rw [decide_eq_true hn] at ha
    refine ⟨e, rfl, yields_whenConnected hu ?_⟩
    refine (yields_read e).bind ?_
    refine (yields_ask ha).bind ?_
    exact yields_pure true e
  · rw [decide_eq_false hn] at ha
    refine ⟨e.create (settings.indexFor defaultEntityType), rfl, yields_whenConnected hu ?_⟩
    refine (yields_read e).bind ?_
    refine (yields_ask ha).bind ?_
    refine (yields_ask rfl).bind ?_
    exact yields_pure true _

theorem yields_addDocuments (hu : (settings .url).truthy) (documents : List Value) (e : Holdings) :
    Yields settings (Client.addDocuments (.list documents) : Action Holdings _) e (.int documents.length)
      (documents.foldl put e) := by
  have hcount : (Value.int documents.length).orElse (.int 0) = .int documents.length := by
    unfold Value.orElse
    split
    · rfl
    · next hz =>
        have hnil : documents = [] := by simpa [Value.truthy] using hz
        rw [hnil]
        rfl
  refine yields_whenConnected hu ?_
  refine (ends_ofOutcome rfl e).bind ?_
  refine (yields_ask rfl).bind ?_
  refine (ends_ofOutcome rfl _).bind ?_
  change Yields settings (pure ((Value.int documents.length).orElse (.int 0))) _ _ _
  rw [hcount]
  exact yields_pure _ _

variable {index : String} {key : String} {v : Entries}

theorem selects_selection (store : Int) (source : Entries) :
    selects (Client.selection (.int store) .null) source =
      (source.field? Document.storeField).any (Value.int store).same :=
  Bool.and_true _

theorem documents_remove (query : Value) :
    (e.remove index query).documents index key = some v ↔ e.documents index key = some v ∧ selects query v = false := by
  simp [remove, Option.filter_eq_some_iff]

theorem covers_indexFor (settings : Settings) (name : String) :
    covers (settings.indexFor (.text "*")) (settings.indexFor (.text name)) = true := by
  have hs : (settings.indexFor (.text "*")).toList.reverse =
      '*' :: ((settings .indexName).display ++ "-").toList.reverse := by
    simp [Settings.indexFor, Value.display, Value.chars]
  rw [covers, hs]
  simp [Settings.indexFor, Value.display, Value.chars, List.isPrefixOf_iff_prefix]

theorem documents_put (name : String) (source : Entries) :
    (e.put (Document.toValue ⟨index, .text name, source⟩)).documents index =
      Function.update (e.documents index) name (some source) :=
  Function.update_self _ _ _

theorem documents_foldl_put {name : Int → String} (hn : Function.Injective name) (source : Int → Entries)
    (ids : List Int) :
    ((ids.map fun id => Document.toValue ⟨index, .text (name id), source id⟩).foldl put e).documents index key =
        some v ↔
      (∃ id ∈ ids, key = name id ∧ v = source id) ∨ (∀ id ∈ ids, key ≠ name id) ∧ e.documents index key = some v := by
  induction ids generalizing e with
  | nil => simp
  | cons id ids ih =>
      rw [List.map_cons, List.foldl_cons, ih, documents_put]
      by_cases hk : key = name id
      · subst hk
        rw [Function.update_self]
        constructor
        · rintro (⟨i, hi, he, rfl⟩ | ⟨-, hs⟩)
          · exact .inl ⟨i, List.mem_cons_of_mem id hi, he, rfl⟩
          · exact .inl ⟨id, List.mem_cons_self, rfl, (Option.some.inj hs).symm⟩
        · rintro (⟨i, -, he, rfl⟩ | ⟨hne, -⟩)
          · obtain rfl := hn he
            by_cases hm : id ∈ ids
            · exact .inl ⟨id, hm, rfl, rfl⟩
            · refine .inr ⟨?_, rfl⟩
              intro i hi hi'
              exact hm (hn hi' ▸ hi)
          · exact (hne id List.mem_cons_self rfl).elim
      · rw [Function.update_of_ne hk]
        simp [hk]

end Holdings

end CatalogSearch.Engine
