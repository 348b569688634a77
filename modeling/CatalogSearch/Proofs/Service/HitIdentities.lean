import CatalogSearch.Proofs.Service.FacetedSearch
import Mathlib.Data.List.Forall2

namespace CatalogSearch.Service

open Query Engine Action Keyed

variable {settings : Settings} {catalog : Catalog} {context : Context} {query : Value} {ps : Entries}

/-- What is shown of stored fields: all of them, or those of a list. -/
inductive Shows (source : Entries) : Option Value → Entries → Prop where
  | all : Shows source none source
  | listed (names : List Value) :
      Shows source (some (.list names)) (source.filter fun e => names.any (·.same e.1))

/-- A hit on the document of an entity, in which the fields are shown that were asked for. -/
inductive HitOn (projection : Option Value) (id hit : Value) : Prop where
  | mk {settings : Settings} {entityType row : Value} {document : Document} {shown : Entries}
      (made : documentOf settings entityType id row = .ok document)
      (shows_ : Shows document.source projection shown) (source : hit.get "_source" (.map []) = .ok (.map shown))

/-- Whether the identity of an entity is among the fields that are asked for. -/
def ListsIdentity : Option Value → Prop
  | some (.list names) => .text "id" ∈ names
  | _ => True

theorem field?_id_of_documentOf {entityType id row : Value} {document : Document}
    (h : documentOf settings entityType id row = .ok document) : document.source.field? "id" = some id := by
  obtain ⟨row, -, h⟩ := Folds.bind_eq_ok.mp h
  split at h
  · cases h
  · cases h
    exact Entries.field?_set_self _ _ _

theorem field?_filter (keep : Value → Bool) (source : Entries) (name : String) :
    Entries.field? (source.filter fun e => keep e.1) name = if keep (.text name) then source.field? name else none := by
  induction source with
  | nil => split <;> rfl
  | cons e source ih =>
      rw [List.filter_cons, Entries.field?, Entries.field?, find?_cons]
      by_cases he : e.1 = .text name
      · rw [he, if_pos (Value.same_text_self name)]
        split
        · rw [find?_cons, he, if_pos (Value.same_text_self name)]
        · next hk => rwa [if_neg hk] at ih
      · have hne : ¬(Value.text name).same e.1 = true := fun h => he ((Value.same_text name e.1).mp h)
        rw [if_neg hne]
        split
        · rw [find?_cons, if_neg hne]
          exact ih
        · exact ih

theorem field?_plainEntries (es : Entries) (name : String) :
    Entries.field? (Value.plainEntries es) name = (es.field? name).map Value.plain := by
  induction es with
  | nil => rfl
  | cons e es ih =>
      rw [Value.plainEntries, Entries.field?, Entries.field?, find?_cons, find?_cons]
      split
      · rfl
      · exact ih

theorem get_plain (source : Entries) (name : String) :
    (Value.map source).plain.get name = .ok (source.field name).plain := by
  rw [Value.plain, Value.get_map, Entries.field, field?_plainEntries, Entries.field]
  cases source.field? name <;> rfl

theorem HitOn.identity {projection : Option Value} {id hit : Value} (h : HitOn projection id hit) :
    ∃ source : Entries, hit.get "_source" (.map []) = .ok (.map source) ∧
      (ListsIdentity projection → source.field "id" = id) ∧
      (¬ListsIdentity projection → source.field "id" = .null) := by
  obtain ⟨made, shows_, hsource⟩ := h
  have hid := field?_id_of_documentOf made
  refine ⟨_, hsource, ?_⟩
  cases shows_ with
  | all => exact ⟨fun _ => Entries.field_of_field? hid _, fun hn => absurd trivial hn⟩
  | listed names =>
      have hf := field?_filter (fun key => names.any (·.same key)) _ "id" |>.trans (by rw [hid])
      have hany : names.any (·.same (.text "id")) = true ↔ .text "id" ∈ names := by
        simp [Value.same_text_right]
      constructor
      · intro hl
        rw [if_pos (hany.mpr hl)] at hf
        exact Entries.field_of_field? hf _
      · intro hl
        rw [if_neg fun ha => hl (hany.mp ha)] at hf
        rw [Entries.field, hf]
        rfl

/-- A reply without an error, with some hits and a total. -/
structure Reply (response : Value) (hits : List Value) (total : Int) : Prop where
  fine : ∃ e, response.get "error" = .ok e ∧ e.truthy = false
  hits : ∃ found, response.get "hits" (.map []) = .ok found ∧ found.get "hits" (.list []) = .ok (.list hits)
  total : (ResultSet.ofResponse response (.map [])).totalHits = .ok total

theorem mapM_of_forall₂ {α β : Type} {f : α → Outcome β} {xs : List α} {ys : List β}
    (h : List.Forall₂ (fun x y => f x = .ok y) xs ys) : xs.mapM f = .ok ys := by
  induction h with
  | nil => rfl
  | cons hx _ ih =>
      rw [List.mapM_cons, hx, ih]
      rfl

theorem Reply.reads {response : Value} {hits : List Value} {total : Int} (h : Reply response hits total) (facets : Value) :
    (ResultSet.ofResponse response facets).hasError = .ok false ∧ (ResultSet.ofResponse response facets).hits = .ok hits := by
  obtain ⟨e, he, hfine⟩ := h.fine
  obtain ⟨found, hfound, hhits⟩ := h.hits
  obtain ⟨es, rfl⟩ : ∃ es, response = .map es := by
    cases response with
    | map es => exact ⟨es, rfl⟩
    | _ => cases he
  have hr : (ResultSet.ofResponse (.map es) facets).response = .map es := Value.orElse_map es
  constructor
  · rw [ResultSet.hasError, hr, he]
    exact congrArg Except.ok hfine
  · rw [ResultSet.hits, hr, hfound, Folds.ok_bind, hhits]
    rfl

theorem Reply.records {response : Value} {hits : List Value} {total : Int} (h : Reply response hits total)
    {sources : List Entries}
    (hs : List.Forall₂ (fun (hit : Value) source => hit.get "_source" (.map []) = .ok (.map source)) hits sources)
    (facets : Value) :
    (ResultSet.ofResponse response facets).records = .ok (sources.map fun source => (Value.map source).plain) := by
  obtain ⟨hfine, hhits⟩ := h.reads facets
  rw [ResultSet.records, hfine, Folds.ok_bind, if_neg Bool.false_ne_true, hhits]
  refine mapM_of_forall₂ ?_
  rw [List.forall₂_map_right_iff]
  refine hs.imp fun hit source hsource => ?_
  rw [hsource]
  rfl

theorem foundIn_of_reply {response : Value} {hits : List Value} {total : Int} (h : Reply response hits total)
    {sources : List Entries}
    (hs : List.Forall₂ (fun (hit : Value) source => hit.get "_source" (.map []) = .ok (.map source)) hits sources) :
    foundIn response = .ok (sources.map fun source => (source.field "id").plain, total) := by
  have hids : (sources.map fun source => (Value.map source).plain).mapM (fun record => record.get "id") =
      .ok (sources.map fun source => (source.field "id").plain) := by
    rw [List.mapM_map]
    exact Folds.mapM_ok fun source _ => get_plain source "id"
  rw [foundIn, h.records hs, Folds.ok_bind, hids, Folds.ok_bind, h.total]
  rfl

theorem summarize_ids {response : Value} {hits : List Value} {total : Int} (h : Reply response hits total)
    {sources : List Entries}
    (hs : List.Forall₂ (fun (hit : Value) source => hit.get "_source" (.map []) = .ok (.map source)) hits sources)
    {records : Keyed FacetRecord} {withFacets : Bool}
    (hf : withFacets = true → ∃ s, Summary.ofRecords (FacetRecord.toValues records) = .ok s) :
    ∃ answer, summarize withFacets (.ofResponse response (FacetRecord.toValues records)) = .ok answer ∧
      answer.get "ids" = .ok (.list (sources.map fun source => (source.field "id").plain)) := by
  obtain ⟨s, hsum⟩ : ∃ s, withFacets = true → Summary.ofRecords (FacetRecord.toValues records) = .ok s := by
    cases withFacets with
    | false => exact ⟨[], nofun⟩
    | true => exact (hf rfl).imp fun s hsum _ => hsum
  rw [summarize_eq hsum, foundIn_of_reply h hs]
  exact ⟨_, rfl, Entries.get_ofFields _ _ _⟩

theorem truthy_items {v : Value} {items : List Value} (ht : v.truthy = true) (hi : v.items = .ok items) :
    (Value.list items).truthy = true := by
  cases v with
  | list | tuple | set =>
      cases hi
      exact ht
  | map es =>
      cases hi
      cases es with
      | nil => exact ht
      | cons e es => rfl
  | text s =>
      cases hi
      simpa [Value.truthy] using ht
  | _ => cases hi

theorem projection_of_engineParams {p : Params} {conditions : Value} {body : Body}
    (hp : engineParams catalog p context query = .ok ps)
    (hb : Body.build settings conditions ps = .ok body)
    (hx : ∀ more, p.extra = .map more →
      Entries.hasField more "fields" = false ∧ Entries.hasField more "_source" = false) :
    (p.fields.truthy = false → body.projection = none) ∧
      (p.fields.truthy = true → ∃ names,
        p.fields.items = .ok names ∧ body.projection = some (.list names)) := by
  have hbuilt := Body.built_of_build hb
  have hsource := hbuilt.source
  obtain ⟨hnone, hlisted⟩ := fields_of_engineParams hp fun more hm => (hx more hm).1
  have hpassed : ps.field? "_source" = none := by
    obtain ⟨_, keys, filters, start, -, -, -, ho, rfl⟩ := engineParams_eq_closed hp
    have hstart := ho.others "_source" (by decide)
    rw [field?_closed _ _ _ (fun more hm => (hx more hm).2) (by decide) (by decide) (by simp)]
    split <;> simp [Entries.field?_set, hstart]
  rw [hbuilt.projection, hpassed, Option.none_or]
  constructor
  · intro hf
    rw [Entries.field, hnone hf, Option.getD_none, if_neg (by decide)] at hsource
    rw [hsource]
    rfl
  · intro ht
    obtain ⟨names, hi, hnames⟩ := hlisted ht
    have htruthy : (Value.list names).truthy = true := truthy_items ht hi
    rw [Entries.field, hnames, Option.getD_some, if_pos htruthy] at hsource
    obtain ⟨_, hitems, hbody⟩ := hsource
    cases hitems
    exact ⟨names, hi, by rw [hbody]; rfl⟩

section

variable {σ : Type} [Engine σ] {params entityType : Value} {given : Option Context} {l l₁ : Link σ} {body : Body}
  {response aggregations : Value} {records : Keyed FacetRecord} {hits ids : List Value} {total : Int}

theorem exec_search_of_reply (hc : contextOf settings catalog (Params.ofValue settings params) given = .ok context)
    (hp : engineParams catalog (Params.ofValue settings params) context query = .ok ps)
    (hb : Body.build settings (.ofChars (searchConditions query)) ps = .ok body)
    (hl : exec Client.connect settings l = (.ok true, l₁))
    (ha : (Engine.answer (.search (settings.indexFor entityType) body) l₁.engine).1 = .ok response)
    (hg : response.get "aggregations" (.map []) = .ok aggregations)
    (hd : FacetRecord.decodeAll aggregations ((ps.field "facets").orElse (.map [])) = .ok records)
    (hf : ((Params.ofValue settings params).facets.truthy || (Params.ofValue settings params).stats.truthy) = true →
      ∃ s, Summary.ofRecords (FacetRecord.toValues records) = .ok s)
    (hr : Reply response hits total) (hids : List.Forall₂ (HitOn body.projection) ids hits) :
    ∃ answer l₂, exec (search catalog query params entityType given) settings l = (.ok answer, l₂) ∧
      (ListsIdentity body.projection → answer.get "ids" = .ok (.list (ids.map Value.plain))) ∧
      (¬ListsIdentity body.projection → answer.get "ids" = .ok (.list (ids.map fun _ => .null))) := by
  obtain ⟨sources, hs, hlisted, hunlisted⟩ : ∃ sources : List Entries,
      List.Forall₂ (fun (hit : Value) source => hit.get "_source" (.map []) = .ok (.map source)) hits sources ∧
      (ListsIdentity body.projection → sources.map (·.field "id") = ids) ∧
      (¬ListsIdentity body.projection → sources.map (·.field "id") = ids.map fun _ => .null) := by
    clear hr
    induction hids with
    | nil => exact ⟨[], .nil, fun _ => rfl, fun _ => rfl⟩
    | cons hhit _ ih =>
        obtain ⟨source, hsource, hyes, hno⟩ := hhit.identity
        obtain ⟨sources, hs, hlisted, hunlisted⟩ := ih
        refine ⟨source :: sources, .cons hsource hs, fun hl => ?_, fun hl => ?_⟩
        · rw [List.map_cons, hyes hl, hlisted hl]
        · rw [List.map_cons, List.map_cons, hno hl, hunlisted hl]
  obtain ⟨l₂, hsearch⟩ := exec_clientSearch hb hl ha hg hd
  obtain ⟨answer, hanswer, hget⟩ := summarize_ids hr hs hf
  refine ⟨answer, l₂, ?_, fun hlists => ?_, fun hlists => ?_⟩
  · rw [exec_search hc, exec_searchIn hp hsearch, hanswer]
  · rw [hget, ← hlisted hlists, List.map_map]
    rfl
  · have hnull := congrArg (List.map Value.plain) (hunlisted hlists)
    rw [List.map_map, List.map_map] at hnull
    exact hget.trans (congrArg (fun ids => Except.ok (Value.list ids)) hnull)

/-- The hits of a search are named, each by the entity of its document and in the order of the engine, exactly if
the identity is among the fields that the body asks for, or all fields are; these are the fields that were told. -/
theorem hits_are_named (hc : contextOf settings catalog (Params.ofValue settings params) given = .ok context)
    (hp : engineParams catalog (Params.ofValue settings params) context query = .ok ps)
    (hb : Body.build settings (.ofChars (searchConditions query)) ps = .ok body)
    (hl : exec Client.connect settings l = (.ok true, l₁))
    (ha : (Engine.answer (.search (settings.indexFor entityType) body) l₁.engine).1 = .ok response)
    (hg : response.get "aggregations" (.map []) = .ok aggregations)
    (hd : FacetRecord.decodeAll aggregations ((ps.field "facets").orElse (.map [])) = .ok records)
    (hf : ((Params.ofValue settings params).facets.truthy || (Params.ofValue settings params).stats.truthy) = true →
      ∃ s, Summary.ofRecords (FacetRecord.toValues records) = .ok s)
    (hr : Reply response hits total) (hids : List.Forall₂ (HitOn body.projection) ids hits) :
    (∃ answer l₂, exec (search catalog query params entityType given) settings l = (.ok answer, l₂) ∧
      (ListsIdentity body.projection → answer.get "ids" = .ok (.list (ids.map Value.plain))) ∧
      (¬ListsIdentity body.projection → answer.get "ids" = .ok (.list (ids.map fun _ => .null)))) ∧
    ((∀ more, (Params.ofValue settings params).extra = .map more →
        Entries.hasField more "fields" = false ∧ Entries.hasField more "_source" = false) →
      (ListsIdentity body.projection ↔ (Params.ofValue settings params).fields.truthy = false ∨
        ∃ names, (Params.ofValue settings params).fields.items = .ok names ∧ .text "id" ∈ names)) := by
  refine ⟨exec_search_of_reply hc hp hb hl ha hg hd hf hr hids, fun hx => ?_⟩
  obtain ⟨hnone, hlisted⟩ := projection_of_engineParams hp hb hx
  cases ht : (Params.ofValue settings params).fields.truthy with
  | false =>
      rw [hnone ht]
      exact ⟨fun _ => .inl rfl, fun _ => trivial⟩
  | true =>
      obtain ⟨names, hi, hprojection⟩ := hlisted ht
      rw [hprojection]
      constructor
      · exact fun hm => .inr ⟨names, hi, hm⟩
      · rintro (hfalse | ⟨names', hi', hm⟩)
        · cases hfalse
        · cases hi.symm.trans hi'
          exact hm

end

def shownParams (names : List Value) : Value := .ofFields [
  ("fields", .list names), ("store_id", .int 2), ("offset", .int 0), ("limit", .int 10), ("sort_by", .list [])]

def shownSearch (names : List Value) : Params where
  offset := .int 0
  limit := .int 10
  sortBy := .list []
  fields := .list names
  extra := .map []
  store := .int 2
  filters := .map []
  facets := .map []
  rangeFilters := .map []
  stats := .list []

theorem ofValue_shownParams (names : List Value) :
    Params.ofValue Setting.default (shownParams names) = shownSearch names := ofValue_ofFields _ _

theorem unmeasured_shownParams (names : List Value)
    (h : ((Params.ofValue Setting.default (shownParams names)).facets.truthy ||
      (Params.ofValue Setting.default (shownParams names)).stats.truthy) = true) :
    ∃ s, Summary.ofRecords (FacetRecord.toValues []) = .ok s := by
  rw [ofValue_shownParams] at h
  cases h

def lampRow : Value := .ofFields [("name", .text "Lamp"), ("store_id", .int 2)]

theorem exists_lampDocument (id : Int) :
    ∃ document, documentOf Setting.default defaultEntityType (.int id) lampRow = .ok document := by
  have hs := Entries.field?_ofFields [("name", .text "Lamp"), ("store_id", .int 2)] Document.storeField
  unfold documentOf
  rw [lampRow, Value.ofFields, Value.toEntries, pure_bind, hs]
  exact ⟨_, rfl⟩

def repliedHits (hits : List Value) : Value := .ofFields [
  ("hits", .ofFields [("total", .ofFields [("value", .int 2)]), ("hits", .list hits)])]

theorem reply_repliedHits (hits : List Value) : Reply (repliedHits hits) hits 2 where
  fine := ⟨.null, Entries.get_ofFields _ _ _, rfl⟩
  hits := ⟨_, Entries.get_ofFields _ _ _, Entries.get_ofFields _ _ _⟩
  total := by
    have hh : (repliedHits hits).get "hits" (.map []) =
      .ok (.ofFields [("total", .ofFields [("value", .int 2)]), ("hits", .list hits)]) := Entries.get_ofFields _ _ _
    have ht : (Value.ofFields [("total", .ofFields [("value", .int 2)]), ("hits", .list hits)]).get "total" (.int 0) =
      .ok (.ofFields [("value", .int 2)]) := Entries.get_ofFields _ _ _
    have hv : (Value.ofFields [("value", .int 2)]).get "value" (.int 0) = .ok (.int 2) := Entries.get_ofFields _ _ _
    change ((repliedHits hits).get "hits" (.map []) >>= _) = _
    rw [hh, Folds.ok_bind, ht, Folds.ok_bind]
    change ((Value.ofFields [("value", .int 2)]).get "value" (.int 0) >>= _) = _
    rw [hv]
    rfl

def hitOn (names : List Value) (document : Document) : Value := .ofFields [
  ("_id", document.id), ("_source", .map (document.source.filter fun e => names.any (·.same e.1)))]

theorem hitOn_hitOn {names : List Value} {id : Value} {document : Document}
    (h : documentOf Setting.default defaultEntityType id lampRow = .ok document) :
    HitOn (some (.list names)) id (hitOn names document) :=
  ⟨h, .listed names, Entries.get_ofFields _ _ _⟩

theorem exists_shown (more : List Value) : ∃ ps body hits,
    engineParams (.held [] [] []) (shownSearch (.text "name" :: more)) shopContext (.text "lamp") = .ok ps ∧
    Body.build Setting.default (.ofChars (searchConditions (.text "lamp"))) ps = .ok body ∧
    FacetRecord.decodeAll (.map []) ((ps.field "facets").orElse (.map [])) = .ok [] ∧
    body.projection = some (.list (.text "name" :: more)) ∧
    List.Forall₂ (HitOn body.projection) [.int 7, .int 9] hits := by
  obtain ⟨ps, hp⟩ : ∃ ps,
    engineParams (.held [] [] []) (shownSearch (.text "name" :: more)) shopContext (.text "lamp") = .ok ps := ⟨_, rfl⟩
  have hsimple : Simple (shownSearch (.text "name" :: more)) := ⟨rfl, rfl, rfl, rfl⟩
  have hunpassed : ∀ es, (shownSearch (.text "name" :: more)).extra = .map es →
      Entries.hasField es "fields" = false ∧ Entries.hasField es "_source" = false := by
    rintro es ⟨⟩
    exact ⟨rfl, rfl⟩
  have hunrequested : Requests (shownSearch (.text "name" :: more)) [] [] :=
    ⟨rfl, List.Pairwise.nil, by simp [TextKeys], rfl, by rintro es ⟨⟩; exact ⟨rfl, fun _ => rfl⟩⟩
  obtain ⟨body, hb⟩ := hsimple.exists_build Setting.default hp rfl (.ofChars (searchConditions (.text "lamp")))
  obtain ⟨names, hnames, hprojection⟩ := (projection_of_engineParams hp hb hunpassed).2 rfl
  cases hnames
  obtain ⟨seventh, h₇⟩ := exists_lampDocument 7
  obtain ⟨ninth, h₉⟩ := exists_lampDocument 9
  refine ⟨ps, body, [hitOn (.text "name" :: more) seventh, hitOn (.text "name" :: more) ninth], hp, hb, ?_,
    hprojection, ?_⟩
  · rw [(requests_engineParams hunrequested hp).1]
    rfl
  · rw [hprojection]
    exact .cons (hitOn_hitOn h₇) (.cons (hitOn_hitOn h₉) .nil)

def repliedLink (hits : List Value) : Link Script := ⟨[(.search, [.ok (repliedHits hits)])], true, none, [], []⟩

theorem shown_identities_are_named : ∃ hits answer l,
    List.Forall₂ (HitOn (some (.list [.text "name", .text "id"]))) [.int 7, .int 9] hits ∧
    exec (search (.held [] [] []) (.text "lamp") (shownParams [.text "name", .text "id"]) defaultEntityType
      (some shopContext)) Setting.default (repliedLink hits) = (.ok answer, l) ∧
    answer.get "ids" = .ok (.list [.int 7, .int 9]) := by
  obtain ⟨ps, body, hits, hp, hb, hd, hprojection, hids⟩ := exists_shown [.text "id"]
  rw [← ofValue_shownParams] at hp
  have hc : contextOf Setting.default (.held [] [] []) (Params.ofValue Setting.default
    (shownParams [.text "name", .text "id"])) (some shopContext) = .ok shopContext := rfl
  obtain ⟨⟨answer, l, hr, hnamed, -⟩, hiff⟩ := hits_are_named (l := repliedLink hits) hc hp hb rfl rfl
    (Entries.get_ofFields _ _ _) hd (unmeasured_shownParams _) (reply_repliedHits hits) hids
  rw [ofValue_shownParams] at hiff
  have hlists := (hiff (by rintro es ⟨⟩; exact ⟨rfl, rfl⟩)).mpr (.inr ⟨_, rfl, by simp⟩)
  exact ⟨hits, answer, l, hprojection ▸ hids, hr, hnamed hlists⟩

/-- A search that is told to show names names no hit. -/
theorem shown_names_are_unnamed : ∃ ps body hits answer l,
    engineParams (.held [] [] []) (shownSearch [.text "name"]) shopContext (.text "lamp") = .ok ps ∧
    Body.build Setting.default (.ofChars (searchConditions (.text "lamp"))) ps = .ok body ∧
    body.projection = some (.list [.text "name"]) ∧
    List.Forall₂ (HitOn body.projection) [.int 7, .int 9] hits ∧ Reply (repliedHits hits) hits 2 ∧
    exec (search (.held [] [] []) (.text "lamp") (shownParams [.text "name"]) defaultEntityType (some shopContext))
      Setting.default (repliedLink hits) = (.ok answer, l) ∧
    answer.get "ids" = .ok (.list [.null, .null]) := by
  obtain ⟨ps, body, hits, hp, hb, hd, hprojection, hids⟩ := exists_shown []
  have hp' := hp
  rw [← ofValue_shownParams] at hp'
  have hc : contextOf Setting.default (.held [] [] []) (Params.ofValue Setting.default
    (shownParams [.text "name"])) (some shopContext) = .ok shopContext := rfl
  obtain ⟨answer, l, hr, -, hnull⟩ := exec_search_of_reply (l := repliedLink hits) hc hp' hb rfl rfl
    (Entries.get_ofFields _ _ _) hd (unmeasured_shownParams _) (reply_repliedHits hits) hids
  refine ⟨ps, body, hits, answer, l, hp, hb, hprojection, hids, reply_repliedHits hits, hr, hnull ?_⟩
  rw [hprojection]
  simp [ListsIdentity]

end CatalogSearch.Service
