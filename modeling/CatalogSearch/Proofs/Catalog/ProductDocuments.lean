import CatalogSearch.Proofs.Catalog.Sound
import CatalogSearch.Proofs.Document.EnrichedRows
import CatalogSearch.Service.Indexing

namespace CatalogSearch.Catalog.Tables

variable (t : Tables)

def storeAt (id : Int) : Store := if id = 0 then { id := 0 } else (t.store? (.int id)).getD { id }

def enrichedRow [Calendar.Zones] (store : Store) (id : Int) : Entries :=
  Row.enriched store (t.searchables (.int store.id)) (t.sortables (.int store.id))
    (t.shopRow store id (t.loadedRow store.id id))

def documentName (store id : Int) : String := toString id ++ "|" ++ toString store

def document [Calendar.Zones] (settings : Settings) (entityType : Value) (store : Store) (id : Int) : Document where
  index := settings.indexFor entityType
  id := .text (documentName store.id id)
  source := ((t.enrichedRow store id).set Document.uniqueField (.text (documentName store.id id))).set "id" (.int id)

theorem find?_refersTo {id : Int} {s : StoreRow} (h : (t.stores.find? fun s => refersTo (.int id) s.id) = some s) :
    s.id = id := by
  have hr := List.find?_some h
  rw [refersTo_int, beq_iff_eq] at hr
  exact hr.symm

theorem storeAt_id (id : Int) : (t.storeAt id).id = id := by
  unfold storeAt
  split
  · next h => exact h.symm
  · unfold store?
    cases hs : t.stores.find? fun s => refersTo (.int id) s.id with
    | none => rfl
    | some s => exact t.find?_refersTo hs

theorem storeAt_of_mem {t : Tables} (h : t.Sound) {s : StoreRow} (hs : s ∈ t.stores) (hz : s.id ≠ 0) :
    t.storeAt s.id = storeOf s := by
  have hf : (t.stores.find? fun r => refersTo (.int s.id) r.id) = some s := by
    cases hr : t.stores.find? fun r => refersTo (.int s.id) r.id with
    | none =>
        have hn := List.find?_eq_none.mp hr s hs
        rw [refersTo_int] at hn
        simp at hn
    | some r => rw [h.stores.eq_of_id (List.mem_of_find?_eq_some hr) hs (t.find?_refersTo hr)]
  rw [storeAt, if_neg hz, store?, hf]
  rfl

theorem unknownStore_int (id : Int) : Catalog.unknownStore (.int id) = .ok { id } := by
  by_cases hz : id = 0
  · subst hz; rfl
  · have ht : (Value.int id).truthy = true := by simp [Value.truthy, hz]
    simp only [Catalog.unknownStore, Value.orElse, ht, if_true]
    rfl

theorem store_eq {limit : Option Nat} {id : Int} (h : fits id = true) :
    (Catalog.stored (some t) limit).store (.int id) = .ok (t.storeAt id) := by
  unfold storeAt
  split
  · next hz => subst hz; rfl
  · next hz =>
      have ht : (!(Value.int id).truthy) = false := by simp [Value.truthy, hz]
      have ha : asked (.int id) = .ok (.int id) := rfl
      simp only [Catalog.store, ht, ha, Catalog.tables?, bind, Except.bind, pure, Except.pure, checkPlain_int h]
      cases t.store? (.int id) with
      | none => exact unknownStore_int id
      | some s => rfl

theorem loadRows_cons (limit : Option Nat) (store id : Int) (ids : List Int) :
    (Catalog.stored (some t) limit).loadRows (.int store) (.list ((id :: ids).map Value.int)) =
      hand limit (Keyed.keys (blankRows ((id :: ids).map .int)) ++ [.int store]) >>= fun _ =>
        t.loadRows (.int store) ((id :: ids).map .int) := by
  have hk : ((id :: ids).map Value.int).mapM Value.toKey = .ok ((id :: ids).map Value.int) := by
    rw [List.mapM_map]
    exact Folds.mapM_ok fun _ _ => rfl
  unfold Catalog.loadRows
  change (((id :: ids).map Value.int).mapM Value.toKey >>= _) = _
  rw [hk]
  rfl

section Loads

variable {limit : Option Nat} {store : Int} (hs : fits store = true) {ids : List Int} (hf : ∀ id ∈ ids, fits id = true)

include hs hf

theorem loadRows_stored (hl : takes limit (ids.length + 1) = true) :
    (Catalog.stored (some t) limit).loadRows (.int store) (.list (ids.map Value.int)) =
      t.loadRows (.int store) (ids.map Value.int) := by
  obtain ⟨kept, -, hmem, hlen, hblank⟩ := exists_blankRows ids
  have hhand : hand limit (Keyed.keys (blankRows (ids.map .int)) ++ [.int store]) = .ok () := by
    rw [hblank, Keyed.keys_table, ← List.map_singleton, ← List.map_append]
    refine hand_ints (takes_of_le hl ?_) ?_
    · rw [List.length_append, List.length_singleton]
      omega
    · intro id hid
      rcases List.mem_append.mp hid with hid | hid
      · exact hf id ((hmem id).mp hid)
      · rw [List.mem_singleton.mp hid]
        exact hs
  cases ids with
  | nil => exact (t.loadRows_table store List.nodup_nil).symm
  | cons id ids =>
      rw [loadRows_cons, hhand]
      rfl

theorem loadRows_eq (hn : ids.Nodup) (hl : takes limit (ids.length + 1) = true) :
    (Catalog.stored (some t) limit).loadRows (.int store) (.list (ids.map Value.int)) =
      .ok (Keyed.table ids (t.loadedRow store)) := by
  rw [t.loadRows_stored hs hf hl, t.loadRows_table store hn]

end Loads

theorem loadRows_crowd {limit : Option Nat} {ids : List Int} (hn : ids.Nodup) (hne : ids ≠ [])
    (hl : takes limit (ids.length + 1) = false) (store : Int) :
    (Catalog.stored (some t) limit).loadRows (.int store) (.list (ids.map Value.int)) = .error .tooManyValues := by
  obtain ⟨id, ids, rfl⟩ := List.exists_cons_of_ne_nil hne
  rw [loadRows_cons, blankRows_of_nodup hn, Keyed.keys_table, ← List.map_singleton, ← List.map_append, hand_crowd]
  · rfl
  · rwa [List.length_append, List.length_singleton]

theorem isScalar_optionsOf (owner : Int) (store : Value) : ∀ o ∈ t.optionsOf owner store, o.2.isScalar = true := by
  have ha : ∀ (rows : List OptionRow) (es : Entries), (∀ o ∈ es, o.2.isScalar = true) →
      ∀ o ∈ rows.foldl (fun es o => es.set o.value (.text o.label)) es, o.2.isScalar = true := by
    intro rows es he
    refine List.foldlRecOn (motive := fun es : Entries => ∀ o ∈ es, o.2.isScalar = true) _ _ he ?_
    intro es he row _ o ho
    rcases Keyed.mem_insert_text ho with ho | rfl
    · exact he o ho
    · rfl
  exact ha _ _ (ha _ _ (by simp))

theorem labelled_listing (store : Value) (rows : List AttributeRow) : (t.listing store rows).Labelled := by
  intro e he
  obtain ⟨row, -, rfl⟩ := List.mem_map.mp he
  refine ⟨_, rfl, ?_⟩
  refine List.foldlRecOn (motive := fun es : Entries => ∀ o ∈ es, o.2.isScalar = true) _ _ (by simp) ?_
  intro es hs o ho d hd
  rcases Keyed.mem_insert_text hd with hd | rfl
  · exact hs d hd
  · split at ho
    · exact t.isScalar_optionsOf _ _ o ho
    · cases ho

theorem addShopFields_eq {limit : Option Nat} {s : Value} {store : Store}
    (hs : (Catalog.stored (some t) limit).store s = .ok store) {asked ids : List Int}
    (hn : asked.Nodup) (hm : ∀ id, id ∈ ids ↔ id ∈ asked) (hf : ∀ id ∈ ids, fits id = true)
    (hl : takes limit (ids.length + 1) = true) {row : Int → Entries} (hr : ∀ id ∈ asked, Gathers (row id)) :
    (Catalog.stored (some t) limit).addShopFields s (ids.map Value.int) (.map (Keyed.table asked fun id => .map (row id))) =
      .ok (.map (Keyed.table asked fun id => .map (t.shopRow store id (row id)))) := by
  cases ids with
  | nil =>
      have ha : asked = [] := List.eq_nil_iff_forall_not_mem.mpr fun id hid => List.not_mem_nil ((hm id).mpr hid)
      subst ha
      rfl
  | cons id ids =>
      have hfirst : hand limit ((id :: ids).map .int) = .ok () := hand_ints (takes_of_le hl (Nat.le_succ _)) hf
      have hlast : hand limit ((id :: ids).map .int) 1 = .ok () := hand_ints hl hf
      unfold Catalog.addShopFields
      change ((Catalog.stored (some t) limit).store s >>= fun store => hand limit ((id :: ids).map .int) >>= fun _ =>
        t.addStock ((id :: ids).map .int) _ >>= fun rows => hand limit ((id :: ids).map .int) 1 >>= fun _ =>
        t.addPrices store.website ((id :: ids).map .int) rows) = _
      simp only [hs, Folds.ok_bind, hfirst, hlast]
      exact t.addShopFields_table store hn hm hr

theorem tidy_shopRow {t : Tables} (h : t.Plain) (store : Store) (id : Int) {row : Entries} (hr : Row.Tidy row) :
    Row.Tidy (t.shopRow store id row) := by
  have hs : Row.Tidy ((t.stockOf id).foldl stocked row) :=
    List.foldlRecOn (motive := Row.Tidy) _ _ hr fun _ hb p hp =>
      tidy_stocked hb (h.visibility p (List.mem_filter.mp hp).1)
  have hc : Row.Tidy ((t.categoriesOf id).foldl placed ((t.stockOf id).foldl stocked row)) :=
    List.foldlRecOn (motive := Row.Tidy) _ _ hs fun _ hb c hc => tidy_placed hb (h.position c (List.mem_filter.mp hc).1)
  exact List.foldlRecOn (motive := Row.Tidy) _ _ hc fun _ hb p _ => tidy_priced hb p

theorem enrichRows_table [Calendar.Zones] {store : Store} {se so : Listing} (hs : se.Labelled) (ho : so.Labelled)
    {ids : List Int} {row : Int → Entries} (hr : ∀ id, Row.Tidy (row id)) :
    enrichRows store se so (Keyed.table ids fun id => .map (row id)) =
      .ok (Keyed.table ids fun id => Row.enriched store se so (row id)) := by
  unfold enrichRows Keyed.table
  rw [List.mapM_map]
  apply Folds.mapM_ok
  intro id _
  change (Row.enrich store se so (row id) >>= _) = _
  rw [Row.enrich_eq hs ho (hr id)]
  rfl

theorem display_int (n : Int) : (Value.int n).display = toString n := String.ofList_toList

theorem documentOf_enrichedRow [Calendar.Zones] (settings : Settings) (entityType : Value) (store : Store) (id : Int) :
    documentOf settings entityType (.int id) (.map (t.enrichedRow store id)) =
      .ok (t.document settings entityType store id) := by
  have hs : (t.enrichedRow store id).field? Document.storeField = some (.int store.id) := Row.storeField_enriched
  simp only [documentOf, Value.toEntries, hs, bind, Except.bind, pure, Except.pure, display_int]
  rfl

/-- The documents of products are what is built for each of them on its own. -/
theorem documentsFor_table [Calendar.Zones] {t : Tables} (h : t.Sound) {limit : Option Nat} {store : Int}
    (hs : fits store = true) {ids : List Int} (hn : ids.Nodup) (hf : ∀ id ∈ ids, fits id = true)
    (hl : takes limit (ids.length + 1) = true) (settings : Settings) (entityType : Value) :
    Service.documentsFor settings (.stored (some t) limit) (.int store) (Keyed.table ids (t.loadedRow store)) entityType =
      .ok (ids.map (t.document settings entityType (t.storeAt store))) := by
  have ha := t.addShopFields_eq (t.store_eq hs) hn (fun _ => .rfl) hf hl fun id _ =>
    gathers_of_tidy (t.tidy_loadedRow store id)
  have he : enrichRows (t.storeAt store) (t.searchables (.int (t.storeAt store).id))
      (t.sortables (.int (t.storeAt store).id))
      (Keyed.table ids fun id => .map (t.shopRow (t.storeAt store) id (t.loadedRow store id))) =
      .ok (Keyed.table ids (t.enrichedRow (t.storeAt store))) := by
    unfold enrichedRow
    rw [t.storeAt_id]
    exact enrichRows_table (t.labelled_listing _ _) (t.labelled_listing _ _) fun id =>
      tidy_shopRow h.toPlain _ id (t.tidy_loadedRow store id)
  have hd : documents settings entityType ((Keyed.table ids (t.enrichedRow (t.storeAt store))).mapValues .map) =
      .ok (ids.map (t.document settings entityType (t.storeAt store))) := by
    unfold documents
    rw [Keyed.mapValues_table, Keyed.table, List.mapM_map]
    exact Folds.mapM_ok fun id _ => t.documentOf_enrichedRow settings entityType _ id
  unfold Service.documentsFor
  rw [Keyed.keys_table, Keyed.mapValues_table, ha]
  change ((Catalog.stored (some t) limit).store (.int store) >>= fun s =>
    enrichRows s (t.searchables (.int s.id)) (t.sortables (.int s.id)) _ >>= fun rows =>
    documents settings entityType (rows.mapValues .map)) = _
  rw [t.store_eq hs]
  change (enrichRows (t.storeAt store) _ _ _ >>= _) = _
  rw [he]
  exact hd

end CatalogSearch.Catalog.Tables
