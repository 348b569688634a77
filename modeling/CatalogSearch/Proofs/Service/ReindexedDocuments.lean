import CatalogSearch.Proofs.Catalog.SortFields
import CatalogSearch.Proofs.Service.ReindexRuns
import CatalogSearch.Proofs.Value.Numerals

namespace CatalogSearch.Service

open Catalog Engine Action Holdings

variable {settings : Settings} {t : Tables} {limit : Option Nat} {ids : List Int} {before after : Documents}
  {e : Holdings}

def OfStore (store : Int) (source : Entries) : Prop := source.field? Document.storeField = some (.int store)

/-- Every document is for the store that its name ends in. -/
def Filed (documents : Documents) : Prop :=
  ∀ key source, documents key = some source →
    ∃ (id : String) (store : Int), key = id ++ "|" ++ toString store ∧ OfStore store source

theorem OfStore.unique {source : Entries} {r s : Int} (hr : OfStore r source) (hs : OfStore s source) : r = s := by
  cases hr.symm.trans hs
  rfl

theorem documentName_injective (store : Int) : Function.Injective (Tables.documentName store) :=
  fun _ _ h => Numerals.toString_inj (Numerals.barred_inj h).1

theorem selects_iff {source : Entries} {store r : Int} (hr : OfStore r source) :
    selects (Client.selection (.int store) .null) source = true ↔ store = r := by
  rw [selects_selection, hr, Option.any_some, Value.same_int]
  simp

theorem products_of_documents {rebuild : Bool} {e e0 : Holdings}
    (h : e0.documents = (if rebuild then e.drop (settings.indexFor (.text "*")) else e).documents) :
    e0.products settings = if rebuild then fun _ => none else e.products settings := by
  rw [Holdings.products, h]
  cases rebuild with
  | false => rfl
  | true => exact if_pos (covers_indexFor settings "product")

theorem takes_two {size : Int} (hs : 1 ≤ size) {p : ProductRow} (hp : p ∈ t.activeProducts)
    (hl : takes limit (min size.toNat t.activeProducts.length + 1) = true) : takes limit 2 = true := by
  have hlength := List.length_pos_of_mem hp
  exact takes_of_le hl (by omega)

def emptyHoldings : Holdings := ⟨[], fun _ _ => none⟩

section Refilled

variable [Calendar.Zones]

/-- What indexing a product alone in a store builds from the rows there are. -/
def Builds (settings : Settings) (t : Tables) (limit : Option Nat) (store product : Int) (source : Entries) : Prop :=
  ∃ rows, (Catalog.stored (some t) limit).loadRows (.int store) (.list [.int product]) = .ok rows ∧
    documentsFor settings (.stored (some t) limit) (.int store) rows defaultEntityType =
      .ok [⟨settings.indexFor defaultEntityType, .text (Tables.documentName store product), source⟩]

def content (settings : Settings) (t : Tables) (store id : Int) : Entries :=
  (t.document settings defaultEntityType (t.storeAt store) id).source

theorem builds_iff (h : t.Sound) (hl : takes limit 2 = true) {store product : Int} (hs : fits store = true)
    (hp : fits product = true) {source : Entries} :
    Builds settings t limit store product source ↔ source = content settings t store product := by
  have hn : [product].Nodup := List.nodup_singleton product
  have hf : ∀ id ∈ [product], fits id = true := by
    intro id hid
    rw [List.mem_singleton.mp hid]
    exact hp
  have hr := t.loadRows_eq hs hf hn hl
  have hd := Tables.documentsFor_table h hs hn hf hl settings defaultEntityType
  constructor
  · rintro ⟨rows, hrows, hdocs⟩
    cases hr.symm.trans hrows
    have he := (List.cons.inj (Except.ok.inj (hd.symm.trans hdocs))).1
    exact (congrArg Document.source he).symm
  · rintro rfl
    refine ⟨_, hr, ?_⟩
    rw [hd, List.map_singleton, content, Tables.document, t.storeAt_id]

theorem ofStore_content (store id : Int) : OfStore store (content settings t store id) := by
  have hs : (t.enrichedRow (t.storeAt store) id).field? Document.storeField = some (.int (t.storeAt store).id) :=
    Row.storeField_enriched
  rw [t.storeAt_id] at hs
  rw [OfStore, content, Tables.document, Entries.field?_set_of_ne _ _ (by decide),
    Entries.field?_set_of_ne _ _ (by decide)]
  exact hs

theorem Builds.id {store product : Int} {source : Entries} (h : t.Sound) (hl : takes limit 2 = true)
    (hs : fits store = true) (hp : fits product = true) (hb : Builds settings t limit store product source) :
    source.field? "id" = some (.int product) := by
  rw [(builds_iff h hl hs hp).mp hb]
  exact Entries.field?_set_self _ _ _

/-- A store that is refilled has the documents of the products; the other documents stay. -/
theorem documents_refill (hd : Filed (e.products settings)) (store : Store) (key : String) (source : Entries) :
    (refill settings t ids e store).products settings key = some source ↔
      (∃ id ∈ ids, key = Tables.documentName store.id id ∧ source = content settings t store.id id) ∨
        e.products settings key = some source ∧ ¬ OfStore store.id source := by
  have hsent : sent settings t store.id ids = ids.map fun id => Document.toValue
      ⟨settings.indexFor defaultEntityType, .text (Tables.documentName store.id id),
        content settings t store.id id⟩ := by
    simp only [sent, content, Tables.document, t.storeAt_id]
  rw [Holdings.products, refill, hsent, documents_foldl_put (documentName_injective store.id), documents_remove]
  refine or_congr_right ?_
  constructor
  · rintro ⟨-, hk, hs⟩
    refine ⟨hk, ?_⟩
    intro ho
    rw [(selects_iff ho).mpr rfl] at hs
    cases hs
  · rintro ⟨hk, hs⟩
    -- The name of a document of another store ends otherwise than those of the documents that are put in.
    obtain ⟨id, r, rfl, hr⟩ := hd key source hk
    have hne : store.id ≠ r := fun he => hs (he ▸ hr)
    refine ⟨?_, hk, ?_⟩
    · intro p _ hkey
      exact hne (Numerals.barred_inj hkey).2.symm
    · exact Bool.eq_false_iff.mpr fun hsel => hne ((selects_iff hr).mp hsel)

theorem filed_refill (hd : Filed (e.products settings)) (store : Store) :
    Filed ((refill settings t ids e store).products settings) := by
  intro key source hk
  rcases (documents_refill hd store key source).mp hk with ⟨id, -, rfl, rfl⟩ | ⟨hk, -⟩
  · exact ⟨toString id, store.id, rfl, ofStore_content store.id id⟩
  · exact hd key source hk

/-- How documents stand when some stores have been refilled: theirs are those of the products, and the
rest are those there were for other stores. -/
def Refilled (settings : Settings) (t : Tables) (ids stores : List Int) (before after : Documents) : Prop :=
  ∀ key source, after key = some source ↔
    (∃ store ∈ stores, ∃ id ∈ ids, key = Tables.documentName store id ∧ source = content settings t store id) ∨
      before key = some source ∧ ∀ store ∈ stores, ¬ OfStore store source

theorem refilled_nil (documents : Documents) : Refilled settings t ids [] documents documents := by
  intro key source
  simp

theorem Refilled.refill {stores : List Int} (h : Refilled settings t ids stores before (e.products settings))
    (hd : Filed (e.products settings)) (store : Store) :
    Refilled settings t ids (stores ++ [store.id]) before
      ((refill settings t ids e store).products settings) := by
  intro key source
  rw [documents_refill hd, h key source]
  constructor
  · rintro (⟨id, hid, hk, hs⟩ | ⟨⟨r, hr, id, hid, hk, hs⟩ | ⟨hb, hr⟩, ho⟩)
    · exact .inl ⟨store.id, List.mem_append_right _ (List.mem_singleton_self _), id, hid, hk, hs⟩
    · exact .inl ⟨r, List.mem_append_left _ hr, id, hid, hk, hs⟩
    · refine .inr ⟨hb, ?_⟩
      intro r hm
      rcases List.mem_append.mp hm with hm | hm
      · exact hr r hm
      · exact List.mem_singleton.mp hm ▸ ho
  · rintro (⟨r, hm, id, hid, hk, hs⟩ | ⟨hb, hr⟩)
    · by_cases he : r = store.id
      · subst he
        exact .inl ⟨id, hid, hk, hs⟩
      · -- What an earlier store was refilled with is for that store, so cleaning this one spares it.
        refine .inr ⟨.inl ⟨r, ?_, id, hid, hk, hs⟩, ?_⟩
        · exact (List.mem_append.mp hm).resolve_right fun hm => he (List.mem_singleton.mp hm)
        · rw [hs]
          exact fun ho => he ((ofStore_content r id).unique ho)
    · refine .inr ⟨.inr ⟨hb, ?_⟩, ?_⟩
      · exact fun r hm => hr r (List.mem_append_left _ hm)
      · exact hr store.id (List.mem_append_right _ (List.mem_singleton_self _))

theorem Refilled.foldl (stores : List Store) {done : List Int}
    (h : Refilled settings t ids done before (e.products settings)) (hd : Filed (e.products settings)) :
    Refilled settings t ids (done ++ stores.map (·.id)) before
        ((stores.foldl (Service.refill settings t ids) e).products settings) ∧
      Filed ((stores.foldl (Service.refill settings t ids) e).products settings) := by
  -- The stores that are done grow at their end, as the engine changes.
  induction stores generalizing e done with
  | nil => exact ⟨by simpa using h, hd⟩
  | cons store stores ih =>
      have hstep := ih (h.refill hd store) (filed_refill hd store)
      rw [List.append_assoc, List.singleton_append] at hstep
      exact hstep

/-- What a reindex makes of the documents there were: each active store has one of each active product,
as it is built from the rows there are, and the other stores keep theirs unless the index was rebuilt. -/
structure Reindexed (settings : Settings) (t : Tables) (limit : Option Nat) (rebuild : Bool)
    (before after : Documents) : Prop where
  built : ∀ s ∈ t.activeStores, ∀ p ∈ t.activeProducts, ∃ source, Builds settings t limit s.id p.id source
  active : ∀ s ∈ t.activeStores, ∀ key source, after key = some source ∧ OfStore s.id source ↔
    ∃ p ∈ t.activeProducts, key = Tables.documentName s.id p.id ∧ source.field? "id" = some (.int p.id) ∧
      Builds settings t limit s.id p.id source
  others : ∀ store, (∀ s ∈ t.activeStores, s.id ≠ store) → ∀ key source, OfStore store source →
    (after key = some source ↔ rebuild = false ∧ before key = some source)
  filed : Filed after

theorem Refilled.reindexed (h : t.Sound) (hl : ∀ p ∈ t.activeProducts, takes limit 2 = true) {rebuild : Bool}
    (hr : Refilled settings t (t.activeProducts.map (·.id)) (t.activeStores.map (·.id))
      (if rebuild then fun _ => none else before) after) (hf : Filed after) :
    Reindexed settings t limit rebuild before after := by
  have hstore : ∀ s ∈ t.activeStores, fits s.id = true := fun s hs => h.stores.fit s (List.mem_filter.mp hs).1
  have hproduct : ∀ p ∈ t.activeProducts, fits p.id = true := fun p hp => h.products.fit p (List.mem_filter.mp hp).1
  refine ⟨?_, ?_, ?_, hf⟩
  · intro s hs p hp
    exact ⟨_, (builds_iff h (hl p hp) (hstore s hs) (hproduct p hp)).mpr rfl⟩
  · intro s hs key source
    rw [hr key source]
    constructor
    · rintro ⟨⟨r, hm, id, hid, rfl, rfl⟩ | ⟨-, hn⟩, ho⟩
      · obtain rfl := (ofStore_content r id).unique ho
        obtain ⟨p, hp, rfl⟩ := List.mem_map.mp hid
        have hb : Builds settings t limit s.id p.id (content settings t s.id p.id) :=
          (builds_iff h (hl p hp) (hstore s hs) (hproduct p hp)).mpr rfl
        exact ⟨p, hp, rfl, hb.id h (hl p hp) (hstore s hs) (hproduct p hp), hb⟩
      · exact (hn s.id (List.mem_map_of_mem hs) ho).elim
    · rintro ⟨p, hp, rfl, -, hb⟩
      obtain rfl := (builds_iff h (hl p hp) (hstore s hs) (hproduct p hp)).mp hb
      exact ⟨.inl ⟨s.id, List.mem_map_of_mem hs, p.id, List.mem_map_of_mem hp, rfl, rfl⟩, ofStore_content s.id p.id⟩
  · intro store hn key source ho
    rw [hr key source]
    constructor
    · rintro (⟨r, hm, id, -, -, rfl⟩ | ⟨hb, -⟩)
      · obtain ⟨s, hs, rfl⟩ := List.mem_map.mp hm
        exact (hn s hs ((ofStore_content s.id id).unique ho)).elim
      · cases rebuild with
        | false => exact ⟨rfl, hb⟩
        | true => cases hb
    · rintro ⟨rfl, hb⟩
      refine .inr ⟨hb, ?_⟩
      intro r hm hor
      obtain ⟨s, hs, rfl⟩ := List.mem_map.mp hm
      exact hn s hs (hor.unique ho)

theorem Refilled.unchanged {stores : List Int} {again : Documents} {rebuild : Bool}
    (h : Refilled settings t ids stores (if rebuild then fun _ => none else before) after)
    (ha : Refilled settings t ids stores (if rebuild then fun _ => none else after) again) : again = after := by
  funext key
  apply Option.ext
  intro source
  rw [ha key source]
  cases rebuild with
  | true => exact (h key source).symm
  | false =>
      constructor
      · rintro (hs | ⟨hk, -⟩)
        · exact (h key source).mpr (.inl hs)
        · exact hk
      · intro hk
        rcases (h key source).mp hk with hs | ⟨-, hn⟩
        · exact .inl hs
        · exact .inr ⟨hk, hn⟩

theorem exec_reindex (h : t.Sound) (hp : ∀ p ∈ t.activeProducts, 0 < p.id) (hu : (settings .url).truthy) {size : Int}
    (hb : (settings .batchSize).toInt = .ok size) (hs : 1 ≤ size) (hf : fits size = true)
    (hl : takes limit (min size.toNat t.activeProducts.length + 1) = true) (rebuild : Bool) (l : Link Holdings)
    (hd : Filed (l.engine.products settings)) :
    ∃ l', exec (reindex (some t) rebuild limit) settings l =
        (.ok (.int (t.activeStores.length * t.activeProducts.length)), l') ∧
      Filed (l'.engine.products settings) ∧
      Refilled settings t (t.activeProducts.map (·.id)) (t.activeStores.map (·.id))
        (if rebuild then fun _ => none else l.engine.products settings) (l'.engine.products settings) := by
  obtain ⟨e, he, hy⟩ := ends_reindex hu (yields_indexStores h hp hu hb hs hf hl) rebuild l.engine
  obtain ⟨l', hr, hl'⟩ := hy l rfl
  have hstart := products_of_documents he
  have hfiled : Filed (e.products settings) := by
    rw [hstart]
    cases rebuild with
    | false => exact hd
    | true => exact fun key source hk => by cases hk
  have hnil : Refilled settings t (t.activeProducts.map (·.id)) [] (e.products settings) (e.products settings) :=
    refilled_nil _
  have hall := hnil.foldl (t.activeStores.map fun s => t.storeAt s.id) hfiled
  have hids : (t.activeStores.map fun s => t.storeAt s.id).map (·.id) = t.activeStores.map (·.id) := by
    rw [List.map_map]
    exact List.map_congr_left fun s _ => t.storeAt_id s.id
  rw [List.nil_append, hids, hstart, ← hl'] at hall
  exact ⟨l', hr, hall.2, hall.1⟩

/-- After a reindex every active store has exactly the documents of the active products, as they are built
from the rows there are, and a second reindex changes nothing. -/
theorem reindex_leaves_right_documents (h : t.Sound) (hp : ∀ p ∈ t.activeProducts, 0 < p.id)
    (hu : (settings .url).truthy) {size : Int} (hb : (settings .batchSize).toInt = .ok size) (hs : 1 ≤ size)
    (hf : fits size = true) (hl : takes limit (min size.toNat t.activeProducts.length + 1) = true) (rebuild : Bool)
    (l : Link Holdings) (hd : Filed (l.engine.products settings)) :
    ∃ l' l'', exec (reindex (some t) rebuild limit) settings l =
        (.ok (.int (t.activeStores.length * t.activeProducts.length)), l') ∧
      Reindexed settings t limit rebuild (l.engine.products settings) (l'.engine.products settings) ∧
      exec (reindex (some t) rebuild limit) settings l' =
        (.ok (.int (t.activeStores.length * t.activeProducts.length)), l'') ∧
      l''.engine.products settings = l'.engine.products settings := by
  obtain ⟨l', hr, hf', hd'⟩ := exec_reindex h hp hu hb hs hf hl rebuild l hd
  obtain ⟨l'', hr', -, hd''⟩ := exec_reindex h hp hu hb hs hf hl rebuild l' hf'
  exact ⟨l', l'', hr, hd'.reindexed h (fun p hm => takes_two hs hm hl) hf', hr', hd'.unchanged hd''⟩

/-- What fails at the first store leaves it without the documents of the products. -/
theorem not_reindexed_of_failure (h : t.Sound) (hl : takes limit 2 = true) (hu : (settings .url).truthy) {s : StoreRow}
    {rest : List StoreRow} (hs : t.activeStores = s :: rest) {p : ProductRow} (hp : p ∈ t.activeProducts)
    {size : Int} (hb : (settings .batchSize).toInt = .ok size) {failure : Failure}
    (hf : ∀ store processed (l : Link Holdings), exec (indexBatches t limit size store processed) settings l =
      (.error failure, l)) :
    ∃ l' : Link Holdings, exec (reindex (some t) false limit) settings ⟨emptyHoldings, false, none, [], []⟩ =
        (.error failure, l') ∧
      ¬ Reindexed settings t limit false (emptyHoldings.products settings) (l'.engine.products settings) := by
  obtain ⟨e, he, hy⟩ := ends_reindex hu (ends_indexStores_of_failure h hu hb hs hf) false emptyHoldings
  obtain ⟨l', hr, hl'⟩ := hy ⟨emptyHoldings, false, none, [], []⟩ rfl
  refine ⟨l', hr, ?_⟩
  intro hd
  have hm : s ∈ t.activeStores := hs ▸ List.mem_cons_self
  obtain ⟨source, hbuilt⟩ := hd.built s hm p hp
  have hid := hbuilt.id h hl (h.stores.fit s (List.mem_filter.mp hm).1) (h.products.fit p (List.mem_filter.mp hp).1)
  have hk := ((hd.active s hm _ source).mpr ⟨p, hp, rfl, hid, hbuilt⟩).1
  rw [hl', Holdings.products, documents_remove, he] at hk
  cases hk.1

end Refilled

/-- Documents of a product that there is no more, in the store of the lamp and in another one. -/
def staleHoldings : Holdings where
  names := []
  documents := fun _ key =>
    if key = "9|1" then some [(.text "store_id", .int 1)]
    else if key = "9|2" then some [(.text "store_id", .int 2)]
    else none

theorem filed_staleHoldings : Filed (staleHoldings.products Settings.initial) := by
  intro key source hk
  change (if key = "9|1" then _ else if key = "9|2" then _ else none) = some source at hk
  split at hk
  · next h1 =>
      cases hk
      exact ⟨"9", 1, by rw [h1]; decide, Entries.field?_set_self [] "store_id" (.int 1)⟩
  · split at hk
    · next h2 =>
        cases hk
        exact ⟨"9", 2, by rw [h2]; decide, Entries.field?_set_self [] "store_id" (.int 2)⟩
    · cases hk

def lampStore : StoreRow := ⟨1, "de", "German", 1, "de_DE", "UTC", some true⟩

def lampProduct : ProductRow := ⟨7, "lamp", .int 4, some true, some true⟩

theorem activeStores_lampTables : Tables.lampTables.activeStores = [lampStore] := rfl

theorem activeProducts_lampTables : Tables.lampTables.activeProducts = [lampProduct] := rfl

open scoped Calendar.Daylight

theorem lamp_reindex_leaves_right_documents : ∃ l' l'',
    exec (reindex (some Tables.lampTables) false (some 32766)) Settings.initial ⟨staleHoldings, false, none, [], []⟩ =
        (.ok (.int 1), l') ∧
      l'.engine.products Settings.initial "9|1" = none ∧
      l'.engine.products Settings.initial "9|2" = some [(.text "store_id", .int 2)] ∧
      (∃ source, Builds Settings.initial Tables.lampTables (some 32766) 1 7 source ∧
        l'.engine.products Settings.initial "7|1" = some source) ∧
      exec (reindex (some Tables.lampTables) false (some 32766)) Settings.initial l' = (.ok (.int 1), l'') ∧
      l''.engine.products Settings.initial = l'.engine.products Settings.initial := by
  have hstore : lampStore ∈ Tables.lampTables.activeStores := List.mem_singleton_self _
  have hproduct : lampProduct ∈ Tables.lampTables.activeProducts := List.mem_singleton_self _
  have hp : ∀ p ∈ Tables.lampTables.activeProducts, 0 < p.id := by
    rw [activeProducts_lampTables]
    intro p hp
    rw [List.mem_singleton.mp hp]
    decide
  have hfits : fits 1000 = true := by simp [fits, twoTo]
  obtain ⟨l', l'', hr, hd, hr', hd'⟩ := @reindex_leaves_right_documents Settings.initial Tables.lampTables
    (some 32766) _ Tables.sound_lampTables hp (by decide) 1000 rfl (by decide) hfits (by decide) false
    ⟨staleHoldings, false, none, [], []⟩ filed_staleHoldings
  refine ⟨l', l'', hr, ?_, ?_, ?_, hr', hd'⟩
  · cases hk : l'.engine.products Settings.initial "9|1" with
    | none => rfl
    | some source =>
        obtain ⟨id, store, hname, ho⟩ := hd.filed _ _ hk
        have hbar : "9" ++ "|" ++ toString (1 : Int) = id ++ "|" ++ toString store := by
          rw [← hname]
          decide
        rw [← (Numerals.barred_inj hbar).2] at ho
        obtain ⟨p, hm, hkey, -⟩ := (hd.active lampStore hstore "9|1" source).mp ⟨hk, ho⟩
        rw [activeProducts_lampTables, List.mem_singleton] at hm
        rw [hm] at hkey
        exact absurd hkey (by decide)
  · have hother : ∀ s ∈ Tables.lampTables.activeStores, s.id ≠ 2 := by
      rw [activeStores_lampTables]
      intro s hs
      rw [List.mem_singleton.mp hs]
      decide
    exact (hd.others 2 hother "9|2" _ (Entries.field?_set_self [] "store_id" (.int 2))).mpr ⟨rfl, rfl⟩
  · obtain ⟨source, hb⟩ := hd.built lampStore hstore lampProduct hproduct
    have hid := hb.id Tables.sound_lampTables (by decide) (by simp [fits, twoTo, lampStore])
      (by simp [fits, twoTo, lampProduct])
    exact ⟨source, hb, ((hd.active lampStore hstore "7|1" source).mpr ⟨lampProduct, hproduct, by decide, hid, hb⟩).1⟩

def vastSettings : Settings := Settings.initial.set .batchSize (.int 9223372036854775808)

/-- As many products as one wants, for one store. -/
def crowdTables (n : Nat) : Tables where
  stores := [lampStore]
  products := (List.range n).map fun (k : Nat) => ⟨k + 1, toString (k : Int), .int 4, some true, some true⟩

theorem sound_crowdTables {n : Nat} (hn : n < 32768) : (crowdTables n).Sound := by
  have hproducts : Kept ProductRow.id (fun a b => a.sku == b.sku) (crowdTables n).products := by
    refine ⟨?_, ?_, ?_⟩
    · exact List.pairwise_map.mpr (List.pairwise_lt_range.imp fun hlt => Int.add_lt_add_right (Int.ofNat_lt.mpr hlt) 1)
    · refine List.pairwise_map.mpr (List.pairwise_lt_range.imp fun {a b} hlt => ?_)
      rw [beq_eq_false_iff_ne]
      intro he
      have hab := Numerals.toString_inj he
      omega
    · intro p hp
      obtain ⟨k, hk, rfl⟩ := List.mem_map.mp hp
      have hlt := List.mem_range.mp hk
      have hbits : twoTo 63 = 9223372036854775808 := by decide
      rw [fits, hbits, Bool.and_eq_true, decide_eq_true_eq, decide_eq_true_eq]
      dsimp only
      omega
  refine ⟨⟨?_, ?_⟩, ⟨?_, ?_, ?_⟩, kept_nil, kept_nil, hproducts, kept_nil, held_nil, held_nil⟩ <;>
    simp +contextual [crowdTables, lampStore, Value.isScalar, fits, twoTo]

theorem activeProducts_crowdTables (n : Nat) : (crowdTables n).activeProducts = (crowdTables n).products :=
  List.filter_eq_self.mpr fun p hp => by
    obtain ⟨k, -, rfl⟩ := List.mem_map.mp hp
    rfl

theorem length_crowdTables (n : Nat) : (crowdTables n).activeProducts.length = n := by
  rw [activeProducts_crowdTables, crowdTables, List.length_map, List.length_range]

theorem positive_crowdTables (n : Nat) : ∀ p ∈ (crowdTables n).activeProducts, 0 < p.id := by
  rw [activeProducts_crowdTables]
  intro p hp
  obtain ⟨k, -, rfl⟩ := List.mem_map.mp hp
  exact Int.lt_add_one_of_le (Int.natCast_nonneg k)

def crowdSettings : Settings := Settings.initial.set .batchSize (.int 40000)

theorem exec_indexBatches_of_crowdTables [Calendar.Zones] {σ : Type} [Engine σ] (store : Store) (processed : Value)
    (l : Link σ) : exec (indexBatches (crowdTables 32766) (some 32766) 40000 store processed) crowdSettings l =
      (.error .tooManyValues, l) := by
  have hlength := length_crowdTables 32766
  refine exec_indexBatches_of_crowd (sound_crowdTables (by decide)) (positive_crowdTables _) (by decide)
    (by simp [fits, twoTo]) ?_ ?_ store processed l
  · exact List.ne_nil_of_length_eq_add_one hlength
  · rw [hlength]
    decide

open scoped Calendar.Daylight

/-- There is no end to a reindex of the tables if they do not take the size of the batches, or if there are more
products in a batch than a statement takes besides a store. -/
theorem reindex_fails_with_vast_batches : (vastSettings .batchSize).toInt = .ok 9223372036854775808 ∧
    (∃ l' : Link Holdings, exec (reindex (some Tables.lampTables) false) vastSettings
        ⟨emptyHoldings, false, none, [], []⟩ = (.error .outOfRange, l') ∧
      ¬ Reindexed vastSettings Tables.lampTables none false (emptyHoldings.products vastSettings)
        (l'.engine.products vastSettings)) ∧
    (crowdSettings .batchSize).toInt = .ok 40000 ∧ (crowdTables 32766).activeProducts.length = 32766 ∧
    ∃ l' : Link Holdings, exec (reindex (some (crowdTables 32766)) false (some 32766)) crowdSettings
        ⟨emptyHoldings, false, none, [], []⟩ = (.error .tooManyValues, l') ∧
      ¬ Reindexed crowdSettings (crowdTables 32766) (some 32766) false (emptyHoldings.products crowdSettings)
        (l'.engine.products crowdSettings) := by
  have hfits : fits 9223372036854775808 = false := by simp [fits, twoTo]
  have hlength := length_crowdTables 32766
  refine ⟨rfl, ?_, rfl, hlength, ?_⟩
  · exact not_reindexed_of_failure Tables.sound_lampTables rfl (by decide) activeStores_lampTables
      (List.mem_singleton_self lampProduct) rfl (exec_indexBatches_of_vast hfits)
  · obtain ⟨p, hp⟩ := List.exists_mem_of_length_eq_add_one hlength
    exact not_reindexed_of_failure (sound_crowdTables (by decide)) (by decide) (by decide) rfl hp rfl
      exec_indexBatches_of_crowdTables

end CatalogSearch.Service
