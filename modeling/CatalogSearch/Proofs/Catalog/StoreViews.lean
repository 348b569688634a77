import CatalogSearch.Proofs.Catalog.SortFields

namespace CatalogSearch.Catalog.Tables

variable {t t' : Tables} {row : StoreRow}

/-- The tables without what is for other stores and for websites other than the store's. -/
def seenFrom (t : Tables) (row : StoreRow) : Tables where
  stores := t.stores.filter (·.id == row.id)
  attributes := t.attributes
  options := t.options.filter (·.storeId.all (· == row.id))
  products := t.products
  values := t.values.filter (·.storeId.all (· == row.id))
  categories := t.categories
  prices := t.prices.filter (·.website == row.website)

theorem store?_seenFrom (t : Tables) (row : StoreRow) :
    (t.seenFrom row).store? (.int row.id) = t.store? (.int row.id) := by
  rw [store?, store?, seenFrom, List.find?_filter]
  congr 2
  funext s
  rw [refersTo_int]
  by_cases h : row.id = s.id <;> simp [h]

theorem visibleValues_seenFrom (t : Tables) (row : StoreRow) (ids : List Value) :
    (t.seenFrom row).visibleValues (.int row.id) ids = t.visibleValues (.int row.id) ids := by
  simp only [visibleValues, seenFrom, List.filter_filter]
  congr 1 <;> apply List.filter_congr <;> intro v _ <;> cases v.storeId with
  | none => simp
  | some id =>
      by_cases h : row.id = id
      · simp [refersTo_int, h]
      · simp [refersTo_int, beq_false_of_ne h]

theorem loadRows_seenFrom (t : Tables) (row : StoreRow) (ids : List Value) :
    (t.seenFrom row).loadRows (.int row.id) ids = t.loadRows (.int row.id) ids := by
  rw [loadRows, visibleValues_seenFrom]
  rfl

theorem optionsOf_seenFrom (t : Tables) (row : StoreRow) (owner : Int) :
    (t.seenFrom row).optionsOf owner (.int row.id) = t.optionsOf owner (.int row.id) := by
  have hshared : ((t.seenFrom row).options.filter (·.attributeId == owner)).filter (·.storeId.isNone) =
      (t.options.filter (·.attributeId == owner)).filter (·.storeId.isNone) := by
    simp only [seenFrom, List.filter_filter]
    apply List.filter_congr
    intro o _
    cases o.storeId <;> simp
  have hown : ((t.seenFrom row).options.filter (·.attributeId == owner)).filter (isFor ·.storeId (.int row.id)) =
      (t.options.filter (·.attributeId == owner)).filter (isFor ·.storeId (.int row.id)) := by
    simp only [seenFrom, List.filter_filter]
    apply List.filter_congr
    intro o _
    cases o.storeId with
    | none => rfl
    | some id =>
        by_cases h : id = row.id
        · simp [isFor, Value.same_int, h]
        · simp [isFor, Value.same_int, beq_false_of_ne h]
  rw [optionsOf, optionsOf, hshared, hown]

theorem listing_seenFrom (t : Tables) (row : StoreRow) (rows : List AttributeRow) :
    (t.seenFrom row).listing (.int row.id) rows = t.listing (.int row.id) rows := by
  simp only [listing, attributeOf, optionsOf_seenFrom]

theorem searchables_seenFrom (t : Tables) (row : StoreRow) :
    (t.seenFrom row).searchables (.int row.id) = t.searchables (.int row.id) := t.listing_seenFrom row _

theorem sortables_seenFrom (t : Tables) (row : StoreRow) :
    (t.seenFrom row).sortables (.int row.id) = t.sortables (.int row.id) := t.listing_seenFrom row _

theorem addPrices_seenFrom (t : Tables) (row : StoreRow) (ids : List Value) (rows : Value) :
    (t.seenFrom row).addPrices row.website ids rows = t.addPrices row.website ids rows := by
  have hprices : (t.seenFrom row).prices.filter (fun p => isAsked ids p.productId && p.website == row.website) =
      t.prices.filter fun p => isAsked ids p.productId && p.website == row.website := by
    rw [seenFrom, List.filter_filter]
    apply List.filter_congr
    intro p _
    by_cases h : p.website = row.website <;> simp [h]
  rw [addPrices, hprices]
  rfl

theorem store_seenFrom (t : Tables) (row : StoreRow) :
    (Catalog.stored (some (t.seenFrom row))).store (.int row.id) = (Catalog.stored (some t)).store (.int row.id) := by
  have ha : asked (.int row.id) = .ok (.int row.id) := rfl
  simp only [Catalog.store, Catalog.tables?, ha, bind, Except.bind, pure, Except.pure, store?_seenFrom]

theorem store_eq_storeOf (h : t.Sound) (hm : row ∈ t.stores) (hz : row.id ≠ 0) :
    (Catalog.stored (some t)).store (.int row.id) = .ok (storeOf row) := by
  rw [t.store_eq (h.stores.fit row hm), storeAt_of_mem h hm hz]

theorem storedRows_seenFrom (t : Tables) (row : StoreRow) (ids : Value) :
    (Catalog.stored (some (t.seenFrom row))).loadRows (.int row.id) ids =
      (Catalog.stored (some t)).loadRows (.int row.id) ids := by
  have hkeys : ∀ keys : List Value,
      (hand none (Keyed.keys (blankRows keys) ++ [Value.int row.id]) >>= fun _ =>
        (t.seenFrom row).loadRows (.int row.id) keys) =
        (hand none (Keyed.keys (blankRows keys) ++ [Value.int row.id]) >>= fun _ => t.loadRows (.int row.id) keys) := by
    intro keys
    rw [loadRows_seenFrom]
  unfold Catalog.loadRows
  congr 1
  funext items
  congr 1
  funext keys
  cases keys with
  | nil => rfl
  | cons key keys => exact hkeys (key :: keys)

section

variable (hs : (Catalog.stored (some t)).store (.int row.id) = .ok (storeOf row))
include hs

theorem storedShopFields_seenFrom (ids : List Value) (rows : Value) :
    (Catalog.stored (some (t.seenFrom row))).addShopFields (.int row.id) ids rows =
      (Catalog.stored (some t)).addShopFields (.int row.id) ids rows := by
  have hstock : ∀ ids rows, (t.seenFrom row).addStock ids rows = t.addStock ids rows := fun _ _ => rfl
  simp only [Catalog.addShopFields, store_seenFrom, hs, Catalog.tables?, bind, Except.bind, pure, Except.pure, hstock, storeOf,
    addPrices_seenFrom]

theorem documentsFor_seenFrom [Calendar.Zones] (settings : Settings) (rows : Keyed Entries) (entityType : Value) :
    Service.documentsFor settings (.stored (some (t.seenFrom row))) (.int row.id) rows entityType =
      Service.documentsFor settings (.stored (some t)) (.int row.id) rows entityType := by
  simp only [Service.documentsFor, storedShopFields_seenFrom hs, store_seenFrom, hs, Catalog.searchables,
    Catalog.sortables, Catalog.tables?, bind, Except.bind, pure, Except.pure, storeOf, searchables_seenFrom,
    sortables_seenFrom]

end

theorem loadRows_repeated (t : Tables) (store : Int) (ids : List Int) :
    ∃ kept : List Int, kept.Nodup ∧ (∀ id, id ∈ kept ↔ id ∈ ids) ∧
      t.loadRows (.int store) (ids.map .int) = t.loadRows (.int store) (kept.map .int) := by
  obtain ⟨kept, hk, hmem, -, he⟩ := exists_blankRows ids
  have hvisible : t.visibleValues (.int store) (ids.map .int) = t.visibleValues (.int store) (kept.map .int) := by
    have hc : ∀ n, ids.contains n = kept.contains n := by
      intro n
      rw [Bool.eq_iff_iff, List.contains_iff_mem, List.contains_iff_mem, hmem]
    simp only [visibleValues, any_refersTo, hc]
  refine ⟨kept, hk, hmem, ?_⟩
  rw [loadRows, loadRows, he, blankRows_of_nodup hk, hvisible]

theorem exists_documents [Calendar.Zones] (h : t.Sound) {store : Int} (hs : fits store = true) {ids : List Int}
    (hf : ∀ id ∈ ids, fits id = true) (settings : Settings) (entityType : Value) :
    ∃ (rows : Keyed Entries) (kept : List Int), kept.Nodup ∧ (∀ id, id ∈ kept ↔ id ∈ ids) ∧
      (Catalog.stored (some t)).loadRows (.int store) (.list (ids.map Value.int)) = .ok rows ∧
      Service.documentsFor settings (.stored (some t)) (.int store) rows entityType =
        .ok (kept.map (t.document settings entityType (t.storeAt store))) := by
  obtain ⟨kept, hk, hmem, he⟩ := t.loadRows_repeated store ids
  have hfit : ∀ id ∈ kept, fits id = true := fun id hid => hf id ((hmem id).mp hid)
  refine ⟨_, kept, hk, hmem, ?_, documentsFor_table h hs hk hfit rfl settings entityType⟩
  rw [t.loadRows_stored hs hf rfl, he, t.loadRows_table store hk]

/-- What a store's documents are built from, and so they themselves, is the same for tables that only
differ in what is for other stores and for other websites; and products that can be asked for have documents. -/
theorem documents_ignore_other_stores [Calendar.Zones] (h : t.Sound) (hm : row ∈ t.stores) (hp : 0 < row.id)
    (hv : t'.seenFrom row = t.seenFrom row) (settings : Settings) (entityType : Value) :
    (Catalog.stored (some t')).searchables (.int row.id) = (Catalog.stored (some t)).searchables (.int row.id) ∧
    (Catalog.stored (some t')).sortables (.int row.id) = (Catalog.stored (some t)).sortables (.int row.id) ∧
    (∀ ids, (Catalog.stored (some t')).loadRows (.int row.id) ids =
      (Catalog.stored (some t)).loadRows (.int row.id) ids) ∧
    (∀ rows, Service.documentsFor settings (.stored (some t')) (.int row.id) rows entityType =
      Service.documentsFor settings (.stored (some t)) (.int row.id) rows entityType) ∧
    ∀ ids : List Int, (∀ id ∈ ids, fits id = true) → ∃ (rows : Keyed Entries) (kept : List Int),
      kept.Nodup ∧ (∀ id, id ∈ kept ↔ id ∈ ids) ∧
      (Catalog.stored (some t)).loadRows (.int row.id) (.list (ids.map Value.int)) = .ok rows ∧
      Service.documentsFor settings (.stored (some t)) (.int row.id) rows entityType =
        .ok (kept.map (t.document settings entityType (storeOf row))) := by
  have hz : row.id ≠ 0 := by omega
  have hs := store_eq_storeOf h hm hz
  have hs' : (Catalog.stored (some t')).store (.int row.id) = .ok (storeOf row) := by
    rw [← store_seenFrom, hv, store_seenFrom, hs]
  refine ⟨?_, ?_, ?_, ?_, ?_⟩
  · change Except.ok (t'.searchables (.int row.id)) = Except.ok (t.searchables (.int row.id))
    rw [← t'.searchables_seenFrom, hv, searchables_seenFrom]
  · change Except.ok (t'.sortables (.int row.id)) = Except.ok (t.sortables (.int row.id))
    rw [← t'.sortables_seenFrom, hv, sortables_seenFrom]
  · intro ids
    rw [← storedRows_seenFrom t', hv, storedRows_seenFrom]
  · intro rows
    rw [← documentsFor_seenFrom hs', hv, documentsFor_seenFrom hs]
  · intro ids hf
    rw [← storeAt_of_mem h hm hz]
    exact exists_documents h (h.stores.fit row hm) hf settings entityType

def neighbourTables : Tables := { lampTables with
  stores := lampTables.stores ++ [⟨2, "fr", "French", 2, "fr_FR", "UTC", some true⟩]
  options := [⟨1, 3, some 2, "Lampe", "Lampadaire"⟩]
  values := lampTables.values ++ [⟨2, 7, 3, some 2, some "Lampadaire"⟩]
  prices := lampTables.prices ++ [⟨2, 7, 0, 2, .ofInt 25⟩] }

open scoped Calendar.Daylight

theorem lamp_ignores_neighbour : ∃ rows document,
    (Catalog.stored (some neighbourTables)).loadRows (.int 1) (.list [.int 7, .int 7]) = .ok rows ∧
    Service.documentsFor Settings.initial (.stored (some lampTables)) (.int 1) rows defaultEntityType =
      .ok [document] ∧
    Service.documentsFor Settings.initial (.stored (some neighbourTables)) (.int 1) rows defaultEntityType =
      .ok [document] := by
  have hv : neighbourTables.seenFrom ⟨1, "de", "German", 1, "de_DE", "UTC", some true⟩ =
      lampTables.seenFrom ⟨1, "de", "German", 1, "de_DE", "UTC", some true⟩ := rfl
  obtain ⟨-, -, hr, hd, hall⟩ := documents_ignore_other_stores sound_lampTables (List.mem_singleton_self _)
    (by decide) hv Settings.initial defaultEntityType
  obtain ⟨rows, kept, hk, hmem, hrows, hdocs⟩ := hall [7, 7] (by simp [fits, twoTo])
  have hone : kept = [7] := by
    refine List.perm_singleton.mp ((List.perm_ext_iff_of_nodup hk (by simp)).mpr ?_)
    simp [hmem]
  rw [hone] at hdocs
  exact ⟨rows, _, (hr _).trans hrows, hdocs, (hd rows).trans hdocs⟩

end CatalogSearch.Catalog.Tables
