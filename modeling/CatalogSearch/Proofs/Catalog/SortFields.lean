import CatalogSearch.Calendar.Daylight
import CatalogSearch.Proofs.Catalog.ProductDocuments

namespace CatalogSearch.Catalog.Tables

open FieldNames

variable {t : Tables} {store : Store} {id : Int} {row : Entries} {name : String}

def VisibleIn (store : Int) (v : ValueRow) : Prop := v.storeId = none ∨ v.storeId = some store

theorem codeOf?_eq (h : t.Sound) {a : AttributeRow} (ha : a ∈ t.attributes) {v : ValueRow} (hv : v.attributeId = a.id) :
    t.codeOf? v = some a.code := by
  cases hf : t.attributes.find? (·.id == v.attributeId) with
  | none =>
      have hn := List.find?_eq_none.mp hf a ha
      simp [hv] at hn
  | some b =>
      have hb := List.find?_some hf
      have he : b = a := h.attributes.eq_of_id (List.mem_of_find?_eq_some hf) ha (by simpa [hv] using hb)
      rw [codeOf?, hf, he]
      rfl

theorem mem_codedValues (h : t.Sound) {a : AttributeRow} (ha : a ∈ t.attributes) {v : ValueRow} (hv : v ∈ t.values)
    (hp : v.productId = id) (hid : v.attributeId = a.id) {store : Int} (hs : VisibleIn store v) :
    (v, a.code) ∈ t.codedValues store id := by
  refine List.mem_filterMap.mpr ⟨v, ?_, by rw [codeOf?_eq h ha hid]; rfl⟩
  have hm : v ∈ t.values.filter fun v => [Value.int id].any fun w => refersTo w v.productId := by
    refine List.mem_filter.mpr ⟨hv, ?_⟩
    rw [List.any_cons, refersTo_int, hp]
    simp
  rw [visibleValues, List.mem_append]
  rcases hs with hs | hs
  · exact .inl (List.mem_filter.mpr ⟨hm, by rw [hs]; rfl⟩)
  · refine .inr (List.mem_filter.mpr ⟨hm, ?_⟩)
    rw [hs, Option.any_some, refersTo_int, beq_self_eq_true]

theorem hasField_shopRow (h : row.hasField name) : (t.shopRow store id row).hasField name := by
  have hs : ((t.stockOf id).foldl stocked row).hasField name :=
    List.foldlRecOn (motive := fun r : Entries => r.hasField name) _ _ h fun _ hb _ _ =>
      (Entries.hasField_set _ _ _ _).mpr (.inr ((Entries.hasField_set _ _ _ _).mpr (.inr hb)))
  have hc : ((t.categoriesOf id).foldl placed ((t.stockOf id).foldl stocked row)).hasField name :=
    List.foldlRecOn (motive := fun r : Entries => r.hasField name) _ _ hs fun _ hb _ _ =>
      (Entries.hasField_set _ _ _ _).mpr (.inr ((Entries.hasField_set _ _ _ _).mpr (.inr hb)))
  exact List.foldlRecOn (motive := fun r : Entries => r.hasField name) _ _ hc fun _ hb _ _ =>
    (Entries.hasField_set _ _ _ _).mpr (.inr hb)

theorem field?_price (h : t.Sound) {r : PriceRow} (hr : r ∈ t.prices) (hp : r.productId = id)
    (hw : r.website = store.website) :
    (t.shopRow store id row).field? (price r.customerGroup store.website) = some (.real r.price) := by
  have hm : r ∈ t.pricesOf store.website id := List.mem_filter.mpr ⟨hr, by simp [hp, hw]⟩
  refine Folds.foldl_reaches hm
    (fun b : Entries => b.field? (price r.customerGroup store.website) = some (.real r.price)) ?_ ?_ _
  · intro b
    rw [← hw]
    exact Entries.field?_set_self _ _ _
  · intro b q hq hb
    obtain ⟨hqm, hqp⟩ := List.mem_filter.mp hq
    rw [Bool.and_eq_true, beq_iff_eq, beq_iff_eq] at hqp
    rw [priced, hqp.2, Entries.field?_set]
    split
    · next he =>
        have hc : pricesClash r q = true := by simp [pricesClash, hp, hw, hqp, price_inj he]
        rw [h.prices.eq_of_clash pricesClash_comm hr hqm hc]
    · exact hb

theorem field?_position (h : t.Sound) {c : CategoryRow} (hc : c ∈ t.categories) (hp : c.productId = id) :
    (t.shopRow store id row).field? (position c.categoryId) = some (c.position.orElse (.int 0)) := by
  have hm : c ∈ t.categoriesOf id := List.mem_filter.mpr ⟨hc, by simp [hp]⟩
  have hf : ∀ d : CategoryRow, position c.categoryId ≠
      if isSet d.isDirect then "categories" else "show_in_categories" := by
    intro d
    split <;> exact (starts_position _).ne (starts_self _) (by decide)
  have hplaced : ((t.categoriesOf id).foldl placed ((t.stockOf id).foldl stocked row)).field? (position c.categoryId) =
      some (c.position.orElse (.int 0)) := by
    refine Folds.foldl_reaches hm
      (fun b : Entries => b.field? (position c.categoryId) = some (c.position.orElse (.int 0))) ?_ ?_ _
    · intro b
      exact Entries.field?_set_self _ _ _
    · intro b d hd hb
      obtain ⟨hdm, hdp⟩ := List.mem_filter.mp hd
      rw [beq_iff_eq] at hdp
      unfold placed
      rw [Entries.field?_set]
      split
      · next he =>
          have hcd : categoriesClash c d = true := by simp [categoriesClash, hp, hdp, position_inj he]
          rw [h.categories.eq_of_clash categoriesClash_comm hc hdm hcd]
      · rw [Entries.field?_set_of_ne _ _ (hf d)]
        exact hb
  refine List.foldlRecOn
    (motive := fun b : Entries => b.field? (position c.categoryId) = some (c.position.orElse (.int 0)))
    _ _ hplaced ?_
  intro b hb q _
  rw [priced, Entries.field?_set_of_ne _ _ ((starts_position _).ne (starts_price _ _) (by decide))]
  exact hb

theorem lookup_listing (t : Tables) (store : Value) {rows : List AttributeRow} {a : AttributeRow} (h : a ∈ rows) :
    ∃ b, (t.listing store rows).lookup a.code = some (.known b) := by
  cases hl : (t.listing store rows).lookup a.code with
  | none =>
      have hm : (a.code, Listed.known (t.attributeOf store a)) ∈ t.listing store rows := List.mem_map.mpr ⟨a, h, rfl⟩
      have hn := List.lookup_eq_none_iff.mp hl _ hm
      simp at hn
  | some listed =>
      obtain ⟨b, rfl, -⟩ := Row.lookup_known (t.labelled_listing store rows) hl
      exact ⟨b, rfl⟩

theorem known?_listing (t : Tables) (store : Value) {rows : List AttributeRow} (h : ∀ a ∈ rows, a.code ≠ name) :
    (t.listing store rows).known? name = none := by
  have hl : (t.listing store rows).lookup name = none := by
    apply List.lookup_eq_none_iff.mpr
    intro e he
    obtain ⟨a, ha, rfl⟩ := List.mem_map.mp he
    simpa using (h a ha).symm
  simp only [Listing.known?, Listing.present?, Listing.find?, hl]

variable {settings : Settings} {entityType : Value}

theorem hasField_document [Calendar.Zones] (h : (t.enrichedRow store id).hasField name) :
    (t.document settings entityType store id).source.hasField name :=
  (Entries.hasField_set _ _ _ _).mpr (.inr ((Entries.hasField_set _ _ _ _).mpr (.inr h)))

theorem field?_document [Calendar.Zones] {start : String} {v : Value} (hs : Starts start name)
    (hn : ["sort_by_", Document.optionsField, Document.storeField, Document.uniqueField, "id"].all fun other =>
      !(start.toList.isPrefixOf other.toList || other.toList.isPrefixOf start.toList))
    (ha : ∀ a ∈ t.attributes, a.code ≠ name) (hv : v.isScalar = true)
    (h : (t.shopRow store id (t.loadedRow store.id id)).field? name = some v) :
    (t.document settings entityType store id).source.field? name = some v := by
  simp only [List.all_cons, List.all_nil, Bool.and_true, Bool.and_eq_true, Bool.not_eq_true'] at hn
  obtain ⟨hsort, hoptions, hstore, hunique, hid⟩ := hn
  have hk : (t.searchables (.int store.id)).known? name = none :=
    t.known?_listing _ fun a hm => ha a (List.mem_filter.mp hm).1
  have he : (t.enrichedRow store id).field? name = some v :=
    Row.field?_enriched (fun _ _ => hs.ne (starts_sortFieldName _ _) hsort) (hs.ne (starts_self _) hoptions)
      (hs.ne (starts_self _) hstore) hk hv h
  unfold document
  rw [Entries.field?_set_of_ne _ _ (hs.ne (starts_self _) hid),
    Entries.field?_set_of_ne _ _ (hs.ne (starts_self _) hunique)]
  exact he

def sortKey (store : Store) (group : Int) (category : Option Int) (sortables : Listing) (field : String)
    (direction : Value) :
    Outcome (List SortKey) :=
  sortKeys { Context.ofStore store with customerGroup := group, category := category } sortables
    (.list [.map [(.text field, direction)]])

theorem sortKey_eq (store : Store) (group : Int) (category : Option Int) (sortables : Listing) (field : String)
    (direction : Value) :
    sortKey store group category sortables field direction =
      .ok [.ofEntry { Context.ofStore store with customerGroup := group, category := category } sortables
        (.text field) direction] :=
  rfl

theorem sortKey_price (store : Store) (group : Int) (category : Option Int) (direction : Value) :
    ∃ d, sortKey store group category [] "price" direction = .ok [⟨(price group store.website).toList, d⟩] := by
  have hp : (Value.text "price").same (.text "position") = false := Value.same_text_of_ne (by decide)
  have hr : (Value.text "price").same (.text "relevance") = false := Value.same_text_of_ne (by decide)
  simp only [sortKey_eq, SortKey.ofEntry, hp, hr, Value.same_text_self]
  exact ⟨_, rfl⟩

theorem sortKey_position (store : Store) (group category : Int) (direction : Value) :
    ∃ d, sortKey store group (some category) [] "position" direction = .ok [⟨(position category).toList, d⟩] := by
  simp only [sortKey_eq, SortKey.ofEntry, Value.same_text_self, ← positionField_eq]
  exact ⟨_, rfl⟩

theorem sortKey_attribute (store : Store) (group : Int) (category : Option Int) {sortables : Listing} {code : String}
    {b : Attribute} (hb : sortables.lookup code = some (.known b)) (hc : code ∉ ["relevance", "position", "price"])
    (direction : Value) :
    ∃ d, sortKey store group category sortables code direction = .ok [⟨b.sortField store.language?, d⟩] := by
  simp only [List.mem_cons, List.not_mem_nil, or_false, not_or] at hc
  obtain ⟨hr, hp, hprice⟩ := hc
  have hf : sortables.find? (.text code) = some (.known b) := hb
  simp only [sortKey_eq, SortKey.ofEntry, Value.same_text_of_ne hr, Value.same_text_of_ne hp,
    Value.same_text_of_ne hprice, hf]
  exact ⟨_, rfl⟩

theorem hasField_sortField [Calendar.Zones] (h : t.Sound) {a : AttributeRow} (ha : a ∈ t.attributes) {v : ValueRow}
    (hv : v ∈ t.values) (hp : v.productId = id) (hid : v.attributeId = a.id) (hvis : VisibleIn store.id v)
    {b : Attribute} (hb : (t.sortables (.int store.id)).lookup a.code = some (.known b)) :
    (t.document settings entityType store id).source.hasField (String.ofList (b.sortField store.language?)) := by
  have hl : (t.shopRow store id (t.loadedRow store.id id)).hasField a.code :=
    hasField_shopRow (t.hasField_loadedRow store.id (mem_codedValues h ha hv hp hid hvis))
  have hk : (t.sortables (.int store.id)).known? a.code = some b := by
    simp only [Listing.known?, Listing.present?, Listing.find?, hb]
  exact hasField_document (Row.sortField_enriched hl hk)

theorem hasField_of_shopRow [Calendar.Zones] {v : Value}
    (h : (t.shopRow store id (t.loadedRow store.id id)).field? name = some v) :
    (t.document settings entityType store id).source.hasField name := by
  apply hasField_document
  apply Row.hasField_enriched
  rw [Entries.hasField_eq, h]
  rfl

/-- The keys that searches of a store get to sort by are fields of a document: those of its product's
sortable attributes, the price for a group of customers, and the position in a category. -/
structure SortFieldsAgree (t : Tables) (s : StoreRow) (store : Store) (sortables : Listing) (D : Document)
    (id group category : Int) (direction : Value) : Prop where
  attributes : ∀ a ∈ t.attributes, isSet a.isSortable → a.code ∉ ["relevance", "position", "price"] →
    (∃ v ∈ t.values, v.productId = id ∧ v.attributeId = a.id ∧ VisibleIn s.id v) →
    ∃ key, sortKey store group (some category) sortables a.code direction = .ok [key] ∧
      D.source.hasField (String.ofList key.field)
  price : ∀ r ∈ t.prices, r.productId = id → r.customerGroup = group → r.website = s.website →
    ∃ key, sortKey store group (some category) [] "price" direction = .ok [key] ∧
      D.source.hasField (String.ofList key.field) ∧
      ((∀ a ∈ t.attributes, a.code ≠ String.ofList key.field) →
        D.source.field? (String.ofList key.field) = some (.real r.price))
  position : ∀ c ∈ t.categories, c.productId = id → c.categoryId = category →
    ∃ key, sortKey store group (some category) [] "position" direction = .ok [key] ∧
      D.source.hasField (String.ofList key.field) ∧
      ((∀ a ∈ t.attributes, a.code ≠ String.ofList key.field) →
        D.source.field? (String.ofList key.field) = some (c.position.orElse (.int 0)))

theorem document_sortFieldsAgree [Calendar.Zones] (h : t.Sound) {s : StoreRow} (hs : s ∈ t.stores) (hz : s.id ≠ 0)
    (id group category : Int) (direction : Value) :
    SortFieldsAgree t s (t.storeAt s.id) (t.sortables (.int s.id)) (t.document settings entityType (t.storeAt s.id) id)
      id group category direction where
  attributes := by
    rintro a ha hsort hcode ⟨v, hv, hp, hva, hvis⟩
    have hsorts : a ∈ t.attributes.filter fun a => isSet a.isSortable := List.mem_filter.mpr ⟨ha, hsort⟩
    have hid := t.storeAt_id s.id
    obtain ⟨b, hb⟩ := t.lookup_listing (.int s.id) hsorts
    obtain ⟨d, hd⟩ := sortKey_attribute (t.storeAt s.id) group (some category) hb hcode direction
    exact ⟨_, hd, hasField_sortField h ha hv hp hva (hid.symm ▸ hvis) (hid.symm ▸ hb)⟩
  price := by
    rintro r hr hp rfl hw
    obtain ⟨d, hd⟩ := sortKey_price (t.storeAt s.id) r.customerGroup (some category) direction
    have hweb : r.website = (t.storeAt s.id).website := by rw [hw, storeAt_of_mem h hs hz]; rfl
    have hrow : (t.shopRow (t.storeAt s.id) id (t.loadedRow (t.storeAt s.id).id id)).field? _ = _ :=
      field?_price h hr hp hweb
    refine ⟨_, hd, ?_, ?_⟩
    · rw [String.ofList_toList]
      exact hasField_of_shopRow hrow
    · rw [String.ofList_toList]
      intro ha
      exact field?_document (starts_price _ _) (by decide) ha rfl hrow
  position := by
    rintro c hc hp rfl
    obtain ⟨d, hd⟩ := sortKey_position (t.storeAt s.id) group c.categoryId direction
    have hrow : (t.shopRow (t.storeAt s.id) id (t.loadedRow (t.storeAt s.id).id id)).field? _ = _ :=
      field?_position h hc hp
    refine ⟨_, hd, ?_, ?_⟩
    · rw [String.ofList_toList]
      exact hasField_of_shopRow hrow
    · rw [String.ofList_toList]
      intro ha
      exact field?_document (starts_position _) (by decide) ha (orElse_isScalar (h.position c hc) rfl) hrow

/-- Whatever a search sorts by is a field of the documents that have something to sort by. -/
theorem documents_have_sort_fields [Calendar.Zones] (h : t.Sound) {s : StoreRow} (hs : s ∈ t.activeStores)
    (hz : 0 < s.id) {ids : List Int} (hn : ids.Nodup) (hids : ∀ i ∈ ids, ∃ p ∈ t.products, p.id = i) (hid : id ∈ ids)
    (settings : Settings) (entityType : Value) (group category : Int) (direction : Value) :
    ∃ store sortables rows documents D,
      (Catalog.stored (some t)).store (.int s.id) = .ok store ∧
      (Catalog.stored (some t)).sortables (.int s.id) = .ok sortables ∧
      (Catalog.stored (some t)).loadRows (.int s.id) (.list (ids.map Value.int)) = .ok rows ∧
      Service.documentsFor settings (.stored (some t)) (.int s.id) rows entityType = .ok documents ∧
      D ∈ documents ∧ D.id = .text (documentName s.id id) ∧
      SortFieldsAgree t s store sortables D id group category direction := by
  have hm : s ∈ t.stores := (List.mem_filter.mp hs).1
  have hf : fits s.id = true := h.stores.fit s hm
  have hfs : ∀ i ∈ ids, fits i = true := by
    intro i hi
    obtain ⟨p, hp, rfl⟩ := hids i hi
    exact h.products.fit p hp
  refine ⟨t.storeAt s.id, t.sortables (.int s.id), Keyed.table ids (t.loadedRow s.id), _,
    t.document settings entityType (t.storeAt s.id) id, t.store_eq hf, rfl,
    t.loadRows_eq hf hfs hn rfl, documentsFor_table h hf hn hfs rfl settings entityType,
    List.mem_map_of_mem hid, ?_, ?_⟩
  · rw [document, t.storeAt_id]
  · exact document_sortFieldsAgree h hm (by omega) id group category direction

def lampName : AttributeRow := ⟨3, "name", none, "varchar", "text", none, none, some true⟩

def lampTables : Tables where
  stores := [⟨1, "de", "German", 1, "de_DE", "UTC", some true⟩]
  attributes := [lampName]
  products := [⟨7, "lamp", .int 4, some true, some true⟩]
  values := [⟨1, 7, 3, none, some "Lampe"⟩]
  categories := [⟨1, 7, 5, .int 2, some true⟩]
  prices := [⟨1, 7, 0, 1, .ofInt 19⟩]

theorem sound_lampTables : lampTables.Sound := by
  refine ⟨⟨?_, ?_⟩, ⟨?_, ?_, ?_⟩, ⟨?_, ?_, ?_⟩, kept_nil, ⟨?_, ?_, ?_⟩, ⟨?_, ?_, ?_⟩, ⟨?_, ?_, ?_⟩, ⟨?_, ?_, ?_⟩⟩ <;>
    simp [lampTables, lampName, Value.isScalar, fits, twoTo]

open scoped Calendar.Daylight

theorem lamp_has_sort_fields : ∃ documents D,
    Service.documentsFor Settings.initial (.stored (some lampTables)) (.int 1)
      (Keyed.table [7] (lampTables.loadedRow 1)) defaultEntityType = .ok documents ∧ D ∈ documents ∧
    D.source.hasField "sort_by_name_de" ∧ D.source.field? "price_0_1" = some (.real (.ofInt 19)) ∧
    D.source.field? "position_category_5" = some (.int 2) := by
  have hfit : fits 1 = true := by simp [fits, twoTo]
  have hactive : ⟨1, "de", "German", 1, "de_DE", "UTC", some true⟩ ∈ lampTables.activeStores := by
    simp [lampTables, activeStores, isSet]
  obtain ⟨store, sortables, rows, documents, D, hs, hso, hr, hd, hD, -, hf⟩ :=
    documents_have_sort_fields sound_lampTables hactive (by decide) (show [(7 : Int)].Nodup by simp)
      (by simp [lampTables]) (List.mem_singleton_self 7) Settings.initial defaultEntityType 0 5 (.text "asc")
  cases hs.symm.trans (lampTables.store_eq hfit)
  cases hso
  cases hr.symm.trans (lampTables.loadRows_eq hfit (by simp [fits, twoTo]) (by simp) rfl)
  have hstore : lampTables.storeAt 1 = ⟨1, 1, some "de_DE", some "UTC"⟩ :=
    storeAt_of_mem sound_lampTables (List.mem_filter.mp hactive).1 (by decide)
  rw [hstore] at hf
  refine ⟨documents, D, hd, hD, ?_, ?_, ?_⟩
  · have hvalue : ∃ v ∈ lampTables.values, v.productId = 7 ∧ v.attributeId = lampName.id ∧ VisibleIn 1 v :=
      ⟨⟨1, 7, 3, none, some "Lampe"⟩, List.mem_cons_self, rfl, rfl, .inl rfl⟩
    have hlookup : (lampTables.sortables (.int 1)).lookup "name" =
        some (.known (lampTables.attributeOf (.int 1) lampName)) := rfl
    have hlanguage : Locale.language? "de_DE".toList = some "de".toList := by decide
    have hname : String.ofList ((lampTables.attributeOf (.int 1) lampName).sortField
        (Locale.language? "de_DE".toList)) = "sort_by_name_de" := by
      rw [hlanguage]
      change String.ofList (sortFieldName "name".toList (some "de".toList)) = _
      decide
    obtain ⟨key, hk, hfield⟩ := hf.attributes lampName List.mem_cons_self rfl (by decide) hvalue
    obtain ⟨d, hd⟩ := sortKey_attribute ⟨1, 1, some "de_DE", some "UTC"⟩ 0 (some 5) hlookup (by decide) (.text "asc")
    cases hk.symm.trans hd
    exact hname ▸ hfield
  · have hname : String.ofList (price 0 1).toList = "price_0_1" := by decide
    obtain ⟨key, hk, -, hvalue⟩ := hf.price ⟨1, 7, 0, 1, .ofInt 19⟩ List.mem_cons_self rfl rfl rfl
    obtain ⟨d, hd⟩ := sortKey_price ⟨1, 1, some "de_DE", some "UTC"⟩ 0 (some 5) (.text "asc")
    cases hk.symm.trans hd
    rw [hname] at hvalue
    exact hvalue (by simp [lampTables, lampName])
  · have hname : String.ofList (position 5).toList = "position_category_5" := by decide
    obtain ⟨key, hk, -, hvalue⟩ := hf.position ⟨1, 7, 5, .int 2, some true⟩ List.mem_cons_self rfl rfl
    obtain ⟨d, hd⟩ := sortKey_position ⟨1, 1, some "de_DE", some "UTC"⟩ 0 5 (.text "asc")
    cases hk.symm.trans hd
    rw [hname] at hvalue
    exact hvalue (by simp [lampTables, lampName])

end CatalogSearch.Catalog.Tables
