import CatalogSearch.Catalog.Edit
import CatalogSearch.Proofs.Catalog.ShopRows
import Mathlib.Data.List.Pairwise
import Mathlib.Tactic.Tauto

namespace CatalogSearch.Catalog

variable {α : Type} {id : α → Int} {clashes : α → α → Bool} {rows : List α}

/-- Rows with identities of their own, no two of which clash, in whatever order. -/
structure Held (id : α → Int) (clashes : α → α → Bool) (rows : List α) : Prop where
  once : rows.Pairwise fun a b => id a ≠ id b
  apart : rows.Pairwise fun a b => clashes a b = false
  fit : ∀ r ∈ rows, fits (id r) = true

/-- Rows in the order of their identities, no two of which clash. -/
structure Kept (id : α → Int) (clashes : α → α → Bool) (rows : List α) : Prop where
  ordered : rows.Pairwise fun a b => id a < id b
  apart : rows.Pairwise fun a b => clashes a b = false
  fit : ∀ r ∈ rows, fits (id r) = true

theorem Kept.held (h : Kept id clashes rows) : Held id clashes rows :=
  ⟨h.ordered.imp fun hlt => by omega, h.apart, h.fit⟩

theorem kept_nil : Kept id clashes [] := ⟨.nil, .nil, by simp⟩

theorem held_nil : Held id clashes [] := kept_nil.held

theorem Kept.filter (h : Kept id clashes rows) (p : α → Bool) : Kept id clashes (rows.filter p) :=
  ⟨h.ordered.filter p, h.apart.filter p, fun r hr => h.fit r (List.mem_filter.mp hr).1⟩

theorem Held.filter (h : Held id clashes rows) (p : α → Bool) : Held id clashes (rows.filter p) :=
  ⟨h.once.filter p, h.apart.filter p, fun r hr => h.fit r (List.mem_filter.mp hr).1⟩

theorem Held.eq_of_id (h : Held id clashes rows) {a b : α} (ha : a ∈ rows) (hb : b ∈ rows) (he : id a = id b) :
    a = b := by
  have hs : Std.Symm fun a b : α => id a ≠ id b := ⟨fun _ _ => Ne.symm⟩
  by_contra hne
  exact h.once.forall ha hb hne he

theorem Kept.eq_of_id (h : Kept id clashes rows) {a b : α} (ha : a ∈ rows) (hb : b ∈ rows) (he : id a = id b) : a = b :=
  h.held.eq_of_id ha hb he

theorem Held.eq_of_clash (h : Held id clashes rows) (hs : ∀ a b, clashes a b = clashes b a) {a b : α} (ha : a ∈ rows)
    (hb : b ∈ rows) (hc : clashes a b = true) : a = b := by
  have hs : Std.Symm fun a b : α => clashes a b = false := ⟨fun a b hab => hs a b ▸ hab⟩
  by_contra hne
  rw [h.apart.forall ha hb hne] at hc
  cases hc

theorem Kept.nodup (h : Kept id clashes rows) : (rows.map id).Nodup := by
  rw [List.Nodup, List.pairwise_map]
  exact h.held.once

section Place

variable {before : α → α → Bool} {row : α} {rows' : List α}

theorem pairwise_place {R : α → α → Prop} (h : rows.Pairwise R) (hb : ∀ r ∈ rows, before r row = true → R r row)
    (ha : ∀ r ∈ rows, before row r = true → R row r)
    (hr : ∀ a b, before a row = true → before row b = true → a ∈ rows → b ∈ rows → R a b) :
    (rows.filter (before · row) ++ row :: rows.filter (before row ·)).Pairwise R := by
  simp only [List.pairwise_append, List.pairwise_cons, List.mem_filter, List.mem_cons]
  refine ⟨h.filter _, ⟨fun b hm => ha b hm.1 hm.2, h.filter _⟩, ?_⟩
  rintro a ⟨ham, hal⟩ b (rfl | ⟨hbm, hbl⟩)
  · exact hb a ham hal
  · exact hr a b hal hbl ham hbm

theorem place_eq_ok (hp : Tables.place id clashes row rows before = .ok rows') :
    (∀ r ∈ rows, id r ≠ id row ∧ clashes r row = false) ∧
      rows' = rows.filter (before · row) ++ row :: rows.filter (before row ·) := by
  unfold Tables.place at hp
  split at hp
  · cases hp
  · next hany =>
      cases hp
      refine ⟨fun r hr => ?_, rfl⟩
      rw [Bool.not_eq_true, List.any_eq_false] at hany
      simpa using hany r hr

theorem mem_place (hp : Tables.place id clashes row rows before = .ok rows') {r : α} (hr : r ∈ rows') :
    r ∈ rows ∨ r = row := by
  rw [(place_eq_ok hp).2] at hr
  simp only [List.mem_append, List.mem_cons, List.mem_filter] at hr
  tauto

/-- A row that finds its place is told apart from all rows that are there. No order in which rows have a place
brings one of them in front of itself. -/
theorem Held.place (h : Held id clashes rows) (hs : ∀ a b, clashes a b = clashes b a) (hf : fits (id row) = true)
    (ho : ∀ a b, before a b = true → before b a = false) (hp : Tables.place id clashes row rows before = .ok rows') :
    Held id clashes rows' := by
  obtain ⟨hall, rfl⟩ := place_eq_ok hp
  have hne : ∀ a b, before a row = true → before row b = true → a ≠ b := by
    rintro a b ha hb rfl
    rw [ho a row ha] at hb
    cases hb
  refine ⟨?_, ?_, ?_⟩
  · refine pairwise_place h.once (fun r hr _ => (hall r hr).1) (fun r hr _ => (hall r hr).1.symm) ?_
    exact fun a b ha hb ham hbm he => hne a b ha hb (h.eq_of_id ham hbm he)
  · refine pairwise_place h.apart (fun r hr _ => (hall r hr).2) (fun r hr _ => hs r row ▸ (hall r hr).2) ?_
    intro a b ha hb ham hbm
    by_contra hab
    exact hne a b ha hb (h.eq_of_clash hs ham hbm (by simpa using hab))
  · intro r hr
    rcases mem_place hp hr with hr | rfl
    · exact h.fit r hr
    · exact hf

theorem Kept.place (h : Kept id clashes rows) (hs : ∀ a b, clashes a b = clashes b a) (hf : fits (id row) = true)
    (ho : ∀ a b, before a b = true → id a < id b) (hp : Tables.place id clashes row rows before = .ok rows') :
    Kept id clashes rows' := by
  have hasymm : ∀ a b, before a b = true → before b a = false := by
    intro a b hab
    by_contra hba
    exact absurd (ho a b hab) (Int.lt_asymm (ho b a (by simpa using hba)))
  have hheld := h.held.place hs hf hasymm hp
  refine ⟨?_, hheld.apart, hheld.fit⟩
  rw [(place_eq_ok hp).2]
  refine pairwise_place h.ordered (fun r _ hr => ho r row hr) (fun r _ hr => ho row r hr) ?_
  exact fun a b ha hb _ _ => Int.lt_trans (ho a row ha) (ho row b hb)

end Place

theorem isScalar_of_checkPlain {v : Value} (h : checkPlain v = .ok ()) : v.isScalar = true := by
  cases v <;> first | rfl | cases h

theorem fits_of_checkPlain {n : Int} (h : checkPlain (.int n) = .ok ()) : fits n = true := by
  unfold checkPlain at h
  by_contra hf
  simp [hf] at h

theorem checkPlain_int {n : Int} (h : fits n = true) : checkPlain (.int n) = .ok () := by
  simp only [checkPlain, h, if_true]
  rfl

theorem takes_of_le {limit : Option Nat} {m n : Nat} (h : takes limit n = true) (hm : m ≤ n) :
    takes limit m = true := by
  cases limit with
  | none => rfl
  | some most => exact decide_eq_true (Nat.le_trans hm (of_decide_eq_true h))

theorem countP_ints (ids : List Int) : (ids.map Value.int).countP (fun v => !v.isNull) = ids.length := by
  rw [List.countP_map]
  exact List.countP_eq_length.mpr fun _ _ => rfl

theorem hand_ints {limit : Option Nat} {ids : List Int} {more : Nat} (hl : takes limit (ids.length + more) = true)
    (hf : ∀ id ∈ ids, fits id = true) : hand limit (ids.map .int) more = .ok () := by
  rw [hand, countP_ints, if_pos hl]
  refine Folds.forM_ok fun v hv => ?_
  obtain ⟨id, hid, rfl⟩ := List.mem_map.mp hv
  exact checkPlain_int (hf id hid)

theorem hand_crowd {limit : Option Nat} {ids : List Int} (hl : takes limit ids.length = false) :
    hand limit (ids.map .int) = .error .tooManyValues := by
  rw [hand, countP_ints, Nat.add_zero, hl]
  rfl

theorem checkPlain_ofReal (x : Binary64) : checkPlain (ofReal x) = .ok () := by
  unfold ofReal
  split
  · split
    · next h => exact checkPlain_int (Bool.and_eq_true _ _ ▸ h).1
    · rfl
  · rfl

theorem checkPlain_textNumber {cs : List Char} {v : Value} (h : textNumber? cs = some v) : checkPlain v = .ok () := by
  unfold textNumber? at h
  dsimp only at h
  generalize (if (Number.signed (trimTextMargin cs)).1 = true then _ else _ : Int) = n at h
  split at h
  · next hn =>
      cases h
      rw [Bool.and_eq_true] at hn
      exact checkPlain_int hn.2
  · obtain ⟨x, -, rfl⟩ := Option.map_eq_some_iff.mp h
    exact checkPlain_ofReal x

theorem checkPlain_asNumber {v : Value} (h : checkPlain v = .ok ()) : checkPlain (asNumber v) = .ok () := by
  unfold asNumber
  split
  · next b => cases b <;> exact checkPlain_int (by decide)
  · next s =>
      cases ht : textNumber? s.toList with
      | none => exact h
      | some w => exact checkPlain_textNumber ht
  · exact checkPlain_ofReal _
  · exact h

theorem checkPlain_hold {c : Column} {v w : Value} (h : c.hold v = .ok w) : checkPlain w = .ok () := by
  obtain ⟨u, hv, h⟩ := Folds.bind_eq_ok.mp h
  split at h <;> cases h
  · exact checkPlain_asNumber hv
  · unfold asText
    split <;> rfl
  · rfl
  · rfl
  · exact hv

theorem checkPlain_cells {table : Table} {value : Column → Value} {cells : Cells} (h : table.hold value = .ok cells)
    (name : String) : checkPlain (cells.field name) = .ok () := by
  obtain ⟨read, -, h⟩ := Folds.bind_eq_ok.mp h
  rw [Entries.field]
  cases hf : cells.field? name with
  | none => rfl
  | some v =>
      obtain ⟨⟨c, w⟩, -, hc⟩ := Folds.mem_of_mapM h (Keyed.mem_of_find?_text hf)
      obtain ⟨u, hu, he⟩ := Folds.bind_eq_ok.mp hc
      cases he
      exact checkPlain_hold hu

theorem fits_of_integer {cells : Cells} {name : String} (h : checkPlain (cells.field name) = .ok ()) {n : Int}
    (hn : cells.integer name = .ok n) : fits n = true := by
  obtain ⟨m, hm, hg⟩ := Folds.bind_eq_ok.mp hn
  unfold Cells.integer? at hm
  split at hm
  · cases hm; cases hg
  · next he =>
      cases hm
      cases hg
      exact fits_of_checkPlain (he ▸ h)
  · cases hm

namespace Tables

/-- What the constraints of the tables see to. -/
structure Sound (t : Tables) : Prop extends Plain t where
  stores : Kept StoreRow.id (fun a b => a.code == b.code) t.stores
  attributes : Kept AttributeRow.id (fun a b => a.code == b.code) t.attributes
  options : Kept OptionRow.id optionsClash t.options
  products : Kept ProductRow.id (fun a b => a.sku == b.sku) t.products
  values : Kept ValueRow.id (fun _ _ => false) t.values
  categories : Held CategoryRow.id categoriesClash t.categories
  prices : Held PriceRow.id pricesClash t.prices

theorem sound_empty : Sound {} :=
  ⟨⟨by simp, by simp⟩, kept_nil, kept_nil, kept_nil, kept_nil, kept_nil, held_nil, held_nil⟩

variable {t t' : Tables} {table : Table} {c : Cells}

theorem optionsClash_comm (a b : OptionRow) : optionsClash a b = optionsClash b a := by
  by_cases h : a.storeId = b.storeId
  · simp only [optionsClash, h, Bool.beq_comm]
  · simp only [optionsClash, beq_false_of_ne h, beq_false_of_ne (Ne.symm h), Bool.and_false, Bool.false_and]

theorem categoriesClash_comm (a b : CategoryRow) : categoriesClash a b = categoriesClash b a := by
  simp only [categoriesClash, Bool.beq_comm]

theorem pricesClash_comm (a b : PriceRow) : pricesClash a b = pricesClash b a := by
  simp only [pricesClash, Bool.beq_comm]

theorem precedes_asymm {as bs : List Int} (h : precedes as bs = true) : precedes bs as = false := by
  induction as generalizing bs with
  | nil => cases h
  | cons a as ih =>
      cases bs with
      | nil => rfl
      | cons b bs =>
          simp only [precedes, Bool.or_eq_true, Bool.and_eq_true, decide_eq_true_eq, beq_iff_eq] at h
          rw [← Bool.not_eq_true]
          simp only [precedes, Bool.or_eq_true, Bool.and_eq_true, decide_eq_true_eq, beq_iff_eq]
          rintro (hlt | ⟨heq, hrest⟩)
          · omega
          · have hp := h.resolve_left (by omega)
            rw [ih hp.2] at hrest
            cases hrest

theorem id_of_storeRow {row : StoreRow} (h : storeRow c = .ok row) : c.integer "id" = .ok row.id := by
  simp only [storeRow, Folds.bind_eq_ok] at h
  obtain ⟨id, hid, code, -, name, -, website, -, locale, -, timezone, -, h⟩ := h
  cases h
  exact hid

theorem id_of_attributeRow {row : AttributeRow} (h : attributeRow c = .ok row) : c.integer "id" = .ok row.id := by
  simp only [attributeRow, Folds.bind_eq_ok] at h
  obtain ⟨id, hid, code, -, backend, -, input, -, h⟩ := h
  cases h
  exact hid

theorem id_of_optionRow {row : OptionRow} (h : optionRow c = .ok row) : c.integer "id" = .ok row.id := by
  simp only [optionRow, Folds.bind_eq_ok] at h
  obtain ⟨id, hid, owner, -, store, -, value, -, label, -, h⟩ := h
  cases h
  exact hid

theorem id_of_productRow {row : ProductRow} (h : productRow c = .ok row) :
    c.integer "id" = .ok row.id ∧ row.visibility = c.field "visibility" := by
  simp only [productRow, Folds.bind_eq_ok] at h
  obtain ⟨id, hid, sku, -, visibility, hv, h⟩ := h
  cases h
  refine ⟨hid, ?_⟩
  unfold Cells.number at hv
  split at hv <;> cases hv
  rfl

theorem id_of_valueRow {row : ValueRow} (h : valueRow c = .ok row) : c.integer "id" = .ok row.id := by
  simp only [valueRow, Folds.bind_eq_ok] at h
  obtain ⟨id, hid, product, -, owner, -, store, -, h⟩ := h
  cases h
  exact hid

theorem id_of_categoryRow {row : CategoryRow} (h : categoryRow c = .ok row) :
    c.integer "id" = .ok row.id ∧ row.position = c.field "position" := by
  simp only [categoryRow, Folds.bind_eq_ok] at h
  obtain ⟨id, hid, product, -, category, -, h⟩ := h
  cases h
  exact ⟨hid, rfl⟩

theorem id_of_priceRow {row : PriceRow} (h : priceRow c = .ok row) : c.integer "id" = .ok row.id := by
  simp only [priceRow, Folds.bind_eq_ok] at h
  obtain ⟨id, hid, product, -, group, -, website, -, price, -, h⟩ := h
  cases h
  exact hid

theorem Sound.put (h : t.Sound) (hc : ∀ name, checkPlain (c.field name) = .ok ()) (hp : t.put table c = .ok t') :
    t'.Sound := by
  cases table <;> obtain ⟨row, hr, hp⟩ := Folds.bind_eq_ok.mp hp <;>
    obtain ⟨rows, hrows, hp⟩ := Folds.bind_eq_ok.mp hp <;>
    cases hp
  case stores =>
    have hf := fits_of_integer (hc _) (id_of_storeRow hr)
    exact { h with stores := h.stores.place (fun _ _ => Bool.beq_comm) hf (fun _ _ => of_decide_eq_true) hrows }
  case attributes =>
    have hf := fits_of_integer (hc _) (id_of_attributeRow hr)
    exact { h with attributes := h.attributes.place (fun _ _ => Bool.beq_comm) hf (fun _ _ => of_decide_eq_true) hrows }
  case options =>
    have hf := fits_of_integer (hc _) (id_of_optionRow hr)
    exact { h with options := h.options.place optionsClash_comm hf (fun _ _ => of_decide_eq_true) hrows }
  case products =>
    obtain ⟨hid, hv⟩ := id_of_productRow hr
    have hf := fits_of_integer (hc _) hid
    have hproducts := h.products.place (fun _ _ => Bool.beq_comm) hf (fun _ _ => of_decide_eq_true) hrows
    refine { h with products := hproducts, visibility := ?_ }
    intro p hm
    rcases mem_place hrows hm with hm | rfl
    · exact h.visibility p hm
    · exact hv ▸ isScalar_of_checkPlain (hc _)
  case values =>
    have hf := fits_of_integer (hc _) (id_of_valueRow hr)
    exact { h with values := h.values.place (fun _ _ => rfl) hf (fun _ _ => of_decide_eq_true) hrows }
  case categories =>
    obtain ⟨hid, hv⟩ := id_of_categoryRow hr
    have hf := fits_of_integer (hc _) hid
    have hcategories := h.categories.place categoriesClash_comm hf (fun _ _ => precedes_asymm) hrows
    refine { h with categories := hcategories, position := ?_ }
    intro p hm
    rcases mem_place hrows hm with hm | rfl
    · exact h.position p hm
    · exact hv ▸ isScalar_of_checkPlain (hc _)
  case prices =>
    have hf := fits_of_integer (hc _) (id_of_priceRow hr)
    exact { h with prices := h.prices.place pricesClash_comm hf (fun _ _ => precedes_asymm) hrows }

theorem Sound.insert {fields : Entries} (h : t.Sound) (hi : t.insert table fields = .ok t') : t'.Sound := by
  obtain ⟨cells, hcells, hp⟩ := Folds.bind_eq_ok.mp hi
  unfold Table.newCells at hcells
  split at hcells
  · exact h.put (checkPlain_cells hcells) hp
  · cases hcells

theorem Sound.take {id : Int} (h : t.Sound) (ht : t.take? table id = some (c, t')) : t'.Sound := by
  cases table <;> obtain ⟨row, -, he⟩ := Option.map_eq_some_iff.mp ht <;> cases he
  case stores => exact { h with stores := h.stores.filter _ }
  case attributes => exact { h with attributes := h.attributes.filter _ }
  case options => exact { h with options := h.options.filter _ }
  case products =>
    exact { h with products := h.products.filter _, visibility := fun p hm => h.visibility p (List.mem_filter.mp hm).1 }
  case values => exact { h with values := h.values.filter _ }
  case categories =>
    exact { h with categories := h.categories.filter _, position := fun p hm => h.position p (List.mem_filter.mp hm).1 }
  case prices => exact { h with prices := h.prices.filter _ }

theorem Sound.update {id : Value} {changes : Entries} (h : t.Sound) (hu : t.update table id changes = .ok t') :
    t'.Sound := by
  obtain ⟨found, -, hu⟩ := Folds.bind_eq_ok.mp hu
  split at hu
  · split at hu <;> cases hu
    exact h
  · next cells rest hf =>
      obtain ⟨n, -, ht⟩ := Option.bind_eq_some_iff.mp hf
      obtain ⟨changed, hc, hp⟩ := Folds.bind_eq_ok.mp hu
      exact (h.take ht).put (checkPlain_cells hc) hp

theorem Sound.withoutProduct (h : t.Sound) (id : Int) : (t.withoutProduct id).Sound :=
  { h with
    values := h.values.filter _
    categories := h.categories.filter _
    prices := h.prices.filter _
    position := fun p hm => h.position p (List.mem_filter.mp hm).1 }

theorem Sound.delete {id : Value} (h : t.Sound) (hd : t.delete table id = .ok t') : t'.Sound := by
  obtain ⟨found, -, hd⟩ := Folds.bind_eq_ok.mp hd
  split at hd
  · cases hd
  · next n rest hf =>
      obtain ⟨m, -, hm⟩ := Option.bind_eq_some_iff.mp hf
      obtain ⟨⟨cells, rest'⟩, ht, he⟩ := Option.map_eq_some_iff.mp hm
      cases he
      have hs := h.take ht
      split at hd <;> cases hd
      · exact hs.withoutProduct _
      · exact { hs with options := hs.options.filter _ }
      · exact hs

theorem Sound.ready (env : Environment) {t : Option Tables} (h : ∀ s, t = some s → s.Sound) : (ready env t).Sound := by
  have hs : (t.getD {}).Sound := by
    cases t with
    | none => exact sound_empty
    | some s => exact h s rfl
  unfold Tables.ready
  dsimp only
  split
  · exact { hs with stores := ⟨by simp, by simp, by simp [defaultStore]; decide⟩ }
  · exact hs

/-- Tables that can come about: new ones, ones with the default store, and whatever a change makes of such. -/
inductive Reachable : Tables → Prop where
  | empty : Reachable {}
  | ready {t : Tables} (env : Environment) : Reachable t → Reachable (ready env (some t))
  | insert {t t' : Tables} {table : Table} {fields : Entries} :
      Reachable t → t.insert table fields = .ok t' → Reachable t'
  | update {t t' : Tables} {table : Table} {id : Value} {changes : Entries} : Reachable t →
      t.update table id changes = .ok t' → Reachable t'
  | delete {t t' : Tables} {table : Table} {id : Value} : Reachable t → t.delete table id = .ok t' → Reachable t'

theorem Reachable.sound (h : t.Reachable) : t.Sound := by
  induction h with
  | empty => exact sound_empty
  | ready env _ ih => exact Sound.ready env (by rintro _ ⟨⟩; exact ih)
  | insert _ hi ih => exact ih.insert hi
  | update _ hu ih => exact ih.update hu
  | delete _ hd ih => exact ih.delete hd

end Tables

end CatalogSearch.Catalog
