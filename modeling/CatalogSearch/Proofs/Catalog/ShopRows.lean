import CatalogSearch.Proofs.Catalog.LoadedRows
import CatalogSearch.Proofs.Document.TidyRows

namespace CatalogSearch.Catalog.Tables

open Row

def stocked (row : Entries) (p : ProductRow) : Entries :=
  (row.set "in_stock" (.int (if isSet p.inStock then 1 else 0))).set "visibility" p.visibility

def placed (row : Entries) (c : CategoryRow) : Entries :=
  let field := if isSet c.isDirect then "categories" else "show_in_categories"
  (row.set field (.list ((row.field field (.list [])).sequence?.getD [] ++ [.int c.categoryId]))).set
    (FieldNames.position c.categoryId) (c.position.orElse (.int 0))

def priced (row : Entries) (p : PriceRow) : Entries :=
  row.set (FieldNames.price p.customerGroup p.website) (.real p.price)

variable (t : Tables) (store : Store)

def stockOf (id : Int) : List ProductRow := t.products.filter (·.id == id)

def categoriesOf (id : Int) : List CategoryRow := t.categories.filter (·.productId == id)

def pricesOf (website id : Int) : List PriceRow := t.prices.filter fun p => p.productId == id && p.website == website

def shopRow (id : Int) (row : Entries) : Entries :=
  (t.pricesOf store.website id).foldl priced ((t.categoriesOf id).foldl placed ((t.stockOf id).foldl stocked row))

structure Plain (t : Tables) : Prop where
  visibility : ∀ p ∈ t.products, p.visibility.isScalar = true
  position : ∀ c ∈ t.categories, c.position.isScalar = true

theorem tidy_stocked {row : Entries} (h : Tidy row) {p : ProductRow} (hp : p.visibility.isScalar = true) :
    Tidy (stocked row p) := by
  refine (h.set rfl ?_).set (isCell_of_isScalar hp) ?_ <;> simp [gathered, Document.optionsField]

theorem orElse_isScalar {v w : Value} (hv : v.isScalar = true) (hw : w.isScalar = true) :
    (v.orElse w).isScalar = true := by
  rw [Value.orElse]
  split <;> assumption

theorem tidy_placed {row : Entries} (h : Tidy row) {c : CategoryRow} (hc : c.position.isScalar = true) :
    Tidy (placed row c) := by
  have hf : (if isSet c.isDirect then "categories" else "show_in_categories") ∈ gathered := by
    split <;> simp [gathered]
  obtain ⟨xs, hx, hs⟩ := h.list_field hf
  refine (h.set ?_ fun _ => ⟨_, rfl⟩).set (isCell_of_isScalar (orElse_isScalar hc rfl)) fun hg =>
    (not_gathered (FieldNames.starts_position _) (by decide) hg).elim
  rw [hx]
  simpa [isCell, Value.sequence?, Value.isScalar] using hs

theorem tidy_priced {row : Entries} (h : Tidy row) (p : PriceRow) : Tidy (priced row p) :=
  h.set rfl fun hg => (not_gathered (FieldNames.starts_price _ _) (by decide) hg).elim

def categoryField (direct : Bool) : String := if direct then "categories" else "show_in_categories"

def Gathers (row : Entries) : Prop := ∀ direct, ∃ xs, row.field (categoryField direct) (.list []) = .list xs

theorem gathers_of_tidy {row : Entries} (h : Tidy row) : Gathers row := by
  intro direct
  have hf : categoryField direct ∈ gathered := by cases direct <;> simp [gathered, categoryField]
  exact (h.list_field hf).imp fun _ hx => hx.1

theorem Gathers.set_of_ne {row : Entries} (h : Gathers row) {name : String} (hn : ∀ direct, categoryField direct ≠ name)
    (v : Value) : Gathers (row.set name v) := by
  intro direct
  rw [Entries.field, Entries.field?_set_of_ne row v (hn direct)]
  exact h direct

theorem Gathers.set_list {row : Entries} (h : Gathers row) (name : String) (xs : List Value) :
    Gathers (row.set name (.list xs)) := by
  intro direct
  rw [Entries.field, Entries.field?_set]
  split
  · exact ⟨xs, rfl⟩
  · exact h direct

theorem categoryField_ne_position (direct : Bool) (c : Int) : categoryField direct ≠ FieldNames.position c := by
  have hs := FieldNames.starts_position c
  cases direct <;> exact (FieldNames.starts_self _).ne hs (by decide)

theorem categoryField_ne_price (direct : Bool) (g w : Int) : categoryField direct ≠ FieldNames.price g w := by
  have hs := FieldNames.starts_price g w
  cases direct <;> exact (FieldNames.starts_self _).ne hs (by decide)

theorem gathers_stocked {row : Entries} (h : Gathers row) (p : ProductRow) : Gathers (stocked row p) :=
  (h.set_of_ne (by decide) _).set_of_ne (by decide) _

theorem gathers_placed {row : Entries} (h : Gathers row) (c : CategoryRow) : Gathers (placed row c) :=
  (h.set_list _ _).set_of_ne (fun direct => categoryField_ne_position direct c.categoryId) _

theorem gathers_priced {row : Entries} (h : Gathers row) (p : PriceRow) : Gathers (priced row p) :=
  h.set_of_ne (fun direct => categoryField_ne_price direct p.customerGroup p.website) _

/-- The rows of products, as they are handed on between the steps that add to them. -/
def Holds (ids : List Int) (rows : Value) (row : Int → Entries) : Prop :=
  rows = .map (Keyed.table ids fun id => .map (row id)) ∧ ∀ id ∈ ids, Gathers (row id)

theorem touch_holds {ids : List Int} (hn : ids.Nodup) {rows : Value} {row : Int → Entries} (h : Holds ids rows row)
    {id : Int} (hi : id ∈ ids) {change : Value → Outcome Value} {new : Entries}
    (hc : change (.map (row id)) = .ok (.map new)) (ht : Gathers new) :
    ∃ rows', touch rows id change = .ok rows' ∧ Holds ids rows' (Function.update row id new) := by
  obtain ⟨rfl, hr⟩ := h
  refine ⟨_, ?_, rfl, ?_⟩
  · simp only [touch, Value.entries, Keyed.find?_table hi, Option.getD_some, hc, bind, Except.bind, pure, Except.pure,
      Keyed.insert_table hn hi]
    congr 2
    apply Keyed.table_congr
    intro i _
    by_cases he : i = id
    · subst he; simp
    · simp [Function.update_of_ne he]
  · intro i hm
    by_cases he : i = id
    · subst he; simpa using ht
    · simpa [Function.update_of_ne he] using hr i hm

theorem addProduct_holds {ids : List Int} (hn : ids.Nodup) {rows : Value} {row : Int → Entries} (h : Holds ids rows row)
    {p : ProductRow} (hi : p.id ∈ ids) :
    ∃ rows', addProduct rows p = .ok rows' ∧ Holds ids rows' (Function.update row p.id (stocked (row p.id) p)) :=
  touch_holds hn h hi rfl (gathers_stocked (h.2 _ hi) p)

theorem addCategory_holds {ids : List Int} (hn : ids.Nodup) {rows : Value} {row : Int → Entries}
    (h : Holds ids rows row) {c : CategoryRow} (hi : c.productId ∈ ids) :
    ∃ rows', addCategory rows c = .ok rows' ∧
      Holds ids rows' (Function.update row c.productId (placed (row c.productId) c)) := by
  refine touch_holds hn h hi ?_ (gathers_placed (h.2 _ hi) c)
  obtain ⟨xs, hx⟩ := h.2 _ hi (isSet c.isDirect)
  rw [categoryField] at hx
  simp only [Value.get, Value.entries, Value.withField, placed, hx, Value.append, Value.sequence?, bind, Except.bind,
    pure, Except.pure, Option.getD_some]
  rfl

theorem addPrice_holds {ids : List Int} (hn : ids.Nodup) {rows : Value} {row : Int → Entries} (h : Holds ids rows row)
    {p : PriceRow} (hi : p.productId ∈ ids) :
    ∃ rows', addPrice rows p = .ok rows' ∧
      Holds ids rows' (Function.update row p.productId (priced (row p.productId) p)) :=
  touch_holds hn h hi rfl (gathers_priced (h.2 _ hi) p)

section

variable {α : Type} (rows : List α) (owner : α → Int) {ids : List Int}

def askedOf (ids : List Int) : List α :=
  rows.filter fun r => isAsked (ids.map Value.int) (owner r)

theorem filter_askedOf {id : Int} (h : id ∈ ids) :
    (askedOf rows owner ids).filter (owner · == id) = rows.filter (owner · == id) := by
  rw [askedOf, List.filter_filter]
  apply List.filter_congr
  intro r _
  rw [isAsked, any_refersTo]
  by_cases ho : owner r = id
  · simp [ho, h]
  · simp [beq_false_of_ne ho]

theorem mem_askedOf {rows : List α} {owner : α → Int} {r : α} (h : r ∈ askedOf rows owner ids) :
    r ∈ rows ∧ owner r ∈ ids := by
  rw [askedOf, List.mem_filter, isAsked, any_refersTo, List.contains_iff_mem] at h
  exact h

end

/-- The shop adds to the rows of products what it would add to each on its own. In which order the products
are asked for, and how often, is no matter. -/
theorem addShopFields_table {asked ids : List Int} (hn : asked.Nodup) (hm : ∀ id, id ∈ ids ↔ id ∈ asked)
    {row : Int → Entries} (hr : ∀ id ∈ asked, Gathers (row id)) :
    (t.addStock (ids.map .int) (.map (Keyed.table asked fun id => .map (row id))) >>=
      t.addPrices store.website (ids.map .int)) =
      .ok (.map (Keyed.table asked fun id => .map (t.shopRow store id (row id)))) := by
  have hw : (t.prices.filter fun p => isAsked (ids.map Value.int) p.productId && p.website == store.website) =
      askedOf (t.prices.filter (·.website == store.website)) PriceRow.productId ids := by
    rw [askedOf, List.filter_filter]
  have hpr : ∀ id, t.pricesOf store.website id =
      (t.prices.filter (·.website == store.website)).filter (·.productId == id) := by
    intro id
    rw [pricesOf, List.filter_filter]
  obtain ⟨rows₁, h₁, hs⟩ := Folds.foldlM_by_owner ProductRow.id stocked (Holds asked)
    (fun _ _ h p (hp : p ∈ askedOf t.products ProductRow.id ids) =>
      addProduct_holds hn h ((hm _).mp (mem_askedOf hp).2)) ⟨rfl, hr⟩
  obtain ⟨rows₂, h₂, hc⟩ := Folds.foldlM_by_owner CategoryRow.productId placed (Holds asked)
    (fun _ _ h c (hp : c ∈ askedOf t.categories CategoryRow.productId ids) =>
      addCategory_holds hn h ((hm _).mp (mem_askedOf hp).2)) hs
  obtain ⟨rows₃, h₃, he, -⟩ := Folds.foldlM_by_owner PriceRow.productId priced (Holds asked)
    (fun _ _ h p (hp : p ∈ askedOf (t.prices.filter (·.website == store.website)) PriceRow.productId ids) =>
      addPrice_holds hn h ((hm _).mp (mem_askedOf hp).2)) hc
  have hstock : t.addStock (ids.map .int) (.map (Keyed.table asked fun id => .map (row id))) = .ok rows₂ := by
    change ((askedOf t.products ProductRow.id ids).foldlM addProduct _ >>=
      (askedOf t.categories CategoryRow.productId ids).foldlM addCategory) = _
    rw [h₁]
    exact h₂
  rw [hstock, Folds.ok_bind, addPrices, hw, h₃, he]
  congr 2
  apply Keyed.table_congr
  intro id hi
  simp only [filter_askedOf _ _ ((hm id).mpr hi), ← hpr]
  rfl

end CatalogSearch.Catalog.Tables
