import CatalogSearch.Proofs.Catalog.ProductDocuments

namespace CatalogSearch

theorem Entries.Distinct.set {es : Entries} (h : es.Distinct) (name : String) (v : Value) :
    (es.set name v).Distinct := by
  induction es with
  | nil => exact List.pairwise_singleton _ _
  | cons e es ih =>
      obtain ⟨he, hes⟩ := List.pairwise_cons.mp h
      rw [Entries.set, Keyed.insert]
      split
      · exact .cons he hes
      · next hs =>
          refine .cons ?_ (ih hes)
          intro d hd
          rcases Keyed.mem_insert_text hd with hd | rfl
          · exact he d hd
          · rw [← Bool.not_eq_true, Value.same_text_right]
            rw [Value.same_text] at hs
            exact hs

namespace Catalog.Tables

open FieldNames

/-- The fields that come from the shop in the stores of a website. -/
inductive IsShopField (website : Int) : String → Prop where
  | stock : IsShopField website "in_stock"
  | visibility : IsShopField website "visibility"
  | categories (direct : Bool) : IsShopField website (categoryField direct)
  | position (category : Int) : IsShopField website (position category)
  | price (group : Int) : IsShopField website (price group website)

/-- The categories of some rows, in the order of the rows; of none there is nothing to tell. -/
def gatheredIds (rows : List CategoryRow) : Option Value :=
  if rows = [] then none else some (.list (rows.map fun c => .int c.categoryId))

/-- What the shop adds to the row of a product, and what it leaves alone. -/
structure Stocks (t : Tables) (website id : Int) (row row' : Entries) : Prop where
  others : ∀ key : Value, (∀ name, IsShopField website name → key ≠ .text name) →
    Keyed.find? row' key = Keyed.find? row key
  dictionary : row.Distinct → row'.Distinct
  stock : row'.field? "in_stock" = (t.products.find? (·.id == id)).map fun p => .int (if isSet p.inStock then 1 else 0)
  visibility : row'.field? "visibility" = (t.products.find? (·.id == id)).map ProductRow.visibility
  gathered : ∀ direct, row'.field? (categoryField direct) =
    gatheredIds ((t.categoriesOf id).filter fun c => isSet c.isDirect == direct)
  once : ((t.categoriesOf id).map CategoryRow.categoryId).Nodup
  positions : ∀ category, row'.field? (position category) =
    ((t.categoriesOf id).find? (·.categoryId == category)).map fun c => c.position.orElse (.int 0)
  prices : ∀ group site, row'.field? (price group site) =
    if site = website then ((t.pricesOf website id).find? (·.customerGroup == group)).map fun p => .real p.price
    else row.field? (price group site)

variable {t : Tables} {store : Store} {website id : Int} {row : Entries} {name : String} {key : Value}

section Steps

theorem find?_set_of_ne (hk : key ≠ .text name) (v : Value) :
    Keyed.find? (row.set name v) key = Keyed.find? row key := by
  refine Keyed.find?_insert_of_ne row v ?_
  rw [← Bool.not_eq_true, Value.same_text_right]
  exact hk

theorem find?_stocked (hk : ∀ name, IsShopField website name → key ≠ .text name) (p : ProductRow) :
    Keyed.find? (stocked row p) key = Keyed.find? row key := by
  rw [stocked, find?_set_of_ne (hk _ .visibility), find?_set_of_ne (hk _ .stock)]

theorem find?_placed (hk : ∀ name, IsShopField website name → key ≠ .text name) (c : CategoryRow) :
    Keyed.find? (placed row c) key = Keyed.find? row key := by
  rw [placed, find?_set_of_ne (hk _ (.position _))]
  exact find?_set_of_ne (hk _ (.categories (isSet c.isDirect))) _

theorem find?_priced {p : PriceRow} (hk : ∀ name, IsShopField p.website name → key ≠ .text name) :
    Keyed.find? (priced row p) key = Keyed.find? row key := by
  rw [priced, find?_set_of_ne (hk _ (.price _))]

theorem categoryField_injective : Function.Injective categoryField := by
  intro a b h
  cases a <;> cases b <;> first | rfl | exact absurd h (by decide)

theorem field?_placed_categoryField (direct : Bool) (c : CategoryRow) :
    (placed row c).field? (categoryField direct) =
      if direct = isSet c.isDirect
      then some (.list ((row.field (categoryField direct) (.list [])).sequence?.getD [] ++ [.int c.categoryId]))
      else row.field? (categoryField direct) := by
  have hplaced : placed row c = (row.set (categoryField (isSet c.isDirect)) (.list
      ((row.field (categoryField (isSet c.isDirect)) (.list [])).sequence?.getD [] ++ [.int c.categoryId]))).set
      (position c.categoryId) (c.position.orElse (.int 0)) := rfl
  rw [hplaced, Entries.field?_set_of_ne _ _ (categoryField_ne_position _ _), Entries.field?_set]
  by_cases h : direct = isSet c.isDirect
  · subst h
    rw [if_pos rfl, if_pos rfl]
  · rw [if_neg h, if_neg fun he => h (categoryField_injective he)]

theorem field?_placed_position (category : Int) (c : CategoryRow) :
    (placed row c).field? (position category) =
      if category = c.categoryId then some (c.position.orElse (.int 0)) else row.field? (position category) := by
  rw [placed, Entries.field?_set]
  by_cases h : category = c.categoryId
  · rw [if_pos (congrArg position h), if_pos h]
  · rw [if_neg fun he => h (position_inj he), if_neg h]
    exact Entries.field?_set_of_ne _ _ (categoryField_ne_position (isSet c.isDirect) category).symm

theorem field?_placed_of_ne (hc : ∀ direct, name ≠ categoryField direct) (hp : ∀ category, name ≠ position category)
    (c : CategoryRow) : (placed row c).field? name = row.field? name := by
  rw [placed, Entries.field?_set_of_ne _ _ (hp _)]
  exact Entries.field?_set_of_ne _ _ (hc (isSet c.isDirect))

theorem field?_priced (group site : Int) (p : PriceRow) :
    (priced row p).field? (price group site) =
      if group = p.customerGroup ∧ site = p.website then some (.real p.price) else row.field? (price group site) := by
  rw [priced, Entries.field?_set]
  simp only [price_eq_iff]

theorem field?_priced_of_ne (h : ∀ group site, name ≠ price group site) (p : PriceRow) :
    (priced row p).field? name = row.field? name :=
  Entries.field?_set_of_ne _ _ (h _ _)

end Steps

section Runs

theorem field?_foldl_placed (rows : List CategoryRow) (direct : Bool) {before : List CategoryRow}
    (h : row.field? (categoryField direct) = gatheredIds before) :
    (rows.foldl placed row).field? (categoryField direct) =
      gatheredIds (before ++ rows.filter fun c => isSet c.isDirect == direct) := by
  -- The categories that have been gathered so far grow at their end.
  induction rows generalizing row before with
  | nil =>
      rw [List.filter_nil, List.append_nil]
      exact h
  | cons c rows ih =>
      rw [List.foldl_cons]
      by_cases hd : direct = isSet c.isDirect
      · have hstep : (placed row c).field? (categoryField direct) = gatheredIds (before ++ [c]) := by
          have hgathered : ((row.field (categoryField direct) (.list [])).sequence?.getD []) =
              before.map fun c => .int c.categoryId := by
            rw [Entries.field, h, gatheredIds]
            by_cases hb : before = []
            · rw [if_pos hb, hb]
              rfl
            · rw [if_neg hb]
              rfl
          rw [field?_placed_categoryField, if_pos hd, hgathered, gatheredIds, if_neg (by simp), List.map_append]
          rfl
        rw [ih hstep, List.append_assoc, List.filter_cons_of_pos (by simp [hd])]
        rfl
      · have hstep : (placed row c).field? (categoryField direct) = gatheredIds before := by
          rw [field?_placed_categoryField, if_neg hd, h]
        rw [ih hstep, List.filter_cons_of_neg (by simpa using Ne.symm hd)]

theorem nodup_categoriesOf (h : t.Sound) (id : Int) : ((t.categoriesOf id).map CategoryRow.categoryId).Nodup := by
  rw [List.Nodup, List.pairwise_map]
  refine (h.categories.filter (·.productId == id)).apart.imp_of_mem ?_
  intro a b ha hb hab he
  have hpa := (List.mem_filter.mp ha).2
  have hpb := (List.mem_filter.mp hb).2
  rw [beq_iff_eq] at hpa hpb
  simp [categoriesClash, hpa, hpb, he] at hab

theorem nodup_pricesOf (h : t.Sound) (website id : Int) :
    ((t.pricesOf website id).map PriceRow.customerGroup).Nodup := by
  rw [List.Nodup, List.pairwise_map]
  refine (h.prices.filter fun p => p.productId == id && p.website == website).apart.imp_of_mem ?_
  intro a b ha hb hab he
  have hpa := (List.mem_filter.mp ha).2
  have hpb := (List.mem_filter.mp hb).2
  rw [Bool.and_eq_true, beq_iff_eq, beq_iff_eq] at hpa hpb
  simp [pricesClash, hpa, hpb, he] at hab

theorem read_foldl_stocked (h : t.Sound) (read : Entries → Option Value) {told : ProductRow → Value}
    (hr : ∀ row p, read (stocked row p) = some (told p)) :
    read ((t.stockOf id).foldl stocked row) = ((t.products.find? (·.id == id)).map told).or (read row) := by
  have hid : ∀ p ∈ t.stockOf id, p.id = id := fun p hp => beq_iff_eq.mp (List.mem_filter.mp hp).2
  have hreads := Folds.foldl_reads read ProductRow.id id told (h.products.filter (·.id == id)).nodup
    (fun b p _ _ => hr b p) (fun _ p hp hne => absurd (hid p hp) hne) row
  have hfind : (t.products.filter (·.id == id)).find? (·.id == id) = t.products.find? (·.id == id) := by
    rw [List.find?_filter]
    congr 1
    funext p
    rw [Bool.decide_and, Bool.decide_eq_true, Bool.and_self]
  rw [← hfind]
  exact hreads

theorem position_ne_price (category group website : Int) : position category ≠ price group website :=
  (starts_position category).ne (starts_price group website) (by decide)

theorem website_of_mem {p : PriceRow} (hp : p ∈ t.pricesOf website id) : p.website = website := by
  have hm := (List.mem_filter.mp hp).2
  rw [Bool.and_eq_true, beq_iff_eq, beq_iff_eq] at hm
  exact hm.2

theorem read_foldl_priced (h : t.Sound) (website group site : Int) :
    ((t.pricesOf website id).foldl priced row).field? (price group site) =
      if site = website then (((t.pricesOf website id).find? (·.customerGroup == group)).map fun p => .real p.price).or
        (row.field? (price group site))
      else row.field? (price group site) := by
  by_cases hw : site = website
  · rw [if_pos hw]
    refine Folds.foldl_reads (Entries.field? · (price group site)) PriceRow.customerGroup group
      (fun p => .real p.price) (nodup_pricesOf h website id) ?_ ?_ row
    · intro b p hp hg
      rw [field?_priced, if_pos ⟨hg.symm, hw.trans (website_of_mem hp).symm⟩]
    · intro b p _ hg
      rw [field?_priced, if_neg fun he => hg he.1.symm]
  · rw [if_neg hw]
    refine Folds.foldl_reads_other (Entries.field? · (price group site)) (fun b p hp => ?_) row
    rw [field?_priced, if_neg fun he => hw (he.2.trans (website_of_mem hp))]

theorem read_foldl_placed (h : t.Sound) (category : Int) :
    ((t.categoriesOf id).foldl placed row).field? (position category) =
      (((t.categoriesOf id).find? (·.categoryId == category)).map fun c => c.position.orElse (.int 0)).or
        (row.field? (position category)) := by
  refine Folds.foldl_reads (Entries.field? · (position category)) CategoryRow.categoryId category
    (fun c => c.position.orElse (.int 0)) (nodup_categoriesOf h id) ?_ ?_ row
  · intro b c _ hc
    rw [field?_placed_position, if_pos hc.symm]
  · intro b c _ hc
    rw [field?_placed_position, if_neg (Ne.symm hc)]

end Runs

section Fields

variable (t : Tables) (store : Store) (id : Int) (row : Entries)

theorem field?_shopRow (hp : ∀ group site, name ≠ price group site) :
    (t.shopRow store id row).field? name =
      ((t.categoriesOf id).foldl placed ((t.stockOf id).foldl stocked row)).field? name :=
  Folds.foldl_reads_other (Entries.field? · name) (fun _ p _ => field?_priced_of_ne hp p) _

theorem field?_foldl_stocked (hs : name ≠ "in_stock") (hv : name ≠ "visibility") :
    ((t.stockOf id).foldl stocked row).field? name = row.field? name := by
  refine Folds.foldl_reads_other (Entries.field? · name) (fun b p _ => ?_) row
  rw [stocked, Entries.field?_set_of_ne _ _ hv, Entries.field?_set_of_ne _ _ hs]

theorem field?_shopRow_stocked (h : t.Sound) {start : String} (hn : Starts start name)
    (hc : ∀ direct, name ≠ categoryField direct)
    (hstart : ["position_category_", "price_"].all fun other =>
      !(start.toList.isPrefixOf other.toList || other.toList.isPrefixOf start.toList))
    {told : ProductRow → Value} (hr : ∀ row p, (stocked row p).field? name = some (told p)) (hrow : row.field? name = none) :
    (t.shopRow store id row).field? name = (t.products.find? (·.id == id)).map told := by
  have hapart : ∀ {other field : String}, other ∈ ["position_category_", "price_"] → Starts other field → name ≠ field := by
    intro other field ho hf
    have hd := List.all_eq_true.mp hstart other ho
    rw [Bool.not_eq_true'] at hd
    exact hn.ne hf hd
  rw [field?_shopRow t store id row fun group site => hapart (by simp) (starts_price group site),
    Folds.foldl_reads_other (Entries.field? · name) fun b c _ =>
      field?_placed_of_ne hc (fun category => hapart (by simp) (starts_position category)) c,
    read_foldl_stocked h (Entries.field? · name) hr, hrow, Option.or_none]

end Fields

theorem stocks_shopRow (h : t.Sound) (hrow : ∀ name, IsShopField store.website name → row.field? name = none) :
    t.Stocks store.website id row (t.shopRow store id row) where
  others := by
    intro key hk
    unfold shopRow
    rw [Folds.foldl_reads_other (Keyed.find? · key) fun _ p hp => find?_priced ((website_of_mem hp).symm ▸ hk),
      Folds.foldl_reads_other (Keyed.find? · key) fun _ c _ => find?_placed hk c,
      Folds.foldl_reads_other (Keyed.find? · key) fun _ p _ => find?_stocked hk p]
  dictionary := by
    intro hd
    have hs : ((t.stockOf id).foldl stocked row).Distinct :=
      List.foldlRecOn (motive := Entries.Distinct) _ _ hd fun _ hb _ _ => (hb.set _ _).set _ _
    have hc : ((t.categoriesOf id).foldl placed ((t.stockOf id).foldl stocked row)).Distinct :=
      List.foldlRecOn (motive := Entries.Distinct) _ _ hs fun _ hb _ _ => (hb.set _ _).set _ _
    exact List.foldlRecOn (motive := Entries.Distinct) _ _ hc fun _ hb _ _ => hb.set _ _
  stock := by
    refine field?_shopRow_stocked t store id row h (starts_self _) (by decide) (by decide) ?_ (hrow _ .stock)
    intro b p
    rw [stocked, Entries.field?_set_of_ne _ _ (by decide), Entries.field?_set, if_pos rfl]
  visibility := by
    refine field?_shopRow_stocked t store id row h (starts_self _) (by decide) (by decide) ?_ (hrow _ .visibility)
    intro b p
    rw [stocked, Entries.field?_set, if_pos rfl]
  gathered := by
    intro direct
    rw [field?_shopRow t store id row fun group site => categoryField_ne_price direct group site]
    have hbefore : ((t.stockOf id).foldl stocked row).field? (categoryField direct) = gatheredIds [] := by
      rw [field?_foldl_stocked t id row (by cases direct <;> decide) (by cases direct <;> decide),
        hrow _ (.categories direct)]
      rfl
    exact field?_foldl_placed (t.categoriesOf id) direct hbefore
  once := nodup_categoriesOf h id
  positions := by
    intro category
    rw [field?_shopRow t store id row fun group site => position_ne_price category group site, read_foldl_placed h,
      field?_foldl_stocked t id row ((starts_position category).ne (starts_self _) (by decide))
        ((starts_position category).ne (starts_self _) (by decide)), hrow _ (.position category), Option.or_none]
  prices := by
    intro group site
    have hprice : ∀ {start name : String}, Starts start name →
        (start.toList.isPrefixOf "price_".toList || "price_".toList.isPrefixOf start.toList) = false →
        name ≠ price group site := fun hs ha => hs.ne (starts_price group site) ha
    have hbefore : ((t.categoriesOf id).foldl placed ((t.stockOf id).foldl stocked row)).field? (price group site) =
        row.field? (price group site) := by
      rw [Folds.foldl_reads_other (Entries.field? · (price group site)) fun _ c _ => field?_placed_of_ne
          (fun direct => (categoryField_ne_price direct _ _).symm) (fun category => (position_ne_price category _ _).symm) c,
        field?_foldl_stocked t id row (hprice (starts_self _) (by decide)).symm (hprice (starts_self _) (by decide)).symm]
    rw [shopRow, read_foldl_priced h, hbefore]
    split
    · next hsite => rw [hsite, hrow _ (.price group), Option.or_none]
    · rfl

/-- To the row of each product the shop adds what it knows of that product, and nothing else: the prices
are those of the store's website, and nothing of one product gets into the row of another. A statement must
take the products and, where it asks for prices, a website. -/
theorem shop_fields_are_exact (h : t.Sound) (limit : Option Nat) :
    (∀ n, fits n = true → ∃ store, (Catalog.stored (some t) limit).store (.int n) = .ok store) ∧
    (∀ (s : Value) (rows : Value), (Catalog.stored (some t) limit).addShopFields s [] rows = .ok rows) ∧
    ∀ (s : Value) (store : Store), (Catalog.stored (some t) limit).store s = .ok store →
      ∀ asked ids : List Int, asked.Nodup → (∀ id, id ∈ ids ↔ id ∈ asked) → (∀ id ∈ ids, fits id = true) →
      takes limit (ids.length + 1) = true →
      ∀ row : Int → Entries, (∀ id ∈ asked, ∀ name, IsShopField store.website name → (row id).field? name = none) →
      ∃ row' : Int → Entries,
        (Catalog.stored (some t) limit).addShopFields s (ids.map Value.int)
            (.map (Keyed.table asked fun id => .map (row id))) =
          .ok (.map (Keyed.table asked fun id => .map (row' id))) ∧
        ∀ id ∈ asked, t.Stocks store.website id (row id) (row' id) := by
  refine ⟨fun n hn => ⟨_, t.store_eq hn⟩, fun _ _ => rfl, ?_⟩
  intro s store hs asked ids hn hm hf hl row hrow
  have hgathers : ∀ id ∈ asked, Gathers (row id) := by
    intro id hid direct
    rw [Entries.field, hrow id hid _ (.categories direct)]
    exact ⟨[], rfl⟩
  exact ⟨_, t.addShopFields_eq hs hn hm hf hl hgathers, fun id hid => stocks_shopRow h (hrow id hid)⟩

/-- A lamp in two categories and shown in a third, with prices on two websites, and a lid that is in no category.
The database reads what is in a category by the category. -/
def counterTables : Tables where
  stores := [⟨1, "de", "German", 2, "de_DE", "UTC", some true⟩]
  products := [⟨7, "lamp", .int 4, some true, some true⟩, ⟨8, "lid", .int 1, none, some true⟩]
  categories := [⟨4, 7, 5, .int 2, some true⟩, ⟨1, 7, 6, .int 0, some true⟩, ⟨3, 7, 9, .null, some false⟩,
    ⟨2, 8, 5, .int 3, none⟩]
  prices := [⟨1, 7, 0, 1, .ofInt 19⟩, ⟨2, 7, 0, 2, .ofInt 25⟩, ⟨3, 7, 1, 2, .ofInt 24⟩]

theorem sound_counterTables : counterTables.Sound := by
  refine ⟨⟨?_, ?_⟩, ⟨?_, ?_, ?_⟩, kept_nil, kept_nil, ⟨?_, ?_, ?_⟩, kept_nil, ⟨?_, ?_, ?_⟩, ⟨?_, ?_, ?_⟩⟩ <;>
    simp [counterTables, Value.isScalar, fits, twoTo, categoriesClash, pricesClash]

def lampAndLid (id : Int) : Entries :=
  if id = 7 then [(.text "name", .list [.text "Lampe"])] else [(.text "weight", .list [.text "3"])]

theorem IsShopField.ne (h : IsShopField website name) {other : String}
    (ho : ["in_stock", "visibility", "categories", "show_in_categories", "position_category_", "price_"].all fun start =>
      !(start.toList.isPrefixOf other.toList || other.toList.isPrefixOf start.toList)) : name ≠ other := by
  have hapart : ∀ {start : String}, start ∈ ["in_stock", "visibility", "categories", "show_in_categories",
      "position_category_", "price_"] → Starts start name → name ≠ other := by
    intro start hm hs
    have hd := List.all_eq_true.mp ho start hm
    rw [Bool.not_eq_true'] at hd
    exact hs.ne (starts_self other) hd
  cases h with
  | stock => exact hapart (by simp) (starts_self _)
  | visibility => exact hapart (by simp) (starts_self _)
  | categories direct =>
      have hm : categoryField direct ∈ ["in_stock", "visibility", "categories", "show_in_categories",
          "position_category_", "price_"] := by cases direct <;> simp [categoryField]
      exact hapart hm (starts_self _)
  | position category => exact hapart (by simp) (starts_position category)
  | price group => exact hapart (by simp) (starts_price group website)

theorem field?_lampAndLid (id : Int) (hname : name ≠ "name") (hweight : name ≠ "weight") :
    (lampAndLid id).field? name = none := by
  rw [lampAndLid]
  split
  · rw [Entries.field?, Keyed.find?_cons, Value.same_text_of_ne hname]
    rfl
  · rw [Entries.field?, Keyed.find?_cons, Value.same_text_of_ne hweight]
    rfl

theorem lamp_and_lid_get_their_own : ∃ row' : Int → Entries,
    (Catalog.stored (some counterTables) (some 4)).addShopFields (.int 1) [.int 7, .int 8, .int 7]
      (.map (Keyed.table [8, 7] fun id => .map (lampAndLid id))) =
      .ok (.map (Keyed.table [8, 7] fun id => .map (row' id))) ∧
    (row' 7).field? "name" = some (.list [.text "Lampe"]) ∧
    (row' 7).field? "categories" = some (.list [.int 5, .int 6]) ∧
    (row' 7).field? "show_in_categories" = some (.list [.int 9]) ∧
    (row' 7).field? "position_category_9" = some (.int 0) ∧
    (row' 7).field? "price_0_1" = none ∧ (row' 7).field? "price_1_2" = some (.real (.ofInt 24)) ∧
    (row' 8).field? "in_stock" = some (.int 0) ∧ (row' 8).field? "categories" = none ∧
    (row' 8).field? "show_in_categories" = some (.list [.int 5]) ∧ (row' 8).field? "price_0_2" = none := by
  have hstore : (Catalog.stored (some counterTables) (some 4)).store (.int 1) = .ok ⟨1, 2, some "de_DE", some "UTC"⟩ := by
    have hs := storeAt_of_mem sound_counterTables (List.mem_singleton_self _) (by decide)
    exact (counterTables.store_eq (by simp [fits, twoTo])).trans (congrArg Except.ok hs)
  have hrow : ∀ id ∈ [(8 : Int), 7], ∀ name, IsShopField 2 name → (lampAndLid id).field? name = none := by
    intro id _ name hname
    exact field?_lampAndLid id (hname.ne (by decide)) (hname.ne (by decide))
  obtain ⟨row', hadd, hrow'⟩ := (shop_fields_are_exact sound_counterTables (some 4)).2.2 (.int 1) _ hstore [8, 7]
    [7, 8, 7] (by decide) (by simp [or_comm]) (by simp [fits, twoTo]) (by decide) lampAndLid hrow
  have h7 := hrow' 7 (by simp)
  have h8 := hrow' 8 (by simp)
  have hprice : (lampAndLid 7).field? (price 0 1) = none :=
    field?_lampAndLid 7 ((starts_price 0 1).ne (starts_self _) (by decide))
      ((starts_price 0 1).ne (starts_self _) (by decide))
  refine ⟨row', hadd, ?_, (h7.gathered true).trans rfl, (h7.gathered false).trans rfl, (h7.positions 9).trans rfl,
    (h7.prices 0 1).trans hprice, (h7.prices 1 2).trans rfl, h8.stock.trans rfl, (h8.gathered true).trans rfl,
    (h8.gathered false).trans rfl, (h8.prices 0 2).trans rfl⟩
  refine (h7.others (.text "name") fun name hname he => ?_).trans (Entries.field?_cons_self _ _ _)
  exact hname.ne (by decide) (Value.text.inj he).symm

theorem addShopFields_refused {limit : Option Nat} {s : Value}
    (hs : (Catalog.stored (some t) limit).store s = .ok store) {ids : List Value} (hn : ids ≠ []) {failure : Failure}
    (hh : hand limit ids = .error failure) (rows : Value) :
    (Catalog.stored (some t) limit).addShopFields s ids rows = .error failure := by
  have he : ids.isEmpty = false := List.isEmpty_eq_false_iff.mpr hn
  simp only [Catalog.addShopFields, he, hs, Catalog.tables?, hh, bind, Except.bind, pure, Except.pure]
  rfl

/-- The tables take no product and no store of more than 64 bits, and no more products than a statement takes values. -/
theorem vast_product_gets_nothing : (∀ name, IsShopField 2 name → Entries.field? [] name = none) ∧
    (Catalog.stored (some counterTables)).addShopFields (.int 1) [.int 9223372036854775808]
      (.map (Keyed.table [9223372036854775808] fun _ => .map [])) = .error .outOfRange ∧
    (Catalog.stored (some counterTables)).addShopFields (.int 9223372036854775808) [.int 7]
      (.map (Keyed.table [7] fun _ => .map [])) = .error .outOfRange ∧
    (Catalog.stored (some counterTables) (some 32766)).addShopFields (.int 1) (List.replicate 32767 (.int 7))
      (.map (Keyed.table [7] fun _ => .map [])) = .error .tooManyValues := by
  have hvast : checkPlain (.int 9223372036854775808) = .error .outOfRange := by
    rw [checkPlain, if_neg (by simp [fits, twoTo])]
    rfl
  have hids : hand none [Value.int 9223372036854775808] = .error .outOfRange := by
    rw [hand, if_pos (show takes none _ = true from rfl), List.forM, hvast]
    rfl
  have hmany : hand (some 32766) (List.replicate 32767 (Value.int 7)) = .error .tooManyValues := by
    rw [hand, List.countP_replicate, if_neg (by decide)]
    rfl
  have hstore : (Catalog.stored (some counterTables)).store (.int 9223372036854775808) = .error .outOfRange := by
    have hkey : asked (.int 9223372036854775808) = .ok (.int 9223372036854775808) := rfl
    simp only [Catalog.store, hkey, Catalog.tables?, hvast, bind, Except.bind, pure, Except.pure]
    rfl
  refine ⟨fun _ _ => rfl, ?_, ?_, ?_⟩
  · exact addShopFields_refused (counterTables.store_eq (by simp [fits, twoTo])) (by simp) hids _
  · simp only [Catalog.addShopFields, hstore]
    rfl
  · exact addShopFields_refused (counterTables.store_eq (by simp [fits, twoTo])) (List.cons_ne_nil _ _) hmany _

end Catalog.Tables

end CatalogSearch
