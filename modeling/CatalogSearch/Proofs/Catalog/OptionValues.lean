import CatalogSearch.Proofs.Catalog.StoreOverrides
import CatalogSearch.Proofs.Catalog.ProductDocuments

namespace CatalogSearch.Row

open Keyed

section Cleaning

def told : Option String → Value
  | none => .null
  | some t => .text t

def leading (texts : List (Option String)) : Option String := texts.findSome? (·.filter (· ≠ ""))

def leadingParts (texts : List (Option String)) : List Value :=
  ((leading texts).map fun t => Attribute.commaParts t.toList).getD []

theorem find?_foldl_distinct (p : Value → Bool) {xs : List Value} (h : ∀ x ∈ xs, ∀ y, x.same y = true → y = x)
    (seen : List Value) :
    (xs.foldl (fun seen x => if seen.any x.same then seen else seen ++ [x]) seen).find? p =
      (seen.find? p).or (xs.find? p) := by
  induction xs generalizing seen with
  | nil => exact (Option.or_none).symm
  | cons x xs ih =>
      have hxs := ih fun y hy => h y (List.mem_cons_of_mem x hy)
      rw [List.foldl_cons, List.find?_cons]
      split
      · next hs =>
          -- What is left out has been seen, so that it cannot be the first of its kind.
          obtain ⟨y, hy, hsame⟩ := List.any_eq_true.mp hs
          obtain rfl := h x List.mem_cons_self y hsame
          rw [hxs]
          cases hp : p y with
          | false => rfl
          | true =>
              obtain ⟨z, hz⟩ := Option.isSome_iff_exists.mp (List.find?_isSome.mpr ⟨y, hy, hp⟩)
              rw [hz]
              rfl
      · rw [hxs, List.find?_append, Option.or_assoc, List.find?_singleton]
        cases p x <;> rfl

theorem find?_distinct (p : Value → Bool) {xs : List Value} (h : ∀ x ∈ xs, ∀ y, x.same y = true → y = x) :
    (distinct xs).find? p = xs.find? p :=
  find?_foldl_distinct p h []

theorem eq_of_same_told {text : Option String} {y : Value} (h : (told text).same y = true) : y = told text := by
  cases text with
  | some t => exact (Value.same_text t y).mp h
  | none =>
      cases y with
      | null => rfl
      | _ => simp [told, Value.same] at h

theorem find?_truthy_told (texts : List (Option String)) :
    (texts.map told).find? Value.truthy = (leading texts).map Value.text := by
  induction texts with
  | nil => rfl
  | cons text texts ih =>
      rw [List.map_cons, List.find?_cons, leading, List.findSome?_cons, ← leading]
      cases text with
      | none => exact ih
      | some t =>
          by_cases ht : t = ""
          · subst ht
            exact ih
          · have htruthy : (told (some t)).truthy = true := by simp [told, Value.truthy, ht]
            rw [htruthy, Option.filter_some, if_pos (decide_eq_true ht)]
            rfl

theorem leading_eq_some {texts : List (Option String)} {t : String} (h : leading texts = some t) :
    some t ∈ texts ∧ t ≠ "" := by
  obtain ⟨text, hm, ht⟩ := List.exists_of_findSome?_eq_some h
  obtain ⟨rfl, hne⟩ := Option.filter_eq_some_iff.mp ht
  exact ⟨hm, of_decide_eq_true hne⟩

theorem exists_leading {texts : List (Option String)} {t : String} (hm : some t ∈ texts) (ht : t ≠ "") :
    ∃ s, leading texts = some s := by
  refine Option.isSome_iff_exists.mp (List.findSome?_isSome_iff.mpr ⟨some t, hm, ?_⟩)
  rw [Option.filter_some, if_pos (decide_eq_true ht)]
  rfl

theorem mem_leadingParts {texts : List (Option String)} {part : Value} (h : part ∈ leadingParts texts) :
    ∃ t, some t ∈ texts ∧ part ∈ Attribute.commaParts t.toList := by
  unfold leadingParts at h
  cases hl : leading texts with
  | none =>
      rw [hl] at h
      cases h
  | some t =>
      rw [hl] at h
      exact ⟨t, (leading_eq_some hl).1, h⟩

theorem mem_leadingParts_of_alike {texts : List (Option String)}
    (h : ∀ s t, some s ∈ texts → some t ∈ texts → s ≠ "" → t ≠ "" → s = t) {t : String} (hm : some t ∈ texts)
    {part : Value} (hp : part ∈ Attribute.commaParts t.toList) : part ∈ leadingParts texts := by
  have ht : t ≠ "" := by
    rintro rfl
    cases hp
  obtain ⟨s, hs⟩ := exists_leading hm ht
  obtain ⟨hms, hne⟩ := leading_eq_some hs
  rw [leadingParts, hs, h s t hms hm hne ht]
  exact hp

theorem leadingParts_cons_some {t : String} (ht : t ≠ "") (texts : List (Option String)) :
    leadingParts (some t :: texts) = Attribute.commaParts t.toList := by
  rw [leadingParts, leading, List.findSome?_cons, Option.filter_some, if_pos (decide_eq_true ht)]
  rfl

theorem commaParts_of_mem {cs p : List Char} (h : p ∈ (Text.pieces ',' cs).filter (· ≠ [])) :
    Attribute.commaParts p = [.ofChars p] := by
  obtain ⟨hm, hp⟩ := List.mem_filter.mp h
  rw [Attribute.commaParts, Text.pieces_of_not_mem (Text.not_mem_of_mem_pieces hm), List.filter_cons, if_pos hp]
  rfl

theorem leadingParts_of_parts (cs : List Char) :
    ∃ texts : List (Option String), Attribute.commaParts cs = texts.map told ∧
      leadingParts texts = (Attribute.commaParts cs).take 1 := by
  refine ⟨((Text.pieces ',' cs).filter (· ≠ [])).map fun p => some (String.ofList p), ?_, ?_⟩
  · rw [List.map_map]
    rfl
  · rw [Attribute.commaParts]
    cases hp : (Text.pieces ',' cs).filter (· ≠ []) with
    | nil => rfl
    | cons p ps =>
        have hm : p ∈ (Text.pieces ',' cs).filter (· ≠ []) := hp ▸ List.mem_cons_self
        have hne : String.ofList p ≠ "" := by
          intro he
          have hnil : p = [] := by simpa using congrArg String.toList he
          exact of_decide_eq_true (List.mem_filter.mp hm).2 hnil
        rw [List.map_cons, leadingParts_cons_some hne, String.toList_ofList, commaParts_of_mem hm]
        rfl

end Cleaning

section Splitting

variable {store : Store} {searchables sortables : Listing} {row : Entries} {name other : String} {a : Attribute}

theorem indexValue_told [Calendar.Zones] (h : a.kind = .option true) (store : Store) (texts : List (Option String)) :
    a.indexValue store (tidied (.list (texts.map told))) = .list (leadingParts texts) := by
  have hsame : ∀ x ∈ texts.map told, ∀ y, x.same y = true → y = x := by
    intro x hx y hy
    obtain ⟨text, -, rfl⟩ := List.mem_map.mp hx
    exact eq_of_same_told hy
  have hhead : ((distinct (texts.map told)).filter Value.truthy).head? = (leading texts).map Value.text := by
    rw [List.head?_filter, find?_distinct _ hsame, find?_truthy_told]
  have hindex : ∀ xs, a.indexValue store (.list xs) =
      if (Value.list xs).truthy then .list (Attribute.commaParts (xs.headD .null).chars) else .list xs := by
    intro xs
    unfold Attribute.indexValue
    rw [h]
    rfl
  rw [tidied, hindex, leadingParts]
  cases hl : leading texts with
  | none =>
      rw [hl, Option.map_none, List.head?_eq_none_iff] at hhead
      rw [hhead]
      rfl
  | some t =>
      rw [hl, Option.map_some, List.head?_eq_some_iff] at hhead
      obtain ⟨rest, hrest⟩ := hhead
      rw [hrest]
      rfl

/-- A field that nothing is written into but what becomes of its own value. -/
structure OwnField (store : Store) (sortables : Listing) (name : String) : Prop where
  notOptions : name ≠ Document.optionsField
  notStore : name ≠ Document.storeField
  notSort : ∀ other a, sortables.known? other = some a → name ≠ String.ofList (a.sortField store.language?)

theorem OwnField.sorted_apart (h : OwnField store sortables name) (row : Entries) (other : String) (v : Value) :
    (sorted store sortables row other v).field? name = row.field? name := by
  unfold sorted
  cases hk : sortables.known? other with
  | none => rfl
  | some a => exact Entries.field?_set_of_ne _ _ (h.notSort other a hk)

theorem OwnField.enrichedField_apart [Calendar.Zones] (h : OwnField store sortables name) (hne : name ≠ other)
    (row : Entries) :
    (enrichedField store searchables sortables row other).field? name = row.field? name := by
  unfold enrichedField
  rw [h.sorted_apart, Entries.field?_set_of_ne _ _ hne]
  unfold indexed
  cases searchables.known? other with
  | none => rfl
  | some a => exact field?_labelled _ h.notOptions

theorem OwnField.enrichedField_self [Calendar.Zones] (h : OwnField store sortables name)
    (ha : searchables.known? name = some a) (row : Entries) : (enrichedField store searchables sortables row name).field? name =
      some (a.indexValue store (tidied (row.field name))) := by
  unfold enrichedField
  rw [h.sorted_apart, Entries.field?_set_self]
  unfold indexed
  rw [ha]

theorem OwnField.field?_enriched [Calendar.Zones] (h : OwnField store sortables name) (hr : row.IsRecord)
    (ha : searchables.known? name = some a) {v : Value} (hv : row.field? name = some v) :
    (enriched store searchables sortables row).field? name = some (a.indexValue store (tidied v)) := by
  have hname : name ∈ row.names := by
    rw [← Entries.hasField_iff, Entries.hasField_eq, hv]
    rfl
  obtain ⟨before, after, hnames⟩ := List.append_of_mem hname
  have honce := hr.once
  rw [hnames, List.nodup_middle, List.nodup_cons, List.mem_append, not_or] at honce
  -- The fields before it and those after it leave it alone.
  have hbefore : (before.foldl (enrichedField store searchables sortables) row).field? name = row.field? name :=
    Folds.foldl_reads_other (fun r : Entries => r.field? name)
      (fun r other hm => h.enrichedField_apart (fun he => honce.1.1 (he ▸ hm)) r) row
  have hafter : ∀ r : Entries, (after.foldl (enrichedField store searchables sortables) r).field? name = r.field? name :=
    Folds.foldl_reads_other (fun r : Entries => r.field? name)
      fun r other hm => h.enrichedField_apart (fun he => honce.1.2 (he ▸ hm)) r
  rw [enriched, Entries.field?_set_of_ne _ _ h.notStore, hnames, List.foldl_append, List.foldl_cons, hafter,
    h.enrichedField_self ha, Entries.field, hbefore, hv]
  rfl

theorem OwnField.field?_multiselect [Calendar.Zones] (h : OwnField store sortables name) (hr : row.IsRecord)
    (ha : searchables.known? name = some a) (hk : a.kind = .option true) {texts : List (Option String)}
    (hv : row.field? name = some (.list (texts.map told))) :
    (enriched store searchables sortables row).field? name = some (.list (leadingParts texts)) := by
  rw [h.field?_enriched hr ha hv, indexValue_told hk]

end Splitting

section Options

variable {store : Store} {searchables sortables : Listing} {name : String} {a : Attribute}

theorem told_value (v : Catalog.ValueRow) : told v.value = Catalog.Tables.storedValue v := by
  rw [Catalog.Tables.storedValue]
  cases v.value <;> rfl

/-- Of all that is stored for a multiselect the first text that is not empty is split, and nothing else is indexed:
only where all texts that say something say the same is no option lost. -/
theorem multiselect_is_its_leading_text [Calendar.Zones] (hs : searchables.Labelled) (ho : sortables.Labelled)
    (ha : searchables.known? name = some a) (hk : a.kind = .option true) (hf : OwnField store sortables name) :
    (∀ row : Entries, Tidy row → row.IsRecord → ∀ texts : List (Option String),
      row.field? name = some (.list (texts.map told)) → ∃ out, enrich store searchables sortables row = .ok out ∧
        out.field? name = some (.list (leadingParts texts)) ∧
        (∀ part ∈ leadingParts texts, ∃ t, some t ∈ texts ∧ part ∈ Attribute.commaParts t.toList) ∧
        ((∀ s t, some s ∈ texts → some t ∈ texts → s ≠ "" → t ≠ "" → s = t) →
          ∀ t, some t ∈ texts → ∀ part ∈ Attribute.commaParts t.toList, part ∈ leadingParts texts)) ∧
    (∀ row : Entries, Tidy row → row.IsRecord → ∀ cs, row.field? name = some (.list (Attribute.commaParts cs)) →
      ∃ out, enrich store searchables sortables row = .ok out ∧
        out.field? name = some (.list ((Attribute.commaParts cs).take 1))) ∧
    ∀ (t : Catalog.Tables) (id : Int),
      let values := Catalog.Tables.chosen (t.valuesOf (some store.id) id name) (t.valuesOf none id name)
      values ≠ [] → ∃ out, enrich store searchables sortables (t.loadedRow store.id id) = .ok out ∧
        out.field? name = some (.list (leadingParts (values.map (·.value)))) := by
  refine ⟨?_, ?_, ?_⟩
  · intro row hrow hr texts hv
    exact ⟨_, enrich_eq hs ho hrow, hf.field?_multiselect hr ha hk hv, fun _ => mem_leadingParts,
      fun hall _ hm _ => mem_leadingParts_of_alike hall hm⟩
  · intro row hrow hr cs hv
    obtain ⟨texts, hparts, hlead⟩ := leadingParts_of_parts cs
    rw [hparts] at hv
    refine ⟨_, enrich_eq hs ho hrow, ?_⟩
    rw [hf.field?_multiselect hr ha hk hv, hlead]
  · intro t id values hne
    refine ⟨_, enrich_eq hs ho (t.tidy_loadedRow store.id id), ?_⟩
    refine hf.field?_multiselect (t.isRecord_loadedRow store.id id) ha hk ?_
    have hvalues : (values.map (·.value)).map told = values.map Catalog.Tables.storedValue := by
      rw [List.map_map]
      exact List.map_congr_left fun v _ => told_value v
    rw [t.field?_loadedRow, hvalues]
    exact if_neg hne

end Options

def shirtSizes : Catalog.AttributeRow := ⟨5, "sizes", none, "varchar", "multiselect", some true, some true, none⟩

def shirtTables : Catalog.Tables where
  attributes := [shirtSizes]
  products := [⟨7, "shirt", .int 4, some true, some true⟩]
  values := [⟨1, 7, 5, none, some "1,2"⟩, ⟨2, 7, 5, none, some "3"⟩]

theorem ownField_sizes : OwnField ⟨1, 1, none, none⟩ (shirtTables.sortables (.int 1)) "sizes" where
  notOptions := by decide
  notStore := by decide
  notSort := by
    intro other a ha
    have hnone : (shirtTables.sortables (.int 1)).known? other = none := rfl
    rw [hnone] at ha
    cases ha

theorem known_sizes : (shirtTables.searchables (.int 1)).known? "sizes" =
    some (shirtTables.attributeOf (.int 1) shirtSizes) := rfl

theorem kind_sizes : (shirtTables.attributeOf (.int 1) shirtSizes).kind = .option true := by
  decide

open scoped Calendar.Daylight

theorem shirt_sizes_are_split : ∃ out again, enrich ⟨1, 1, none, none⟩ (shirtTables.searchables (.int 1))
      (shirtTables.sortables (.int 1)) (shirtTables.loadedRow 1 7) = .ok out ∧
    out.field? "sizes" = some (.list [.text "1", .text "2"]) ∧
    enrich ⟨1, 1, none, none⟩ (shirtTables.searchables (.int 1)) (shirtTables.sortables (.int 1))
      (Entries.set [] "sizes" (.list [.text "1", .text "2"])) = .ok again ∧
    again.field? "sizes" = some (.list [.text "1"]) := by
  obtain ⟨-, hagain, hloaded⟩ := multiselect_is_its_leading_text (shirtTables.labelled_listing _ _)
    (shirtTables.labelled_listing _ _) known_sizes kind_sizes ownField_sizes
  obtain ⟨out, hout, hsizes⟩ := hloaded shirtTables 7 (by decide)
  obtain ⟨again, hsplit, hfirst⟩ := hagain (Entries.set [] "sizes" (.list [.text "1", .text "2"]))
    (tidy_nil.set rfl fun _ => ⟨_, rfl⟩) (Entries.isRecord_nil.set _ _) "1,2".toList
    (Entries.field?_set_self _ _ _)
  exact ⟨out, again, hout, hsizes.trans rfl, hsplit, hfirst.trans rfl⟩

/-- The size of the second row is not indexed. -/
theorem sizes_of_later_rows_are_lost : ∃ rows row out sizes,
    (Catalog.stored (some shirtTables)).loadRows (.int 1) (.list [.int 7]) = .ok rows ∧
    rows.find? (.int 7) = some row ∧ row.field? "sizes" = some (.list [.text "1,2", .text "3"]) ∧
    enrich ⟨1, 1, none, none⟩ (shirtTables.searchables (.int 1)) (shirtTables.sortables (.int 1)) row = .ok out ∧
    out.field? "sizes" = some (.list sizes) ∧ .text "3" ∈ Attribute.commaParts "3".toList ∧ .text "3" ∉ sizes := by
  have hload : (Catalog.stored (some shirtTables)).loadRows (.int 1) (.list [.int 7]) =
      .ok (Keyed.table [7] (shirtTables.loadedRow 1)) :=
    shirtTables.loadRows_eq (by decide) (by decide) (List.nodup_singleton 7) rfl
  have hrow : (shirtTables.loadedRow 1 7).field? "sizes" = some (.list [.text "1,2", .text "3"]) :=
    (shirtTables.field?_loadedRow 1 7 "sizes").trans rfl
  have htold : (shirtTables.loadedRow 1 7).field? "sizes" = some (.list ([some "1,2", some "3"].map told)) := hrow
  have hsizes := ownField_sizes.field?_multiselect (shirtTables.isRecord_loadedRow 1 7) known_sizes kind_sizes htold
  refine ⟨_, shirtTables.loadedRow 1 7, _, _, hload, Keyed.find?_table (List.mem_singleton_self 7), hrow,
    enrich_eq (shirtTables.labelled_listing _ _) (shirtTables.labelled_listing _ _) (shirtTables.tidy_loadedRow 1 7),
    hsizes, ?_, ?_⟩
  · exact List.mem_singleton_self _
  · have hparts : leadingParts [some "1,2", some "3"] = [.text "1", .text "2"] := rfl
    rw [hparts]
    simp

end CatalogSearch.Row
