import CatalogSearch.Proofs.Catalog.StoreViews
import CatalogSearch.Proofs.Value.Records

namespace CatalogSearch.Catalog.Tables

variable (t : Tables) (store : Int)

def valuesOf (scope : Option Int) (id : Int) (code : String) : List ValueRow :=
  t.values.filter fun v => v.productId == id && v.storeId == scope && t.codeOf? v == some code

def labelsOf (scope : Option Int) (owner : Int) (value : String) : List OptionRow :=
  t.options.filter fun o => o.attributeId == owner && o.storeId == scope && o.value == value

def chosen {α : Type} (own shared : List α) : List α := if own = [] then shared else own

section Rows

theorem coded_append (xs ys : List ValueRow) : t.coded (xs ++ ys) = t.coded xs ++ t.coded ys :=
  List.filterMap_append

def valuesUnder (code : String) (entries : List (ValueRow × String)) : List Value :=
  (entries.filter (·.2 == code)).map fun e => storedValue e.1

theorem valuesUnder_coded (code : String) (values : List ValueRow) :
    valuesUnder code (t.coded values) = (values.filter fun v => t.codeOf? v == some code).map storedValue := by
  induction values with
  | nil => rfl
  | cons v values ih =>
      have hcons : t.coded (v :: values) = ((t.codeOf? v).map (v, ·)).toList ++ t.coded values := by
        rw [coded, List.filterMap_cons, ← coded]
        cases t.codeOf? v <;> rfl
      rw [hcons, List.filter_cons]
      cases hc : t.codeOf? v with
      | none => simpa [valuesUnder] using ih
      | some other =>
          by_cases ho : other = code
          · simpa [valuesUnder, ho] using ih
          · simpa [valuesUnder, ho] using ih

/-- The values that are there before more of them are added; the first of the store itself discards them. -/
def retained (own : Bool) (state : Entries × List String) (code : String) : List Value :=
  if own && !state.2.contains code then [] else (state.1.field code).sequence?.getD []

theorem addCoded_own {own : Bool} {e : ValueRow × String} (he : e.1.storeId.isSome = own) (state : Entries × List String)
    (code : String) : (addCoded state e).1.field? code =
      if code = e.2 then some (.list (retained own state code ++ [storedValue e.1])) else state.1.field? code := by
  rw [addCoded, addValue, Entries.field?_set, he]
  by_cases hc : code = e.2
  · rw [if_pos hc, if_pos hc, hc]
    rfl
  · rw [if_neg hc, if_neg hc]

theorem contains_addCoded {own : Bool} {e : ValueRow × String} (he : e.1.storeId.isSome = own)
    (state : Entries × List String) (code : String) :
    (own && !(addCoded state e).2.contains code) = (own && !state.2.contains code && code != e.2) := by
  rw [addCoded, he]
  cases own <;> by_cases hc : code = e.2 <;> by_cases hm : e.2 ∈ state.2 <;> simp [hc, hm]

theorem field?_foldl_addCoded {own : Bool} {entries : List (ValueRow × String)}
    (h : ∀ e ∈ entries, e.1.storeId.isSome = own) (state : Entries × List String) (code : String) :
    (entries.foldl addCoded state).1.field? code =
      if valuesUnder code entries = [] then state.1.field? code
      else some (.list (retained own state code ++ valuesUnder code entries)) := by
  induction entries generalizing state with
  | nil => rfl
  | cons e entries ih =>
      have he := h e List.mem_cons_self
      have hfield := addCoded_own he state code
      have hcontains := contains_addCoded he state code
      rw [List.foldl_cons, ih (fun d hd => h d (List.mem_cons_of_mem e hd))]
      by_cases hc : e.2 = code
      · subst hc
        have hv : valuesUnder e.2 (e :: entries) = storedValue e.1 :: valuesUnder e.2 entries := by simp [valuesUnder]
        have hk : retained own (addCoded state e) e.2 = retained own state e.2 ++ [storedValue e.1] := by
          rw [retained, hcontains, Entries.field, hfield]
          simp [Value.sequence?]
        rw [hv, hk, if_neg (List.cons_ne_nil _ _), hfield, if_pos rfl]
        split
        · next hn => rw [hn]
        · rw [List.append_assoc, List.singleton_append]
      · have hv : valuesUnder code (e :: entries) = valuesUnder code entries := by simp [valuesUnder, hc]
        have hk : retained own (addCoded state e) code = retained own state code := by
          rw [retained, retained, hcontains, Entries.field, hfield, if_neg (Ne.symm hc), ← Entries.field]
          simp [Ne.symm hc]
        rw [hv, hk, hfield, if_neg (Ne.symm hc)]

theorem owned_of_shared {entries : List (ValueRow × String)} (h : ∀ e ∈ entries, e.1.storeId.isSome = false)
    (state : Entries × List String) : (entries.foldl addCoded state).2 = state.2 := by
  refine List.foldlRecOn (motive := fun s : Entries × List String => s.2 = state.2) _ _ rfl ?_
  intro s hs e he
  rw [addCoded, h e he]
  exact hs

theorem codedValues_eq (id : Int) : t.codedValues store id =
    t.coded ((t.values.filter (·.productId == id)).filter (·.storeId.isNone)) ++
      t.coded ((t.values.filter (·.productId == id)).filter (·.storeId == some store)) := by
  have hrows : (t.values.filter fun v => [Value.int id].any (refersTo · v.productId)) =
      t.values.filter (·.productId == id) := by
    apply List.filter_congr
    intro v _
    simp [refersTo_int, Bool.beq_comm]
  have hown : ∀ v : ValueRow, v.storeId.any (refersTo (.int store)) = (v.storeId == some store) := by
    intro v
    cases v.storeId with
    | none => rfl
    | some other =>
        rw [Option.any_some, refersTo_int, Option.some_beq_some, Bool.beq_comm]
  simp only [codedValues, visibleValues, hrows, hown, coded_append]

theorem scope_of_coded {p : ValueRow → Bool} {values : List ValueRow} {e : ValueRow × String}
    (h : e ∈ t.coded (values.filter p)) : p e.1 = true := by
  obtain ⟨v, hv, hc⟩ := List.mem_filterMap.mp h
  obtain ⟨code, -, rfl⟩ := Option.map_eq_some_iff.mp hc
  exact (List.mem_filter.mp hv).2

theorem field?_loadedRow (id : Int) (code : String) : (t.loadedRow store id).field? code =
    let values := chosen (t.valuesOf (some store) id code) (t.valuesOf none id code)
    if values = [] then none else some (.list (values.map storedValue)) := by
  let rows := t.values.filter (·.productId == id)
  have hshared : ∀ e ∈ t.coded (rows.filter (·.storeId.isNone)), e.1.storeId.isSome = false := by
    intro e he
    simpa using t.scope_of_coded he
  have hown : ∀ e ∈ t.coded (rows.filter (·.storeId == some store)), e.1.storeId.isSome = true := by
    intro e he
    have hs := t.scope_of_coded he
    rw [beq_iff_eq] at hs
    rw [hs]
    rfl
  have hvalues : ∀ scope (p : ValueRow → Bool), (∀ v, p v = (v.storeId == scope)) →
      valuesUnder code (t.coded (rows.filter p)) = (t.valuesOf scope id code).map storedValue := by
    intro scope p hp
    rw [valuesUnder_coded, List.filter_filter, List.filter_filter, valuesOf]
    congr 1
    apply List.filter_congr
    intro v _
    rw [hp]
    ac_rfl
  have hs := hvalues none (·.storeId.isNone) (fun v => by cases v.storeId <;> rfl)
  have ho := hvalues (some store) (·.storeId == some store) fun _ => rfl
  have hnone : retained true ((t.coded (rows.filter (·.storeId.isNone))).foldl addCoded ([], [])) code = [] := by
    rw [retained, owned_of_shared hshared]
    rfl
  rw [loadedRow, codedValues_eq, List.foldl_append, field?_foldl_addCoded hown, field?_foldl_addCoded hshared, hnone, hs, ho,
    chosen]
  by_cases hn : t.valuesOf (some store) id code = []
  · simp only [hn, List.map_nil, if_true, List.map_eq_nil_iff]
    rfl
  · simp only [hn, List.map_eq_nil_iff, if_false]
    rfl

end Rows

section Labels

def labelEntries (rows : List OptionRow) : Entries := rows.map fun o => (.text o.value, .text o.label)

theorem find?_labelEntries (rows : List OptionRow) (value : String) :
    Keyed.find? (labelEntries rows).reverse (.text value) =
      ((rows.filter (·.value == value)).getLast?).map fun o => .text o.label := by
  have hp : (fun o : OptionRow => (Value.text value).same (.text o.value)) = (·.value == value) := by
    funext o
    rw [Bool.eq_iff_iff, Value.same_text, Value.text.injEq, beq_iff_eq]
  rw [Keyed.find?, labelEntries, ← List.map_reverse, List.find?_map, Option.map_map, ← List.head?_filter,
    List.filter_reverse, List.head?_reverse]
  simp only [Function.comp_def, hp]

theorem optionsOf_eq (owner : Int) : t.optionsOf owner (.int store) =
    Keyed.insertAll (Keyed.insertAll [] (labelEntries ((t.options.filter (·.attributeId == owner)).filter (·.storeId.isNone))))
      (labelEntries ((t.options.filter (·.attributeId == owner)).filter (·.storeId == some store))) := by
  have hown : ∀ o : OptionRow, isFor o.storeId (.int store) = (o.storeId == some store) := by
    intro o
    cases o.storeId with
    | none => rfl
    | some other => rw [isFor, Value.same_int, Option.some_beq_some]
  simp only [optionsOf, hown, Keyed.insertAll, labelEntries, List.foldl_map]
  rfl

theorem isRecord_optionsOf (owner : Int) (store : Value) : (t.optionsOf owner store).IsRecord := by
  have hadd : ∀ (rows : List OptionRow) (es : Entries), es.IsRecord →
      (rows.foldl (fun es o => es.set o.value (.text o.label)) es).IsRecord := fun rows es he =>
    List.foldlRecOn (motive := Entries.IsRecord) _ _ he fun _ hes o _ => hes.set o.value _
  exact hadd _ _ (hadd _ _ Entries.isRecord_nil)

theorem find?_optionsOf (owner : Int) (value : String) : (t.optionsOf owner (.int store)).field? value =
    (chosen (t.labelsOf (some store) owner value) (t.labelsOf none owner value)).getLast?.map fun o => .text o.label := by
  have hlabels : ∀ (scope : Option Int) (p : OptionRow → Bool), (∀ o, p o = (o.storeId == scope)) →
      ((t.options.filter (·.attributeId == owner)).filter p).filter (·.value == value) = t.labelsOf scope owner value := by
    intro scope p hp
    rw [List.filter_filter, List.filter_filter, labelsOf]
    apply List.filter_congr
    intro o _
    rw [hp]
    ac_rfl
  have hnone : Keyed.find? ([] : Entries) (.text value) = none := rfl
  rw [optionsOf_eq, Entries.field?, Keyed.find?_insertAll, Keyed.find?_insertAll, find?_labelEntries, find?_labelEntries,
    hlabels none (·.storeId.isNone) (fun o => by cases o.storeId <;> rfl), hlabels (some store) (·.storeId == some store)
    (fun _ => rfl), hnone, Option.or_none, chosen]
  split
  · next hn => rw [hn]; rfl
  · next hn =>
      rw [List.getLast?_eq_some_getLast hn]
      rfl

theorem label_attributeOf {row : AttributeRow} (hsource : isSet row.usesSource = true) (value : String) :
    (t.attributeOf (.int store) row).label (.text value) =
      ((chosen (t.labelsOf (some store) row.id value) (t.labelsOf none row.id value)).getLast?.map fun o =>
        Value.text o.label).getD .null := by
  have hrecord := t.isRecord_optionsOf row.id (.int store)
  have hbuilt : (t.attributeOf (.int store) row).options = Keyed.insertAll [] (t.optionsOf row.id (.int store)) := by
    rw [attributeOf, if_pos hsource, Attribute.build, Keyed.insertAll]
    refine List.foldl_ext _ _ _ fun es e he => ?_
    obtain ⟨name, hname⟩ := hrecord.texts e he
    rw [hname, Value.display_text]
    rfl
  have hu : Keyed.OnceUnder (t.optionsOf row.id (.int store)) value := fun _ _ ha hb =>
    Entries.eq_of_mem hrecord.distinct ha hb
  rw [← find?_optionsOf, Entries.field?, ← hu.find?_insertAll, ← hbuilt, Attribute.label, Value.display_text]
  · rfl
  · simp

end Labels

variable {t} {store : Int}

theorem codeOf?_eq_some (h : t.Sound) {v : ValueRow} {code : String} :
    t.codeOf? v = some code ↔ ∃ a ∈ t.attributes, a.id = v.attributeId ∧ a.code = code := by
  rw [codeOf?, Option.map_eq_some_iff]
  constructor
  · rintro ⟨a, ha, rfl⟩
    exact ⟨a, List.mem_of_find?_eq_some ha, by simpa using List.find?_some ha, rfl⟩
  · rintro ⟨a, ha, hid, rfl⟩
    cases hf : t.attributes.find? (·.id == v.attributeId) with
    | none => exact absurd hid (by simpa using List.find?_eq_none.mp hf a ha)
    | some b =>
        have hb : b.id = v.attributeId := by simpa using List.find?_some hf
        exact ⟨b, rfl, by rw [h.attributes.eq_of_id (List.mem_of_find?_eq_some hf) ha (hb.trans hid.symm)]⟩

theorem mem_valuesOf (h : t.Sound) {scope : Option Int} {id : Int} {code : String} {v : ValueRow} :
    v ∈ t.valuesOf scope id code ↔ v ∈ t.values ∧ v.productId = id ∧ v.storeId = scope ∧
      ∃ a ∈ t.attributes, a.id = v.attributeId ∧ a.code = code := by
  rw [← codeOf?_eq_some h, valuesOf, List.mem_filter]
  simp [and_assoc]

theorem attribute?_of_mem (h : t.Sound) {row : AttributeRow} (hm : row ∈ t.attributes) (store : Value) :
    (Catalog.stored (some t)).attribute? (.text row.code) store = .ok (some (.known (t.attributeOf store row))) := by
  have hp : (fun a : AttributeRow => (asText (.text row.code)).same (.text a.code)) = (·.code == row.code) := by
    funext a
    rw [asText, Value.ofChars, Value.chars, String.ofList_toList, Bool.eq_iff_iff, Value.same_text, Value.text.injEq, beq_iff_eq]
    all_goals simp
  have hf : t.attributes.find? (·.code == row.code) = some row := by
    cases hf : t.attributes.find? (·.code == row.code) with
    | none => simpa using List.find?_eq_none.mp hf row hm
    | some a =>
        have hc : (a.code == row.code) = true := List.find?_some (p := fun b : AttributeRow => b.code == row.code) hf
        rw [h.attributes.held.eq_of_clash (fun _ _ => Bool.beq_comm) (List.mem_of_find?_eq_some hf) hm hc]
  have ha : (Catalog.stored (some t)).attribute? (.text row.code) store = .ok ((t.attributes.find? fun a =>
      (asText (.text row.code)).same (.text a.code)).map fun a => .known (t.attributeOf store a)) := rfl
  rw [ha, hp, hf]
  rfl

theorem isRecord_loadedRow (t : Tables) (store id : Int) : (t.loadedRow store id).IsRecord :=
  List.foldlRecOn (motive := fun s : Entries × List String => s.1.IsRecord) _ _ Entries.isRecord_nil
    fun _ hs e _ => hs.set e.2 _

/-- What a store says of a product or of a label takes the place of all that is said for all stores: the two
are never mixed, and what is said of another product or for another store is not seen. -/
theorem store_values_override (h : t.Sound) (hs : fits store = true) :
    (∀ ids : List Int, (∀ id ∈ ids, fits id = true) → ∃ (rows : Keyed Entries) (asked : List Int),
      (Catalog.stored (some t)).loadRows (.int store) (.list (ids.map Value.int)) = .ok rows ∧
      Keyed.keys rows = asked.map Value.int ∧ asked.Nodup ∧ (∀ id, id ∈ asked ↔ id ∈ ids) ∧
      ∀ id ∈ ids, ∃ row, rows.find? (.int id) = some row ∧ row.IsRecord ∧ ∀ code,
        row.field? code =
          let values := chosen (t.valuesOf (some store) id code) (t.valuesOf none id code)
          if values = [] then none else some (.list (values.map storedValue))) ∧
    (∀ scope id code, (t.valuesOf scope id code).Pairwise (fun v w => v.id < w.id) ∧
      ∀ v, v ∈ t.valuesOf scope id code ↔ v ∈ t.values ∧ v.productId = id ∧ v.storeId = scope ∧
        ∃ a ∈ t.attributes, a.id = v.attributeId ∧ a.code = code) ∧
    (∀ scope owner value, (t.labelsOf scope owner value).Pairwise (fun o p => o.id < p.id) ∧
      ∀ o, o ∈ t.labelsOf scope owner value ↔ o ∈ t.options ∧ o.attributeId = owner ∧ o.storeId = scope ∧ o.value = value) ∧
    ∀ row ∈ t.attributes, isSet row.usesSource = true → ∃ a,
      (Catalog.stored (some t)).attribute? (.text row.code) (.int store) = .ok (some (.known a)) ∧
      (∃ found, (Catalog.stored (some t)).searchables (.int store) = .ok found ∧
        (isSet row.isSearchable = true → (row.code, .known a) ∈ found)) ∧
      (∃ found, (Catalog.stored (some t)).sortables (.int store) = .ok found ∧
        (isSet row.isSortable = true → (row.code, .known a) ∈ found)) ∧
      ∀ value, a.label (.text value) =
        ((chosen (t.labelsOf (some store) row.id value) (t.labelsOf none row.id value)).getLast?.map fun o =>
          Value.text o.label).getD .null := by
  refine ⟨?_, ?_, ?_, ?_⟩
  · intro ids hf
    obtain ⟨asked, hn, hmem, hrows⟩ := t.loadRows_repeated store ids
    refine ⟨Keyed.table asked (t.loadedRow store), asked, ?_, Keyed.keys_table, hn, hmem, fun id hid => ?_⟩
    · rw [t.loadRows_stored hs hf rfl, hrows, t.loadRows_table store hn]
    · exact ⟨_, Keyed.find?_table ((hmem id).mpr hid), t.isRecord_loadedRow store id, t.field?_loadedRow store id⟩
  · exact fun scope id code => ⟨h.values.ordered.filter _, fun v => mem_valuesOf h⟩
  · exact fun scope owner value => ⟨h.options.ordered.filter _, fun o => by simp [labelsOf, and_assoc]⟩
  · intro row hm hsource
    have hlisted : ∀ p : AttributeRow → Bool, p row = true →
        (row.code, Listed.known (t.attributeOf (.int store) row)) ∈ t.listing (.int store) (t.attributes.filter p) :=
      fun p hp => List.mem_map.mpr ⟨row, List.mem_filter.mpr ⟨hm, hp⟩, rfl⟩
    exact ⟨_, attribute?_of_mem h hm _, ⟨_, rfl, hlisted (isSet ·.isSearchable)⟩, ⟨_, rfl, hlisted (isSet ·.isSortable)⟩,
      t.label_attributeOf store hsource⟩

def deskColor : AttributeRow := ⟨4, "color", none, "int", "select", some true, some true, none⟩

def deskTables : Tables where
  stores := [⟨1, "de", "German", 1, "de_DE", "UTC", some true⟩, ⟨2, "fr", "French", 1, "fr_FR", "UTC", some true⟩]
  attributes := [lampName, deskColor]
  options := [⟨1, 4, none, "8", "rot"⟩, ⟨2, 4, some 2, "8", "rouge"⟩, ⟨3, 4, none, "9", "blau"⟩]
  products := [⟨7, "desk", .int 4, some true, some true⟩]
  values := [⟨1, 7, 3, some 2, some ""⟩, ⟨2, 7, 3, none, some "Tisch"⟩, ⟨3, 7, 4, none, some "8"⟩]

theorem sound_deskTables : deskTables.Sound := by
  refine ⟨⟨?_, ?_⟩, ⟨?_, ?_, ?_⟩, ⟨?_, ?_, ?_⟩, ⟨?_, ?_, ?_⟩, ⟨?_, ?_, ?_⟩, ⟨?_, ?_, ?_⟩, held_nil, held_nil⟩ <;>
    simp [deskTables, lampName, deskColor, Value.isScalar, fits, twoTo, optionsClash]

theorem desk_has_its_own_name : ∃ rows row color,
    (Catalog.stored (some deskTables)).loadRows (.int 2) (.list [.int 7]) = .ok rows ∧
      rows.find? (.int 7) = some row ∧ row.field? "name" = some (.list [.text ""]) ∧
      row.field? "color" = some (.list [.text "8"]) ∧
      (Catalog.stored (some deskTables)).attribute? (.text "color") (.int 2) = .ok (some (.known color)) ∧
      color.label (.text "8") = .text "rouge" ∧ color.label (.text "9") = .text "blau" := by
  have hcolor : deskColor ∈ deskTables.attributes := by simp [deskTables]
  obtain ⟨hrows, -, -, hlabels⟩ := @store_values_override deskTables 2 sound_deskTables (by decide)
  obtain ⟨rows, asked, hload, -, -, -, hall⟩ := hrows [7] (by simp [fits, twoTo])
  obtain ⟨row, hfind, -, hfield⟩ := hall 7 (List.mem_singleton_self _)
  obtain ⟨color, hknown, -, -, hlabel⟩ := hlabels deskColor hcolor rfl
  refine ⟨rows, row, color, hload, hfind, ?_, ?_, hknown, ?_, ?_⟩
  · exact (hfield "name").trans rfl
  · exact (hfield "color").trans rfl
  · exact (hlabel "8").trans rfl
  · exact (hlabel "9").trans rfl

end CatalogSearch.Catalog.Tables
