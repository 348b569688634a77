import CatalogSearch.Engine.Mapping
import CatalogSearch.Proofs.Document.FieldByField
import CatalogSearch.Proofs.Number.DecimalTexts
import CatalogSearch.Sorting

namespace CatalogSearch

namespace Engine

/-- How the engine takes a field that comes up later: as the first template that asks for names like it. -/
def IndexMapping.ofName? (m : IndexMapping) (name : String) : Option FieldMapping :=
  match m.properties.lookup name with
  | some p => some p
  | none => (m.templates.find? fun t => match t.rule with
    | .named start => start.toList.isPrefixOf name.toList
    | .anyText => false).map Template.mapping

def worth? : Value → Option ℚ
  | .int n => some n
  | .real x => x.toRat?
  | _ => none

/-- The order in which the engine has the values of a field: keywords by their texts, character by character,
and numbers by what they are worth. -/
def FieldType.Less : FieldType → Value → Value → Prop
  | .keyword, v, w => (Json.keyText v).toList < (Json.keyText w).toList
  | .float, v, w | .integer, v, w => ∃ p q, worth? v = some p ∧ worth? w = some q ∧ p < q
  | .text, _, _ => False

/-- Ascending order on a field puts one document before another. -/
def IndexMapping.Ascends (m : IndexMapping) (name : String) (D D' : Entries) : Prop :=
  ∃ field v w, m.ofName? name = some field ∧ D.field? name = some v ∧ D'.field? name = some w ∧ field.type.Less v w

theorem ofName?_sortField {name : String} (h : FieldNames.Starts "sort_by_" name) :
    catalogMapping.ofName? name = some { type := .keyword, ignoreAbove := some 256 } := by
  have hstart : "sort_by_".toList.isPrefixOf name.toList = true := List.isPrefixOf_iff_prefix.mpr h
  -- No property has a name of its own that begins so, and of the templates the first is for such names.
  have hnone : catalogMapping.properties.lookup name = none := by
    refine List.lookup_eq_none_iff.mpr fun p hp => ?_
    have hall : catalogMapping.properties.all fun p =>
        !("sort_by_".toList.isPrefixOf p.1.toList || p.1.toList.isPrefixOf "sort_by_".toList) := by decide
    have hd := List.all_eq_true.mp hall p hp
    rw [Bool.not_eq_true'] at hd
    exact bne_iff_ne.mpr (h.ne (FieldNames.starts_self p.1) hd)
  rw [IndexMapping.ofName?, hnone]
  exact congrArg (Option.map Template.mapping) (List.find?_cons_of_pos hstart)

end Engine

open Engine Row

/-- A document made of a row that has, under the code of a sortable attribute, a value to be sorted as a number. -/
def HasDecimal [Calendar.Zones] (code : String) (a : Attribute) (D : Entries) (x : Binary64) : Prop :=
  ∃ store searchables sortables row v, Listing.OfAttributes searchables ∧ Listing.OfAttributes sortables ∧
    SortsApart store sortables ∧ Enrichable store sortables row ∧ sortables.attributeAt? (.text code) = some a ∧
    (.text code, v) ∈ row ∧ enrich store searchables sortables row = .ok D ∧
    a.sortValue (indexedValue store searchables (.text code) v) = .real x

variable {code : String} {a : Attribute} {D D' : Entries} {x y : Binary64}

def decimalField (a : Attribute) : String := String.ofList (sortFieldName a.code.toList none)

theorem sortField_of_decimal (h : a.kind = .decimal) (language : Option (List Char)) :
    a.sortField language = sortFieldName a.code.toList none := by
  rw [Attribute.sortField, Attribute.isLocalized, h]
  rfl

theorem HasDecimal.field? [Calendar.Zones] (h : HasDecimal code a D x) (hk : a.kind = .decimal) :
    D.field? (decimalField a) = some (.real x) := by
  obtain ⟨store, searchables, sortables, row, v, hse, hso, hs, he, ha, hm, hD, hx⟩ := h
  obtain ⟨out, hout, hp, hd⟩ := enrich_perm hse hso hs he
  cases hD.symm.trans hout
  have hf := sortField?_of_enriched hp hd hm ha
  rwa [sortField_of_decimal hk, hx] at hf

theorem sortValue_decimal (hk : a.kind = .decimal) (v : Value) :
    a.sortValue v = (v.first.number?.map Value.real).getD .null := by
  rw [Attribute.sortValue, hk]
  dsimp only
  cases v.first.number? <;> rfl

theorem HasDecimal.isCanonical [Calendar.Zones] (h : HasDecimal code a D x) (hk : a.kind = .decimal) : x.IsCanonical := by
  obtain ⟨store, searchables, sortables, row, v, -, -, -, -, -, -, -, hx⟩ := h
  rw [sortValue_decimal hk] at hx
  generalize (indexedValue store searchables (.text code) v).first = w at hx
  cases hn : w.number? with
  | none => rw [hn] at hx; cases hx
  | some z =>
      rw [hn] at hx
      cases hx
      unfold Value.number? at hn
      split at hn
      · cases hn
      · exact Number.isCanonical_readReal? hn

theorem ascends_iff [Calendar.Zones] (hk : a.kind = .decimal) (h : HasDecimal code a D x) (h' : HasDecimal code a D' y) :
    catalogMapping.Ascends (decimalField a) D D' ↔ Json.realText x < Json.realText y := by
  have hname := ofName?_sortField (FieldNames.starts_sortFieldName a.code.toList none)
  have htext : ∀ z : Binary64, (Json.keyText (.real z)).toList = Json.realText z := fun z => String.toList_ofList
  constructor
  · rintro ⟨field, v, w, hfield, hv, hw, hlt⟩
    cases hname.symm.trans hfield
    cases (h.field? hk).symm.trans hv
    cases (h'.field? hk).symm.trans hw
    simpa only [FieldType.Less, htext] using hlt
  · intro hlt
    refine ⟨_, _, _, hname, h.field? hk, h'.field? hk, ?_⟩
    simpa only [FieldType.Less, htext] using hlt

theorem sortKeys_decimal (hk : a.kind = .decimal) (hc : code ∉ ["relevance", "position", "price"]) (context : Context)
    {sortables : Listing} (ha : sortables.attributeAt? (.text code) = some a) :
    sortKeys context sortables (.map [(.text code, .text "asc")]) = .ok [⟨(decimalField a).toList, "asc".toList⟩] := by
  simp only [List.mem_cons, List.not_mem_nil, or_false, not_or] at hc
  obtain ⟨hr, hp, hprice⟩ := hc
  have hf := Listing.find?_of_attributeAt? ha
  have hd : Text.lower (Text.trim (Value.orElse (.text "asc") (.text "asc")).chars) = "asc".toList := by
    decide
  have hkey : SortKey.ofEntry context sortables (.text code) (.text "asc") =
      ⟨a.sortField context.language?, "asc".toList⟩ := by
    simp only [SortKey.ofEntry, Value.same_text_of_ne hr, Value.same_text_of_ne hp, Value.same_text_of_ne hprice, hf, hd]
    rfl
  have hone : sortKeys context sortables (.map [(.text code, .text "asc")]) =
      .ok [SortKey.ofEntry context sortables (.text code) (.text "asc")] := rfl
  have hname : (decimalField a).toList = sortFieldName a.code.toList none := String.toList_ofList
  rw [hone, hkey, sortField_of_decimal hk, hname]

/-- Decimal values are put in the order of their texts, in which ten comes before nine. Of numbers with equally
many digits in front of the point, that is the order of the numbers. -/
theorem decimals_are_sorted_by_texts [Calendar.Zones] (hk : a.kind = .decimal) (hc : code ∉ ["relevance", "position", "price"]) :
    ∃ name : String,
      (∀ (context : Context) (sortables : Listing), sortables.attributeAt? (.text code) = some a →
        sortKeys context sortables (.map [(.text code, .text "asc")]) = .ok [⟨name.toList, "asc".toList⟩]) ∧
      ∀ D D' x y, HasDecimal code a D x → HasDecimal code a D' y →
        (catalogMapping.Ascends name D D' ↔ Json.realText x < Json.realText y) ∧
        ∀ n, Number.IsPlain n (Json.realText x) → Number.IsPlain n (Json.realText y) →
          (catalogMapping.Ascends name D D' ↔ ∃ p q, x.toRat? = some p ∧ y.toRat? = some q ∧ p < q) := by
  refine ⟨decimalField a, fun context sortables ha => sortKeys_decimal hk hc context ha, ?_⟩
  intro D D' x y h h'
  refine ⟨ascends_iff hk h h', fun n px py => ?_⟩
  rw [ascends_iff hk h h', Binary64.text_lt_iff (h.isCanonical hk) (h'.isCanonical hk) px py]

def weightListing : Listing := [("weight", .known shelfWeight)]

theorem attributeAt?_weightListing {key : Value} {b : Attribute} (h : weightListing.attributeAt? key = some b) :
    key = .text "weight" ∧ b = shelfWeight := by
  obtain ⟨name, rfl, hm⟩ := Listing.mem_of_attributeAt? h
  simpa [weightListing] using hm

theorem decimalField_shelfWeight : decimalField shelfWeight = "sort_by_weight" := by decide

theorem hasDecimal_weight [Calendar.Zones] (text : String) {x : Binary64} (hx : (Value.text text).number? = some x)
    (ht : (Value.text text).truthy = true) : ∃ D, HasDecimal "weight" shelfWeight D x := by
  have hse : Listing.OfAttributes [] := fun _ he => absurd he List.not_mem_nil
  have hso : weightListing.OfAttributes := by simp [Listing.OfAttributes, weightListing]
  have hs : SortsApart { id := 1 } weightListing := by
    intro key other b c hb hc _
    rw [(attributeAt?_weightListing hb).1, (attributeAt?_weightListing hc).1]
  have hrow : Enrichable { id := 1 } weightListing [(.text "weight", .list [.text text])] := by
    refine ⟨⟨by simp [Keyed.keys, Value.same_text_self], by simp [Keyed.keys]⟩, by simp [Value.isKey],
      by simp [Document.optionsField], by simp [Document.storeField], ?_⟩
    intro e he key b hb
    rw [List.mem_singleton.mp he, (attributeAt?_weightListing hb).2, sortField_of_decimal rfl]
    change Value.text "weight" ≠ .text (decimalField shelfWeight)
    rw [decimalField_shelfWeight]
    simp
  obtain ⟨D, hD, -⟩ := enrich_perm hse hso hs hrow
  refine ⟨D, _, _, _, _, _, hse, hso, hs, hrow, rfl, List.mem_singleton_self _, hD, ?_⟩
  have htidied : tidied (.list [.text text]) = .list [.text text] := by
    rw [tidied, distinct_cons, List.filter_nil, List.filter_cons_of_pos ht]
    rfl
  have hvalue : indexedValue { id := 1 } [] (.text "weight") (.list [.text text]) = .list [.text text] := htidied
  have hfirst : (Value.list [.text text]).first.number? = some x := hx
  rw [hvalue, sortValue_decimal rfl, hfirst]
  rfl

theorem realText_of_shortest {m : Nat} {e : Int} (hm : m ≠ 0) {d : Decimal} (hd : Decimal.shortest m e = d)
    (hn : ¬ (d.digits ≠ 0 ∧ d.digits % 10 = 0)) : Json.realText (.finite false m e) = NumberStyle.plain.write d := by
  rw [Binary64.realText_finite e hm, hd, Decimal.normal, dif_neg hn]

theorem realText_nine : Json.realText (.ofInt 9) = "9.0".toList := by
  have hd : Decimal.shortest 5066549580791808 (-49) = ⟨9, 0⟩ := by rfl
  exact (realText_of_shortest (by decide) hd (by decide)).trans (by decide)

theorem realText_ten : Json.realText (.ofInt 10) = "10.0".toList := by
  have hd : Decimal.shortest 5629499534213120 (-49) = ⟨1, 1⟩ := by rfl
  exact (realText_of_shortest (by decide) hd (by decide)).trans (by decide)

theorem sortKeys_weight :
    sortKeys {} weightListing (.map [(.text "weight", .text "asc")]) = .ok [⟨"sort_by_weight".toList, "asc".toList⟩] := by
  have hkey : sortKeys {} weightListing (.map [(.text "weight", .text "asc")]) =
      .ok [⟨(decimalField shelfWeight).toList, "asc".toList⟩] := sortKeys_decimal rfl (by decide) {} rfl
  rwa [decimalField_shelfWeight] at hkey

open scoped Calendar.Daylight

theorem lighter_comes_first : ∃ D D', HasDecimal "weight" shelfWeight D (.ofRatio false 25 2) ∧
    HasDecimal "weight" shelfWeight D' (.ofInt 75) ∧
    sortKeys {} weightListing (.map [(.text "weight", .text "asc")]) = .ok [⟨"sort_by_weight".toList, "asc".toList⟩] ∧
    catalogMapping.Ascends "sort_by_weight" D D' := by
  obtain ⟨D, h⟩ : ∃ D, HasDecimal "weight" shelfWeight D (.ofRatio false 25 2) := hasDecimal_weight "12,5" rfl rfl
  obtain ⟨D', h'⟩ : ∃ D, HasDecimal "weight" shelfWeight D (.ofInt 75) := hasDecimal_weight "75" rfl rfl
  have hlight : Json.realText (.ofRatio false 25 2) = "12.5".toList := by
    have hd : Decimal.shortest 7036874417766400 (-49) = ⟨125, -1⟩ := by rfl
    exact (realText_of_shortest (by decide) hd (by decide)).trans (by decide)
  have hheavy : Json.realText (.ofInt 75) = "75.0".toList := by
    have hd : Decimal.shortest 5277655813324800 (-46) = ⟨75, 0⟩ := by rfl
    exact (realText_of_shortest (by decide) hd (by decide)).trans (by decide)
  obtain ⟨name, hkeys, horder⟩ := @decimals_are_sorted_by_texts "weight" shelfWeight _ rfl (by decide)
  have hname : name = "sort_by_weight" := by
    have hk := (hkeys {} weightListing rfl).symm.trans sortKeys_weight
    rw [Except.ok.injEq, List.cons.injEq, SortKey.mk.injEq] at hk
    exact String.toList_inj.mp hk.1.1
  rw [hname] at horder
  have hless : ∃ p q, (Binary64.ofRatio false 25 2).toRat? = some p ∧ (Binary64.ofInt 75).toRat? = some q ∧ p < q := by
    have hx : Binary64.ofRatio false 25 2 = .finite false 7036874417766400 (-49) := rfl
    have hy : Binary64.ofInt 75 = .finite false 5277655813324800 (-46) := rfl
    rw [hx, hy]
    refine ⟨_, _, rfl, rfl, ?_⟩
    norm_num
  refine ⟨D, D', h, h', sortKeys_weight, ?_⟩
  refine ((horder D D' _ _ h h').2 2 ?_ ?_).mpr hless
  · exact ⟨['1', '2'], ['5'], hlight, rfl, List.all_eq_true.mp (by decide)⟩
  · exact ⟨['7', '5'], ['0'], hheavy, rfl, List.all_eq_true.mp (by decide)⟩

/-- Nine is less than ten, but comes after it. -/
theorem ten_comes_before_nine : ∃ D D', HasDecimal "weight" shelfWeight D (.ofInt 9) ∧
    HasDecimal "weight" shelfWeight D' (.ofInt 10) ∧
    (Binary64.ofInt 9).toRat? = some 9 ∧ (Binary64.ofInt 10).toRat? = some 10 ∧
    sortKeys {} weightListing (.map [(.text "weight", .text "asc")]) = .ok [⟨"sort_by_weight".toList, "asc".toList⟩] ∧
    catalogMapping.Ascends "sort_by_weight" D' D ∧ ¬ catalogMapping.Ascends "sort_by_weight" D D' := by
  obtain ⟨D, h⟩ : ∃ D, HasDecimal "weight" shelfWeight D (.ofInt 9) := hasDecimal_weight "9" rfl rfl
  obtain ⟨D', h'⟩ : ∃ D, HasDecimal "weight" shelfWeight D (.ofInt 10) := hasDecimal_weight "10" rfl rfl
  have hup := ascends_iff rfl h' h
  have hdown := ascends_iff rfl h h'
  rw [realText_nine, realText_ten, decimalField_shelfWeight] at hup hdown
  refine ⟨D, D', h, h', ?_, ?_, sortKeys_weight, hup.mpr (by decide), fun hlt => absurd (hdown.mp hlt) (by decide)⟩
  · have hx : Binary64.ofInt 9 = .finite false 5066549580791808 (-49) := rfl
    rw [hx, Binary64.toRat?]
    norm_num
  · have hx : Binary64.ofInt 10 = .finite false 5629499534213120 (-49) := rfl
    rw [hx, Binary64.toRat?]
    norm_num

end CatalogSearch
