import CatalogSearch.Document
import CatalogSearch.Proofs.Engine.Aggregations
import CatalogSearch.Proofs.Engine.Bodies

namespace CatalogSearch.Engine

/-- The type that is found under a path where a field has a name: its own, or that of one of its other forms. -/
def FieldMapping.typeAt? (m : FieldMapping) (name path : String) : Option FieldType :=
  if path = name then some m.type
  else (m.subfields.find? fun s => path = name ++ "." ++ s.1).map fun s => s.2.1

/-- What is found under a path, where texts have a name, exists and is not divided into words, so that it can be counted. -/
def IndexMapping.Counts (m : IndexMapping) (name path : String) : Prop :=
  ∃ field type, m.ofText? name = some field ∧ field.typeAt? name path = some type ∧ type ≠ .text

/-- A search that counts the terms of a field that cannot be counted, for which the engine refuses all of it. -/
def IndexMapping.Refuses (m : IndexMapping) (body : Body) : Prop :=
  ∃ name path size, (.text name, .terms (.text path) size) ∈ body.aggregations ∧ ¬m.Counts name path

variable {name : String}

section Names

theorem ofText?_of_property {p : FieldMapping} (h : catalogMapping.properties.lookup name = some p) :
    catalogMapping.ofText? name = some p := by
  rw [IndexMapping.ofText?, h]

theorem ofText?_of_template (h : catalogMapping.properties.lookup name = none) : catalogMapping.ofText? name =
    some (((namedTemplates.find? fun t => t.rule.fits name).map Template.mapping).getD textMapping) := by
  have hfind : catalogMapping.templates.find? (fun t => t.rule.fits name) =
      (namedTemplates.find? fun t => t.rule.fits name).or (some ⟨"string_fields", .anyText, textMapping⟩) := by
    rw [catalogMapping, List.find?_append]
    rfl
  rw [IndexMapping.ofText?, h]
  dsimp only
  rw [hfind]
  cases namedTemplates.find? fun t => t.rule.fits name <;> rfl

theorem any_fits_eq (name : String) : (namedTemplates.any fun t => t.rule.fits name) =
    Aggregation.untokenized.any fun start => start.toList.isPrefixOf name.toList := by
  simp only [namedTemplates, Aggregation.untokenized, List.any_cons, List.any_nil,
    TemplateRule.fits, Bool.or_false]
  ac_rfl

theorem ofText?_of_isUntokenized (h : Aggregation.isUntokenized name = true) :
    ∃ field, catalogMapping.ofText? name = some field ∧ (field.type = .text ↔ name = Document.optionsField) := by
  cases hp : catalogMapping.properties.lookup name with
  | some p =>
      have hall : ∀ e ∈ catalogMapping.properties, e.2.type = .text ↔ e.1 = Document.optionsField := by decide
      obtain ⟨before, after, he, -⟩ := List.lookup_eq_some_iff.mp hp
      exact ⟨p, ofText?_of_property hp, hall (name, p) (by rw [he]; simp)⟩
  | none =>
      have hall : ∀ t ∈ namedTemplates, t.mapping.type ≠ .text := by decide
      rw [Aggregation.isUntokenized, hp, Option.isSome_none, Bool.false_or, ← any_fits_eq, List.any_eq_true] at h
      obtain ⟨t, ht⟩ := Option.isSome_iff_exists.mp (List.find?_isSome.mpr h)
      refine ⟨t.mapping, by rw [ofText?_of_template hp, ht]; rfl, iff_of_false (hall t (List.mem_of_find?_eq_some ht)) ?_⟩
      rintro rfl
      exact absurd hp (by decide)

theorem ofText?_of_not_isUntokenized (h : Aggregation.isUntokenized name = false) :
    catalogMapping.ofText? name = some textMapping := by
  rw [Aggregation.isUntokenized, Bool.or_eq_false_iff, Option.isSome_eq_false_iff, Option.isNone_iff_eq_none] at h
  have hnone : namedTemplates.find? (fun t => t.rule.fits name) = none := by
    rw [List.find?_eq_none, ← List.any_eq_false, any_fits_eq]
    exact h.2
  rw [ofText?_of_template h.1, hnone]
  rfl

theorem counts_iff (name : String) :
    catalogMapping.Counts name (Aggregation.fieldOf name) ↔ name ≠ Document.optionsField := by
  rw [Aggregation.fieldOf]
  cases hu : Aggregation.isUntokenized name with
  | true =>
      obtain ⟨field, hfield, htype⟩ := ofText?_of_isUntokenized hu
      have hat : field.typeAt? name name = some field.type := if_pos rfl
      rw [if_pos rfl, ne_eq, ← htype]
      constructor
      · rintro ⟨found, type, hfound, htype, hne⟩
        cases hfield.symm.trans hfound
        cases hat.symm.trans htype
        exact hne
      · exact fun hne => ⟨field, field.type, hfield, hat, hne⟩
  | false =>
      have hne : name ++ "." ++ keywordSubfield ≠ name := by
        intro he
        have hl := congrArg String.length he
        simp only [String.length_append] at hl
        have hkeyword : keywordSubfield.length = 7 := rfl
        omega
      have hat : textMapping.typeAt? name (name ++ "." ++ keywordSubfield) = some .keyword := by
        rw [FieldMapping.typeAt?, if_neg hne]
        simp [textMapping]
      rw [if_neg Bool.false_ne_true]
      refine iff_of_true ⟨_, _, ofText?_of_not_isUntokenized hu, hat, by decide⟩ ?_
      rintro rfl
      exact absurd hu (by decide)

end Names

section Bodies

open Aggregation

variable {settings : Settings} {conditions : Value} {params : Entries} {body : Body} {aggs : Keyed Aggregation}

/-- Terms are counted under the names of their fields. -/
def TermsNamed (aggs : Keyed Aggregation) : Prop :=
  ∀ key field size, (key, .terms field size) ∈ aggs → ∃ name, key = .text name ∧ field = .text (fieldOf name)

theorem termsField_eq_ok {v field : Value} (h : termsField v = .ok field) :
    ∃ name, v = .text name ∧ field = .text (fieldOf name) := by
  unfold termsField at h
  split at h
  · next name =>
      cases h
      exact ⟨name, rfl, rfl⟩
  · cases h
  · obtain ⟨-, -, h⟩ := Folds.bind_eq_ok.mp h
    cases h

theorem TermsNamed.insert (h : TermsNamed aggs) (key : Value) {agg : Aggregation}
    (hn : ∀ field size, agg ≠ .terms field size) : TermsNamed (aggs.insert key agg) := by
  intro other field size hm
  rcases Keyed.mem_or_eq_of_mem_insert hm with hm | he
  · exact h other field size hm
  · exact absurd he.symm (hn field size)

theorem termsNamed_ofFields {size : Int} {fields : List Value} {out : Keyed Aggregation} (h : TermsNamed aggs)
    (ho : ofFields size fields aggs = .ok out) : TermsNamed out := by
  refine Folds.foldlM_keeps TermsNamed ?_ h ho
  intro before v after hb ha
  obtain ⟨field, hfield, ha⟩ := Folds.bind_eq_ok.mp ha
  obtain ⟨name, rfl, rfl⟩ := termsField_eq_ok hfield
  cases ha
  intro key field size hm
  rcases Keyed.mem_insert_text hm with hm | he
  · exact hb key field size hm
  · cases he
    exact ⟨name, rfl, rfl⟩

theorem termsNamed_ofRanges {ranges : Entries} {out : Keyed Aggregation} (h : TermsNamed aggs)
    (ho : ofRanges ranges aggs = .ok out) : TermsNamed out := by
  refine Folds.foldlM_keeps TermsNamed ?_ h ho
  intro before r after hb ha
  simp only [Folds.bind_eq_ok] at ha
  obtain ⟨-, -, buckets, -, ha⟩ := ha
  cases ha
  exact hb.insert r.1 fun field size => Aggregation.noConfusion

theorem termsNamed_ofQueries {queries : Value} {out : Keyed Aggregation} (h : TermsNamed aggs)
    (ho : ofQueries queries aggs = .ok out) : TermsNamed out := by
  unfold ofQueries at ho
  split at ho
  · simp only [Folds.bind_eq_ok] at ho
    obtain ⟨-, -, named, -, ho⟩ := ho
    cases ho
    exact h.insert _ fun field size => Aggregation.noConfusion
  · cases ho
    exact h

theorem termsNamed_ofStats (h : TermsNamed aggs) (fields : List Value) : TermsNamed (ofStats fields aggs) :=
  List.foldlRecOn (motive := TermsNamed) _ _ h fun _ hb _ _ => hb.insert _ fun _ _ => Aggregation.noConfusion

theorem termsNamed_build {facets stats : Value} (h : Aggregation.build settings facets stats = .ok aggs) : TermsNamed aggs := by
  unfold Aggregation.build at h
  simp only [Folds.bind_eq_ok] at h
  obtain ⟨size, -, told, -, fields, -, counted, hc, given, -, ranges, -, ranged, hr, queries, -, queried, hq, h⟩ := h
  have hnone : TermsNamed [] := fun _ _ _ hm => absurd hm List.not_mem_nil
  have hqueried := termsNamed_ofQueries (termsNamed_ofRanges (termsNamed_ofFields hnone hc) hr) hq
  split at h
  · cases h
    exact termsNamed_ofStats hqueried _
  · obtain ⟨measured, -, h⟩ := Folds.bind_eq_ok.mp h
    cases h
    exact termsNamed_ofStats hqueried measured

/-- Texts are counted under every name but that of the labels, which are kept as words and in no other form. So no search
that is sent is refused for the terms it counts, unless the labels are among them. -/
theorem all_terms_but_labels_are_counted :
    (∀ name, catalogMapping.Counts name (fieldOf name) ↔ name ≠ Document.optionsField) ∧
    ∀ settings conditions params body, Body.build settings conditions params = .ok body →
      TermsNamed body.aggregations ∧
      ((∀ field size, (.text Document.optionsField, .terms field size) ∉ body.aggregations) →
        ¬catalogMapping.Refuses body) := by
  refine ⟨counts_iff, fun settings conditions params body hb => ?_⟩
  have hnamed := termsNamed_build (Body.built_of_build hb).aggregations
  refine ⟨hnamed, fun hnone => ?_⟩
  rintro ⟨name, path, size, hm, hrefused⟩
  obtain ⟨other, hname, hpath⟩ := hnamed _ _ _ hm
  cases hname
  cases hpath
  rw [counts_iff, not_not] at hrefused
  exact hnone _ size (hrefused ▸ hm)

def facetOn (name : String) : Entries := [(.text name, .list [])]

def countingParams (name : String) : Entries := Entries.set [] "facets" (Query.FacetRequest.ofValue (.map (facetOn name))).toValue

theorem exists_counting_body (name : String) : ∃ body,
    Body.build Setting.default (.text "lamp") (countingParams name) = .ok body ∧
      body.aggregations = [(.text name, .terms (.text (fieldOf name)) 100)] := by
  have hplan : build Setting.default (Query.FacetRequest.ofValue (.map (facetOn name))).toValue (.list []) =
      .ok [(.text name, .terms (.text (fieldOf name)) 100)] := by
    have hmeasured : measuredFields (.list []) = .ok [] := rfl
    exact build_of_fieldNames (r := { fields := [.text name] }) (by simp) rfl hmeasured
  obtain ⟨body, hbody⟩ : ∃ body, Body.build Setting.default (.text "lamp") [] = .ok body := ⟨_, rfl⟩
  exact ⟨_, Body.build_set_facets hbody hplan, rfl⟩

theorem colors_are_counted : ∃ body, Body.build Setting.default (.text "lamp") (countingParams "color") = .ok body ∧
    (.text "color", .terms (.text "color.keyword") 100) ∈ body.aggregations ∧
    catalogMapping.Counts "color" "color.keyword" ∧ ¬catalogMapping.Refuses body := by
  have hpath : fieldOf "color" = "color.keyword" := by decide
  obtain ⟨hcounts, hbodies⟩ := all_terms_but_labels_are_counted
  obtain ⟨body, hbody, haggs⟩ := exists_counting_body "color"
  rw [hpath] at haggs
  refine ⟨body, hbody, by simp [haggs], hpath ▸ (hcounts "color").mpr (by decide), ?_⟩
  refine (hbodies _ _ _ _ hbody).2 fun field size => ?_
  rw [haggs]
  simp [Document.optionsField]

/-- Labels are texts of words without another form, and are counted as they are. -/
theorem labels_are_not_counted : ∃ body, Body.build Setting.default (.text "lamp") (countingParams "_options") = .ok body ∧
    (.text "_options", .terms (.text "_options") 100) ∈ body.aggregations ∧
    catalogMapping.ofText? "_options" = some { type := .text } ∧ catalogMapping.Refuses body := by
  have hpath : fieldOf "_options" = "_options" := by decide
  have hcounts : ¬catalogMapping.Counts "_options" "_options" := fun hc =>
    (counts_iff "_options").mp (hpath.symm ▸ hc) rfl
  obtain ⟨body, hbody, haggs⟩ := exists_counting_body "_options"
  rw [hpath] at haggs
  have hm : (.text "_options", .terms (.text "_options") 100) ∈ body.aggregations := by simp [haggs]
  exact ⟨body, hbody, hm, by rfl, "_options", "_options", 100, hm, hcounts⟩

end Bodies

end CatalogSearch.Engine
