import CatalogSearch.Proofs.Query.Operands
import CatalogSearch.Proofs.Value.Filing
import CatalogSearch.Query.Facets

namespace CatalogSearch

theorem Entries.field?_erase (es : Entries) (name other : String) :
    (es.erase name).field? other = if other = name then none else es.field? other := by
  induction es with
  | nil => simp [erase, field?, Keyed.find?]
  | cons e es ih =>
      rw [erase] at ih
      rw [erase, List.filter_cons]
      split
      · next hs =>
          rw [field?, Keyed.find?_cons, ← field?, ih, field?, field?, Keyed.find?_cons]
          by_cases he : (Value.text other).same e.1
          · have hne : other ≠ name := by
              rintro rfl
              simp [he] at hs
            rw [if_pos he, if_pos he, if_neg hne]
          · rw [if_neg he, if_neg he]
      · next hs =>
          rw [ih, field?, field?, Keyed.find?_cons]
          split
          · rfl
          · next hne =>
              have he : (Value.text other).same e.1 = false := by
                have hn : (Value.text name).same e.1 = true := by simpa using hs
                rw [(Value.same_text name e.1).mp hn]
                exact Value.same_text_of_ne hne
              rw [he]
              rfl

namespace Query.FacetRequest

open Reader Keyed

def rangeEntries (r : FacetRequest) : Entries := r.ranges.map fun p => (p.1, .list (p.2.map .map))

theorem get_toValue (r : FacetRequest) :
    r.toValue.get "fields" (.list []) = .ok (.list r.fields) ∧
      r.toValue.get "ranges" (.map []) = .ok (.map r.rangeEntries) ∧
      r.toValue.get "queries" = .ok (if r.queries.isEmpty then .null else .list (r.queries.map .ofChars)) := by
  simp only [toValue, rangeEntries, Value.ofFields, Value.get, Value.entries]
  refine ⟨?_, ?_, ?_⟩ <;> split <;> split <;> split <;>
    simp_all [Entries.field, Entries.field?, Keyed.find?, Value.same_text] <;> rfl

def conditionsOf (conditions : Value) : List Value := conditions.sequence?.getD [conditions]

variable {es : Entries}

theorem ofEntries_eq (es : Entries) : ofEntries es =
    ⟨es.flatMap fun e => (ofField e.1 e.2).fields, es.flatMap fun e => (ofField e.1 e.2).ranges,
      es.flatMap fun e => (ofField e.1 e.2).queries⟩ := by
  have h : ∀ (rs : List FacetRequest) (r : FacetRequest), rs.foldl merge r =
      ⟨r.fields ++ rs.flatMap fields, r.ranges ++ rs.flatMap ranges, r.queries ++ rs.flatMap queries⟩ := by
    intro rs
    induction rs with
    | nil => simp
    | cons s rs ih => simp [ih, merge]
  rw [ofEntries, h]
  simp [List.flatMap_map]

theorem mem_fields {field : Value} :
    field ∈ (ofEntries es).fields ↔ ∃ conditions, (field, conditions) ∈ es ∧ conditions.truthy = false := by
  rw [ofEntries_eq, List.mem_flatMap]
  constructor
  · rintro ⟨⟨name, conditions⟩, he, hm⟩
    rw [ofField] at hm
    split at hm
    · cases hm
    · next ht =>
        rw [List.mem_singleton] at hm
        subst hm
        exact ⟨conditions, he, by simpa using ht⟩
  · rintro ⟨conditions, he, ht⟩
    exact ⟨_, he, by simp [ofField, ht]⟩

theorem mem_ranges {field : Value} {ranges : List Entries} :
    (field, ranges) ∈ (ofEntries es).ranges ↔ ∃ conditions, (field, conditions) ∈ es ∧ conditions.truthy = true ∧
      ranges = (conditionsOf conditions).filterMap rangeOf? ∧ ranges ≠ [] := by
  rw [ofEntries_eq, List.mem_flatMap]
  constructor
  · rintro ⟨⟨name, conditions⟩, he, hm⟩
    rw [ofField] at hm
    split at hm
    · next ht =>
        dsimp only at hm
        split at hm
        · cases hm
        · next hne =>
            cases List.mem_singleton.mp hm
            exact ⟨conditions, he, ht, rfl, by simpa using hne⟩
    · cases hm
  · rintro ⟨conditions, he, ht, rfl, hne⟩
    refine ⟨_, he, ?_⟩
    rw [ofField, if_pos ht]
    have hr : ((conditionsOf conditions).filterMap rangeOf?).isEmpty = false := by simpa using hne
    simp [conditionsOf] at hr ⊢
    exact hr

def boundText (es : Entries) (name : String) : List Char := Text.trim (es.field name).operand

theorem field?_rangeRecord (es : Entries) {name : String} (hn : name = "from" ∨ name = "to") :
    (rangeRecord es).field? name =
      if boundText es name = [] then none else some (.ofChars (group (boundText es name))) := by
  have hrest : ((es.erase "from").erase "to").field? name = none := by
    rw [Entries.field?_erase, Entries.field?_erase]
    rcases hn with rfl | rfl <;> simp
  simp only [rangeRecord, List.foldl_cons, List.foldl_nil, List.isEmpty_iff, boundText]
  rcases hn with rfl | rfl <;> split <;> split <;> simp_all [Entries.field?_set]

theorem head?_trim_ne_space (cs : List Char) : (Text.trim cs).head? ≠ some ' ' := by
  intro h
  have hp : Text.trim cs <+: Text.trimLeft cs := by
    rw [← List.reverse_suffix, Text.trim, Text.trimRight, List.reverse_reverse]
    exact List.dropWhile_suffix _
  have hl : (Text.trimLeft cs).head? = some ' ' := by
    obtain ⟨rest, hr⟩ := hp
    rw [← hr, List.head?_append, h]
    rfl
  have hb := List.head?_dropWhile_not Text.isBlank cs
  rw [Text.trimLeft] at hl
  rw [hl] at hb
  exact absurd hb (by decide)

theorem group_boundText_eq_nil {name : String} (h : group (boundText es name) = []) : boundText es name = [] := by
  rw [group_eq_nil_iff] at h
  cases ht : boundText es name with
  | nil => rfl
  | cons c cs =>
      exfalso
      apply head?_trim_ne_space (es.field name).operand
      rw [← boundText, ht]
      rw [ht, List.all_cons, Bool.and_eq_true, beq_iff_eq] at h
      rw [h.1]
      rfl

theorem rangeOf?_map {told : Entries} (h : Criterion.isRangeRecord told = true) :
    rangeOf? (.map told) = some (rangeRecord told) := by
  rw [rangeOf?, if_pos h]

theorem rangeRecord_of_rangeOf? {condition : Value} {range : Entries} (h : rangeOf? condition = some range) :
    ∃ told, range = rangeRecord told := by
  unfold rangeOf? at h
  split at h
  · split at h
    · exact ⟨_, (Option.some.inj h).symm⟩
    · cases h
  · cases h

/-- A request of which every field is counted once: by its values, or by ranges with prepared bounds. -/
structure Proper (r : FacetRequest) : Prop where
  fieldNames : ∀ field ∈ r.fields, ∃ name, field = .text name
  rangeNames : ∀ p ∈ r.ranges, ∃ name, p.1 = .text name
  apart : ∀ field ∈ r.fields, ∀ p ∈ r.ranges, p.1 ≠ field
  once : ∀ p ∈ r.ranges, ∀ q ∈ r.ranges, p.1 = q.1 → p = q
  prepared : ∀ p ∈ r.ranges, ∀ range ∈ p.2, ∃ told, range = rangeRecord told

theorem proper_ofEntries (hd : es.Distinct) (ht : TextKeys es) : (ofEntries es).Proper where
  fieldNames field hf := by
    obtain ⟨conditions, he, -⟩ := mem_fields.mp hf
    exact ht _ he
  rangeNames := by
    rintro ⟨field, ranges⟩ hp
    obtain ⟨conditions, he, -⟩ := mem_ranges.mp hp
    exact ht _ he
  apart := by
    rintro field hf ⟨_, ranges⟩ hp rfl
    obtain ⟨conditions, he, hfalse⟩ := mem_fields.mp hf
    obtain ⟨others, ho, htrue, -⟩ := mem_ranges.mp hp
    obtain ⟨name, rfl⟩ := ht _ he
    rw [Entries.eq_of_mem hd he ho, htrue] at hfalse
    cases hfalse
  once := by
    rintro ⟨field, ranges⟩ hp ⟨_, others⟩ hq rfl
    obtain ⟨conditions, he, -, hr, -⟩ := mem_ranges.mp hp
    obtain ⟨others, ho, -, hs, -⟩ := mem_ranges.mp hq
    obtain ⟨name, rfl⟩ := ht _ he
    rw [hr, hs, Entries.eq_of_mem hd he ho]
  prepared := by
    rintro ⟨field, ranges⟩ hp range hr
    obtain ⟨conditions, -, -, rfl, -⟩ := mem_ranges.mp hp
    obtain ⟨condition, -, ho⟩ := List.mem_filterMap.mp hr
    exact rangeRecord_of_rangeOf? ho

variable {r : FacetRequest}

theorem field?_rangeEntries (hp : r.Proper) {name : String} {asked : List Entries} (h : (.text name, asked) ∈ r.ranges) :
    r.rangeEntries.field? name = some (.list (asked.map .map)) := by
  have hk : .text name ∈ keys r.rangeEntries := List.mem_map.mpr ⟨_, List.mem_map_of_mem h, rfl⟩
  obtain ⟨v, hv⟩ := Option.isSome_iff_exists.mp ((has_text _ _).mpr hk)
  obtain ⟨p, hm, he⟩ := List.mem_map.mp (mem_of_find?_text hv)
  obtain ⟨hname, rfl⟩ := Prod.mk.inj he
  rw [Entries.field?, hv, hp.once _ hm _ h hname]

theorem hasField_rangeEntries (hp : r.Proper) {name : String} (h : .text name ∈ r.fields) :
    r.rangeEntries.hasField name = false := by
  rw [← Bool.not_eq_true, Entries.hasField, has_text]
  intro hk
  obtain ⟨e, he, hname⟩ := List.mem_map.mp hk
  obtain ⟨p, hm, rfl⟩ := List.mem_map.mp he
  exact hp.apart _ h p hm hname

end Query.FacetRequest

end CatalogSearch
