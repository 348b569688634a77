import CatalogSearch.Proofs.Document.FieldByField
import CatalogSearch.Sorting

namespace CatalogSearch

namespace Attribute

def languageSuffix (a : Attribute) (language : Option (List Char)) : List Char :=
  if a.isLocalized then language.elim [] ('_' :: ·) else []

/-- The sort field of the one attribute, which has one for each language, is that of the other, which has but one. -/
def Collides (language : Option (List Char)) (a b : Attribute) : Prop :=
  ∃ l, language = some l ∧ a.isLocalized = true ∧ b.isLocalized = false ∧ b.code.toList = a.code.toList ++ '_' :: l

variable {language : Option (List Char)} {a b : Attribute}

theorem sortField_eq (a : Attribute) (language : Option (List Char)) :
    a.sortField language = "sort_by_".toList ++ (a.code.toList ++ a.languageSuffix language) := by
  rw [← List.append_assoc, sortField, languageSuffix]
  cases a.isLocalized <;> cases language <;> rfl

theorem sortField_inj : a.sortField language = b.sortField language ↔
    a.code.toList ++ a.languageSuffix language = b.code.toList ++ b.languageSuffix language := by
  rw [sortField_eq, sortField_eq, List.append_cancel_left_eq]

theorem languageSuffix_of_unlocalized (h : a.isLocalized = false) : a.languageSuffix language = [] :=
  if_neg (h ▸ Bool.false_ne_true)

theorem languageSuffix_of_localized (h : a.isLocalized = true) :
    a.languageSuffix language = language.elim [] ('_' :: ·) :=
  if_pos h

theorem code_eq_of_alike (h : a.isLocalized = b.isLocalized) (he : a.sortField language = b.sortField language) :
    a.code = b.code := by
  have hs : a.languageSuffix language = b.languageSuffix language := by rw [languageSuffix, languageSuffix, h]
  rw [sortField_inj, hs, List.append_cancel_right_eq] at he
  exact String.toList_inj.mp he

theorem Collides.sortField_eq (h : Collides language a b) : a.sortField language = b.sortField language := by
  obtain ⟨l, rfl, ha, hb, hc⟩ := h
  rw [sortField_inj, languageSuffix_of_localized ha, languageSuffix_of_unlocalized hb, hc, List.append_nil]
  rfl

theorem collides_of_sortField_eq (ha : a.isLocalized = true) (hb : b.isLocalized = false) (hc : a.code ≠ b.code)
    (he : a.sortField language = b.sortField language) : Collides language a b := by
  rw [sortField_inj, languageSuffix_of_localized ha, languageSuffix_of_unlocalized hb, List.append_nil] at he
  cases language with
  | none =>
      rw [Option.elim_none, List.append_nil] at he
      exact absurd (String.toList_inj.mp he) hc
  | some l => exact ⟨l, rfl, ha, hb, he.symm⟩

/-- One sort field for two codes means that the one code ends as the other goes on for the language. -/
theorem sortField_eq_iff (hc : a.code ≠ b.code) :
    a.sortField language = b.sortField language ↔ Collides language a b ∨ Collides language b a := by
  constructor
  · intro he
    cases ha : a.isLocalized <;> cases hb : b.isLocalized
    · exact absurd (code_eq_of_alike (ha.trans hb.symm) he) hc
    · exact .inr (collides_of_sortField_eq hb ha hc.symm he.symm)
    · exact .inl (collides_of_sortField_eq ha hb hc he)
    · exact absurd (code_eq_of_alike (ha.trans hb.symm) he) hc
  · rintro (h | h)
    · exact h.sortField_eq
    · exact h.sortField_eq.symm

end Attribute

def Listing.OwnCodes (l : Listing) : Prop := ∀ e ∈ l, ∃ a, e.2 = .known a ∧ a.code = e.1

def Listing.Uncollided (l : Listing) (language : Option (List Char)) : Prop :=
  ∀ d ∈ l, ∀ e ∈ l, ∀ a b, d.2 = .known a → e.2 = .known b → ¬ Attribute.Collides language a b

variable {l : Listing} {language : Option (List Char)} {key : Value} {a : Attribute}

theorem Listing.OwnCodes.ofAttributes (h : l.OwnCodes) : l.OfAttributes := fun e he =>
  let ⟨a, ha, _⟩ := h e he
  ⟨a, ha⟩

theorem Listing.OwnCodes.key_eq (h : l.OwnCodes) (ha : l.attributeAt? key = some a) : key = .text a.code := by
  obtain ⟨name, rfl, hm⟩ := mem_of_attributeAt? ha
  obtain ⟨b, hb, hcode⟩ := h _ hm
  cases hb
  rw [hcode]

theorem Listing.Uncollided.sortField_ne (hl : l.Uncollided language) (ho : l.OwnCodes) {other : Value} {b : Attribute}
    (ha : l.attributeAt? key = some a) (hb : l.attributeAt? other = some b) (hne : key ≠ other) :
    a.sortField language ≠ b.sortField language := by
  obtain ⟨name, -, hma⟩ := mem_of_attributeAt? ha
  obtain ⟨name', -, hmb⟩ := mem_of_attributeAt? hb
  have hcode : a.code ≠ b.code := fun he => hne (by rw [ho.key_eq ha, ho.key_eq hb, he])
  rw [Ne, Attribute.sortField_eq_iff hcode]
  rintro (h | h)
  · exact hl _ hma _ hmb a b rfl rfl h
  · exact hl _ hmb _ hma b a rfl rfl h

namespace Row

variable {store : Store} {searchables sortables : Listing} {row out : Entries}

theorem sortsApart_of_uncollided (ho : sortables.OwnCodes) (hl : sortables.Uncollided store.language?) :
    SortsApart store sortables := by
  intro key other a b ha hb he
  by_contra hne
  exact hl.sortField_ne ho ha hb hne he

theorem field?_sort_of_ne (ho : sortables.OwnCodes) (hl : sortables.Uncollided store.language?) {key other v : Value}
    {a : Attribute} (ha : sortables.attributeAt? key = some a) (hne : key ≠ other)
    (h : sort store sortables row other v = .ok out) :
    out.field? (String.ofList (a.sortField store.language?)) = row.field? (String.ofList (a.sortField store.language?)) := by
  rw [sort, ho.ofAttributes.present?_eq] at h
  cases hb : sortables.attributeAt? other with
  | none =>
      rw [hb] at h
      cases h
      rfl
  | some b =>
      rw [hb] at h
      cases h
      refine Entries.field?_set_of_ne _ _ fun he => ?_
      exact hl.sortField_ne ho ha hb hne (String.ofList_inj.mp he)

end Row

namespace SortKey

variable {context : Context} {sortables : Listing} {direction : Value}

/-- Orders that are asked for by a word of their own, whatever attribute has it for its code. -/
def ownWords : List String := ["position", "relevance", "price"]

theorem field_of_attribute {a : Attribute} (ha : sortables.attributeAt? (.text a.code) = some a)
    (hw : a.code ∉ ownWords) :
    (ofEntry context sortables (.text a.code) direction).field = a.sortField context.language? := by
  simp only [ownWords, List.mem_cons, List.not_mem_nil, or_false, not_or] at hw
  obtain ⟨hposition, hrelevance, hprice⟩ := hw
  simp only [ofEntry, Value.same_text_of_ne hposition, Value.same_text_of_ne hrelevance, Value.same_text_of_ne hprice,
    Listing.find?_of_attributeAt? ha, Bool.false_eq_true, if_false, Option.getD_some, Listed.sortField]

theorem field_of_ownWord {code : String} (hw : code ∈ ownWords) (a : Attribute) :
    (ofEntry context sortables (.text code) direction).field ≠ a.sortField context.language? := by
  have hfield : ∃ start ∈ [scoreField, "position_category_", "price_"],
      FieldNames.Starts start (String.ofList (ofEntry context sortables (.text code) direction).field) := by
    unfold ofEntry FieldNames.Starts
    rw [String.toList_ofList]
    simp only [ownWords, List.mem_cons, List.not_mem_nil, or_false] at hw
    rcases hw with rfl | rfl | rfl
    · rw [if_pos (Value.same_text_self _)]
      cases context.category with
      | none => exact ⟨scoreField, by simp, List.prefix_rfl⟩
      | some category => exact ⟨"position_category_", by simp, List.prefix_append _ _⟩
    · rw [Value.same_text_of_ne (by decide), if_neg Bool.false_ne_true, if_pos (Value.same_text_self _)]
      exact ⟨scoreField, by simp, List.prefix_rfl⟩
    · rw [Value.same_text_of_ne (by decide), if_neg Bool.false_ne_true, Value.same_text_of_ne (by decide),
        if_neg Bool.false_ne_true, if_pos (Value.same_text_self _)]
      exact ⟨"price_", by simp, FieldNames.starts_price _ _⟩
  obtain ⟨start, hm, hstart⟩ := hfield
  have hapart : ("sort_by_".toList.isPrefixOf start.toList || start.toList.isPrefixOf "sort_by_".toList) = false := by
    simp only [List.mem_cons, List.not_mem_nil, or_false] at hm
    rcases hm with rfl | rfl | rfl <;> decide
  exact fun he => (FieldNames.starts_sortFieldName _ _).ne hstart hapart (congrArg String.ofList he).symm

theorem field_eq_iff {a b : Attribute} (ha : sortables.attributeAt? (.text a.code) = some a) (hc : a.code ≠ b.code) :
    (ofEntry context sortables (.text a.code) direction).field = b.sortField context.language? ↔
      a.code ∉ ownWords ∧ (Attribute.Collides context.language? a b ∨ Attribute.Collides context.language? b a) := by
  by_cases hw : a.code ∈ ownWords
  · exact iff_of_false (field_of_ownWord hw b) fun h => h.1 hw
  · rw [field_of_attribute ha hw, Attribute.sortField_eq_iff hc]
    exact (and_iff_right hw).symm

end SortKey

namespace Row

/-- Sort fields of different codes are different but for one that has the language in its code where another has
it after its code. In a listing without such a pair every sort value stays where it is written, and every order is
an order by the attribute that is asked for. -/
theorem sort_fields_collide_by_language_alone [Calendar.Zones] :
    (∀ (a b : Attribute) language, a.code ≠ b.code → (a.sortField language = b.sortField language ↔
      Attribute.Collides language a b ∨ Attribute.Collides language b a)) ∧
    (∀ (store : Store) (searchables sortables : Listing), searchables.OfAttributes → sortables.OwnCodes →
      sortables.Uncollided store.language? →
      (∀ row out key other v a, sortables.attributeAt? key = some a → key ≠ other →
        sort store sortables row other v = .ok out → out.field? (String.ofList (a.sortField store.language?)) =
          row.field? (String.ofList (a.sortField store.language?))) ∧
      ∀ row, Enrichable store sortables row → ∃ out, enrich store searchables sortables row = .ok out ∧
        ∀ e ∈ row, ∀ a, sortables.attributeAt? e.1 = some a →
          out.field? (String.ofList (a.sortField store.language?)) =
            some (a.sortValue (indexedValue store searchables e.1 e.2))) ∧
    ∀ (context : Context) (sortables : Listing) (a b : Attribute) (direction : Value),
      sortables.attributeAt? (.text a.code) = some a → a.code ≠ b.code →
      ((SortKey.ofEntry context sortables (.text a.code) direction).field = b.sortField context.language? ↔
        a.code ∉ SortKey.ownWords ∧
          (Attribute.Collides context.language? a b ∨ Attribute.Collides context.language? b a)) := by
  refine ⟨fun _ _ _ hc => Attribute.sortField_eq_iff hc, ?_, fun _ _ _ _ _ ha hc => SortKey.field_eq_iff ha hc⟩
  intro store searchables sortables hs ho hl
  refine ⟨fun _ _ _ _ _ _ ha hne h => field?_sort_of_ne ho hl ha hne h, fun row hrow => ?_⟩
  obtain ⟨out, hout, hp, hd⟩ := enrich_perm hs ho.ofAttributes (sortsApart_of_uncollided ho hl) hrow
  exact ⟨out, hout, fun e he a ha => sortField?_of_enriched hp hd he ha⟩

theorem ownCodes_shelfSortables : shelfSortables.OwnCodes := by
  simp [Listing.OwnCodes, shelfSortables, shelfColor, shelfWeight, Attribute.build]

theorem uncollided_shelfSortables (language : Option (List Char)) : shelfSortables.Uncollided language := by
  have hcolor : shelfColor.isLocalized = true := by decide
  have hweight : shelfWeight.isLocalized = false := by decide
  have hapart : ∀ l, shelfWeight.code.toList ≠ shelfColor.code.toList ++ '_' :: l := fun l he =>
    absurd (congrArg List.head? he) (by simp [shelfWeight, shelfColor, Attribute.build])
  intro d hd e he a b ha hb
  rintro ⟨l, -, hla, hlb, hc⟩
  simp only [shelfSortables, List.mem_cons, List.not_mem_nil, or_false] at hd he
  rcases hd with rfl | rfl <;> rcases he with rfl | rfl <;> cases ha <;> cases hb
  · rw [hcolor] at hlb
    cases hlb
  · exact hapart l hc
  · rw [hcolor] at hlb
    cases hlb
  · rw [hweight] at hla
    cases hla

open scoped Calendar.Daylight

theorem shelf_sort_values_stay : ∃ out, enrich shelfStore shelfSearchables shelfSortables shelfRow = .ok out ∧
    out.field? "sort_by_weight" = some (.real (.ofInt 12)) ∧
    (SortKey.ofEntry ⟨1, 1, 0, some "de_DE", none, false, [], []⟩ shelfSortables (.text "weight") (.text "asc")).field ≠
      shelfColor.sortField (some "de".toList) := by
  obtain ⟨-, hdocuments, horders⟩ := sort_fields_collide_by_language_alone
  obtain ⟨-, hrows⟩ := hdocuments shelfStore shelfSearchables shelfSortables shelfSearchables_ofAttributes
    ownCodes_shelfSortables (uncollided_shelfSortables _)
  obtain ⟨out, hout, hfields⟩ := hrows shelfRow enrichable_shelfRow
  have hweight := hfields (.text "weight", .text "12") (by simp [shelfRow]) shelfWeight rfl
  rw [sortField_shelfWeight] at hweight
  have horder := horders ⟨1, 1, 0, some "de_DE", none, false, [], []⟩ shelfSortables shelfWeight shelfColor (.text "asc")
    rfl (by decide)
  refine ⟨out, hout, hweight, fun he => ?_⟩
  obtain ⟨-, hc | hc⟩ := horder.mp he
  · exact uncollided_shelfSortables _ ("weight", _) (by simp [shelfSortables]) ("color", _) (by simp [shelfSortables]) _ _
      rfl rfl hc
  · exact uncollided_shelfSortables _ ("color", _) (by simp [shelfSortables]) ("weight", _) (by simp [shelfSortables]) _ _
      rfl rfl hc

def plainName : Attribute := .build "name" none none false []

def decimalName : Attribute := .build "name_en" (some "decimal") none false []

def nameSortables : Listing := [("name", .known plainName), ("name_en", .known decimalName)]

def nameRow : Entries := [(.text "name", .text "Regal"), (.text "name_en", .text "3")]

def nameStore : Store := ⟨1, 1, some "en_US", none⟩

theorem sortField_plainName : String.ofList (plainName.sortField nameStore.language?) = "sort_by_name_en" := by
  decide

theorem sortField_decimalName : String.ofList (decimalName.sortField nameStore.language?) = "sort_by_name_en" := by
  decide

theorem tidy_nameRow : Tidy nameRow := by
  have hrow : nameRow = Entries.set (Entries.set [] "name" (.text "Regal")) "name_en" (.text "3") := by
    simp [nameRow, Entries.set, Keyed.insert, Value.same_text_of_ne]
  rw [hrow]
  exact (tidy_nil.set rfl fun hm => absurd hm (by decide)).set rfl fun hm => absurd hm (by decide)

theorem enrichedField_nameSortables [Calendar.Zones] {row : Entries} {name : String} {v : Value} {a : Attribute}
    (ha : nameSortables.known? name = some a)
    (hf : String.ofList (a.sortField nameStore.language?) = "sort_by_name_en") (hv : row.field? name = some v) :
    enrichedField nameStore [] nameSortables row name =
      (row.set name (tidied v)).set "sort_by_name_en" (a.sortValue (tidied v)) := by
  have hvalue : row.field name = v := Entries.field_of_field? hv .null
  unfold enrichedField sorted
  rw [ha, ← hf, hvalue]
  rfl

theorem enriched_nameRow : enriched nameStore [] nameSortables nameRow =
    ((((nameRow.set "name" (.text "Regal")).set "sort_by_name_en" (.text "Regal")).set "name_en" (.text "3")).set
      "sort_by_name_en" (.real (.ofInt 3))).set Document.storeField (.int 1) := by
  have hname : nameRow.field? "name" = some (.text "Regal") := by
    simp [nameRow, Entries.field?, Keyed.find?, Value.same_text_self]
  have hnext : nameRow.field? "name_en" = some (.text "3") := by
    simp [nameRow, Entries.field?, Keyed.find?, Value.same_text_self, Value.same_text_of_ne]
  have hfirst := enrichedField_nameSortables (a := plainName) rfl sortField_plainName hname
  have hleft : (enrichedField nameStore [] nameSortables nameRow "name").field? "name_en" = some (.text "3") := by
    rw [hfirst]
    simpa [Entries.field?_set] using hnext
  have hsecond := enrichedField_nameSortables (a := decimalName) rfl sortField_decimalName hleft
  have hnames : nameRow.names = ["name", "name_en"] := rfl
  rw [enriched, hnames, List.foldl_cons, List.foldl_cons, List.foldl_nil, hsecond, hfirst]
  rfl

/-- The sort value of the name is overwritten, and who asks for an order by it gets another. -/
theorem name_is_sorted_by_another_attribute : ∃ out, plainName.code ≠ decimalName.code ∧
    plainName.sortField nameStore.language? = decimalName.sortField nameStore.language? ∧
    enrich nameStore [] nameSortables nameRow = .ok out ∧ out.field? "name" = some (.text "Regal") ∧
    out.field? "sort_by_name_en" = some (.real (.ofInt 3)) ∧
    (SortKey.ofEntry (Context.ofStore nameStore) nameSortables (.text "name") (.text "asc")).field =
      decimalName.sortField nameStore.language? := by
  have hsame : plainName.sortField nameStore.language? = decimalName.sortField nameStore.language? :=
    String.ofList_inj.mp (sortField_plainName.trans sortField_decimalName.symm)
  have hlabelled : nameSortables.Labelled := by
    simp [Listing.Labelled, nameSortables, plainName, decimalName, Attribute.build]
  refine ⟨_, by decide, hsame, enrich_eq (fun _ he => (List.not_mem_nil he).elim) hlabelled tidy_nameRow, ?_, ?_, ?_⟩
  · rw [enriched_nameRow]
    simp [Entries.field?_set, Document.storeField]
  · rw [enriched_nameRow]
    simp [Entries.field?_set, Document.storeField]
  · exact (SortKey.field_of_attribute (a := plainName) rfl (by decide)).trans hsame

end Row

end CatalogSearch
