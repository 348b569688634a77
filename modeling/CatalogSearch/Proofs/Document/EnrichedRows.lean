import CatalogSearch.Proofs.Document.TidyRows
import CatalogSearch.Proofs.Value.Names

namespace CatalogSearch

/-- A listing of attributes, of which every label is one thing. -/
def Listing.Labelled (l : Listing) : Prop :=
  ∀ e ∈ l, ∃ a, e.2 = .known a ∧ ∀ o ∈ a.options, o.2.isScalar = true

def Listing.known? (l : Listing) (name : String) : Option Attribute :=
  match l.present? (.text name) with
  | some (.known a) => some a
  | _ => none

namespace Row

def tidied : Value → Value
  | .list xs | .tuple xs => .list ((distinct xs).filter Value.truthy)
  | v => v

def labelled (row : Entries) : Value → Entries
  | .null => row
  | label => row.set Document.optionsField
      (.list ((row.field Document.optionsField (.list [])).sequence?.getD [] ++ [label]))

section Enriched

variable (store : Store) (searchables sortables : Listing)

def sorted (row : Entries) (name : String) (value : Value) : Entries :=
  match sortables.known? name with
  | none => row
  | some a => row.set (String.ofList (a.sortField store.language?)) (a.sortValue value)

variable [Calendar.Zones]

def indexed (row : Entries) (name : String) (value : Value) : Entries × Value :=
  match searchables.known? name with
  | none => (row, value)
  | some a => (labelled row (a.optionLabel (a.indexValue store value)), a.indexValue store value)

def enrichedField (row : Entries) (name : String) : Entries :=
  let step := indexed store searchables row name (tidied (row.field name))
  sorted store sortables (step.1.set name step.2) name step.2

def enriched (row : Entries) : Entries :=
  (row.names.foldl (enrichedField store searchables sortables) row).set Document.storeField (.int store.id)

end Enriched

variable {store : Store} {searchables sortables : Listing} {row : Entries} {name : String} {v : Value}

theorem mem_distinct (xs : List Value) : ∀ x ∈ distinct xs, x ∈ xs := by
  refine List.foldlRecOn (motive := fun seen => ∀ x ∈ seen, x ∈ xs) xs _ (by simp) ?_
  intro seen hs y hy z hz
  split at hz
  · exact hs z hz
  · rcases List.mem_append.mp hz with hz | hz
    · exact hs z hz
    · exact List.mem_singleton.mp hz ▸ hy

theorem isKey_of_isScalar (h : v.isScalar = true) : v.isKey = true := by
  cases v <;> first | rfl | cases h

theorem cleaned_of_hashable (h : ∀ xs, v = .list xs ∨ v = .tuple xs → ∀ x ∈ xs, x.isKey = true) :
    cleaned v = .ok (tidied v) := by
  have hclean : ∀ xs : List Value, (∀ x ∈ xs, x.isKey = true) →
      clean xs = .ok ((distinct xs).filter Value.truthy) := by
    intro xs hx
    have hk : xs.mapM Value.toKey = .ok (xs.map id) := by
      apply Folds.mapM_ok
      intro x hm
      rw [Value.toKey, if_pos (hx x hm)]
      rfl
    rw [List.map_id] at hk
    rw [clean, hk]
    rfl
  cases v with
  | list xs =>
      rw [cleaned, hclean xs (h xs (.inl rfl))]
      rfl
  | tuple xs =>
      rw [cleaned, hclean xs (h xs (.inr rfl))]
      rfl
  | _ => rfl

theorem cleaned_eq (h : isCell v = true) : cleaned v = .ok (tidied v) := by
  refine cleaned_of_hashable fun xs hv x hx => ?_
  rcases hv with rfl | rfl
  · exact isKey_of_isScalar (List.all_eq_true.mp h x hx)
  · cases h

theorem isCell_tidied (h : isCell v = true) : isCell (tidied v) = true := by
  cases v with
  | list xs =>
      rw [tidied, isCell, List.all_eq_true]
      intro x hx
      exact List.all_eq_true.mp h x (mem_distinct xs x (List.mem_filter.mp hx).1)
  | tuple xs => cases h
  | _ => exact h

theorem tidied_list (h : ∃ xs, v = .list xs) : ∃ xs, tidied v = .list xs := by
  obtain ⟨xs, rfl⟩ := h
  exact ⟨_, rfl⟩

theorem Tidy.keys_eq (h : Tidy row) : Keyed.keys row = row.names.map .text := by
  have hn := h.names
  clear h
  induction row with
  | nil => rfl
  | cons e row ih =>
      obtain ⟨name, hname⟩ := hn e List.mem_cons_self
      have hi := ih fun d hd => hn d (List.mem_cons_of_mem _ hd)
      simp only [Keyed.keys, Entries.names_cons, List.map_cons, hname, Entries.name?] at hi ⊢
      rw [hi]
      rfl

theorem label_isScalar {a : Attribute} (h : ∀ o ∈ a.options, o.2.isScalar = true) (v : Value) :
    (a.label v).isScalar = true := by
  unfold Attribute.label Entries.field
  split
  · rfl
  · cases hf : a.options.field? v.display with
    | none => rfl
    | some l => exact h _ (Keyed.mem_of_find?_text hf)

theorem isScalar_first (h : isCell v = true) : v.first.isScalar = true := by
  cases v with
  | list xs =>
      cases xs with
      | nil => rfl
      | cons x xs => exact List.all_eq_true.mp h x List.mem_cons_self
  | _ => first | exact h | cases h

theorem optionLabel_isScalar {a : Attribute} (h : ∀ o ∈ a.options, o.2.isScalar = true) (v : Value) :
    (a.optionLabel v).isScalar = true := by
  rw [Attribute.optionLabel]
  split
  · exact label_isScalar h _
  · rfl

theorem isCell_sortValue {a : Attribute} (h : ∀ o ∈ a.options, o.2.isScalar = true) (hv : isCell v = true) :
    isCell (a.sortValue v) = true := by
  apply isCell_of_isScalar
  unfold Attribute.sortValue
  split
  · split <;> rfl
  · exact label_isScalar h _
  · exact isScalar_first hv

theorem tidy_labelled (h : Tidy row) (hv : v.isScalar = true) : Tidy (labelled row v) := by
  unfold labelled
  split
  · exact h
  · obtain ⟨xs, hx, hs⟩ := h.list_field (show Document.optionsField ∈ gathered by simp [gathered])
    refine h.set ?_ fun _ => ⟨_, rfl⟩
    rw [hx]
    simpa [isCell, Value.sequence?, hs] using hv

theorem lookup_known {l : Listing} (h : l.Labelled) {listed : Listed} (hl : l.lookup name = some listed) :
    ∃ a, listed = .known a ∧ ∀ o ∈ a.options, o.2.isScalar = true := by
  obtain ⟨before, after, he, -⟩ := List.lookup_eq_some_iff.mp hl
  exact h (name, listed) (by rw [he]; simp)

theorem present?_eq {l : Listing} (h : l.Labelled) (name : String) :
    l.present? (.text name) = (l.known? name).map Listed.known := by
  simp only [Listing.known?, Listing.present?, Listing.find?]
  cases hl : l.lookup name with
  | none => rfl
  | some listed =>
      obtain ⟨a, rfl, -⟩ := lookup_known h hl
      rfl

theorem isScalar_option {l : Listing} (h : l.Labelled) {a : Attribute} (ha : l.known? name = some a) :
    ∀ o ∈ a.options, o.2.isScalar = true := by
  simp only [Listing.known?, Listing.present?, Listing.find?] at ha
  cases hl : l.lookup name with
  | none => simp [hl] at ha
  | some listed =>
      obtain ⟨b, rfl, ho⟩ := lookup_known h hl
      simp only [hl, Option.some.injEq] at ha
      exact ha ▸ ho

theorem addLabel_eq (h : Tidy row) (label : Value) : addLabel row label = .ok (labelled row label) := by
  obtain ⟨xs, hx, -⟩ := h.list_field (show Document.optionsField ∈ gathered by simp [gathered])
  simp only [addLabel, labelled, hx]
  cases label <;> rfl

theorem sort_eq (hs : sortables.Labelled) (row : Entries) (name : String) (v : Value) :
    sort store sortables row (.text name) v = .ok (sorted store sortables row name v) := by
  unfold sort sorted
  rw [present?_eq hs]
  cases sortables.known? name <;> rfl

theorem tidy_sorted (ho : sortables.Labelled) (h : Tidy row) (hv : isCell v = true) :
    Tidy (sorted store sortables row name v) := by
  unfold sorted
  cases hk : sortables.known? name with
  | none => exact h
  | some a =>
      exact h.set (isCell_sortValue (isScalar_option ho hk) hv) fun hg =>
        (not_gathered (FieldNames.starts_sortFieldName _ _) (by decide) hg).elim

theorem hasField_labelled {other : String} (label : Value) (h : row.hasField other) :
    (labelled row label).hasField other := by
  unfold labelled
  split
  · exact h
  · exact (Entries.hasField_set _ _ _ _).mpr (.inr h)

theorem hasField_sorted {other : String} (h : row.hasField other) :
    (sorted store sortables row name v).hasField other := by
  unfold sorted
  split
  · exact h
  · exact (Entries.hasField_set _ _ _ _).mpr (.inr h)

theorem field?_labelled {other : String} (label : Value) (h : other ≠ Document.optionsField) :
    (labelled row label).field? other = row.field? other := by
  unfold labelled
  split
  · rfl
  · exact Entries.field?_set_of_ne _ _ h

theorem tidied_of_isScalar (h : v.isScalar = true) : tidied v = v := by
  cases v <;> first | rfl | cases h

section Enriched

variable [Calendar.Zones]

theorem date_isScalar (h : v.isScalar = true) : (store.date v).isScalar = true := by
  unfold Store.date
  split
  · rfl
  · rfl
  · rfl
  · dsimp only
    split
    · rfl
    · split
      · rfl
      · exact h

theorem isCell_indexValue (a : Attribute) (h : isCell v = true) : isCell (a.indexValue store v) = true := by
  unfold Attribute.indexValue
  split
  · next xs =>
      rw [isCell, List.all_eq_true]
      intro x hx
      obtain ⟨y, hy, rfl⟩ := List.mem_map.mp (List.mem_filter.mp hx).1
      exact date_isScalar (List.all_eq_true.mp h y hy)
  · next hl =>
      apply isCell_of_isScalar
      apply date_isScalar
      unfold isCell at h
      split at h
      · next xs => exact (hl xs rfl).elim
      · exact h
  · split
    · rw [isCell, List.all_eq_true]
      intro x hx
      obtain ⟨part, -, rfl⟩ := List.mem_map.mp hx
      rfl
    · exact h
  · exact h

theorem indexValue_list (a : Attribute) (h : ∃ xs, v = .list xs) : ∃ xs, a.indexValue store v = .list xs := by
  obtain ⟨xs, rfl⟩ := h
  unfold Attribute.indexValue
  split
  · exact ⟨_, rfl⟩
  · next hl => exact (hl xs rfl).elim
  · split <;> exact ⟨_, rfl⟩
  · exact ⟨_, rfl⟩

theorem index_eq (hs : searchables.Labelled) (h : Tidy row) (name : String) (v : Value) :
    index store searchables row (.text name) v = .ok (indexed store searchables row name v) := by
  unfold index indexed
  rw [present?_eq hs]
  cases hk : searchables.known? name with
  | none => rfl
  | some a =>
      dsimp only [Option.map_some]
      rw [addLabel_eq h]
      rfl

theorem enrichField_eq (hs : searchables.Labelled) (ho : sortables.Labelled) (h : Tidy row) (name : String) :
    enrichField store searchables sortables row (.text name) =
      .ok (enrichedField store searchables sortables row name) := by
  have hc : cleaned ((Keyed.find? row (.text name)).getD .null) = .ok (tidied (row.field name)) :=
    cleaned_eq (h.isCell_field name)
  unfold enrichField
  rw [hc]
  change (index store searchables row (.text name) (tidied (row.field name)) >>= _) = _
  rw [index_eq hs h]
  exact sort_eq ho _ _ _

theorem tidy_indexed (hs : searchables.Labelled) (h : Tidy row) {name : String} {v : Value} (hv : isCell v = true)
    (hl : name ∈ gathered → ∃ xs, v = .list xs) :
    Tidy ((indexed store searchables row name v).1.set name (indexed store searchables row name v).2) := by
  unfold indexed
  cases hk : searchables.known? name with
  | none => exact h.set hv hl
  | some a =>
      exact (tidy_labelled h (optionLabel_isScalar (isScalar_option hs hk) _)).set (isCell_indexValue a hv)
        fun hg => indexValue_list a (hl hg)

theorem isCell_indexed (hv : isCell v = true) : isCell (indexed store searchables row name v).2 = true := by
  unfold indexed
  split
  · exact hv
  · exact isCell_indexValue _ hv

theorem tidy_enrichedField (hs : searchables.Labelled) (ho : sortables.Labelled) (h : Tidy row)
    (hn : row.hasField name) :
    Tidy (enrichedField store searchables sortables row name) := by
  have hc := isCell_tidied (h.isCell_field name)
  have hl := fun hg => tidied_list (h.list_of_hasField hn hg)
  exact tidy_sorted ho (tidy_indexed hs h hc hl) (isCell_indexed hc)

theorem hasField_enrichedField {other : String} (h : row.hasField other) :
    (enrichedField store searchables sortables row name).hasField other := by
  apply hasField_sorted
  refine (Entries.hasField_set _ _ _ _).mpr (.inr ?_)
  unfold indexed
  split
  · exact h
  · exact hasField_labelled _ h

/-- A row is enriched field by field, in the order of the fields it came with. -/
theorem enrich_eq (hs : searchables.Labelled) (ho : sortables.Labelled) (h : Tidy row) :
    enrich store searchables sortables row = .ok (enriched store searchables sortables row) := by
  have hf : (row.names.map Value.text).foldlM (enrichField store searchables sortables) row =
      .ok (row.names.foldl (enrichedField store searchables sortables) row) := by
    rw [List.foldlM_map]
    refine (Folds.foldlM_ok (fun b => Tidy b ∧ ∀ name ∈ row.names, b.hasField name) ?_
      ⟨h, fun name hn => Entries.hasField_iff.mpr hn⟩).1
    rintro b ⟨hb, hf⟩ name hn
    refine ⟨enrichField_eq hs ho hb name, tidy_enrichedField hs ho hb (hf name hn), ?_⟩
    intro other hm
    exact hasField_enrichedField (hf other hm)
  unfold enrich
  rw [h.keys_eq, hf]
  rfl

theorem hasField_enriched {other : String} (h : row.hasField other) :
    (enriched store searchables sortables row).hasField other := by
  refine (Entries.hasField_set _ _ _ _).mpr (.inr ?_)
  exact List.foldlRecOn (motive := fun b : Entries => b.hasField other) _ _ h fun _ hb _ _ => hasField_enrichedField hb

theorem storeField_enriched :
    (enriched store searchables sortables row).field? Document.storeField = some (.int store.id) :=
  Entries.field?_set_self _ _ _

theorem sortField_enriched {a : Attribute} (h : row.hasField name) (hk : sortables.known? name = some a) :
    (enriched store searchables sortables row).hasField (String.ofList (a.sortField store.language?)) := by
  refine (Entries.hasField_set _ _ _ _).mpr (.inr ?_)
  refine Folds.foldl_reaches (Entries.hasField_iff.mp h) (fun b : Entries => b.hasField _) ?_
    (fun _ _ _ hb => hasField_enrichedField hb) row
  intro b
  simp only [enrichedField, sorted, hk]
  exact (Entries.hasField_set _ _ _ _).mpr (.inl rfl)

theorem field?_enrichedField {other : String}
    (hs : ∀ code language, other ≠ String.ofList (sortFieldName code language))
    (ho : other ≠ Document.optionsField) (hk : searchables.known? other = none) (hv : v.isScalar = true)
    (h : row.field? other = some v) : (enrichedField store searchables sortables row name).field? other = some v := by
  have hsorted : ∀ (r : Entries) w, (sorted store sortables r name w).field? other = r.field? other := by
    intro r w
    unfold sorted
    split
    · rfl
    · exact Entries.field?_set_of_ne _ _ (hs _ _)
  unfold enrichedField
  rw [hsorted, Entries.field?_set]
  split
  · next he =>
      subst he
      simp only [indexed, hk, Entries.field, h, Option.getD_some, tidied_of_isScalar hv]
  · unfold indexed
    split
    · exact h
    · rw [field?_labelled _ ho, h]

theorem field?_enriched {other : String} (hs : ∀ code language, other ≠ String.ofList (sortFieldName code language))
    (ho : other ≠ Document.optionsField) (ht : other ≠ Document.storeField) (hk : searchables.known? other = none)
    (hv : v.isScalar = true) (h : row.field? other = some v) :
    (enriched store searchables sortables row).field? other = some v := by
  rw [enriched, Entries.field?_set_of_ne _ _ ht]
  exact List.foldlRecOn (motive := fun b : Entries => b.field? other = some v) _ _ h fun _ hb _ _ =>
    field?_enrichedField hs ho hk hv hb

end Enriched

end Row

end CatalogSearch
