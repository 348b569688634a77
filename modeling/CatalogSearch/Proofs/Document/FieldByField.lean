import CatalogSearch.Calendar.Daylight
import CatalogSearch.Proofs.Document.EnrichedRows
import CatalogSearch.Proofs.Value.Dictionaries

namespace CatalogSearch

def Listing.OfAttributes (l : Listing) : Prop := ∀ e ∈ l, ∃ a, e.2 = .known a

def Listing.attributeAt? (l : Listing) (key : Value) : Option Attribute :=
  match l.present? key with
  | some (.known a) => some a
  | _ => none

theorem Listing.find?_of_present? {l : Listing} {key : Value} {listed : Listed} (h : l.present? key = some listed) :
    l.find? key = some listed := by
  unfold present? at h
  split at h
  · cases h
  · exact h

theorem Listing.find?_of_attributeAt? {l : Listing} {key : Value} {a : Attribute} (h : l.attributeAt? key = some a) :
    l.find? key = some (.known a) := by
  unfold attributeAt? at h
  split at h
  · next hp =>
      cases h
      exact find?_of_present? hp
  · cases h

theorem Listing.mem_of_find? {l : Listing} {key : Value} {listed : Listed} (h : l.find? key = some listed) :
    ∃ name, key = .text name ∧ (name, listed) ∈ l := by
  cases key with
  | text name =>
      obtain ⟨before, after, he, -⟩ := List.lookup_eq_some_iff.mp h
      exact ⟨name, rfl, by rw [he]; simp⟩
  | _ => cases h

theorem Listing.mem_of_attributeAt? {l : Listing} {key : Value} {a : Attribute} (h : l.attributeAt? key = some a) :
    ∃ name, key = .text name ∧ (name, .known a) ∈ l :=
  mem_of_find? (find?_of_attributeAt? h)

theorem Listing.OfAttributes.present?_eq {l : Listing} (h : l.OfAttributes) (key : Value) :
    l.present? key = (l.attributeAt? key).map Listed.known := by
  rw [attributeAt?]
  cases hp : l.present? key with
  | none => rfl
  | some listed =>
      obtain ⟨name, -, hm⟩ := mem_of_find? (find?_of_present? hp)
      obtain ⟨a, rfl⟩ := h _ hm
      rfl

namespace Row

open Keyed

theorem distinct_nil : distinct [] = [] := rfl

theorem foldl_distinct (xs seen : List Value) :
    xs.foldl (fun seen x => if seen.any x.same then seen else seen ++ [x]) seen =
      seen ++ distinct (xs.filter fun y => !seen.any y.same) := by
  -- The rest is filtered before the hypothesis is used on it, so the induction is on the length.
  induction hn : xs.length using Nat.strongRecOn generalizing xs seen with
  | ind n ih =>
      cases xs with
      | nil => exact (List.append_nil seen).symm
      | cons x xs =>
          have hshort : ∀ p : Value → Bool, (xs.filter p).length < n := fun p =>
            Nat.lt_of_le_of_lt (List.length_filter_le p xs) (hn ▸ Nat.lt_succ_self _)
          rw [List.foldl_cons]
          split
          · next hs =>
              rw [ih _ (hn ▸ Nat.lt_succ_self _) xs seen rfl, List.filter_cons_of_neg (by simp [hs])]
          · next hs =>
              have hfirst := ih _ (hshort fun y => !seen.any y.same) (xs.filter fun y => !seen.any y.same) [x] rfl
              have hboth : (xs.filter fun y => !seen.any y.same).filter (fun y => !([x].any y.same)) =
                  xs.filter fun y => !(seen ++ [x]).any y.same := by
                rw [List.filter_filter]
                refine List.filter_congr fun y _ => ?_
                rw [List.any_append, Bool.not_or, Bool.and_comm]
              rw [hboth] at hfirst
              rw [ih _ (hn ▸ Nat.lt_succ_self _) xs (seen ++ [x]) rfl, List.filter_cons_of_pos (by simp [hs]),
                List.append_assoc, ← hfirst]
              rfl

theorem distinct_cons (x : Value) (xs : List Value) :
    distinct (x :: xs) = x :: distinct (xs.filter fun y => !y.same x) := by
  have h := foldl_distinct xs [x]
  simp only [List.any_cons, List.any_nil, Bool.or_false, List.singleton_append] at h
  exact h

def label? : Value → Option Value
  | .null => none
  | label => some label

section Enrichment

variable (store : Store) (searchables sortables : Listing)

def optionEntries : List Value → Entries
  | [] => []
  | l :: ls => [(.text Document.optionsField, .list (l :: ls))]

/-- Sort fields of one attribute each. -/
def SortsApart : Prop :=
  ∀ key other a b, sortables.attributeAt? key = some a → sortables.attributeAt? other = some b →
    a.sortField store.language? = b.sortField store.language? → key = other

/-- A row with lists of hashable things and other values, none of them where something is to be written. -/
structure Enrichable (row : Entries) : Prop where
  dictionary : IsDictionary row
  hashable : ∀ e ∈ row, ∀ xs, e.2 = .list xs ∨ e.2 = .tuple xs → ∀ x ∈ xs, x.isKey = true
  notOptions : ∀ e ∈ row, e.1 ≠ .text Document.optionsField
  notStore : ∀ e ∈ row, e.1 ≠ .text Document.storeField
  notSort : ∀ e ∈ row, ∀ key a, sortables.attributeAt? key = some a → e.1 ≠ .ofChars (a.sortField store.language?)

variable [Calendar.Zones]

def indexedValue (key v : Value) : Value :=
  match searchables.attributeAt? key with
  | none => tidied v
  | some a => a.indexValue store (tidied v)

def labelAt? (e : Value × Value) : Option Value :=
  (searchables.attributeAt? e.1).bind fun a => label? (a.optionLabel (indexedValue store searchables e.1 e.2))

def sortPair? (e : Value × Value) : Option (Value × Value) :=
  (sortables.attributeAt? e.1).map fun a =>
    (.ofChars (a.sortField store.language?), a.sortValue (indexedValue store searchables e.1 e.2))

def indexedEntries (row : Entries) : Entries := row.map fun e => (e.1, indexedValue store searchables e.1 e.2)

def sortEntries (row : Entries) : Entries := row.filterMap (sortPair? store searchables sortables)

def labels (row : Entries) : List Value := row.filterMap (labelAt? store searchables)

/-- What becomes of a row, field by field. -/
def enrichment (row : Entries) : Entries :=
  indexedEntries store searchables row ++ sortEntries store searchables sortables row ++
    optionEntries (labels store searchables row) ++ [(.text Document.storeField, .int store.id)]

end Enrichment

variable {store : Store} {searchables sortables : Listing} {row done todo : Entries} {key v : Value}

theorem Enrichable.perm {row' : Entries} (h : Enrichable store sortables row) (hp : row.Perm row') :
    Enrichable store sortables row' where
  dictionary := h.dictionary.perm hp
  hashable e he := h.hashable e (hp.mem_iff.mpr he)
  notOptions e he := h.notOptions e (hp.mem_iff.mpr he)
  notStore e he := h.notStore e (hp.mem_iff.mpr he)
  notSort e he := h.notSort e (hp.mem_iff.mpr he)

theorem sortField_apart (a : Attribute) (store : Store) {name : String}
    (hn : ("sort_by_".toList.isPrefixOf name.toList || name.toList.isPrefixOf "sort_by_".toList) = false) :
    (Value.ofChars (a.sortField store.language?)).Apart (.text name) :=
  Value.apart_text ((FieldNames.starts_sortFieldName _ _).ne (FieldNames.starts_self name) hn)

theorem separate_written : Separate [.text Document.optionsField, .text Document.storeField] where
  reflexive := by simp [Value.same_text_self]
  apart := by
    rw [List.pairwise_pair]
    exact Value.apart_text (by decide)

theorem addLabel_perm {row base : Entries} {ls : List Value} (hp : row.Perm (base ++ optionEntries ls))
    (hd : ∀ e ∈ base, (Value.text Document.optionsField).Apart e.1) (hr : IsDictionary row) (label : Value) :
    ∃ row', addLabel row label = .ok row' ∧ row'.Perm (base ++ optionEntries (ls ++ (label? label).toList)) := by
  have hgathered : ∃ row', row.set Document.optionsField
      (.list ((row.field Document.optionsField (.list [])).sequence?.getD [] ++ [label])) = row' ∧
      row.field Document.optionsField (.list []) = .list ls ∧ row'.Perm (base ++ optionEntries (ls ++ [label])) := by
    cases ls with
    | nil =>
        rw [optionEntries, List.append_nil] at hp
        have hapart : ∀ e ∈ row, (Value.text Document.optionsField).Apart e.1 := fun e he => hd e (hp.mem_iff.mp he)
        have hnone : row.field? Document.optionsField = none := find?_of_apart hapart
        refine ⟨_, rfl, by rw [Entries.field, hnone]; rfl, ?_⟩
        rw [Entries.set, insert_of_apart hapart, Entries.field, hnone]
        exact hp.append_right _
    | cons l ls =>
        have hfirst := hp.trans (List.perm_append_singleton _ _)
        have hfound : row.field? Document.optionsField = some (.list (l :: ls)) :=
          find?_of_perm hfirst (hr.perm hfirst)
        refine ⟨_, rfl, by rw [Entries.field, hfound]; rfl, ?_⟩
        rw [Entries.set, Entries.field, hfound]
        exact (insert_perm hfirst (hr.perm hfirst) _).trans (List.perm_append_singleton _ _).symm
  obtain ⟨row', hset, hfield, hperm⟩ := hgathered
  cases label with
  | null => exact ⟨row, rfl, by rwa [label?, Option.toList_none, List.append_nil]⟩
  | _ =>
      rw [hfield] at hset
      refine ⟨row', ?_, hperm⟩
      rw [addLabel, hfield, ← hset]
      · rfl
      · exact Value.noConfusion

theorem keys_append (es fs : Entries) : keys (es ++ fs) = keys es ++ keys fs := List.map_append

theorem keys_optionEntries (ls : List Value) : (keys (optionEntries ls)).Sublist [.text Document.optionsField] := by
  cases ls with
  | nil => exact List.nil_sublist _
  | cons l ls => exact (List.nil_sublist _).cons_cons _

theorem filterMap_concat {α β : Type} (f : α → Option β) (xs : List α) (x : α) :
    (xs ++ [x]).filterMap f = xs.filterMap f ++ (f x).toList := by
  rw [List.filterMap_append, List.filterMap_cons]
  cases f x <;> rfl

section Rows

variable [Calendar.Zones]

theorem keys_sortEntries (row : Entries) : keys (sortEntries store searchables sortables row) =
    row.filterMap fun e => (sortables.attributeAt? e.1).map fun a => .ofChars (a.sortField store.language?) := by
  rw [keys, sortEntries, List.map_filterMap]
  congr 1
  funext e
  rw [sortPair?, Option.map_map]
  rfl

theorem exists_of_mem_sortEntries {k : Value} (hk : k ∈ keys (sortEntries store searchables sortables row)) :
    ∃ e ∈ row, ∃ a, sortables.attributeAt? e.1 = some a ∧ k = .ofChars (a.sortField store.language?) := by
  rw [keys_sortEntries] at hk
  obtain ⟨e, he, hm⟩ := List.mem_filterMap.mp hk
  obtain ⟨a, ha, rfl⟩ := Option.map_eq_some_iff.mp hm
  exact ⟨e, he, a, ha, rfl⟩

theorem separate_sortEntries (searchables : Listing) (hs : SortsApart store sortables) (hd : IsDictionary row) :
    Separate (keys (sortEntries store searchables sortables row)) where
  reflexive := by
    intro k hk
    obtain ⟨-, -, a, -, rfl⟩ := exists_of_mem_sortEntries hk
    exact Value.same_text_self _
  apart := by
    have ha := hd.apart
    rw [keys, List.pairwise_map] at ha
    rw [keys_sortEntries]
    refine List.Pairwise.filterMap _ ?_ ha
    intro d e hde m hm n hn
    obtain ⟨a, ha, rfl⟩ := Option.map_eq_some_iff.mp hm
    obtain ⟨b, hb, rfl⟩ := Option.map_eq_some_iff.mp hn
    refine Value.apart_text fun he => ?_
    -- One field for both means one key, and the two keys are apart.
    have hkey := hs d.1 e.1 a b ha hb (String.ofList_inj.mp he)
    obtain ⟨name, hname, -⟩ := Listing.mem_of_attributeAt? hb
    rw [hkey, hname] at hde
    exact Value.ne_of_apart_text hde rfl

theorem separate_keys (searchables : Listing) (hs : SortsApart store sortables) (h : Enrichable store sortables row) :
    Separate (keys row ++ keys (sortEntries store searchables sortables row) ++
      [.text Document.optionsField, .text Document.storeField]) := by
  refine Separate.append (Separate.append h.dictionary (separate_sortEntries searchables hs h.dictionary) ?_)
    separate_written ?_
  · intro k hk l hl
    obtain ⟨e, he, rfl⟩ := List.mem_map.mp hk
    obtain ⟨d, -, a, ha, rfl⟩ := exists_of_mem_sortEntries hl
    exact Value.apart_of_ne_text (h.notSort e he d.1 a ha)
  · intro k hk l hl
    have hboth : k.Apart (.text Document.optionsField) ∧ k.Apart (.text Document.storeField) := by
      rcases List.mem_append.mp hk with hk | hk
      · obtain ⟨e, he, rfl⟩ := List.mem_map.mp hk
        exact ⟨Value.apart_of_ne_text (h.notOptions e he), Value.apart_of_ne_text (h.notStore e he)⟩
      · obtain ⟨-, -, a, -, rfl⟩ := exists_of_mem_sortEntries hk
        exact ⟨sortField_apart a store (by decide), sortField_apart a store (by decide)⟩
    rcases List.mem_cons.mp hl with rfl | hl
    · exact hboth.1
    · rw [List.mem_singleton.mp hl]
      exact hboth.2

variable (store searchables sortables)

/-- A row on its way: the fields that are done, with what came of them, and those still to be done. -/
def progress (done todo : Entries) : Entries :=
  indexedEntries store searchables done ++ todo ++ sortEntries store searchables sortables done ++
    optionEntries (labels store searchables done)

variable {store searchables sortables}

theorem keys_indexedEntries (row : Entries) : keys (indexedEntries store searchables row) = keys row := by
  rw [keys, indexedEntries, List.map_map]
  rfl

section Parts

variable (hs : SortsApart store sortables) (h : Enrichable store sortables row) {es sorts : Entries}
  (he : keys es = keys row) (hsorts : (keys sorts).Sublist (keys (sortEntries store searchables sortables row)))
include hs h he hsorts

theorem separate_parts : Separate (keys (es ++ sorts) ++ [.text Document.optionsField, .text Document.storeField]) := by
  refine (separate_keys searchables hs h).sublist ?_
  rw [keys_append, he]
  exact (hsorts.append_left _).append_right _

theorem isDictionary_parts (ls : List Value) : IsDictionary (es ++ sorts ++ optionEntries ls) := by
  refine (separate_parts hs h he hsorts).sublist ?_
  rw [keys_append]
  exact ((keys_optionEntries ls).trans (List.sublist_append_left _ [_])).append_left _

theorem options_apart : ∀ e ∈ es ++ sorts, (Value.text Document.optionsField).Apart e.1 := by
  intro e hm
  have ha := (List.pairwise_append.mp (separate_parts hs h he hsorts).apart).2.2
  exact (ha e.1 (List.mem_map_of_mem hm) _ List.mem_cons_self).symm

end Parts

theorem progress_concat (done todo : Entries) (key v : Value) :
    progress store searchables sortables (done ++ [(key, v)]) todo =
      indexedEntries store searchables done ++ (key, indexedValue store searchables key v) :: todo ++
        (sortEntries store searchables sortables done ++ (sortPair? store searchables sortables (key, v)).toList) ++
        optionEntries (labels store searchables done ++ (labelAt? store searchables (key, v)).toList) := by
  rw [progress, sortEntries, labels, filterMap_concat, filterMap_concat, indexedEntries, List.map_append,
    List.append_assoc (List.map _ done)]
  rfl

theorem index_perm (hse : searchables.OfAttributes) {base : Entries} {ls : List Value}
    (hp : row.Perm (base ++ optionEntries ls)) (hd : ∀ e ∈ base, (Value.text Document.optionsField).Apart e.1)
    (hr : IsDictionary row) (key v : Value) :
    ∃ row', index store searchables row key (tidied v) = .ok (row', indexedValue store searchables key v) ∧
      row'.Perm (base ++ optionEntries (ls ++ (labelAt? store searchables (key, v)).toList)) := by
  unfold index
  rw [hse.present?_eq, labelAt?, indexedValue]
  cases searchables.attributeAt? key with
  | none =>
      refine ⟨row, rfl, ?_⟩
      rw [Option.bind_none, Option.toList_none, List.append_nil]
      exact hp
  | some a =>
      obtain ⟨row', hadd, hperm⟩ := addLabel_perm hp hd hr (a.optionLabel (a.indexValue store (tidied v)))
      refine ⟨row', ?_, hperm⟩
      dsimp only [Option.map_some]
      rw [hadd]
      rfl

theorem sort_perm (hso : sortables.OfAttributes) (key v : Value) {es sorts opts : Entries} (hp : row.Perm (es ++ sorts ++ opts))
    (hd : IsDictionary (es ++ (sorts ++ (sortPair? store searchables sortables (key, v)).toList) ++ opts)) :
    ∃ row', sort store sortables row key (indexedValue store searchables key v) = .ok row' ∧
      row'.Perm (es ++ (sorts ++ (sortPair? store searchables sortables (key, v)).toList) ++ opts) := by
  unfold sort
  rw [hso.present?_eq]
  rw [sortPair?] at hd ⊢
  dsimp only at hd ⊢
  cases ha : sortables.attributeAt? key with
  | none =>
      refine ⟨row, rfl, ?_⟩
      rw [Option.map_none, Option.toList_none, List.append_nil]
      exact hp
  | some a =>
      rw [ha] at hd
      have hnew : ∀ e, ((es ++ sorts ++ opts) ++ [e]).Perm (es ++ (sorts ++ [e]) ++ opts) := by
        intro e
        rw [List.append_assoc (es ++ sorts), ← List.append_assoc es sorts, List.append_assoc (es ++ sorts)]
        exact List.perm_append_comm.append_left _
      refine ⟨_, rfl, ?_⟩
      rw [insert_of_apart]
      · exact (hp.append_right _).trans (hnew _)
      · intro e he
        have hfirst := hd.perm ((hnew _).symm.trans (List.perm_append_singleton _ _))
        exact hfirst.apart_of_cons e (hp.mem_iff.mp he)

theorem enrichField_perm (hse : searchables.OfAttributes) (hso : sortables.OfAttributes)
    (hs : SortsApart store sortables) (h : Enrichable store sortables (done ++ (key, v) :: todo))
    (hp : row.Perm (progress store searchables sortables done ((key, v) :: todo))) :
    ∃ row', enrichField store searchables sortables row key = .ok row' ∧
      row'.Perm (progress store searchables sortables (done ++ [(key, v)]) todo) := by
  have hkeys : ∀ w, keys (indexedEntries store searchables done ++ (key, w) :: todo) = keys (done ++ (key, v) :: todo) := by
    intro w
    rw [keys_append, keys_append, keys_indexedEntries]
    rfl
  have hall : sortEntries store searchables sortables (done ++ (key, v) :: todo) =
      sortEntries store searchables sortables done ++ (sortPair? store searchables sortables (key, v)).toList ++
        sortEntries store searchables sortables todo := by
    rw [sortEntries, List.append_cons, List.filterMap_append, filterMap_concat]
    rfl
  have hafter : (keys (sortEntries store searchables sortables done ++
      (sortPair? store searchables sortables (key, v)).toList)).Sublist
      (keys (sortEntries store searchables sortables (done ++ (key, v) :: todo))) := by
    rw [hall, keys_append _ (sortEntries store searchables sortables todo)]
    exact List.sublist_append_left _ _
  have hbefore := (List.Sublist.map Prod.fst (List.sublist_append_left (sortEntries store searchables sortables done)
    (sortPair? store searchables sortables (key, v)).toList)).trans hafter
  -- The field that is next comes to the front, where it is found and replaced, and goes back to its place.
  have hmid : ∀ w opts, (indexedEntries store searchables done ++ (key, w) :: todo ++
      sortEntries store searchables sortables done ++ opts).Perm ((key, w) ::
        (indexedEntries store searchables done ++ todo ++ sortEntries store searchables sortables done ++ opts)) := by
    intro w opts
    exact (List.perm_middle.append_right _).append_right _
  have hd := isDictionary_parts hs h (hkeys v) hbefore
  have hfirst := hp.trans (hmid v _)
  have hfound : find? row key = some v := find?_of_perm hfirst ((hd _).perm (hmid v _))
  obtain ⟨r₁, hindex, h₁⟩ := index_perm hse hp (options_apart hs h (hkeys v) hbefore) ((hd _).perm hp.symm) key v
  have h₂ := (insert_perm (h₁.trans (hmid v _)) ((hd _).perm (hmid v _)) (indexedValue store searchables key v)).trans
    (hmid _ _).symm
  obtain ⟨r₃, hsort, h₃⟩ := sort_perm hso key v h₂ (isDictionary_parts hs h (hkeys _) hafter _)
  refine ⟨r₃, ?_, by rwa [progress_concat]⟩
  rw [enrichField, hfound, Option.getD_some, cleaned_of_hashable (h.hashable (key, v) (by simp))]
  change (index store searchables row key (tidied v) >>= _) = _
  rw [hindex]
  exact hsort

theorem foldlM_enrichField_perm (hse : searchables.OfAttributes) (hso : sortables.OfAttributes)
    (hs : SortsApart store sortables) (done : Entries) (h : Enrichable store sortables (done ++ todo))
    (hp : row.Perm (progress store searchables sortables done todo)) :
    ∃ row', (keys todo).foldlM (enrichField store searchables sortables) row = .ok row' ∧
      row'.Perm (progress store searchables sortables (done ++ todo) []) := by
  -- The fields that are done grow at their end; the row is what they make up but for its order.
  induction todo generalizing done row with
  | nil => exact ⟨row, rfl, by rwa [List.append_nil]⟩
  | cons e todo ih =>
      obtain ⟨next, hnext, hn⟩ := enrichField_perm hse hso hs h hp
      obtain ⟨last, hlast, hl⟩ := ih (done ++ [e]) (by rwa [List.append_assoc]) hn
      refine ⟨last, ?_, by rwa [List.append_assoc] at hl⟩
      rw [keys, List.map_cons, List.foldlM_cons, hnext]
      exact hlast

theorem progress_nil (row : Entries) : progress store searchables sortables [] row = row := by
  rw [progress, indexedEntries, sortEntries, labels, List.map_nil, List.filterMap_nil, List.filterMap_nil, optionEntries,
    List.nil_append, List.append_nil, List.append_nil]

theorem isDictionary_enrichment (searchables : Listing) (hs : SortsApart store sortables) (h : Enrichable store sortables row) :
    IsDictionary (enrichment store searchables sortables row) := by
  refine (separate_keys searchables hs h).sublist ?_
  rw [enrichment, List.append_assoc, keys_append, keys_append, keys_append, keys_indexedEntries]
  exact ((keys_optionEntries _).append_right _).append_left _

theorem enrich_perm (hse : searchables.OfAttributes) (hso : sortables.OfAttributes) (hs : SortsApart store sortables)
    (h : Enrichable store sortables row) : ∃ out, enrich store searchables sortables row = .ok out ∧
      out.Perm (enrichment store searchables sortables row) ∧ IsDictionary out := by
  have hstart : row.Perm (progress store searchables sortables [] row) := by rw [progress_nil]
  obtain ⟨last, hlast, hl⟩ := foldlM_enrichField_perm hse hso hs [] h hstart
  have hd := isDictionary_enrichment searchables hs h
  rw [List.nil_append, progress, List.append_nil] at hl
  have hnew : ∀ e ∈ last, (Value.text Document.storeField).Apart e.1 := by
    intro e he
    have hfirst := hd.perm (List.perm_append_singleton _ _)
    exact hfirst.apart_of_cons e (hl.mem_iff.mp he)
  have hp : (last.set Document.storeField (.int store.id)).Perm (enrichment store searchables sortables row) := by
    rw [Entries.set, insert_of_apart hnew]
    exact hl.append_right _
  refine ⟨_, ?_, hp, hd.perm hp.symm⟩
  rw [enrich, hlast]
  rfl

theorem find?_of_enriched {out : Entries} (hp : out.Perm (enrichment store searchables sortables row))
    (hd : IsDictionary out) {e : Value × Value} (he : e ∈ row) :
    find? out e.1 = some (indexedValue store searchables e.1 e.2) := by
  have hm : (e.1, indexedValue store searchables e.1 e.2) ∈ indexedEntries store searchables row :=
    List.mem_map_of_mem he
  refine hd.find?_of_mem (hp.mem_iff.mpr ?_)
  exact List.mem_append_left _ (List.mem_append_left _ (List.mem_append_left _ hm))

theorem sortField?_of_enriched {out : Entries} (hp : out.Perm (enrichment store searchables sortables row))
    (hd : IsDictionary out) {e : Value × Value} (he : e ∈ row) {a : Attribute} (ha : sortables.attributeAt? e.1 = some a) :
    out.field? (String.ofList (a.sortField store.language?)) =
      some (a.sortValue (indexedValue store searchables e.1 e.2)) := by
  have hm : (.ofChars (a.sortField store.language?), a.sortValue (indexedValue store searchables e.1 e.2)) ∈
      sortEntries store searchables sortables row :=
    List.mem_filterMap.mpr ⟨e, he, Option.map_eq_some_iff.mpr ⟨a, ha, rfl⟩⟩
  refine hd.find?_of_mem (hp.mem_iff.mpr ?_)
  exact List.mem_append_left _ (List.mem_append_left _ (List.mem_append_right _ hm))

theorem optionsField?_of_enriched {out : Entries} (hp : out.Perm (enrichment store searchables sortables row))
    (hd : IsDictionary out) {l : Value} {ls : List Value} (hl : labels store searchables row = l :: ls) :
    out.field? Document.optionsField = some (.list (l :: ls)) := by
  refine hd.find?_of_mem (hp.mem_iff.mpr ?_)
  rw [enrichment, hl]
  exact List.mem_append_left _ (List.mem_append_right _ List.mem_cons_self)

theorem erase_options_enrichment (searchables : Listing) (hs : SortsApart store sortables) (h : Enrichable store sortables row) :
    (enrichment store searchables sortables row).erase Document.optionsField =
      indexedEntries store searchables row ++ sortEntries store searchables sortables row ++
        [(.text Document.storeField, .int store.id)] := by
  have hkept : (indexedEntries store searchables row ++ sortEntries store searchables sortables row).erase
      Document.optionsField = indexedEntries store searchables row ++ sortEntries store searchables sortables row := by
    refine List.filter_eq_self.mpr fun e he => ?_
    rw [(options_apart hs h (keys_indexedEntries row) (List.Sublist.refl _) e he).1]
    rfl
  have hgone : (optionEntries (labels store searchables row)).erase Document.optionsField = [] := by
    refine List.filter_eq_nil_iff.mpr fun e he => ?_
    have hkey := (keys_optionEntries _).mem (List.mem_map_of_mem (f := Prod.fst) he)
    rw [List.mem_singleton.mp hkey, Value.same_text_self]
    exact Bool.false_ne_true
  have hstore : Entries.erase [(.text Document.storeField, .int store.id)] Document.optionsField =
      [(.text Document.storeField, .int store.id)] := by
    refine List.filter_eq_self.mpr fun e he => ?_
    rw [List.mem_singleton.mp he, Value.same_text_of_ne (by decide)]
    rfl
  unfold Entries.erase at hkept hgone hstore ⊢
  rw [enrichment, List.filter_append, List.filter_append, hkept, hgone, hstore, List.append_nil]

/-- A row is enriched field by field: what becomes of a field does not depend on the others, and in which order
the fields come does not matter but for the order of the labels. -/
theorem rows_are_enriched_field_by_field (hse : searchables.OfAttributes) (hso : sortables.OfAttributes)
    (hs : SortsApart store sortables) :
    (∀ row, Enrichable store sortables row → ∃ out, enrich store searchables sortables row = .ok out ∧
      out.Perm (enrichment store searchables sortables row) ∧ IsDictionary out) ∧
    (∀ row row', Enrichable store sortables row → Enrichable store sortables row' → ∃ out out',
      enrich store searchables sortables row = .ok out ∧ enrich store searchables sortables row' = .ok out' ∧
      ∀ e ∈ row, e ∈ row' → find? out' e.1 = find? out e.1 ∧ ∀ a, sortables.attributeAt? e.1 = some a →
        out'.field? (String.ofList (a.sortField store.language?)) = out.field? (String.ofList (a.sortField store.language?))) ∧
    (∀ row row', Enrichable store sortables row → row.Perm row' → ∃ out out',
      enrich store searchables sortables row = .ok out ∧ enrich store searchables sortables row' = .ok out' ∧
      (out'.erase Document.optionsField).Perm (out.erase Document.optionsField) ∧
      (labels store searchables row').Perm (labels store searchables row)) := by
  refine ⟨fun row h => enrich_perm hse hso hs h, ?_, ?_⟩
  · intro row row' h h'
    obtain ⟨out, hout, hp, hd⟩ := enrich_perm hse hso hs h
    obtain ⟨out', hout', hp', hd'⟩ := enrich_perm hse hso hs h'
    refine ⟨out, out', hout, hout', ?_⟩
    intro e he he'
    refine ⟨?_, fun a ha => ?_⟩
    · rw [find?_of_enriched hp hd he, find?_of_enriched hp' hd' he']
    · rw [sortField?_of_enriched hp hd he ha, sortField?_of_enriched hp' hd' he' ha]
  · intro row row' h hrow
    obtain ⟨out, hout, hp, -⟩ := enrich_perm hse hso hs h
    obtain ⟨out', hout', hp', -⟩ := enrich_perm hse hso hs (h.perm hrow)
    refine ⟨out, out', hout, hout', ?_, (hrow.filterMap _).symm⟩
    have herase := erase_options_enrichment searchables hs h
    have herase' := erase_options_enrichment searchables hs (h.perm hrow)
    have hsame : ((enrichment store searchables sortables row').erase Document.optionsField).Perm
        ((enrichment store searchables sortables row).erase Document.optionsField) := by
      rw [herase, herase']
      exact (((hrow.map _).append (hrow.filterMap _)).append_right _).symm
    exact (hp'.filter _).trans (hsame.trans (hp.filter _).symm)

end Rows

def shelfColor : Attribute :=
  .build "color" (some "int") (some "select") true [(.text "8", .text "rot"), (.text "9", .null)]

def shelfSize : Attribute := .build "size" none (some "select") true [(.int 3, .text "gross")]

def shelfMaterial : Attribute := .build "material" none (some "multiselect") true [(.text "1", .text "Holz")]

def shelfWeight : Attribute := .build "weight" (some "decimal") none false []

def shelfSearchables : Listing := [("size", .known shelfSize), ("color", .known shelfColor), ("material", .known shelfMaterial)]

def shelfSortables : Listing := [("color", .known shelfColor), ("weight", .known shelfWeight)]

def shelfStore : Store := ⟨1, 1, some "de_DE", some "UTC"⟩

def shelfRow : Entries := [(.text "color", .tuple [.text "8", .text "", .text "8"]),
  (.text "name", .list [.text "Regal", .null, .text "Regal", .text "Brett"]), (.text "weight", .text "12"),
  (.text "material", .list [.text "1,,2"]), (.text "size", .int 3)]

theorem shelfSearchables_ofAttributes : shelfSearchables.OfAttributes := by
  simp [Listing.OfAttributes, shelfSearchables]

theorem shelfSortables_ofAttributes : shelfSortables.OfAttributes := by
  simp [Listing.OfAttributes, shelfSortables]

theorem attributeAt?_shelfSortables {key : Value} {a : Attribute} (h : shelfSortables.attributeAt? key = some a) :
    key = .text "color" ∧ a = shelfColor ∨ key = .text "weight" ∧ a = shelfWeight := by
  obtain ⟨name, rfl, hm⟩ := Listing.mem_of_attributeAt? h
  simpa [shelfSortables] using hm

theorem sortField_shelfColor : String.ofList (shelfColor.sortField shelfStore.language?) = "sort_by_color_de" := by
  decide

theorem sortField_shelfWeight : String.ofList (shelfWeight.sortField shelfStore.language?) = "sort_by_weight" := by
  decide

theorem sortsApart_shelf : SortsApart shelfStore shelfSortables := by
  intro key other a b ha hb he
  have hs := congrArg String.ofList he
  rcases attributeAt?_shelfSortables ha with ⟨rfl, rfl⟩ | ⟨rfl, rfl⟩ <;>
    rcases attributeAt?_shelfSortables hb with ⟨rfl, rfl⟩ | ⟨rfl, rfl⟩
  · rfl
  · rw [sortField_shelfColor, sortField_shelfWeight] at hs
    exact absurd hs (by decide)
  · rw [sortField_shelfColor, sortField_shelfWeight] at hs
    exact absurd hs (by decide)
  · rfl

theorem enrichable_shelfRow : Enrichable shelfStore shelfSortables shelfRow where
  dictionary := by
    constructor
    · simp [shelfRow, keys, Value.same_text_self]
    · simp [shelfRow, keys, Value.Apart, Value.same_text_of_ne]
  hashable := by simp [shelfRow, Value.isKey]
  notOptions := by simp [shelfRow, Document.optionsField]
  notStore := by simp [shelfRow, Document.storeField]
  notSort := by
    intro e he key a ha
    revert e
    rw [Value.ofChars]
    rcases attributeAt?_shelfSortables ha with ⟨-, rfl⟩ | ⟨-, rfl⟩
    · simp [shelfRow, sortField_shelfColor]
    · simp [shelfRow, sortField_shelfWeight]

theorem tidied_shelfColor : tidied (.tuple [.text "8", .text "", .text "8"]) = .list [.text "8"] := by
  have hd : distinct [.text "8", .text "", .text "8"] = [.text "8", .text ""] := by
    simp [distinct_cons, distinct_nil, Value.same_text_self, Value.same_text_of_ne]
  rw [tidied, hd]
  rfl

theorem tidied_shelfName : tidied (.list [.text "Regal", .null, .text "Regal", .text "Brett"]) =
    .list [.text "Regal", .text "Brett"] := by
  have hd : distinct [.text "Regal", .null, .text "Regal", .text "Brett"] = [.text "Regal", .null, .text "Brett"] := by
    have hnull : ∀ name, Value.null.Apart (.text name) := fun name => Value.apart_of_ne_text Value.noConfusion
    simp [distinct_cons, distinct_nil, Value.same_text_self, Value.same_text_of_ne, (hnull _).1, (hnull _).2]
  rw [tidied, hd]
  rfl

theorem label_shelfColor : shelfColor.label (.text "8") = .text "rot" := by
  have ho : shelfColor.options = Entries.set (Entries.set [] "8" (.text "rot")) "9" .null := by
    simp [shelfColor, Attribute.build, Value.display_text]
  have hf : shelfColor.options.field? "8" = some (.text "rot") := by
    rw [ho, Entries.field?_set_of_ne _ _ (by decide), Entries.field?_set_self]
  change shelfColor.options.field (Value.text "8").display = _
  rw [Value.display_text, Entries.field_of_field? hf]

theorem label_shelfSize : shelfSize.label (.int 3) = .text "gross" := by
  have hf : shelfSize.options.field? (Value.int 3).display = some (.text "gross") := Entries.field?_set_self _ _ _
  exact Entries.field_of_field? hf .null

open scoped Calendar.Daylight

theorem labels_shelfRow : labels shelfStore shelfSearchables shelfRow = [.text "rot", .text "gross"] := by
  have hcolor : labelAt? shelfStore shelfSearchables (.text "color", .tuple [.text "8", .text "", .text "8"]) =
      some (.text "rot") := by
    rw [labelAt?, indexedValue, tidied_shelfColor]
    exact congrArg label? label_shelfColor
  have hsize : labelAt? shelfStore shelfSearchables (.text "size", .int 3) = some (.text "gross") :=
    congrArg label? label_shelfSize
  rw [labels, shelfRow, List.filterMap_cons_some hcolor, List.filterMap_cons_none rfl, List.filterMap_cons_none rfl,
    List.filterMap_cons_none rfl, List.filterMap_cons_some hsize, List.filterMap_nil]

theorem shelf_is_enriched : ∃ out out', enrich shelfStore shelfSearchables shelfSortables shelfRow = .ok out ∧
    enrich shelfStore shelfSearchables shelfSortables shelfRow.reverse = .ok out' ∧
    out.field? "color" = some (.list [.text "8"]) ∧ out.field? "name" = some (.list [.text "Regal", .text "Brett"]) ∧
    out.field? "material" = some (.list [.text "1", .text "2"]) ∧ out.field? "sort_by_weight" = some (.real (.ofInt 12)) ∧
    out.field? "sort_by_color_de" = some (.text "rot") ∧ out.field? "_options" = some (.list [.text "rot", .text "gross"]) ∧
    out'.field? "_options" = some (.list [.text "gross", .text "rot"]) ∧
    out'.field? "sort_by_weight" = out.field? "sort_by_weight" ∧
    (out'.erase "_options").Perm (out.erase "_options") := by
  have hreverse := (List.reverse_perm shelfRow).symm
  have h := enrichable_shelfRow
  obtain ⟨hall, halone, horder⟩ := rows_are_enriched_field_by_field shelfSearchables_ofAttributes
    shelfSortables_ofAttributes sortsApart_shelf
  obtain ⟨out, hout, hp, hd⟩ := hall shelfRow h
  obtain ⟨out', hout', hp', hd'⟩ := hall shelfRow.reverse (h.perm hreverse)
  obtain ⟨_, _, hsame, hsame', herase, -⟩ := horder shelfRow shelfRow.reverse h hreverse
  cases hsame.symm.trans hout
  cases hsame'.symm.trans hout'
  obtain ⟨_, _, hsame, hsame', hfields⟩ := halone shelfRow shelfRow.reverse h (h.perm hreverse)
  cases hsame.symm.trans hout
  cases hsame'.symm.trans hout'
  have hcolor : (.text "color", .tuple [.text "8", .text "", .text "8"]) ∈ shelfRow := by simp [shelfRow]
  have hname : (.text "name", .list [.text "Regal", .null, .text "Regal", .text "Brett"]) ∈ shelfRow := by simp [shelfRow]
  have hweight : (.text "weight", .text "12") ∈ shelfRow := by simp [shelfRow]
  have hmaterial : (.text "material", .list [.text "1,,2"]) ∈ shelfRow := by simp [shelfRow]
  refine ⟨out, out', hout, hout', ?_, ?_, ?_, ?_, ?_, ?_, ?_, ?_, herase⟩
  · exact (find?_of_enriched hp hd hcolor).trans (congrArg some tidied_shelfColor)
  · exact (find?_of_enriched hp hd hname).trans (congrArg some tidied_shelfName)
  · exact (find?_of_enriched hp hd hmaterial).trans rfl
  · have hs := sortField?_of_enriched hp hd hweight (a := shelfWeight) rfl
    rw [sortField_shelfWeight] at hs
    exact hs
  · have hs := sortField?_of_enriched hp hd hcolor (a := shelfColor) rfl
    rw [sortField_shelfColor, indexedValue, tidied_shelfColor] at hs
    exact hs.trans (congrArg some label_shelfColor)
  · exact optionsField?_of_enriched hp hd labels_shelfRow
  · refine optionsField?_of_enriched hp' hd' ?_
    rw [labels, List.filterMap_reverse]
    exact congrArg List.reverse labels_shelfRow
  · have hs := (hfields _ hweight (hreverse.mem_iff.mp hweight)).2 shelfWeight rfl
    rwa [sortField_shelfWeight] at hs

end Row

end CatalogSearch
