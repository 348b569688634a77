import CatalogSearch.Proofs.Value.Folds
import CatalogSearch.Proofs.Value.Keys
import CatalogSearch.Value.Access

namespace CatalogSearch

namespace Entries

def name? (key : Value) : Option String :=
  match key with
  | .text name => some name
  | _ => none

def names (es : Entries) : List String := es.filterMap fun e => name? e.1

/-- A dictionary has each of its keys once. -/
def Distinct (es : Entries) : Prop := es.Pairwise fun d e => d.1.same e.1 = false

variable {es : Entries} {name : String}

theorem hasField_iff : es.hasField name ↔ name ∈ es.names := by
  rw [hasField, Keyed.has_text, Keyed.keys, names, List.mem_map, List.mem_filterMap]
  apply exists_congr
  rintro ⟨key, v⟩
  cases key <;> simp [name?]

theorem Distinct.nodup_names (h : es.Distinct) : es.names.Nodup := by
  refine List.Pairwise.filterMap _ ?_ h
  rintro ⟨d, v⟩ ⟨e, w⟩ hde m hm n hn rfl
  have hd : d = .text m := by cases d <;> simp_all [name?]
  have he : e = .text m := by cases e <;> simp_all [name?]
  subst hd he
  rw [Value.same_text_self] at hde
  cases hde

theorem names_cons (e : Value × Value) (es : Entries) : names (e :: es) = (name? e.1).toList ++ names es := by
  rw [names, List.filterMap_cons]
  cases name? e.1 <;> rfl

theorem names_insert (es : Entries) (key v : Value) :
    names (Keyed.insert es key v) = names es ∨
      ∃ name, key = .text name ∧ name ∉ names es ∧ names (Keyed.insert es key v) = names es ++ [name] := by
  induction es with
  | nil =>
      cases key with
      | text name => exact .inr ⟨name, rfl, List.not_mem_nil, rfl⟩
      | _ => exact .inl rfl
  | cons e es ih =>
      rw [Keyed.insert]
      split
      · exact .inl rfl
      · next hs =>
          rcases ih with ih | ⟨name, rfl, hm, ih⟩
          · exact .inl (by rw [names_cons, names_cons, ih])
          · refine .inr ⟨name, rfl, ?_, by rw [names_cons, names_cons, ih, List.append_assoc]⟩
            rw [names_cons, List.mem_append, not_or]
            refine ⟨?_, hm⟩
            intro he
            apply hs
            rw [Value.same_text]
            cases hk : e.1 <;> simp_all [name?]

theorem nodup_names_insert (h : es.names.Nodup) (key v : Value) : (names (Keyed.insert es key v)).Nodup := by
  rcases names_insert es key v with hn | ⟨name, -, hm, hn⟩
  · rw [hn]; exact h
  · rw [hn, List.nodup_append]
    refine ⟨h, by simp, ?_⟩
    rintro a ha b hb rfl
    exact hm (List.mem_singleton.mp hb ▸ ha)

theorem nodup_names_set (h : es.names.Nodup) (name : String) (v : Value) : (es.set name v).names.Nodup :=
  nodup_names_insert h _ v

theorem nodup_names_toEntries {v : Value} (hd : ∀ es, v = .map es → Distinct es) (h : v.toEntries = .ok es) :
    es.names.Nodup := by
  unfold Value.toEntries at h
  split at h
  · cases h
    exact (hd _ rfl).nodup_names
  · obtain ⟨ps, -, hf⟩ := Folds.bind_eq_ok.mp h
    have hnil : (names []).Nodup := List.nodup_nil
    refine Folds.foldlM_keeps (fun es : Entries => es.names.Nodup) ?_ hnil hf
    intro es p es' hs hp
    obtain ⟨⟨k, x⟩, -, hp⟩ := Folds.bind_eq_ok.mp hp
    cases hp
    exact nodup_names_insert hs k x

end Entries

end CatalogSearch
