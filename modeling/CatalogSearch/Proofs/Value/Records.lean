import CatalogSearch.Proofs.Value.Filing
import Mathlib.Data.List.Perm.Basic

namespace CatalogSearch

theorem Value.sameEntries_eq (es fs : Entries) :
    Value.sameEntries es fs = es.all fun e => fs.any fun f => e.1.same f.1 && e.2.same f.2 := by
  induction es with
  | nil => rw [sameEntries, List.all_nil]
  | cons e es ih => rw [sameEntries, List.all_cons, ih]

theorem Value.sameItems_texts (texts : List String) : Value.sameItems (texts.map .text) (texts.map .text) = true := by
  induction texts with
  | nil => simp [sameItems]
  | cons s texts ih => simp only [List.map_cons, sameItems, same_text_self, ih, Bool.and_self]

namespace Entries

/-- A dictionary of fields: its keys are texts, each of them once. -/
structure IsRecord (es : Entries) : Prop where
  texts : Keyed.TextKeys es
  once : es.names.Nodup

variable {es fs : Entries}

theorem isRecord_nil : IsRecord [] := ⟨fun _ he => (List.not_mem_nil he).elim, List.nodup_nil⟩

theorem IsRecord.set (h : es.IsRecord) (name : String) (v : Value) : (es.set name v).IsRecord where
  texts := by
    intro e he
    rcases Keyed.mem_insert_text he with he | rfl
    · exact h.texts e he
    · exact ⟨name, rfl⟩
  once := nodup_names_set h.once name v

theorem mem_names_of_mem {name : String} {v : Value} (h : (.text name, v) ∈ es) : name ∈ es.names :=
  List.mem_filterMap.mpr ⟨_, h, rfl⟩

theorem IsRecord.distinct (h : es.IsRecord) : es.Distinct := by
  induction es with
  | nil => exact .nil
  | cons e es ih =>
      obtain ⟨name, hname⟩ := h.texts e List.mem_cons_self
      have honce := h.once
      rw [names_cons, hname] at honce
      obtain ⟨hnot, honce⟩ := List.nodup_cons.mp honce
      refine .cons ?_ (ih ⟨fun d hd => h.texts d (List.mem_cons_of_mem e hd), honce⟩)
      intro d hd
      obtain ⟨other, hother⟩ := h.texts d (List.mem_cons_of_mem e hd)
      have hm : (.text other, d.2) ∈ es := by rw [← hother]; exact hd
      rw [hname, hother]
      exact Value.same_text_of_ne fun he => hnot (he ▸ mem_names_of_mem hm)

theorem IsRecord.length_names (h : es.IsRecord) : es.names.length = es.length := by
  have hall : ∀ e ∈ es, (name? e.1).isSome := by
    intro e he
    obtain ⟨name, hname⟩ := h.texts e he
    rw [hname]
    rfl
  exact List.filterMap_length_eq_length.mpr hall

theorem IsRecord.same (he : es.IsRecord) (hf : fs.IsRecord) (hn : ∀ name, es.hasField name ↔ fs.hasField name)
    (hs : ∀ name v w, es.field? name = some v → fs.field? name = some w → v.same w = true) :
    (Value.map es).same (.map fs) = true := by
  have hlength : es.length = fs.length := by
    rw [← he.length_names, ← hf.length_names]
    refine ((List.perm_ext_iff_of_nodup he.once hf.once).mpr fun name => ?_).length_eq
    rw [← hasField_iff, ← hasField_iff]
    exact hn name
  rw [Value.same, hlength, beq_self_eq_true, Bool.true_and, Value.sameEntries_eq, List.all_eq_true]
  intro e hm
  obtain ⟨name, hname⟩ := he.texts e hm
  have hv : es.field? name = some e.2 := field?_of_mem he.distinct (by rw [← hname]; exact hm)
  obtain ⟨w, hw⟩ := Option.isSome_iff_exists.mp ((hn name).mp (by rw [hasField_eq, hv]; rfl))
  refine List.any_eq_true.mpr ⟨_, Keyed.mem_of_find?_text hw, ?_⟩
  rw [hname, Value.same_text_self, hs name _ w hv hw]
  rfl

end Entries

end CatalogSearch
