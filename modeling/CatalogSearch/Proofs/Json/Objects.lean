import CatalogSearch.Json.Basic
import CatalogSearch.Proofs.Value.Records

namespace CatalogSearch.Json

open Entries

theorem isRecord_toEntries {before : Entries} (h : before.IsRecord) (members : List (String × Json)) :
    (toEntries before members).IsRecord := by
  induction members generalizing before with
  | nil =>
      rw [toEntries]
      exact h
  | cons m members ih =>
      rw [toEntries]
      exact ih (h.set m.1 _)

theorem set_of_not_mem {es : Entries} {name : String} (h : name ∉ es.names) (v : Value) :
    es.set name v = es ++ [(.text name, v)] := by
  induction es with
  | nil => rfl
  | cons e es ih =>
      rw [names_cons, List.mem_append, not_or, Option.mem_toList] at h
      have hne : ¬(Value.text name).same e.1 = true := by
        rw [Value.same_text]
        intro he
        exact h.1 (by rw [he]; rfl)
      rw [Entries.set, Keyed.insert, if_neg hne]
      exact congrArg (e :: ·) (ih h.2)

/-- An object whose members have names of their own is the dictionary of its members. -/
theorem toValue_object {members : List (String × Json)} (h : (members.map Prod.fst).Nodup) :
    (object members).toValue = .ofFields (members.map fun m => (m.1, m.2.toValue)) := by
  have happend : ∀ before : Entries, (∀ m ∈ members, m.1 ∉ before.names) →
      toEntries before members = before ++ members.map fun m => (.text m.1, m.2.toValue) := by
    induction members with
    | nil =>
        intro before _
        rw [toEntries, List.map_nil, List.append_nil]
    | cons m members ih =>
        intro before hb
        obtain ⟨hm, hn⟩ := List.nodup_cons.mp h
        rw [toEntries, set_of_not_mem (hb m List.mem_cons_self), ih hn, List.append_assoc]
        · rfl
        · intro d hd hmem
          rw [names, List.filterMap_append, List.mem_append] at hmem
          rcases hmem with hmem | hmem
          · exact hb d (List.mem_cons_of_mem m hd) hmem
          · have he : d.1 = m.1 := by simpa [name?] using hmem
            exact hm (he ▸ List.mem_map_of_mem hd)
  rw [toValue, happend [] fun _ _ => List.not_mem_nil, Value.ofFields, List.map_map]
  rfl

def Tells (v : Value) : Prop := ∃ x : Json, v = x.toValue

variable {v w other : Value} {es : Entries}

theorem tells_null : Tells .null := ⟨.null, by rw [toValue]⟩

theorem tells_empty : Tells (.map []) := ⟨.object [], by rw [toValue, toEntries]⟩

theorem Tells.orElse (h : Tells v) (ho : Tells other) : Tells (v.orElse other) := by
  rw [Value.orElse]
  split
  · exact h
  · exact ho

theorem tells_toEntries {before : Entries} (h : ∀ e ∈ before, Tells e.2) (members : List (String × Json)) :
    ∀ e ∈ toEntries before members, Tells e.2 := by
  induction members generalizing before with
  | nil =>
      rw [toEntries]
      exact h
  | cons m members ih =>
      rw [toEntries]
      refine ih fun e he => ?_
      rcases Keyed.mem_insert_text he with he | rfl
      · exact h e he
      · exact ⟨m.2, rfl⟩

theorem Tells.exists_members (h : Tells (.map es)) : ∃ members, es = toEntries [] members := by
  obtain ⟨x, hx⟩ := h
  cases x <;> rw [toValue] at hx <;> cases hx
  exact ⟨_, rfl⟩

theorem Tells.isRecord (h : Tells (.map es)) : es.IsRecord := by
  obtain ⟨members, rfl⟩ := h.exists_members
  exact isRecord_toEntries isRecord_nil members

theorem Tells.field (h : Tells (.map es)) (ho : Tells other) (name : String) : Tells (es.field name other) := by
  obtain ⟨members, rfl⟩ := h.exists_members
  rw [Entries.field]
  cases hf : (toEntries [] members).field? name with
  | none => exact ho
  | some w => exact tells_toEntries (fun _ he => (List.not_mem_nil he).elim) members _ (Keyed.mem_of_find?_text hf)

theorem Tells.get {name : String} (h : Tells v) (hw : v.get name = .ok w) : Tells w := by
  obtain ⟨es, he, hw⟩ := Folds.bind_eq_ok.mp hw
  cases v with
  | map fields =>
      cases he
      cases hw
      exact h.field tells_null name
  | _ => cases he

end CatalogSearch.Json
