import CatalogSearch.Proofs.Value.Names
import Mathlib.Data.List.Nodup

namespace CatalogSearch

/-- Values of which neither is taken for the other as a key. -/
def Value.Apart (a b : Value) : Prop := a.same b = false ∧ b.same a = false

theorem Value.Apart.symm {a b : Value} (h : a.Apart b) : b.Apart a := And.symm h

theorem Value.apart_text {name other : String} (h : name ≠ other) : (Value.text name).Apart (.text other) :=
  ⟨Value.same_text_of_ne h, Value.same_text_of_ne (Ne.symm h)⟩

theorem Value.ofChars_inj {cs ds : List Char} : Value.ofChars cs = .ofChars ds ↔ cs = ds := by
  rw [ofChars, ofChars, Value.text.injEq, String.ofList_inj]

@[simp] theorem Value.chars_ofChars (cs : List Char) : (Value.ofChars cs).chars = cs := String.toList_ofList

theorem Value.display_text (s : String) : (Value.text s).display = s := String.ofList_toList

@[simp] theorem Value.display_ofChars (cs : List Char) : (Value.ofChars cs).display = String.ofList cs := by
  rw [display, chars_ofChars]

@[simp] theorem Value.items_list (xs : List Value) : (Value.list xs).items = .ok xs := rfl

@[simp] theorem Value.entries_map (es : Entries) : (Value.map es).entries = .ok es := rfl

@[simp] theorem Value.get_map (es : Entries) (name : String) (default : Value) :
    (Value.map es).get name default = .ok (es.field name default) := rfl

theorem Value.orElse_map (es : Entries) : (Value.map es).orElse (.map []) = .map es := by
  cases es <;> rfl

theorem Entries.field_of_field? {es : Entries} {name : String} {v : Value} (h : es.field? name = some v)
    (default : Value) : es.field name default = v := by
  rw [field, h]
  rfl

theorem Value.require_map {es : Entries} {name : String} {v : Value} (h : es.field? name = some v) :
    (Value.map es).require name = .ok v := by
  rw [require, h]
  rfl

namespace Keyed

variable {α β : Type}

def insertAll (es xs : Keyed α) : Keyed α := xs.foldl (fun es x => es.insert x.1 x.2) es

theorem insertAll_flatMap {γ : Type} (f : γ → Keyed α) (es : Keyed α) (cs : List γ) :
    cs.foldl (fun es c => insertAll es (f c)) es = insertAll es (cs.flatMap f) :=
  List.foldl_flatMap.symm

def TextKeys (xs : Keyed α) : Prop := ∀ x ∈ xs, ∃ name, x.1 = .text name

theorem mem_of_mem_insertAll {es xs : Keyed α} (ht : TextKeys xs) {e : Value × α} (h : e ∈ insertAll es xs) :
    e ∈ es ∨ e ∈ xs := by
  induction xs generalizing es with
  | nil => exact .inl h
  | cons x xs ih =>
      obtain ⟨name, hn⟩ := ht x List.mem_cons_self
      rcases ih (fun y hy => ht y (List.mem_cons_of_mem x hy)) h with h | h
      · dsimp only at h
        rw [hn] at h
        rcases mem_insert_text h with h | rfl
        · exact .inl h
        · rw [← hn]
          exact .inr List.mem_cons_self
      · exact .inr (List.mem_cons_of_mem x h)

theorem has_insert_text (es : Keyed α) (name other : String) (a : α) :
    has (insert es (.text name) a) (.text other) ↔ other = name ∨ has es (.text other) := by
  by_cases h : other = name
  · rw [h, has, find?_insert_self]
    simp
  · rw [has, find?_insert_of_ne es a (Value.same_text_of_ne h)]
    simp [has, h]

theorem has_insertAll (es : Keyed α) {xs : Keyed α} (ht : TextKeys xs) {name : String} (h : .text name ∈ keys xs) :
    has (insertAll es xs) (.text name) := by
  obtain ⟨x, hx, hn⟩ := List.mem_map.mp h
  refine Folds.foldl_reaches hx (fun es : Keyed α => has es (.text name)) ?_ ?_ es
  · intro es
    rw [hn, has_insert_text]
    exact .inl rfl
  · intro es y hy hh
    obtain ⟨other, ho⟩ := ht y hy
    rw [ho, has_insert_text]
    exact .inr hh

theorem exists_mem_of_has {es : Keyed α} {name : String} (h : has es (.text name)) : ∃ a, (.text name, a) ∈ es :=
  (Option.isSome_iff_exists.mp h).imp fun _ ha => mem_of_find?_text ha

theorem find?_insert_of_key_ne (es : Keyed α) {key : Value} {name : String} (h : key ≠ .text name) (a : α) :
    find? (insert es key a) (.text name) = find? es (.text name) := by
  induction es with
  | nil =>
      rw [insert, find?_cons, if_neg fun hs => h ((Value.same_text name key).mp hs)]
  | cons e es ih =>
      rw [insert]
      split
      · next hs =>
          have hne : ¬(Value.text name).same e.1 = true := by
            rw [Value.same_text]
            intro he
            rw [he, Value.same_text_right] at hs
            exact h hs
          rw [find?_cons, find?_cons, if_neg hne, if_neg hne]
      · rw [find?_cons, find?_cons, ih]

theorem find?_mapValues (f : α → β) (es : Keyed α) (key : Value) : find? (es.mapValues f) key = (find? es key).map f := by
  induction es with
  | nil => rfl
  | cons e es ih =>
      rw [mapValues, List.map_cons, find?_cons, find?_cons]
      split
      · rfl
      · exact ih

theorem find?_insert_same (es : Keyed α) {key : Value} (h : key.same key = true) (a : α) :
    find? (insert es key a) key = some a := by
  induction es with
  | nil => rw [insert, find?_cons, if_pos h]
  | cons e es ih =>
      rw [insert]
      split
      · next hs => rw [find?_cons, if_pos hs]
      · next hs => rw [find?_cons, if_neg hs, ih]

theorem find?_insert_apart {es : Keyed α} {key other : Value} (hk : ∀ e ∈ es, e.1 = key ∨ key.Apart e.1)
    (h : key.Apart other) (a : α) : find? (insert es other a) key = find? es key := by
  induction es with
  | nil => rw [insert, find?_cons, h.1]; rfl
  | cons e es ih =>
      rw [insert]
      split
      · next hs =>
          have hne : e.1 ≠ key := by
            rintro he
            rw [he, h.2] at hs
            cases hs
          have ha := (hk e List.mem_cons_self).resolve_left hne
          rw [find?_cons, find?_cons, ha.1]
          rfl
      · rw [find?_cons, find?_cons, ih fun d hd => hk d (List.mem_cons_of_mem e hd)]

theorem key_of_mem_insert {es : Keyed α} {key : Value} {a : α} {e : Value × α} (h : e ∈ insert es key a) :
    e.1 ∈ keys es ∨ e.1 = key := by
  induction es with
  | nil => exact .inr (by rw [List.mem_singleton.mp h])
  | cons d es ih =>
      rw [insert] at h
      split at h
      · rcases List.mem_cons.mp h with rfl | h
        · exact .inl List.mem_cons_self
        · exact .inl (List.mem_cons_of_mem _ (List.mem_map_of_mem h))
      · rcases List.mem_cons.mp h with rfl | h
        · exact .inl List.mem_cons_self
        · exact (ih h).imp_left (List.mem_cons_of_mem _)

/-- What is filed last under a name is what is found under it. -/
theorem find?_insertAll (es xs : Keyed α) (name : String) :
    find? (insertAll es xs) (.text name) = (find? xs.reverse (.text name)).or (find? es (.text name)) := by
  induction xs generalizing es with
  | nil => rfl
  | cons x xs ih =>
      have hlast : find? (xs.reverse ++ [x]) (.text name) = (find? xs.reverse (.text name)).or (find? [x] (.text name)) := by
        rw [find?, List.find?_append, Option.map_or]
        rfl
      rw [List.reverse_cons, hlast, Option.or_assoc]
      refine (ih _).trans (congrArg _ ?_)
      rw [find?_cons]
      split
      · next hs =>
          obtain ⟨key, a⟩ := x
          obtain rfl : key = .text name := (Value.same_text name key).mp hs
          exact find?_insert_self es name a
      · next hs => exact find?_insert_of_key_ne es (fun hk => hs ((Value.same_text name x.1).mpr hk)) x.2

theorem mem_of_find?_insertAll {xs : Keyed α} {name : String} {a : α} (h : find? (insertAll [] xs) (.text name) = some a) :
    (.text name, a) ∈ xs := by
  rw [find?_insertAll] at h
  exact List.mem_reverse.mp (mem_of_find?_text ((Option.or_eq_some_iff.mp h).resolve_right fun hn => by cases hn.2))

/-- Under a name there is one thing at most, however often. -/
def OnceUnder (xs : Keyed α) (name : String) : Prop := ∀ a b, (.text name, a) ∈ xs → (.text name, b) ∈ xs → a = b

section OnceUnder

variable {xs ys : Keyed α} {name : String}

theorem OnceUnder.of_nodup (h : (keys xs).Nodup) (name : String) : OnceUnder xs name :=
  fun _ _ ha hb => (Prod.mk.inj (List.inj_on_of_nodup_map h ha hb rfl)).2

theorem OnceUnder.find?_eq_some (h : OnceUnder xs name) {a : α} :
    find? xs (.text name) = some a ↔ (.text name, a) ∈ xs := by
  constructor
  · exact mem_of_find?_text
  · intro hm
    obtain ⟨b, hb⟩ := Option.isSome_iff_exists.mp ((has_text _ _).mpr (List.mem_map_of_mem (f := Prod.fst) hm))
    rw [hb, h a b hm (mem_of_find?_text hb)]

theorem OnceUnder.perm (h : OnceUnder xs name) (hp : ys.Perm xs) : OnceUnder ys name :=
  fun a b ha hb => h a b (hp.mem_iff.mp ha) (hp.mem_iff.mp hb)

theorem OnceUnder.mapValues (h : OnceUnder xs name) (f : α → β) : OnceUnder (xs.mapValues f) name := by
  intro a b ha hb
  obtain ⟨x, hx, hxe⟩ := List.mem_map.mp ha
  obtain ⟨y, hy, hye⟩ := List.mem_map.mp hb
  obtain ⟨hkx, rfl⟩ := Prod.mk.inj hxe
  obtain ⟨hky, rfl⟩ := Prod.mk.inj hye
  rw [h x.2 y.2 (hkx ▸ hx) (hky ▸ hy)]

theorem OnceUnder.find?_perm (h : OnceUnder xs name) (hp : ys.Perm xs) :
    find? ys (.text name) = find? xs (.text name) := by
  apply Option.ext
  intro a
  rw [(h.perm hp).find?_eq_some, h.find?_eq_some, hp.mem_iff]

theorem OnceUnder.find?_insertAll (h : OnceUnder xs name) :
    find? (insertAll [] xs) (.text name) = find? xs (.text name) := by
  rw [Keyed.find?_insertAll, h.find?_perm xs.reverse_perm]
  exact Option.or_none

theorem find?_insertAll_eq_some (ht : TextKeys xs) (hu : ∀ name, OnceUnder xs name) {key : Value} {a : α} :
    find? (insertAll [] xs) key = some a ↔ (key, a) ∈ xs := by
  constructor
  · intro h
    obtain ⟨e, he, rfl⟩ := Option.map_eq_some_iff.mp h
    have hm := (mem_of_mem_insertAll ht (List.mem_of_find?_eq_some he)).resolve_left List.not_mem_nil
    obtain ⟨name, hname⟩ := ht e hm
    have hs := List.find?_some he
    rw [hname, Value.same_text_right] at hs
    rw [hs, ← hname]
    exact hm
  · intro hm
    obtain ⟨name, hname⟩ := ht _ hm
    dsimp only at hname
    subst hname
    rw [(hu name).find?_insertAll, (hu name).find?_eq_some]
    exact hm

end OnceUnder

end Keyed

namespace Entries

theorem field?_ofFields (fields : List (String × Value)) (name : String) :
    field? (fields.map fun f => (.text f.1, f.2)) name = fields.lookup name := by
  induction fields with
  | nil => rfl
  | cons f fields ih =>
      rw [List.map_cons, field?, Keyed.find?_cons, List.lookup_cons]
      by_cases h : name = f.1
      · rw [h, if_pos (Value.same_text_self _), beq_self_eq_true]
      · rw [Value.same_text_of_ne h, beq_false_of_ne h]
        exact ih

theorem get_ofFields (fields : List (String × Value)) (name : String) (default : Value) :
    (Value.ofFields fields).get name default = .ok ((fields.lookup name).getD default) := by
  rw [Value.ofFields, Value.get_map, field, field?_ofFields]

theorem require_ofFields {fields : List (String × Value)} {name : String} {v : Value} (h : fields.lookup name = some v) :
    (Value.ofFields fields).require name = .ok v :=
  Value.require_map ((field?_ofFields fields name).trans h)

theorem field?_of_mem {es : Entries} (hd : es.Distinct) {name : String} {v : Value} (h : (.text name, v) ∈ es) :
    es.field? name = some v := by
  induction es with
  | nil => cases h
  | cons e es ih =>
      obtain ⟨he, hd⟩ := List.pairwise_cons.mp hd
      rcases List.mem_cons.mp h with rfl | h
      · exact field?_cons_self es name v
      · have hne : (Value.text name).same e.1 = false := by
          rw [← Bool.not_eq_true, Value.same_text]
          intro hn
          have hs := he _ h
          rw [hn, Value.same_text_self] at hs
          cases hs
        rw [field?, Keyed.find?_cons, hne]
        exact ih hd h

theorem eq_of_mem {es : Entries} (hd : es.Distinct) {name : String} {v w : Value} (hv : (.text name, v) ∈ es)
    (hw : (.text name, w) ∈ es) : v = w := by
  have h := (field?_of_mem hd hv).symm.trans (field?_of_mem hd hw)
  exact Option.some.inj h

end Entries

end CatalogSearch
