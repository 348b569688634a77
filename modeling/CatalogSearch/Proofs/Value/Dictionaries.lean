import CatalogSearch.Proofs.Value.Filing
import Mathlib.Data.List.Perm.Basic

namespace CatalogSearch

theorem Value.apart_of_ne_text {key : Value} {name : String} (h : key ≠ .text name) : key.Apart (.text name) := by
  constructor
  · rw [← Bool.not_eq_true, Value.same_text_right]
    exact h
  · rw [← Bool.not_eq_true, Value.same_text]
    exact h

theorem Value.ne_of_apart_text {key : Value} {name : String} (h : key.Apart (.text name)) : key ≠ .text name := by
  rintro rfl
  cases (Value.same_text_self name).symm.trans h.1

namespace Keyed

variable {α : Type} {es fs rest : Keyed α} {key : Value} {x : α}

/-- Keys of a dictionary: each is the same as itself, and none is taken for another. -/
structure Separate (ks : List Value) : Prop where
  reflexive : ∀ k ∈ ks, k.same k = true
  apart : ks.Pairwise Value.Apart

def IsDictionary (es : Keyed α) : Prop := Separate (keys es)

theorem Separate.perm {ks ls : List Value} (h : Separate ks) (hp : ks.Perm ls) : Separate ls where
  reflexive k hk := h.reflexive k (hp.mem_iff.mpr hk)
  apart := hp.pairwise h.apart Value.Apart.symm

theorem Separate.sublist {ks ls : List Value} (h : Separate ks) (hs : ls.Sublist ks) : Separate ls where
  reflexive k hk := h.reflexive k (hs.mem hk)
  apart := h.apart.sublist hs

theorem Separate.append {ks ls : List Value} (hk : Separate ks) (hl : Separate ls)
    (ha : ∀ k ∈ ks, ∀ l ∈ ls, k.Apart l) : Separate (ks ++ ls) where
  reflexive k hm := (List.mem_append.mp hm).elim (hk.reflexive k) (hl.reflexive k)
  apart := List.pairwise_append.mpr ⟨hk.apart, hl.apart, ha⟩

theorem IsDictionary.perm (h : IsDictionary es) (hp : es.Perm fs) : IsDictionary fs := Separate.perm h (hp.map _)

theorem IsDictionary.apart_of_cons (h : IsDictionary ((key, x) :: rest)) : ∀ e ∈ rest, key.Apart e.1 :=
  fun _ he => (List.pairwise_cons.mp h.apart).1 _ (List.mem_map_of_mem he)

theorem find?_append_of_apart (ha : ∀ e ∈ es, key.Apart e.1) (fs : Keyed α) :
    find? (es ++ fs) key = find? fs key := by
  induction es with
  | nil => rfl
  | cons e es ih =>
      rw [List.cons_append, find?_cons, (ha e List.mem_cons_self).1]
      exact ih fun d hd => ha d (List.mem_cons_of_mem e hd)

theorem find?_of_apart (ha : ∀ e ∈ es, key.Apart e.1) : find? es key = none := by
  have h := find?_append_of_apart ha []
  rwa [List.append_nil] at h

theorem insert_append_of_apart (ha : ∀ e ∈ es, key.Apart e.1) (fs : Keyed α) (x : α) :
    insert (es ++ fs) key x = es ++ insert fs key x := by
  induction es with
  | nil => rfl
  | cons e es ih =>
      rw [List.cons_append, insert, (ha e List.mem_cons_self).1, ih fun d hd => ha d (List.mem_cons_of_mem e hd)]
      rfl

theorem insert_of_apart (ha : ∀ e ∈ es, key.Apart e.1) (x : α) : insert es key x = es ++ [(key, x)] := by
  have h := insert_append_of_apart ha [] x
  rwa [List.append_nil] at h

theorem insert_of_find? (h : find? es key = some x) : insert es key x = es := by
  induction es with
  | nil => cases h
  | cons e es ih =>
      rw [find?_cons] at h
      rw [insert]
      split at h
      · next hs => rw [if_pos hs, ← Option.some.inj h]
      · next hs => rw [if_neg hs, ih h]

theorem insertAll_eq_append (xs : Keyed α) (h : Separate (keys es ++ keys xs)) : insertAll es xs = es ++ xs := by
  induction xs generalizing es with
  | nil => exact (List.append_nil es).symm
  | cons x xs ih =>
      have ha : ∀ e ∈ es, x.1.Apart e.1 := fun e he =>
        ((List.pairwise_append.mp h.apart).2.2 e.1 (List.mem_map_of_mem he) x.1 List.mem_cons_self).symm
      have hnext : Separate (keys (es ++ [x]) ++ keys xs) := by
        rwa [keys, List.map_append, ← keys, ← keys, List.append_assoc]
      rw [insertAll, List.foldl_cons, insert_of_apart ha, ← insertAll, ih hnext, List.append_assoc]
      rfl

theorem separate_of_nodup {ks : List Value} (ht : ∀ k ∈ ks, ∃ name, k = .text name) (hn : ks.Nodup) : Separate ks where
  reflexive k hk := by
    obtain ⟨name, rfl⟩ := ht k hk
    exact Value.same_text_self name
  apart := by
    refine List.Pairwise.imp_of_mem ?_ hn
    intro k l hk hl hne
    obtain ⟨name, rfl⟩ := ht k hk
    obtain ⟨other, rfl⟩ := ht l hl
    exact Value.apart_text fun he => hne (congrArg Value.text he)

section Perm

variable (hp : es.Perm ((key, x) :: rest)) (hd : IsDictionary ((key, x) :: rest))
include hp hd

theorem exists_of_perm : ∃ before after, es = before ++ (key, x) :: after ∧ (before ++ after).Perm rest ∧
    ∀ e ∈ before, key.Apart e.1 := by
  obtain ⟨before, after, rfl⟩ := List.append_of_mem (hp.mem_iff.mpr List.mem_cons_self)
  have hrest := (List.perm_cons _).mp (List.perm_middle.symm.trans hp)
  exact ⟨before, after, rfl, hrest, fun e he => hd.apart_of_cons e (hrest.mem_iff.mp (List.mem_append_left _ he))⟩

theorem find?_of_perm : find? es key = some x := by
  obtain ⟨before, after, rfl, -, hbefore⟩ := exists_of_perm hp hd
  rw [find?_append_of_apart hbefore, find?_cons, if_pos (hd.reflexive _ List.mem_cons_self)]

theorem insert_perm (y : α) : (insert es key y).Perm ((key, y) :: rest) := by
  obtain ⟨before, after, rfl, hrest, hbefore⟩ := exists_of_perm hp hd
  rw [insert_append_of_apart hbefore, insert, if_pos (hd.reflexive _ List.mem_cons_self)]
  exact List.perm_middle.trans (hrest.cons _)

end Perm

theorem IsDictionary.find?_of_mem (h : IsDictionary es) (hm : (key, x) ∈ es) : find? es key = some x := by
  obtain ⟨before, after, rfl⟩ := List.append_of_mem hm
  exact find?_of_perm List.perm_middle (h.perm List.perm_middle)

end Keyed

end CatalogSearch
