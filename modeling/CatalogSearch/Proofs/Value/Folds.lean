import CatalogSearch.Failure
import Mathlib.Logic.Function.Basic

namespace CatalogSearch.Folds

variable {α β γ : Type}

theorem mapM_ok {f : α → Outcome β} {g : α → β} {xs : List α} (h : ∀ x ∈ xs, f x = .ok (g x)) :
    xs.mapM f = .ok (xs.map g) := by
  induction xs with
  | nil => rfl
  | cons x xs ih =>
      rw [List.mapM_cons, h x (by simp), ih fun y hy => h y (by simp [hy])]
      rfl

@[simp] theorem ok_bind (a : α) (f : α → Outcome β) : Except.ok a >>= f = f a := rfl

theorem bind_eq_ok {x : Outcome α} {f : α → Outcome β} {y : β} : x >>= f = .ok y ↔ ∃ a, x = .ok a ∧ f a = .ok y := by
  cases x with
  | error e => simp [bind, Except.bind]
  | ok a => simp [bind, Except.bind]

theorem mem_of_mapM {f : α → Outcome β} {xs : List α} {ys : List β} (h : xs.mapM f = .ok ys) {y : β} (hy : y ∈ ys) :
    ∃ x ∈ xs, f x = .ok y := by
  induction xs generalizing ys with
  | nil => cases h; cases hy
  | cons x xs ih =>
      rw [List.mapM_cons, bind_eq_ok] at h
      obtain ⟨z, hz, h⟩ := h
      obtain ⟨zs, hzs, h⟩ := bind_eq_ok.mp h
      cases h
      rcases List.mem_cons.mp hy with rfl | hy
      · exact ⟨x, by simp, hz⟩
      · obtain ⟨w, hw, hf⟩ := ih hzs hy
        exact ⟨w, by simp [hw], hf⟩

theorem forM_ok {f : α → Outcome Unit} {xs : List α} (h : ∀ x ∈ xs, f x = .ok ()) : xs.forM f = .ok () := by
  induction xs with
  | nil => rfl
  | cons x xs ih =>
      rw [List.forM, h x (by simp)]
      exact ih fun y hy => h y (by simp [hy])

theorem foldlM_ok {f : β → α → Outcome β} {g : β → α → β} {xs : List α} (P : β → Prop)
    (h : ∀ b, P b → ∀ x ∈ xs, f b x = .ok (g b x) ∧ P (g b x)) {b : β} (hb : P b) :
    xs.foldlM f b = .ok (xs.foldl g b) ∧ P (xs.foldl g b) := by
  induction xs generalizing b with
  | nil => exact ⟨rfl, hb⟩
  | cons x xs ih =>
      obtain ⟨hx, hp⟩ := h b hb x (by simp)
      rw [List.foldlM_cons, hx, List.foldl_cons]
      exact ih (fun b hb y hy => h b hb y (by simp [hy])) hp

theorem foldlM_keeps {f : β → α → Outcome β} (P : β → Prop) (h : ∀ b x c, P b → f b x = .ok c → P c)
    {xs : List α} {b c : β} (hb : P b) (hc : xs.foldlM f b = .ok c) : P c := by
  induction xs generalizing b with
  | nil =>
      cases hc
      exact hb
  | cons x xs ih =>
      obtain ⟨d, hd, hc⟩ := bind_eq_ok.mp hc
      exact ih (h b x d hb hd) hc

theorem foldlM_fails {f : β → α → Outcome β} {xs : List α} {x : α} (hx : x ∈ xs) (h : ∀ b, ∃ e, f b x = .error e)
    (b : β) : ∃ e, xs.foldlM f b = .error e := by
  induction xs generalizing b with
  | nil => cases hx
  | cons y ys ih =>
      rw [List.foldlM_cons]
      cases hy : f b y with
      | error e => exact ⟨e, rfl⟩
      | ok c =>
          rcases List.mem_cons.mp hx with rfl | hx
          · obtain ⟨e, he⟩ := h b
            cases hy.symm.trans he
          · exact ih hx c

theorem exists_of_foldlM {f : β → α → Outcome β} {xs : List α} {b c : β} (h : xs.foldlM f b = .ok c) {x : α}
    (hx : x ∈ xs) : ∃ b c, f b x = .ok c := by
  by_contra hn
  have hfails : ∀ b, ∃ e, f b x = .error e := by
    intro b
    cases hb : f b x with
    | error e => exact ⟨e, rfl⟩
    | ok c => exact absurd ⟨b, c, hb⟩ hn
  obtain ⟨e, he⟩ := foldlM_fails hx hfails b
  cases he.symm.trans h

/-- What one step of a fold brings about, and all its steps keep, is there in the end. It may rest on
what every step keeps from the beginning. -/
theorem foldl_reaches_within {f : β → α → β} {xs : List α} {x : α} (hx : x ∈ xs) (I P : β → Prop)
    (hi : ∀ b, I b → ∀ y ∈ xs, I (f b y)) (hr : ∀ b, I b → P (f b x))
    (hk : ∀ b, I b → ∀ y ∈ xs, P b → P (f b y)) {b : β} (hb : I b) : P (xs.foldl f b) := by
  obtain ⟨before, after, rfl⟩ := List.append_of_mem hx
  rw [List.foldl_append, List.foldl_cons]
  have hbefore : I (before.foldl f b) :=
    List.foldlRecOn (motive := I) before f hb fun c hc y hy => hi c hc y (by simp [hy])
  have hafter := List.foldlRecOn (motive := fun c => I c ∧ P c) after f ⟨hi _ hbefore x hx, hr _ hbefore⟩
    fun c hc y hy => ⟨hi c hc.1 y (by simp [hy]), hk c hc.1 y (by simp [hy]) hc.2⟩
  exact hafter.2

theorem foldl_reaches {f : β → α → β} {xs : List α} {x : α} (hx : x ∈ xs) (P : β → Prop) (hr : ∀ b, P (f b x))
    (hk : ∀ b, ∀ y ∈ xs, P b → P (f b y)) (b : β) : P (xs.foldl f b) :=
  foldl_reaches_within hx (fun _ => True) P (fun _ _ _ _ => trivial) (fun b _ => hr b)
    (fun b _ y hy hp => hk b y hy hp) trivial

theorem foldl_reads {κ : Type} [BEq κ] [LawfulBEq κ] {f : β → α → β} (read : β → Option γ) (key : α → κ) (k : κ)
    (brought : α → γ) {xs : List α} (hn : (xs.map key).Nodup)
    (hown : ∀ b, ∀ x ∈ xs, key x = k → read (f b x) = some (brought x))
    (hother : ∀ b, ∀ x ∈ xs, key x ≠ k → read (f b x) = read b) (b : β) :
    read (xs.foldl f b) = ((xs.find? (key · == k)).map brought).or (read b) := by
  induction xs generalizing b with
  | nil => rfl
  | cons x xs ih =>
      obtain ⟨hx, hn⟩ := List.nodup_cons.mp hn
      have hi := ih hn (fun b y hy => hown b y (List.mem_cons_of_mem x hy))
        (fun b y hy => hother b y (List.mem_cons_of_mem x hy)) (f b x)
      rw [List.foldl_cons, hi]
      by_cases hk : key x = k
      · have hnone : xs.find? (key · == k) = none := by
          refine List.find?_eq_none.mpr fun y hy he => hx ?_
          rw [hk, ← beq_iff_eq.mp he]
          exact List.mem_map_of_mem hy
        rw [hnone, hown b x List.mem_cons_self hk, List.find?_cons_of_pos (by simp [hk])]
        rfl
      · rw [hother b x List.mem_cons_self hk, List.find?_cons_of_neg (by simp [hk])]

theorem foldl_reads_other {f : β → α → β} (read : β → γ) {xs : List α} (h : ∀ b, ∀ x ∈ xs, read (f b x) = read b)
    (b : β) : read (xs.foldl f b) = read b :=
  List.foldlRecOn (motive := fun c => read c = read b) xs f rfl fun c hc x hx => (h c x hx).trans hc

/-- A fold over things of several owners, of which each step changes what its owner has, gives every
owner what a fold over its own things gives it. -/
theorem foldlM_by_owner {f : β → α → Outcome β} (owner : α → Int) (g : γ → α → γ) (R : β → (Int → γ) → Prop)
    {xs : List α} (h : ∀ b s, R b s → ∀ x ∈ xs,
      ∃ b', f b x = .ok b' ∧ R b' (Function.update s (owner x) (g (s (owner x)) x)))
    {b : β} {s : Int → γ} (hb : R b s) :
    ∃ b', xs.foldlM f b = .ok b' ∧ R b' fun id => (xs.filter fun x => owner x == id).foldl g (s id) := by
  induction xs generalizing b s with
  | nil => exact ⟨b, rfl, hb⟩
  | cons x xs ih =>
      obtain ⟨c, hc, hr⟩ := h b s hb x (by simp)
      obtain ⟨d, hd, hq⟩ := ih (fun b s hb y hy => h b s hb y (by simp [hy])) hr
      refine ⟨d, by rw [List.foldlM_cons, hc]; exact hd, ?_⟩
      have he : (fun id => ((x :: xs).filter fun y => owner y == id).foldl g (s id)) = fun id =>
          (xs.filter fun y => owner y == id).foldl g (Function.update s (owner x) (g (s (owner x)) x) id) := by
        funext id
        by_cases ho : owner x = id
        · subst ho; simp
        · simp [ho, Function.update_of_ne (Ne.symm ho)]
      rw [he]
      exact hq

end CatalogSearch.Folds
