import CatalogSearch.Proofs.Query.Lexer
import Mathlib.Data.List.Infix

namespace CatalogSearch.Query.Scan

open Reader Text
open Lexer (escape_append_separator group_of_words)

/-- A character as a scan meets it: it counts, or a backslash has taken it. -/
inductive Scanned where
  | live (c : Char)
  | taken (c : Char)
  deriving DecidableEq

open Scanned

/-- A text from left to right, each backslash with the character behind it. -/
def scan : List Char → List Scanned
  | '\\' :: c :: cs => .taken c :: scan cs
  | c :: cs => .live c :: scan cs
  | [] => []

/-- A mark that is met in a text although backslashes take what they can. -/
def Alive (mark text : List Char) : Prop := mark.map live <:+: scan text

/-- Characters that are marks where two of them stand side by side. -/
def doubled : List Char := ['&', '|']

/-- Three, five or more of a character side by side, and no more of it beside them. -/
def HasOddRun (d : Char) (t : List Char) : Prop :=
  ∃ before n after, t = before ++ List.replicate (2 * n + 3) d ++ after ∧ before.getLast? ≠ some d ∧ after.head? ≠ some d

variable {stops t cs rest : List Char} {c d : Char}

section Scanning

theorem scan_cons (hc : c ≠ '\\') (cs : List Char) : scan (c :: cs) = live c :: scan cs := by
  rw [scan]
  intro d ds he
  exact (hc he).elim

theorem scan_append (h : Literal stops t) (rest : List Char) : scan (t ++ rest) = scan t ++ scan rest := by
  induction h with
  | nil => rfl
  | plain hb _ _ ih => rw [List.cons_append, scan_cons hb, scan_cons hb, ih, List.cons_append]
  | escaped c _ ih => rw [List.cons_append, List.cons_append, scan, scan, ih, List.cons_append]

theorem live_not_mem_scan (h : Literal stops t) (hc : c ∈ stops) : live c ∉ scan t := by
  induction h with
  | nil => exact List.not_mem_nil
  | plain hb hs _ ih =>
      rw [scan_cons hb, List.mem_cons, not_or]
      refine ⟨?_, ih⟩
      rintro ⟨⟩
      exact hs hc
  | escaped d _ ih =>
      rw [scan, List.mem_cons, not_or]
      exact ⟨Scanned.noConfusion, ih⟩

theorem alive_singleton : Alive [c] t ↔ live c ∈ scan t := List.singleton_infix_iff (live c) (scan t)

theorem literal_reserved_escape (t : List Char) : Literal reserved (escape t) :=
  literal_escape (fun _ _ hc => hc) (by decide) (by decide)

end Scanning

section Pairs

variable {α : Type} {a b : α} {xs ys : List α}

theorem pair_infix_cons_iff : [a, a] <:+: b :: xs ↔ (a = b ∧ xs.head? = some a) ∨ [a, a] <:+: xs := by
  rw [List.infix_cons_iff, List.cons_prefix_cons]
  cases xs with
  | nil => simp
  | cons x xs => simp [List.cons_prefix_cons, @eq_comm _ x a]

theorem pair_infix_append_cons_iff (hb : a ≠ b) : [a, a] <:+: xs ++ b :: ys ↔ [a, a] <:+: xs ∨ [a, a] <:+: ys := by
  induction xs with
  | nil => simp [pair_infix_cons_iff, hb]
  | cons x xs ih =>
      rw [List.cons_append, pair_infix_cons_iff, pair_infix_cons_iff, ih, or_assoc]
      cases xs <;> simp [Ne.symm hb]

end Pairs

section Runs

theorem hasOddRun_cons (h : c = d → cs.head? ≠ some d) : HasOddRun d (c :: cs) ↔ HasOddRun d cs := by
  constructor
  · rintro ⟨before, n, after, he, hb, ha⟩
    cases before with
    | nil =>
        rw [List.nil_append, List.replicate_succ, List.cons_append] at he
        obtain ⟨rfl, rfl⟩ := List.cons.inj he
        exact absurd rfl (h rfl)
    | cons x before =>
        refine ⟨before, n, after, (List.cons.inj he).2, fun hl => hb ?_, ha⟩
        rw [List.getLast?_cons, hl]
        rfl
  · rintro ⟨before, n, after, rfl, hb, ha⟩
    refine ⟨c :: before, n, after, rfl, ?_, ha⟩
    rw [List.getLast?_cons]
    cases hl : before.getLast? with
    | none =>
        rintro ⟨⟩
        rw [List.getLast?_eq_none_iff.mp hl] at h
        exact h rfl rfl
    | some x => rwa [hl] at hb

theorem hasOddRun_cons_cons : HasOddRun d (d :: d :: cs) ↔
    (∃ after, cs = d :: after ∧ after.head? ≠ some d) ∨ HasOddRun d cs := by
  constructor
  · rintro ⟨before, n, after, he, hb, ha⟩
    match before, n with
    | [], 0 => exact .inl ⟨after, (List.cons.inj (List.cons.inj he).2).2, ha⟩
    | [], n + 1 => exact .inr ⟨[], n, after, (List.cons.inj (List.cons.inj he).2).2, by simp, ha⟩
    | [x], n =>
        rw [← (List.cons.inj he).1] at hb
        exact absurd rfl hb
    | x :: y :: before, n =>
        obtain ⟨rfl, hcs⟩ := List.cons.inj (List.cons.inj he).2
        refine .inr ⟨before, n, after, hcs, fun hl => hb ?_, ha⟩
        rw [List.getLast?_cons_cons, List.getLast?_cons, hl]
        rfl
  · rintro (⟨after, rfl, ha⟩ | ⟨before, n, after, rfl, hb, ha⟩)
    · exact ⟨[], 0, after, rfl, by simp, ha⟩
    · cases before with
      | nil => exact ⟨[], n + 1, after, rfl, by simp, ha⟩
      | cons x before => exact ⟨d :: d :: x :: before, n, after, rfl, hb, ha⟩

theorem not_hasOddRun_nil : ¬HasOddRun d [] := by
  rintro ⟨before, n, after, he, -, -⟩
  have hl := congrArg List.length he
  simp only [List.length_nil, List.length_append, List.length_replicate] at hl
  omega

end Runs

section Escaped

theorem not_reserved (hd : d ∈ doubled) : d ∉ reserved := by
  simp only [doubled, List.mem_cons, List.not_mem_nil, or_false] at hd
  rcases hd with rfl | rfl <;> decide

theorem escape_cons_cons (hd : d ∈ doubled) (cs : List Char) : escape (d :: d :: cs) = '\\' :: d :: d :: escape cs := by
  simp only [doubled, List.mem_cons, List.not_mem_nil, or_false] at hd
  rcases hd with rfl | rfl <;> rfl

theorem escape_cons (h : c ∈ doubled → cs.head? ≠ some c) :
    escape (c :: cs) = if c ∈ reserved then '\\' :: c :: escape cs else c :: escape cs := by
  rw [escape]
  · rintro ds rfl rfl
    exact h (by decide) rfl
  · rintro ds rfl rfl
    exact h (by decide) rfl

theorem scan_escape_cons_cons (hd : d ∈ doubled) (cs : List Char) :
    scan (escape (d :: d :: cs)) = taken d :: live d :: scan (escape cs) := by
  have hb : d ≠ '\\' := by
    rintro rfl
    exact absurd hd (by decide)
  rw [escape_cons_cons hd, scan, scan_cons hb]

theorem scan_escape_cons (h : c ∈ doubled → cs.head? ≠ some c) :
    scan (escape (c :: cs)) = (if c ∈ reserved then taken c else live c) :: scan (escape cs) := by
  rw [escape_cons h]
  split
  · rw [scan]
  · next hr =>
      refine scan_cons ?_ _
      rintro rfl
      exact hr (by decide)

theorem head?_scan_escape_iff (hd : d ∈ doubled) :
    (scan (escape t)).head? = some (live d) ↔ ∃ after, t = d :: after ∧ after.head? ≠ some d := by
  match t with
  | [] => simp [escape, scan]
  | c :: cs =>
      by_cases h : c ∈ doubled ∧ cs.head? = some c
      · obtain ⟨hc, hcs⟩ := h
        obtain ⟨after, rfl⟩ : ∃ after, cs = c :: after := List.head?_eq_some_iff.mp hcs
        rw [scan_escape_cons_cons hc]
        constructor
        · rintro ⟨⟩
        · rintro ⟨after, he, ha⟩
          obtain ⟨rfl, rfl⟩ := List.cons.inj he
          exact absurd rfl ha
      · rw [scan_escape_cons fun hc hcs => h ⟨hc, hcs⟩, List.head?_cons]
        constructor
        · intro he
          split at he
          · cases he
          · cases he
            exact ⟨cs, rfl, fun hcs => h ⟨hd, hcs⟩⟩
        · rintro ⟨after, he, -⟩
          obtain ⟨rfl, rfl⟩ := List.cons.inj he
          rw [if_neg (not_reserved hd)]

/-- A pair of marks comes through an escape exactly where an odd number of them stand side by side. -/
theorem alive_pair_escape_iff (hd : d ∈ doubled) (t : List Char) : Alive [d, d] (escape t) ↔ HasOddRun d t := by
  match t with
  | [] =>
      have hnil : ¬Alive [d, d] (escape []) := by simp [Alive, escape, scan]
      exact iff_of_false hnil not_hasOddRun_nil
  | c :: cs =>
      by_cases h : c ∈ doubled ∧ cs.head? = some c
      · obtain ⟨hc, hcs⟩ := h
        obtain ⟨after, rfl⟩ : ∃ after, cs = c :: after := List.head?_eq_some_iff.mp hcs
        have ih := alive_pair_escape_iff hd after
        rw [Alive, List.map_cons, List.map_singleton] at ih ⊢
        rw [scan_escape_cons_cons hc, pair_infix_cons_iff, pair_infix_cons_iff, ih]
        by_cases hdc : d = c
        · subst hdc
          rw [head?_scan_escape_iff hd, hasOddRun_cons_cons]
          simp
        · rw [hasOddRun_cons fun he => absurd he.symm hdc, hasOddRun_cons fun he => absurd he.symm hdc]
          simp [hdc]
      · have hcs : c ∈ doubled → cs.head? ≠ some c := fun hc hcs => h ⟨hc, hcs⟩
        have ih := alive_pair_escape_iff hd cs
        rw [Alive, List.map_cons, List.map_singleton] at ih ⊢
        rw [scan_escape_cons hcs, pair_infix_cons_iff, ih, hasOddRun_cons fun he => he ▸ hcs (he ▸ hd)]
        refine or_iff_right ?_
        rintro ⟨he, hhead⟩
        obtain ⟨after, rfl, -⟩ := (head?_scan_escape_iff hd).mp hhead
        split at he
        · cases he
        · cases he
          exact hcs hd rfl

end Escaped

section Words

variable {p q : List Char}

theorem hasOddRun_append_space (hd : d ∈ doubled) : HasOddRun d (p ++ ' ' :: q) ↔ HasOddRun d p ∨ HasOddRun d q := by
  have hs : live d ≠ live ' ' := by
    rintro ⟨⟩
    exact absurd hd (by decide)
  simp only [← alive_pair_escape_iff hd, Alive, List.map_cons, List.map_nil]
  rw [escape_append_separator (by decide), scan_append (literal_reserved_escape p), scan_cons (by decide),
    pair_infix_append_cons_iff hs]

theorem hasOddRun_intercalate (hd : d ∈ doubled) (ws : List (List Char)) :
    HasOddRun d ([' '].intercalate ws) ↔ ∃ w ∈ ws, HasOddRun d w := by
  induction ws with
  | nil => exact iff_of_false not_hasOddRun_nil (by simp)
  | cons w ws ih =>
      cases ws with
      | nil => simp
      | cons v ws =>
          rw [List.intercalate_cons_cons, List.append_assoc, List.singleton_append, hasOddRun_append_space hd, ih]
          simp

theorem hasOddRun_words (hd : d ∈ doubled) (t : List Char) :
    HasOddRun d ([' '].intercalate (words t)) ↔ HasOddRun d t := by
  have ht := hasOddRun_intercalate hd (pieces ' ' t)
  rw [intercalate_pieces] at ht
  rw [hasOddRun_intercalate hd, ht]
  constructor
  · rintro ⟨w, hw, hrun⟩
    exact ⟨w, (List.mem_filter.mp hw).1, hrun⟩
  · rintro ⟨w, hw, hrun⟩
    refine ⟨w, List.mem_filter.mpr ⟨hw, ?_⟩, hrun⟩
    rw [decide_eq_true_eq]
    rintro rfl
    exact not_hasOddRun_nil hrun

end Words

theorem scan_enclosed {opening closing : Char} (h : Literal stops t) (ho : opening ≠ '\\') (hc : closing ≠ '\\') :
    scan (opening :: (t ++ [closing])) = live opening :: scan t ++ [live closing] := by
  rw [scan_cons ho, scan_append h, scan_cons hc]
  rfl

theorem scan_group (t : List Char) : ∃ u, (∀ d ∈ doubled, HasOddRun d u ↔ HasOddRun d t) ∧
    scan (group t) =
      if ' ' ∈ t ∧ words t ≠ [] then live '(' :: scan (escape u) ++ [live ')'] else scan (escape u) := by
  by_cases hm : ' ' ∈ t
  · by_cases hw : words t = []
    · refine ⟨[' '].intercalate (words t), fun d hd => hasOddRun_words hd t, ?_⟩
      have hnone : group t = [] := by
        rw [group, if_pos ((one_lt_length_pieces ' ' t).mpr hm), hw]
      rw [hnone, hw, if_neg (by simp)]
      rfl
    · refine ⟨[' '].intercalate (words t), fun d hd => hasOddRun_words hd t, ?_⟩
      rw [if_pos ⟨hm, hw⟩, group_of_words hm hw]
      exact scan_enclosed (literal_reserved_escape _) (by decide) (by decide)
  · refine ⟨t, fun d _ => Iff.rfl, ?_⟩
    rw [if_neg fun h => hm h.1, group_of_not_mem hm]

theorem alive_pair_group_iff (hd : d ∈ doubled) (t : List Char) : Alive [d, d] (group t) ↔ HasOddRun d t := by
  have hopen : live d ≠ live '(' := by
    rintro ⟨⟩
    exact absurd hd (by decide)
  have hclose : live d ≠ live ')' := by
    rintro ⟨⟩
    exact absurd hd (by decide)
  obtain ⟨u, hu, hscan⟩ := scan_group t
  rw [← hu d hd, ← alive_pair_escape_iff hd u, Alive, Alive, hscan]
  split
  · rw [List.map_cons, List.map_singleton, List.cons_append, pair_infix_cons_iff, pair_infix_append_cons_iff hclose]
    simp [hopen]
  · rfl

/-- What an escaped text still means to a scan: no reserved character comes through it but the parentheses around several
words and the quotes around a phrase. Pairs of ampersands and of bars do where there is an odd number of them. -/
theorem live_marks_of_escaped (t : List Char) :
    ((∀ c ∈ reserved, ¬Alive [c] (escape t)) ∧ ∀ d ∈ doubled, Alive [d, d] (escape t) ↔ HasOddRun d t) ∧
    ((∃ inner, (∀ c ∈ reserved, live c ∉ inner) ∧
        scan (group t) = if ' ' ∈ t ∧ words t ≠ [] then live '(' :: inner ++ [live ')'] else inner) ∧
      ∀ d ∈ doubled, Alive [d, d] (group t) ↔ HasOddRun d t) ∧
    ∃ inner, live '"' ∉ inner ∧ scan (phrase t) = live '"' :: inner ++ [live '"'] := by
  have hdead : ∀ u, ∀ c ∈ reserved, live c ∉ scan (escape u) := fun u c hc =>
    live_not_mem_scan (literal_reserved_escape u) hc
  refine ⟨⟨fun c hc => ?_, fun d hd => alive_pair_escape_iff hd t⟩, ⟨?_, fun d hd => alive_pair_group_iff hd t⟩, ?_⟩
  · rw [alive_singleton]
    exact hdead t c hc
  · obtain ⟨u, -, hscan⟩ := scan_group t
    exact ⟨scan (escape u), hdead u, hscan⟩
  · exact ⟨scan (escapePhrase t), live_not_mem_scan (literal_escapePhrase t) (List.mem_singleton_self _),
      scan_enclosed (literal_escapePhrase t) (by decide) (by decide)⟩

/-- Of three ampersands only the first is escaped, and of three bars. -/
theorem odd_runs_come_through : Alive "&&".toList (escape "&&&".toList) ∧ Alive "||".toList (escape "|||".toList) ∧
    Alive "&&".toList (group "red &&&".toList) :=
  ⟨⟨[.taken '&'], [], rfl⟩, ⟨[.taken '|'], [], rfl⟩,
    ⟨[.live '(', .live 'r', .live 'e', .live 'd', .live ' ', .taken '&'], [.live ')'], rfl⟩⟩

end CatalogSearch.Query.Scan
