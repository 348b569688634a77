import CatalogSearch.Number.Shortest
import CatalogSearch.Proofs.Number.Canonical
import Mathlib.Tactic.Linarith

namespace CatalogSearch

namespace Decimal

def toRat (d : Decimal) : ℚ := d.digits * 10 ^ d.exponent

theorem ten_zpow_mul (i : Int) : (10 : ℚ) ^ i * tenTo (-i).toNat = tenTo i.toNat := by
  have h := zpow_mul_toNat (b := (10 : ℚ)) (by decide) i
  exact_mod_cast h

theorem tenTo_pos (k : Nat) : 0 < tenTo k := Nat.pow_pos (by decide)

theorem compareBinary_spec (a : Nat) (i : Int) (b : Nat) (j : Int) :
    (compareBinary a i b j = .lt ↔ (a * 10 ^ i : ℚ) < b * 2 ^ j) ∧
      (compareBinary a i b j = .eq ↔ (a * 10 ^ i : ℚ) = b * 2 ^ j) ∧
      (compareBinary a i b j = .gt ↔ (b * 2 ^ j : ℚ) < a * 10 ^ i) := by
  have hpow : (0 : ℚ) < tenTo (-i).toNat * twoTo (-j).toNat := by
    exact_mod_cast Nat.mul_pos (tenTo_pos _) (twoTo_pos _)
  have hleft : (a * 10 ^ i : ℚ) * (tenTo (-i).toNat * twoTo (-j).toNat) =
      (a * tenTo i.toNat * twoTo (-j).toNat : Nat) := by
    push_cast
    rw [← ten_zpow_mul i]
    ring
  have hright : (b * 2 ^ j : ℚ) * (tenTo (-i).toNat * twoTo (-j).toNat) =
      (b * twoTo j.toNat * tenTo (-i).toNat : Nat) := by
    push_cast
    rw [← two_zpow_mul j]
    ring
  unfold compareBinary
  refine ⟨?_, ?_, ?_⟩
  · rw [Nat.compare_eq_lt, ← mul_lt_mul_iff_left₀ hpow, hleft, hright, Nat.cast_lt]
  · rw [Nat.compare_eq_eq, ← mul_left_inj' hpow.ne', hleft, hright, Nat.cast_inj]
  · rw [Nat.compare_eq_gt, ← mul_lt_mul_iff_left₀ hpow, hleft, hright, Nat.cast_lt]

section Interval

variable (m : Nat) (e : Int)

/-- Four times the significand, down to the midpoint below it; where the binary numbers grow denser, that is nearer. -/
def below : Nat := if m = twoTo 52 ∧ e > -1074 then 4 * m - 1 else 4 * m - 2

def lower : ℚ := below m e * 2 ^ (e - 2)

def upper : ℚ := (4 * m + 2 : Nat) * 2 ^ (e - 2)

/-- What is rounded to a binary number: all between the midpoints, and they themselves if the significand is even. -/
def Rounds (v : ℚ) : Prop :=
  (lower m e < v ∨ lower m e = v ∧ m % 2 = 0) ∧ (v < upper m e ∨ v = upper m e ∧ m % 2 = 0)

variable {m e}

theorem readsBack_iff (d : Decimal) : readsBack m e d = true ↔ Rounds m e d.toRat := by
  obtain ⟨-, hle, hlg⟩ := compareBinary_spec d.digits d.exponent (below m e) (e - 2)
  obtain ⟨hul, hue, -⟩ := compareBinary_spec d.digits d.exponent (4 * m + 2) (e - 2)
  change ((_ : Bool) && _) = true ↔ _
  rw [Rounds, Bool.and_eq_true, Bool.or_eq_true, Bool.or_eq_true, Bool.and_eq_true, Bool.and_eq_true, beq_iff_eq,
    beq_iff_eq, beq_iff_eq, beq_iff_eq, beq_iff_eq]
  exact and_congr (or_congr hlg (and_congr_left' (hle.trans eq_comm))) (or_congr hul (and_congr_left' hue))

theorem two_zpow_pos (i : Int) : (0 : ℚ) < 2 ^ i := zpow_pos (by decide) i

theorem four_mul_zpow (n : ℚ) (e : Int) : n * 2 ^ e = 4 * n * 2 ^ (e - 2) := by
  have h : (2 : ℚ) ^ e = 2 ^ (e - 2) * 2 ^ (2 : Int) := by rw [← zpow_add₀ two_ne_zero, sub_add_cancel]
  rw [h, show (2 : ℚ) ^ (2 : Int) = 4 by norm_num]
  ring

theorem lower_lt (hm : m ≠ 0) : lower m e < m * 2 ^ e := by
  have hb : below m e < 4 * m := by
    rw [below]
    split <;> omega
  rw [four_mul_zpow, lower, mul_lt_mul_iff_left₀ (two_zpow_pos _)]
  exact_mod_cast hb

theorem lower_pos (e : Int) (hm : m ≠ 0) : 0 < lower m e := by
  have hb : 0 < below m e := by
    rw [below]
    split <;> omega
  exact mul_pos (by exact_mod_cast hb) (two_zpow_pos _)

theorem lt_upper (m : Nat) (e : Int) : m * 2 ^ e < upper m e := by
  rw [four_mul_zpow, upper, mul_lt_mul_iff_left₀ (two_zpow_pos _)]
  push_cast
  linarith

end Interval

section Order

open Binary64

variable {m n : Nat} {e f : Int}

theorem lt_of_exponent_lt (hm : IsHeld m e) (hn : IsHeld n f) (h : e < f) : (m * 2 ^ e : ℚ) < n * 2 ^ f := by
  have hfull : 2 ^ 52 ≤ n := hn.full.resolve_left (by have := hm.least; omega)
  have hm53 : (m : ℚ) < 2 ^ 53 := by exact_mod_cast hm.below
  have hn52 : (2 ^ 52 : ℚ) ≤ n := by exact_mod_cast hfull
  have hstep : (2 : ℚ) ^ (e + 1) ≤ 2 ^ f := zpow_le_zpow_right₀ (by norm_num) (by omega)
  calc (m * 2 ^ e : ℚ) < 2 ^ 53 * 2 ^ e := by gcongr
    _ = 2 ^ 52 * 2 ^ (e + 1) := by rw [zpow_add_one₀ two_ne_zero]; ring
    _ ≤ n * 2 ^ f := by gcongr

theorem exponent_le (hm : IsHeld m e) (hn : IsHeld n f) (h : (m * 2 ^ e : ℚ) < n * 2 ^ f) : e ≤ f := by
  by_contra hlt
  exact lt_asymm h (lt_of_exponent_lt hn hm (not_le.mp hlt))

theorem held_unique (hm : IsHeld m e) (hn : IsHeld n f) (h : (m * 2 ^ e : ℚ) = n * 2 ^ f) : m = n ∧ e = f := by
  have he : e = f := by
    rcases lt_trichotomy e f with hlt | heq | hgt
    · exact absurd h (lt_of_exponent_lt hm hn hlt).ne
    · exact heq
    · exact absurd h (lt_of_exponent_lt hn hm hgt).ne'
  rw [he, mul_left_inj' (two_zpow_pos f).ne', Nat.cast_inj] at h
  exact ⟨h, he⟩

/-- Between two binary numbers there is a place for every midpoint, and a midpoint that both share goes to one. -/
theorem upper_le_lower (hm : IsHeld m e) (hn : IsHeld n f) (h : (m * 2 ^ e : ℚ) < n * 2 ^ f) :
    upper m e < lower n f ∨ upper m e = lower n f ∧ ¬(m % 2 = 0 ∧ n % 2 = 0) := by
  obtain ⟨s, hs⟩ := Int.eq_ofNat_of_zero_le (Int.sub_nonneg.mpr (exponent_le hm hn h))
  have hf : f = e + s := by omega
  have hpow : lower n f = (below n f * 2 ^ s : Nat) * 2 ^ (e - 2) := by
    rw [lower, show f - 2 = e - 2 + (s : Int) by omega, zpow_add₀ two_ne_zero, zpow_natCast]
    push_cast
    ring
  have h52 : twoTo 52 = 2 ^ 52 := rfl
  have hm53 := hm.below
  have hnat : 4 * m + 2 ≤ below n f * 2 ^ s ∧ (4 * m + 2 = below n f * 2 ^ s → ¬(m % 2 = 0 ∧ n % 2 = 0)) := by
    rw [below]
    cases s with
    | zero =>
        rw [show e = f by omega, mul_lt_mul_iff_left₀ (two_zpow_pos _), Nat.cast_lt] at h
        have hmfull := hm.full
        split <;> omega
    | succ s =>
        -- The greatest number below a change of exponents has an odd significand.
        have hfull : 2 ^ 52 ≤ n := hn.full.resolve_left (by have := hm.least; omega)
        have hbelow : 2 ^ 54 - 1 ≤ if n = twoTo 52 ∧ f > -1074 then 4 * n - 1 else 4 * n - 2 := by
          have := hm.least
          split <;> omega
        generalize (if n = twoTo 52 ∧ f > -1074 then 4 * n - 1 else 4 * n - 2) = b at hbelow
        have hb : b ≤ b * 2 ^ s := Nat.le_mul_of_pos_right b (Nat.two_pow_pos s)
        rw [Nat.pow_succ, ← Nat.mul_assoc]
        omega
  rw [hpow, upper, mul_lt_mul_iff_left₀ (two_zpow_pos _), mul_left_inj' (two_zpow_pos _).ne']
  rcases hnat.1.lt_or_eq with hlt | heq
  · exact .inl (by exact_mod_cast hlt)
  · exact .inr ⟨by exact_mod_cast heq, hnat.2 heq⟩

theorem rounds_lt (hm : IsHeld m e) (hn : IsHeld n f) (h : (m * 2 ^ e : ℚ) < n * 2 ^ f) {v w : ℚ}
    (hv : Rounds m e v) (hw : Rounds n f w) : v < w := by
  have hvu : v ≤ upper m e := by
    rcases hv.2 with h | h
    · exact h.le
    · exact h.1.le
  have hlw : lower n f ≤ w := by
    rcases hw.1 with h | h
    · exact h.le
    · exact h.1.le
  rcases upper_le_lower hm hn h with hlt | ⟨heq, hodd⟩
  · exact (hvu.trans_lt hlt).trans_le hlw
  · refine lt_of_le_of_ne (hvu.trans (heq.le.trans hlw)) fun he => hodd ?_
    have hveq : v = upper m e := le_antisymm hvu (heq.le.trans (hlw.trans he.ge))
    have hweq : lower n f = w := le_antisymm hlw (he.ge.trans (hvu.trans heq.le))
    exact ⟨(hv.2.resolve_left (not_lt.mpr hveq.ge)).2, (hw.1.resolve_left (not_lt.mpr hweq.ge)).2⟩

end Order

section Digits

variable {m : Nat} {e : Int}

theorem guess_bound_all : (List.range 2098).all (fun k =>
    compareBinary 1 ((((k : Int) - 1074) * 30103).fdiv 100000 - 1) 1 ((k : Int) - 1074) != .gt) = true := by
  decide +kernel

/-- The guess of the leading exponent is too great by one at most, for all exponents that occur. -/
theorem guess_bound {L : Int} (hl : -1074 ≤ L) (hu : L ≤ 1023) : (10 : ℚ) ^ ((L * 30103).fdiv 100000 - 1) ≤ 2 ^ L := by
  have hk := List.all_eq_true.mp guess_bound_all (L + 1074).toNat (List.mem_range.mpr (by omega))
  rw [show ((L + 1074).toNat : Int) - 1074 = L by omega, bne_iff_ne, ne_eq, (compareBinary_spec 1 _ 1 _).2.2, not_lt,
    Nat.cast_one, one_mul, one_mul] at hk
  exact hk

theorem leadingExponent_le (hm : m ≠ 0) (hl : -1074 ≤ (m.log2 : Int) + e) (hu : (m.log2 : Int) + e ≤ 1023) :
    (10 : ℚ) ^ leadingExponent m e ≤ m * 2 ^ e := by
  have htest : ∀ i : Int, (compareBinary 1 i m e != .gt) = true → (10 : ℚ) ^ i ≤ m * 2 ^ e := by
    intro i hi
    rw [bne_iff_ne, ne_eq, (compareBinary_spec 1 i m e).2.2, not_lt, Nat.cast_one, one_mul] at hi
    exact hi
  have hguess := guess_bound hl hu
  generalize hg : (((m.log2 : Int) + e) * 30103).fdiv 100000 = guess at hguess
  have hlead : leadingExponent m e = if compareBinary 1 (guess + 1) m e != .gt then guess + 1
      else if compareBinary 1 guess m e != .gt then guess else guess - 1 := by
    rw [← hg]
    rfl
  rw [hlead]
  split
  · next h => exact htest _ h
  · split
    · next h => exact htest _ h
    · refine hguess.trans ?_
      rw [zpow_add₀ two_ne_zero, zpow_natCast]
      gcongr
      exact_mod_cast Nat.log2_self_le hm

theorem readsBack_of_onGrid? {k : Int} {d : Decimal} (h : onGrid? m e k = some d) : readsBack m e d = true := by
  unfold onGrid? at h
  dsimp only at h
  split at h
  · next hdown _ => cases h; exact hdown
  · next hup => cases h; exact hup
  · cases h
  · next hdown hup =>
      split at h
      · cases h; exact hdown
      · cases h; exact hup
      · cases h
        split
        · exact hdown
        · exact hup

theorem grid_bounds (m : Nat) (e k : Int) :
    let q := (m * twoTo e.toNat * tenTo (-k).toNat) / (twoTo (-e).toNat * tenTo k.toNat)
    (q * 10 ^ k : ℚ) ≤ m * 2 ^ e ∧ (m * 2 ^ e : ℚ) < (q + 1 : Nat) * 10 ^ k := by
  intro q
  have hpow : (0 : ℚ) < twoTo (-e).toNat * tenTo (-k).toNat := by
    exact_mod_cast Nat.mul_pos (twoTo_pos _) (tenTo_pos _)
  have hgrid : ∀ n : Nat, (n * 10 ^ k : ℚ) * (twoTo (-e).toNat * tenTo (-k).toNat) =
      (n * (twoTo (-e).toNat * tenTo k.toNat) : Nat) := by
    intro n
    push_cast
    rw [← ten_zpow_mul k]
    ring
  have hnumber : (m * 2 ^ e : ℚ) * (twoTo (-e).toNat * tenTo (-k).toNat) =
      (m * twoTo e.toNat * tenTo (-k).toNat : Nat) := by
    push_cast
    rw [← two_zpow_mul e]
    ring
  constructor
  · rw [← mul_le_mul_iff_left₀ hpow, hgrid, hnumber, Nat.cast_le]
    exact Nat.div_mul_le_self _ _
  · rw [← mul_lt_mul_iff_left₀ hpow, hgrid, hnumber, Nat.cast_lt]
    exact Nat.lt_mul_of_div_lt (Nat.lt_succ_self _) (Nat.mul_pos (twoTo_pos _) (tenTo_pos _))

/-- Between the midpoints there is more room than the seventeenth digit takes. -/
theorem seventeenth_digit_lt (h : Binary64.IsHeld m e) (hm : m ≠ 0) :
    (10 : ℚ) ^ (leadingExponent m e - 16) < upper m e - lower m e := by
  have hlog : m.log2 < 53 := (Nat.log2_lt hm).mpr h.below
  obtain ⟨hbelow, hleast, hgreatest, -⟩ := h
  have hl : -1074 ≤ (m.log2 : Int) + e := by omega
  have hu : (m.log2 : Int) + e ≤ 1023 := by omega
  have hlead := leadingExponent_le hm hl hu
  have h52 : twoTo 52 = 2 ^ 52 := rfl
  have hwidth : (4 * m : ℚ) < 10 ^ 16 * ((4 * m + 2 : Nat) - below m e) := by
    have hm53 : (m : ℚ) < 2 ^ 53 := by exact_mod_cast hbelow
    rw [below]
    split
    · next hpow =>
        rw [hpow.1, h52]
        norm_num
    · have hle : 2 ≤ 4 * m := by omega
      push_cast [hle]
      linarith
  rw [zpow_sub₀ (by decide), div_lt_iff₀ (by positivity)]
  calc (10 : ℚ) ^ leadingExponent m e ≤ m * 2 ^ e := hlead
    _ = 4 * m * 2 ^ (e - 2) := four_mul_zpow m e
    _ < 10 ^ 16 * ((4 * m + 2 : Nat) - below m e) * 2 ^ (e - 2) := by gcongr
    _ = (upper m e - lower m e) * 10 ^ (16 : Int) := by
        rw [upper, lower, show (10 : ℚ) ^ (16 : Int) = 10 ^ 16 from rfl]
        ring

/-- Seventeen digits are enough: so close together, one of the two neighbours reads back. -/
theorem isSome_onGrid? (h : Binary64.IsHeld m e) (hm : m ≠ 0) : (onGrid? m e (leadingExponent m e - 16)).isSome = true := by
  have hroom := seventeenth_digit_lt h hm
  generalize leadingExponent m e - 16 = k at hroom
  obtain ⟨hdown, hup⟩ := grid_bounds m e k
  unfold onGrid?
  dsimp only
  generalize (m * twoTo e.toNat * tenTo (-k).toNat) / (twoTo (-e).toNat * tenTo k.toNat) = q at hdown hup
  -- If neither did, both midpoints would lie between the two, which are too close for that.
  have hone : readsBack m e ⟨q, k⟩ = true ∨ readsBack m e ⟨q + 1, k⟩ = true := by
    by_contra hnone
    rw [not_or, readsBack_iff, readsBack_iff] at hnone
    have hlower : (q * 10 ^ k : ℚ) ≤ lower m e := by
      by_contra hlt
      exact hnone.1 ⟨.inl (not_le.mp hlt), .inl (hdown.trans_lt (lt_upper m e))⟩
    have hupper : upper m e ≤ ((q + 1 : Nat) * 10 ^ k : ℚ) := by
      by_contra hlt
      exact hnone.2 ⟨.inl ((lower_lt hm).trans hup), .inl (not_le.mp hlt)⟩
    push_cast at hupper
    linarith
  split
  · rfl
  · rfl
  · next hd hu => rcases hone with h | h <;> simp_all
  · split <;> rfl

theorem rounds_shortest (h : Binary64.IsHeld m e) (hm : m ≠ 0) : Rounds m e (shortest m e).toRat := by
  rw [← readsBack_iff, shortest]
  have hfound : ((List.range 17).findSome? fun n : Nat => onGrid? m e (leadingExponent m e - n)).isSome = true := by
    rw [List.findSome?_isSome_iff]
    exact ⟨16, by simp, isSome_onGrid? h hm⟩
  obtain ⟨d, hd⟩ := Option.isSome_iff_exists.mp hfound
  obtain ⟨n, -, hn⟩ := List.exists_of_findSome?_eq_some hd
  rw [hd, Option.getD_some]
  exact readsBack_of_onGrid? hn

end Digits

theorem toRat_normal (d : Decimal) : d.normal.toRat = d.toRat := by
  induction d using normal.induct with
  | case1 d h ih =>
      have hdigits : ((d.digits / 10 : Nat) * 10 : ℚ) = d.digits := by
        exact_mod_cast Nat.div_mul_cancel (Nat.dvd_of_mod_eq_zero h.2)
      rw [normal, dif_pos h, ih, toRat, toRat, ← hdigits, zpow_add_one₀ (by decide)]
      ring
  | case2 d h => rw [normal, dif_neg h]

end Decimal

end CatalogSearch
