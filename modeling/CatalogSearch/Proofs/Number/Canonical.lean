import CatalogSearch.Number.Reader
import Mathlib.Algebra.Order.Field.Power
import Mathlib.Algebra.Order.Field.Rat
import Mathlib.Data.Nat.Log
import Mathlib.Tactic.GCongr
import Mathlib.Tactic.Positivity
import Mathlib.Tactic.Ring

namespace CatalogSearch

theorem zpow_mul_toNat {b : ℚ} (hb : b ≠ 0) (i : Int) : b ^ i * b ^ (-i).toNat = b ^ i.toNat := by
  rw [← zpow_natCast, ← zpow_natCast, ← zpow_add₀ hb]
  congr 1
  omega

theorem two_zpow_mul (i : Int) : (2 : ℚ) ^ i * twoTo (-i).toNat = twoTo i.toNat := by
  have h := zpow_mul_toNat (b := (2 : ℚ)) (by decide) i
  exact_mod_cast h

theorem twoTo_pos (k : Nat) : 0 < twoTo k := Nat.two_pow_pos k

namespace Binary64

/-- A significand and an exponent as numbers are held: with as many digits as there is room for. -/
structure IsHeld (m : Nat) (e : Int) : Prop where
  below : m < 2 ^ 53
  least : -1074 ≤ e
  greatest : e ≤ 971
  full : e = -1074 ∨ 2 ^ 52 ≤ m

def IsCanonical : Binary64 → Prop
  | .finite _ m e => IsHeld m e
  | _ => True

theorem isCanonical_zero (negative : Bool) : (zero negative).IsCanonical :=
  ⟨by decide, le_refl _, by decide, .inl rfl⟩

section Ratio

variable {num den : Nat}

theorem le_floorLog2_iff (hd : den ≠ 0) (k : Int) :
    den * twoTo k.toNat ≤ num * twoTo (-k).toNat ↔ (2 : ℚ) ^ k ≤ num / den := by
  have hden : (0 : ℚ) < den := by exact_mod_cast Nat.pos_of_ne_zero hd
  have hpow : (0 : ℚ) < twoTo (-k).toNat := by exact_mod_cast twoTo_pos _
  rw [le_div_iff₀ hden, ← mul_le_mul_iff_left₀ hpow, mul_right_comm, two_zpow_mul, mul_comm (_ : ℚ) (den : ℚ)]
  exact_mod_cast Iff.rfl

theorem floorLog2_spec (hn : num ≠ 0) (hd : den ≠ 0) :
    (2 : ℚ) ^ floorLog2 num den ≤ num / den ∧ (num / den : ℚ) < 2 ^ (floorLog2 num den + 1) := by
  have hden : (0 : ℚ) < den := by exact_mod_cast Nat.pos_of_ne_zero hd
  have hn1 : (2 : ℚ) ^ num.log2 ≤ num := by exact_mod_cast Nat.log2_self_le hn
  have hn2 : (num : ℚ) < 2 ^ (num.log2 + 1) := by exact_mod_cast Nat.lt_log2_self
  have hd1 : (2 : ℚ) ^ den.log2 ≤ den := by exact_mod_cast Nat.log2_self_le hd
  have hd2 : (den : ℚ) < 2 ^ (den.log2 + 1) := by exact_mod_cast Nat.lt_log2_self
  have hlower : (2 : ℚ) ^ ((num.log2 : Int) - den.log2 - 1) ≤ num / den := by
    rw [le_div_iff₀ hden]
    calc (2 : ℚ) ^ ((num.log2 : Int) - den.log2 - 1) * den
        ≤ 2 ^ ((num.log2 : Int) - den.log2 - 1) * 2 ^ (den.log2 + 1) := by gcongr
      _ = 2 ^ num.log2 := by
          rw [← zpow_natCast, ← zpow_natCast, ← zpow_add₀ two_ne_zero]
          congr 1
          push_cast
          ring
      _ ≤ num := hn1
  have hupper : (num / den : ℚ) < 2 ^ ((num.log2 : Int) - den.log2 + 1) := by
    rw [div_lt_iff₀ hden]
    calc (num : ℚ) < 2 ^ (num.log2 + 1) := hn2
      _ = 2 ^ ((num.log2 : Int) - den.log2 + 1) * 2 ^ den.log2 := by
          rw [← zpow_natCast, ← zpow_natCast, ← zpow_add₀ two_ne_zero]
          congr 1
          push_cast
          ring
      _ ≤ 2 ^ ((num.log2 : Int) - den.log2 + 1) * den := by gcongr
  rw [floorLog2]
  split
  · next h => exact ⟨(le_floorLog2_iff hd _).mp h, hupper⟩
  · next h =>
      rw [sub_add_cancel]
      exact ⟨hlower, not_le.mp fun hle => h ((le_floorLog2_iff hd _).mpr hle)⟩

theorem roundHalfEven_bounds (num den : Nat) : num / den ≤ roundHalfEven num den ∧ roundHalfEven num den ≤ num / den + 1 := by
  unfold roundHalfEven
  dsimp only
  split
  · omega
  · omega
  · split <;> omega

theorem twoTo_le_scaled_iff (hd : den ≠ 0) (e : Int) (j : Nat) :
    twoTo j ≤ num * twoTo (-e).toNat / (den * twoTo e.toNat) ↔ (2 : ℚ) ^ (e + j) ≤ num / den := by
  have hden : (0 : ℚ) < den := by exact_mod_cast Nat.pos_of_ne_zero hd
  have hpow : (0 : ℚ) < twoTo (-e).toNat := by exact_mod_cast twoTo_pos _
  have hscale : (2 : ℚ) ^ (e + j) * den * twoTo (-e).toNat = twoTo j * (den * twoTo e.toNat) := by
    have hj : (2 : ℚ) ^ j = twoTo j := by
      rw [twoTo]
      norm_cast
    rw [← two_zpow_mul e, zpow_add₀ two_ne_zero, zpow_natCast, hj]
    generalize (twoTo (-e).toNat : ℚ) = t
    ring
  rw [Nat.le_div_iff_mul_le (Nat.mul_pos (Nat.pos_of_ne_zero hd) (twoTo_pos _)), le_div_iff₀ hden,
    ← mul_le_mul_iff_left₀ hpow, hscale]
  exact_mod_cast Iff.rfl

theorem isCanonical_ofRatio (negative : Bool) (num : Nat) (hd : den ≠ 0) : (ofRatio negative num den).IsCanonical := by
  unfold ofRatio
  split
  · exact isCanonical_zero negative
  · next hn =>
      obtain ⟨hlow, hhigh⟩ := floorLog2_spec hn hd
      dsimp only
      generalize floorLog2 num den = k at hlow hhigh
      generalize he : max (k - 52) (-1074) = e
      have hceil : num * twoTo (-e).toNat / (den * twoTo e.toNat) < 2 ^ 53 := by
        by_contra hge
        have hle := (twoTo_le_scaled_iff hd e 53).mp (not_lt.mp hge)
        have hexp : (2 : ℚ) ^ (k + 1) ≤ 2 ^ (e + (53 : Nat)) := zpow_le_zpow_right₀ (by norm_num) (by omega)
        exact absurd (hexp.trans hle) (not_le.mpr hhigh)
      have hfloor : e = -1074 ∨ 2 ^ 52 ≤ num * twoTo (-e).toNat / (den * twoTo e.toNat) := by
        rcases (by omega : e = -1074 ∨ e = k - 52) with h | h
        · exact .inl h
        · refine .inr ((twoTo_le_scaled_iff hd e 52).mpr ?_)
          rwa [h, show k - 52 + ((52 : Nat) : Int) = k by omega]
      obtain ⟨hround, hround'⟩ := roundHalfEven_bounds (num * twoTo (-e).toNat) (den * twoTo e.toNat)
      generalize num * twoTo (-e).toNat / (den * twoTo e.toNat) = q at hceil hfloor hround hround'
      generalize roundHalfEven (num * twoTo (-e).toNat) (den * twoTo e.toNat) = m at hround hround'
      have h53 : twoTo 53 = 2 ^ 53 := rfl
      have h52 : twoTo 52 = 2 ^ 52 := rfl
      -- Rounding up past the last significand gives the first one of the next exponent.
      by_cases hm : m = twoTo 53
      · rw [if_pos hm]
        dsimp only
        split
        · trivial
        · exact ⟨by decide, by omega, by omega, .inr (by decide)⟩
      · rw [if_neg hm]
        dsimp only
        split
        · trivial
        · exact ⟨by omega, by omega, by omega, by omega⟩

end Ratio

theorem isCanonical_ofDecimal (negative : Bool) (digits width : Nat) (exponent : Int) :
    (ofDecimal negative digits width exponent).IsCanonical := by
  unfold ofDecimal
  split
  · exact isCanonical_zero negative
  · split
    · trivial
    · split
      · exact isCanonical_zero negative
      · exact isCanonical_ofRatio _ _ (Nat.ne_of_gt (Nat.pow_pos (by decide)))

end Binary64

namespace Number

theorem isCanonical_readDecimal? {negative : Bool} {cs : List Char} {x : Binary64}
    (h : readDecimal? negative cs = some x) : x.IsCanonical := by
  unfold readDecimal? at h
  dsimp only at h
  obtain ⟨-, -, h⟩ := Option.bind_eq_some_iff.mp h
  obtain ⟨exponent, -, h⟩ := Option.bind_eq_some_iff.mp h
  cases h
  exact Binary64.isCanonical_ofDecimal _ _ _ _

theorem isCanonical_readReal? {cs : List Char} {x : Binary64} (h : readReal? cs = some x) : x.IsCanonical := by
  unfold readReal? at h
  obtain ⟨bare, -, h⟩ := Option.bind_eq_some_iff.mp h
  dsimp only at h
  split at h
  · cases h
    trivial
  · split at h
    · cases h
      trivial
    · exact isCanonical_readDecimal? h

end Number

end CatalogSearch
