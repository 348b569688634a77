import CatalogSearch.Json.Basic
import CatalogSearch.Proofs.Number.ShortestDecimals
import CatalogSearch.Proofs.Number.WholeNumbers
import Mathlib.Tactic.FieldSimp
import Mathlib.Tactic.NormNum

namespace CatalogSearch

namespace Number

variable {c d : Char} {cs ds whole part : List Char}

theorem natOfDigits_append (cs ds : List Char) :
    natOfDigits (cs ++ ds) = 10 ^ ds.length * natOfDigits cs + natOfDigits ds :=
  (Nat.ofDigitChars_append 0).trans Nat.ofDigitChars_eq_ofDigitChars_zero

theorem natOfDigits_zeros (n : Nat) : natOfDigits (List.replicate n '0') = 0 := by
  induction n with
  | zero => rfl
  | succ n ih => exact ih

/-- What digits stand for behind a point. -/
def fraction (cs : List Char) : ℚ := natOfDigits cs / 10 ^ cs.length

theorem fraction_cons (c : Char) (cs : List Char) : fraction (c :: cs) = ((c.toNat - 48 : Nat) + fraction cs) / 10 := by
  have hone : natOfDigits [c] = c.toNat - 48 := Nat.zero_add _
  have hcons : natOfDigits (c :: cs) = 10 ^ cs.length * (c.toNat - 48) + natOfDigits cs := by
    rw [← List.singleton_append, natOfDigits_append, hone]
  rw [fraction, fraction, hcons, List.length_cons]
  push_cast
  field_simp
  ring

theorem fraction_nonneg (cs : List Char) : 0 ≤ fraction cs := by
  rw [fraction]
  positivity

theorem toNat_of_isPlainDigit (h : isPlainDigit c = true) : 48 ≤ c.toNat ∧ c.toNat ≤ 57 := by
  rw [isPlainDigit, Bool.and_eq_true, decide_eq_true_eq, decide_eq_true_eq] at h
  exact h

theorem fraction_lt_one (h : ∀ c ∈ cs, isPlainDigit c = true) : fraction cs < 1 := by
  induction cs with
  | nil =>
      rw [fraction]
      norm_num [natOfDigits]
  | cons c cs ih =>
      have hi := ih fun d hd => h d (List.mem_cons_of_mem c hd)
      have hc : ((c.toNat - 48 : Nat) : ℚ) ≤ 9 := by
        have := toNat_of_isPlainDigit (h c List.mem_cons_self)
        exact_mod_cast (by omega : c.toNat - 48 ≤ 9)
      rw [fraction_cons]
      linarith

theorem lt_of_fraction_lt (hc : ∀ c ∈ cs, isPlainDigit c = true) (hd : ∀ d ∈ ds, isPlainDigit d = true)
    (h : fraction cs < fraction ds) : cs < ds := by
  induction cs generalizing ds with
  | nil =>
      cases ds with
      | nil => exact absurd h (lt_irrefl _)
      | cons d ds => exact List.nil_lt_cons d ds
  | cons c cs ih =>
      cases ds with
      | nil =>
          have hzero : fraction [] = 0 := by norm_num [fraction, natOfDigits]
          rw [hzero] at h
          exact absurd h (not_lt.mpr (fraction_nonneg _))
      | cons d ds =>
          have hcs : ∀ c ∈ cs, isPlainDigit c = true := fun e he => hc e (List.mem_cons_of_mem c he)
          have hds : ∀ d ∈ ds, isPlainDigit d = true := fun e he => hd e (List.mem_cons_of_mem d he)
          have hcn := toNat_of_isPlainDigit (hc c List.mem_cons_self)
          have hdn := toNat_of_isPlainDigit (hd d List.mem_cons_self)
          rw [fraction_cons, fraction_cons] at h
          rw [List.cons_lt_cons_iff]
          rcases lt_trichotomy c.toNat d.toNat with hlt | heq | hgt
          · exact .inl hlt
          · refine .inr ⟨Char.toNat_inj.mp heq, ih hcs hds ?_⟩
            rw [heq] at h
            linarith
          · have hstep : ((d.toNat - 48 : Nat) : ℚ) + 1 ≤ (c.toNat - 48 : Nat) := by
              exact_mod_cast (by omega : d.toNat - 48 + 1 ≤ c.toNat - 48)
            have := fraction_nonneg cs
            have := fraction_lt_one hds
            linarith

/-- A number in plain digits, with a point behind the first of them. -/
structure IsPointed (n : Nat) (cs whole part : List Char) : Prop where
  text : cs = whole ++ '.' :: part
  length : whole.length = n
  digits : ∀ c ∈ whole ++ part, isPlainDigit c = true

def pointed (whole part : List Char) : ℚ := natOfDigits (whole ++ part) * 10 ^ (-(part.length : Int))

theorem pointed_eq (whole part : List Char) : pointed whole part = fraction (whole ++ part) * 10 ^ whole.length := by
  rw [pointed, fraction, List.length_append, pow_add, zpow_neg, zpow_natCast]
  field_simp

theorem point_not_digit (h : ∀ c ∈ whole ++ part, isPlainDigit c = true) : '.' ∉ whole ++ part :=
  fun hm => absurd (h '.' hm) (by decide)

theorem append_point_lt {whole' part' : List Char} (hl : whole.length = whole'.length)
    (h : whole ++ part < whole' ++ part') : whole ++ '.' :: part < whole' ++ '.' :: part' := by
  induction whole generalizing whole' with
  | nil =>
      obtain rfl := List.length_eq_zero_iff.mp hl.symm
      exact List.cons_lt_cons_iff.mpr (.inr ⟨rfl, h⟩)
  | cons c whole ih =>
      cases whole' with
      | nil => cases hl
      | cons d whole' =>
          rw [List.cons_append, List.cons_append, List.cons_lt_cons_iff] at h ⊢
          exact h.imp_right fun hcd => ⟨hcd.1, ih (Nat.succ_inj.mp hl) hcd.2⟩

theorem text_lt_of_pointed_lt {n : Nat} {whole' part' : List Char} (h : IsPointed n cs whole part)
    (h' : IsPointed n ds whole' part') (hlt : pointed whole part < pointed whole' part') : cs < ds := by
  have hl := h.length.trans h'.length.symm
  rw [pointed_eq, pointed_eq, hl, mul_lt_mul_iff_left₀ (by positivity)] at hlt
  rw [h.text, h'.text]
  exact append_point_lt hl (lt_of_fraction_lt h.digits h'.digits hlt)

/-- A number in plain digits with a point among them, the first `n` of them in front of it. -/
def IsPlain (n : Nat) (cs : List Char) : Prop := ∃ whole part, IsPointed n cs whole part

theorem IsPointed.unique {n k : Nat} {whole' part' : List Char} (h : IsPointed n cs whole part)
    (h' : IsPointed k cs whole' part') : whole' = whole ∧ part' = part := by
  have hw : '.' ∉ whole' := fun hm => point_not_digit h'.digits (List.mem_append_left _ hm)
  have hp : '.' ∉ part' := fun hm => point_not_digit h'.digits (List.mem_append_right _ hm)
  obtain ⟨hwhole, -, hpart⟩ := (List.append_cons_inj_of_notMem hw hp).mp (h'.text.symm.trans h.text)
  exact ⟨hwhole, hpart⟩

theorem IsPlain.mem {n : Nat} (h : IsPlain n cs) (hc : c ∈ cs) : c = '.' ∨ isPlainDigit c = true := by
  obtain ⟨whole, part, rfl, -, hd⟩ := h
  rcases List.mem_append.mp hc with hc | hc
  · exact .inr (hd c (List.mem_append_left _ hc))
  · exact (List.mem_cons.mp hc).imp_right fun hc => hd c (List.mem_append_right _ hc)

theorem IsPlain.point_mem {n : Nat} (h : IsPlain n cs) : '.' ∈ cs := by
  obtain ⟨whole, part, rfl, -, -⟩ := h
  simp

end Number

namespace NumberStyle

open Number

def leading (d : Decimal) : Int := d.exponent + (Nat.toDigits 10 d.digits).length - 1

theorem isPlainDigit_of_mem_zeros {n : Int} {c : Char} (hc : c ∈ zeros n) : isPlainDigit c = true := by
  rw [(List.mem_replicate.mp hc).2]
  rfl

theorem length_zeros (n : Int) : (zeros n).length = n.toNat := List.length_replicate

section Arms

variable {ds : List Char} (hd : ∀ c ∈ ds, isPlainDigit c = true)
include hd

theorem isPointed_below (n : Int) : IsPointed 1 ('0' :: '.' :: zeros n ++ ds) ['0'] (zeros n ++ ds) ∧
    pointed ['0'] (zeros n ++ ds) = natOfDigits ds * 10 ^ (-(n.toNat + ds.length : Int)) := by
  constructor
  · refine ⟨rfl, rfl, fun c hc => ?_⟩
    rcases List.mem_append.mp hc with hc | hc
    · rw [List.mem_singleton.mp hc]
      rfl
    · exact (List.mem_append.mp hc).elim isPlainDigit_of_mem_zeros (hd c)
  · have hnothing : natOfDigits (['0'] ++ zeros n) = 0 := natOfDigits_zeros (n.toNat + 1)
    rw [pointed, ← List.append_assoc, natOfDigits_append, hnothing, List.length_append, length_zeros, Nat.mul_zero,
      Nat.zero_add, Nat.cast_add]

theorem isPointed_above (n : Int) :
    IsPointed (ds ++ zeros n).length (ds ++ zeros n ++ ['.', '0']) (ds ++ zeros n) ['0'] ∧
    pointed (ds ++ zeros n) ['0'] = natOfDigits ds * 10 ^ n.toNat := by
  constructor
  · refine ⟨rfl, rfl, fun c hc => ?_⟩
    rcases List.mem_append.mp hc with hc | hc
    · exact (List.mem_append.mp hc).elim (hd c) isPlainDigit_of_mem_zeros
    · rw [List.mem_singleton.mp hc]
      rfl
  · have hnothing : natOfDigits (zeros n ++ ['0']) = 0 := by
      rw [zeros, ← List.replicate_succ']
      exact natOfDigits_zeros _
    rw [pointed, List.append_assoc, natOfDigits_append, hnothing, List.length_append, length_zeros, List.length_singleton]
    push_cast
    rw [pow_succ, zpow_neg_one]
    ring

theorem isPointed_among (n : Nat) :
    IsPointed (ds.take n).length (ds.take n ++ '.' :: ds.drop n) (ds.take n) (ds.drop n) ∧
    pointed (ds.take n) (ds.drop n) = natOfDigits ds * 10 ^ (-((ds.length - n : Nat) : Int)) := by
  constructor
  · refine ⟨rfl, rfl, ?_⟩
    rwa [List.take_append_drop]
  · rw [pointed, List.take_append_drop, List.length_drop]

end Arms

/-- Without an exponent a decimal is written in plain digits, and they stand for it. -/
theorem write_of_positional (style : NumberStyle) {d : Decimal}
    (h : style.least ≤ leading d ∧ leading d ≤ style.greatest) :
    ∃ n whole part, IsPointed n (style.write d) whole part ∧ pointed whole part = d.toRat := by
  have hd := (isNumeral_toDigits d.digits).2
  have hvalue := natOfDigits_toDigits d.digits
  unfold leading at h
  unfold write
  dsimp only
  rw [if_pos h]
  generalize Nat.toDigits 10 d.digits = ds at hd hvalue h
  split
  · next hx =>
      obtain ⟨hp, hv⟩ := isPointed_below hd (-(d.exponent + ds.length - 1) - 1)
      refine ⟨_, _, _, hp, ?_⟩
      have he : -(((-(d.exponent + ds.length - 1) - 1).toNat : Int) + ds.length) = d.exponent := by omega
      rw [hv, hvalue, he, Decimal.toRat]
  · next hx =>
      split
      · next hl =>
          obtain ⟨hp, hv⟩ := isPointed_above hd (d.exponent + ds.length - 1 + 1 - ds.length)
          refine ⟨_, _, _, hp, ?_⟩
          have he : ((d.exponent + ds.length - 1 + 1 - ds.length).toNat : Int) = d.exponent := by omega
          rw [hv, hvalue, ← zpow_natCast, he, Decimal.toRat]
      · next hl =>
          obtain ⟨hp, hv⟩ := isPointed_among hd (d.exponent + ds.length - 1 + 1).toNat
          refine ⟨_, _, _, hp, ?_⟩
          have he : -((ds.length - (d.exponent + ds.length - 1 + 1).toNat : Nat) : Int) = d.exponent := by omega
          rw [hv, hvalue, he, Decimal.toRat]

theorem mem_write_of_exponent (style : NumberStyle) {d : Decimal}
    (h : ¬(style.least ≤ leading d ∧ leading d ≤ style.greatest)) : 'e' ∈ style.write d := by
  have hne := (isNumeral_toDigits d.digits).1
  unfold leading at h
  unfold write
  dsimp only
  rw [if_neg h]
  split
  · next hds => exact absurd hds hne
  · simp
  · simp

end NumberStyle

namespace Binary64

open Number

def toRat? : Binary64 → Option ℚ
  | .finite negative m e => some ((if negative then -1 else 1) * (m * 2 ^ e))
  | _ => none

theorem realText_finite {m : Nat} (e : Int) (hm : m ≠ 0) :
    Json.realText (.finite false m e) = NumberStyle.plain.write (Decimal.shortest m e).normal := by
  change [] ++ (if m = 0 then _ else _) = _
  rw [if_neg hm, List.nil_append]

/-- What is written in plain digits is rounded to the number again. -/
theorem rounds_of_isPlain {m n : Nat} {e : Int} (hx : IsHeld m e) (hm : m ≠ 0)
    (h : IsPlain n (Json.realText (.finite false m e))) :
    ∃ whole part, IsPointed n (Json.realText (.finite false m e)) whole part ∧
      Decimal.Rounds m e (pointed whole part) := by
  rw [realText_finite e hm] at h ⊢
  have hpositional : NumberStyle.plain.least ≤ NumberStyle.leading (Decimal.shortest m e).normal ∧
      NumberStyle.leading (Decimal.shortest m e).normal ≤ NumberStyle.plain.greatest := by
    -- An exponent has a letter, which is no digit.
    by_contra hexponent
    exact absurd (h.mem (NumberStyle.mem_write_of_exponent .plain hexponent)) (by decide)
  obtain ⟨k, whole, part, hp, hvalue⟩ := NumberStyle.write_of_positional .plain hpositional
  obtain ⟨whole', part', hp'⟩ := h
  obtain ⟨rfl, rfl⟩ := hp.unique hp'
  refine ⟨_, _, hp', ?_⟩
  rw [hvalue, Decimal.toRat_normal]
  exact Decimal.rounds_shortest hx hm

theorem exists_of_isPlain {x : Binary64} (hx : x.IsCanonical) {n : Nat} (h : IsPlain n (Json.realText x)) :
    ∃ m e whole part, x = .finite false m e ∧ IsPointed n (Json.realText x) whole part ∧
      (m = 0 ∧ pointed whole part = 0 ∨ m ≠ 0 ∧ Decimal.Rounds m e (pointed whole part)) := by
  have hpoint := h.point_mem
  cases x with
  | infinite negative => cases negative <;> exact absurd hpoint (by decide)
  | undefined => exact absurd hpoint (by decide)
  | finite negative m e =>
      cases negative with
      | true =>
          have hsign : '-' ∈ Json.realText (.finite true m e) := List.mem_cons_self
          exact absurd (h.mem hsign) (by decide)
      | false =>
          by_cases hm : m = 0
          · subst hm
            obtain ⟨whole, part, hp⟩ := h
            have hzero : IsPointed 1 (Json.realText (.finite false 0 e)) ['0'] ['0'] :=
              ⟨rfl, rfl, List.all_eq_true.mp (by decide)⟩
            obtain ⟨rfl, rfl⟩ := hzero.unique hp
            exact ⟨0, e, _, _, rfl, hp, .inl ⟨rfl, by simp [pointed, natOfDigits]⟩⟩
          · obtain ⟨whole, part, hp, hr⟩ := rounds_of_isPlain hx hm h
            exact ⟨m, e, whole, part, rfl, hp, .inr ⟨hm, hr⟩⟩

theorem pointed_lt {m k : Nat} {e f : Int} {v w : ℚ} (hm : IsHeld m e) (hk : IsHeld k f)
    (hv : m = 0 ∧ v = 0 ∨ m ≠ 0 ∧ Decimal.Rounds m e v) (hw : k = 0 ∧ w = 0 ∨ k ≠ 0 ∧ Decimal.Rounds k f w)
    (h : (m * 2 ^ e : ℚ) < k * 2 ^ f) : v < w := by
  have hpos : (0 : ℚ) < k * 2 ^ f := lt_of_le_of_lt (by positivity) h
  obtain ⟨hkz, hw⟩ := hw.resolve_left fun hz => by simp [hz.1] at hpos
  rcases hv with ⟨rfl, rfl⟩ | ⟨-, hv⟩
  · have hlower := Decimal.lower_pos f hkz
    rcases hw.1 with hl | hl
    · exact hlower.trans hl
    · exact hlower.trans_eq hl.1
  · exact Decimal.rounds_lt hm hk h hv hw

/-- Of numbers with equally many digits in front of the point the texts come in the order of the numbers. -/
theorem text_lt_iff {x y : Binary64} (hx : x.IsCanonical) (hy : y.IsCanonical) {n : Nat}
    (px : IsPlain n (Json.realText x)) (py : IsPlain n (Json.realText y)) :
    Json.realText x < Json.realText y ↔ ∃ p q, x.toRat? = some p ∧ y.toRat? = some q ∧ p < q := by
  obtain ⟨m, e, whole, part, rfl, hp, hv⟩ := exists_of_isPlain hx px
  obtain ⟨k, f, whole', part', rfl, hq, hw⟩ := exists_of_isPlain hy py
  have hforth : (m * 2 ^ e : ℚ) < k * 2 ^ f → Json.realText (.finite false m e) < Json.realText (.finite false k f) :=
    fun h => text_lt_of_pointed_lt hp hq (pointed_lt hx hy hv hw h)
  have hback : (k * 2 ^ f : ℚ) < m * 2 ^ e → Json.realText (.finite false k f) < Json.realText (.finite false m e) :=
    fun h => text_lt_of_pointed_lt hq hp (pointed_lt hy hx hw hv h)
  constructor
  · intro h
    refine ⟨_, _, rfl, rfl, ?_⟩
    simp only [Bool.false_eq_true, if_false, one_mul]
    rcases lt_trichotomy (m * 2 ^ e : ℚ) (k * 2 ^ f) with hlt | heq | hgt
    · exact hlt
    · obtain ⟨rfl, rfl⟩ := Decimal.held_unique hx hy heq
      exact absurd h (List.lt_irrefl _)
    · exact absurd h (List.lt_asymm (hback hgt))
  · rintro ⟨p, q, hpx, hqy, hlt⟩
    cases hpx
    cases hqy
    simp only [Bool.false_eq_true, if_false, one_mul] at hlt
    exact hforth hlt

end Binary64

end CatalogSearch
