import CatalogSearch.Proofs.Value.Integers
import Mathlib.Data.Bool.AllAny
import Mathlib.Data.List.TakeDrop
import Mathlib.Tactic.IntervalCases

namespace CatalogSearch

namespace Binary64

theorem floorLog2_whole {n : Nat} (h : n ≠ 0) : floorLog2 n 1 = n.log2 := by
  have hone : Nat.log2 1 = 0 := by decide
  have hk : (n.log2 : Int) - (Nat.log2 1 : Nat) = n.log2 := by rw [hone]; simp
  have hpos : (n.log2 : Int).toNat = n.log2 := Int.toNat_natCast _
  have hneg : (-(n.log2 : Int)).toNat = 0 := by omega
  rw [floorLog2]
  simp only [hk]
  rw [if_pos]
  rw [hpos, hneg, Nat.one_mul]
  exact (Nat.log2_self_le h).trans (Nat.le_of_eq (Nat.mul_one n).symm)

theorem roundHalfEven_one (n : Nat) : roundHalfEven n 1 = n := by
  have hc : compare (2 * (n % 1)) 1 = .lt := by rw [Nat.mod_one]; rfl
  simp only [roundHalfEven, hc, Nat.div_one]

theorem toInt?_finite (n d : Nat) : (finite false (n * twoTo d) (-(d : Int))).toInt? = some (n : Int) := by
  have hneg : (-(d : Int)).toNat = 0 := by omega
  have hpos : (-(-(d : Int))).toNat = d := by omega
  have hd : 0 < twoTo d := Nat.two_pow_pos d
  have hwhole : n * twoTo d * twoTo 0 = n * twoTo d := Nat.mul_one _
  rw [toInt?, hneg, hpos, hwhole, Nat.mul_mod_left, if_pos rfl, truncate?, hneg, hpos, hwhole, Nat.mul_div_cancel _ hd]
  rfl

theorem toInt?_ofRatio_whole {n : Nat} (h : n < 2 ^ 53) : (ofRatio false n 1).toInt? = some (n : Int) := by
  by_cases hz : n = 0
  · have hzero := toInt?_finite 0 1074
    rw [Nat.zero_mul] at hzero
    rw [hz, ofRatio, if_pos rfl]
    exact hzero
  · obtain ⟨d, hd⟩ : ∃ d, n.log2 + d = 52 := ⟨52 - n.log2, by have := (Nat.log2_lt hz).mpr h; omega⟩
    have he : max (floorLog2 n 1 - 52) (-1074) = -(d : Int) := by
      rw [floorLog2_whole hz]
      omega
    have hneg : (-(d : Int)).toNat = 0 := by omega
    have hpos : (-(-(d : Int))).toNat = d := by omega
    have hlt : n * twoTo d < twoTo 53 := by
      have hn : n < 2 ^ (n.log2 + 1) := Nat.lt_log2_self
      have hp : 0 < 2 ^ d := Nat.two_pow_pos d
      have hm : n * 2 ^ d < 2 ^ (n.log2 + 1) * 2 ^ d := Nat.mul_lt_mul_of_pos_right hn hp
      rw [← Nat.pow_add, show n.log2 + 1 + d = 53 by omega] at hm
      exact hm
    rw [ofRatio, if_neg hz]
    simp only [he, hneg, hpos, show 1 * twoTo 0 = 1 from rfl, roundHalfEven_one]
    rw [if_neg (Nat.ne_of_lt hlt), if_neg (by omega)]
    exact toInt?_finite n d

theorem ofDecimal_whole (n width : Nat) : ofDecimal false n width 0 = ofRatio false n 1 := by
  have hn : n * tenTo (0 : Int).toNat = n := Nat.mul_one n
  have hd : tenTo (-(0 : Int)).toNat = 1 := rfl
  rw [ofDecimal, hn, hd]
  split
  · next hz => rw [hz, ofRatio, if_pos rfl]
  · rw [if_neg (by omega), if_neg (by omega)]

end Binary64

namespace Number

variable {c : Char} {cs : List Char}

def IsNumeral (cs : List Char) : Prop := cs ≠ [] ∧ ∀ c ∈ cs, isPlainDigit c = true

theorem mem_digits (h : isPlainDigit c = true) : c ∈ "0123456789".toList := by
  rw [isPlainDigit, Bool.and_eq_true, decide_eq_true_eq, decide_eq_true_eq] at h
  obtain ⟨hl, hu⟩ := h
  have hlower : 48 ≤ c.toNat := hl
  have hupper : c.toNat ≤ 57 := hu
  rw [← Char.ofNat_toNat c]
  generalize c.toNat = n at hlower hupper
  interval_cases n <;> decide

/-- Characters that a number is not rid of before it is read. -/
def IsBare (c : Char) : Prop := plainDigit c = c ∧ isMargin c = false ∧ c ≠ '_'

theorem isBare_of_isPlainDigit (h : isPlainDigit c = true) : IsBare c := by
  have hall : ∀ c ∈ "0123456789".toList, plainDigit c = c ∧ isMargin c = false ∧ c ≠ '_' :=
    List.all_iff_forall_prop.mp (by decide)
  exact hall c (mem_digits h)

theorem bridged_bare (h : ∀ c ∈ cs, IsBare c) (b : Bool) : bridged b cs = some cs := by
  induction cs generalizing b with
  | nil => rfl
  | cons c cs ih =>
      rw [bridged, if_neg (h c List.mem_cons_self).2.2, ih fun d hd => h d (List.mem_cons_of_mem c hd)]
      rfl

theorem bridged_trimMargin (h : ∀ c ∈ cs, IsBare c) : bridged false ((trimMargin cs).map plainDigit) = some cs := by
  have ht : trimMargin cs = cs := Text.stripped_eq_self fun c hc => (h c hc).2.1
  have hm : cs.map plainDigit = cs := by
    rw [List.map_congr_left fun c hc => (h c hc).1, List.map_id']
  rw [ht, hm, bridged_bare h]

theorem readReal?_of_head {ds : List Char} (h : ∀ d ∈ c :: ds, IsBare d) (hs : c ≠ '-' ∧ c ≠ '+')
    (hn : c.toLower ≠ 'i' ∧ c.toLower ≠ 'n') : readReal? (c :: ds) = readDecimal? false (c :: ds) := by
  have hsigned : signed (c :: ds) = (false, c :: ds) := by
    unfold signed
    split
    · next he => exact absurd (List.cons.inj he).1 hs.1
    · next he => exact absurd (List.cons.inj he).1 hs.2
    · rfl
  have hname : ∀ (name : String) (d : Char) (rest : List Char), name.toList = d :: rest → c.toLower ≠ d →
      String.ofList ((c :: ds).map Char.toLower) ≠ name := by
    intro name d rest hd hne he
    rw [← he, String.toList_ofList, List.map_cons] at hd
    exact hne (List.cons.inj hd).1
  rw [readReal?, bridged_trimMargin h]
  simp only [Option.bind_eq_bind, Option.bind_some, hsigned]
  rw [if_neg (not_or.mpr ⟨hname "inf" 'i' _ rfl hn.1, hname "infinity" 'i' _ rfl hn.1⟩), if_neg (hname "nan" 'n' _ rfl hn.2)]

theorem readReal?_numeral (h : IsNumeral cs) : readReal? cs = some (Binary64.ofRatio false (natOfDigits cs) 1) := by
  obtain ⟨c, ds, rfl⟩ := List.exists_cons_of_ne_nil h.1
  have hdigits : ∀ c ∈ "0123456789".toList, (c ≠ '-' ∧ c ≠ '+') ∧ c.toLower ≠ 'i' ∧ c.toLower ≠ 'n' :=
    List.all_iff_forall_prop.mp (by decide)
  obtain ⟨hs, hn⟩ := hdigits c (mem_digits (h.2 c List.mem_cons_self))
  have hspan : (c :: ds).span isPlainDigit = (c :: ds, []) := by
    rw [List.span_eq_takeWhile_dropWhile, List.takeWhile_eq_self_iff.mpr h.2, List.dropWhile_eq_nil_iff.mpr h.2]
  have hread : readDecimal? false (c :: ds) =
      some (Binary64.ofDecimal false (natOfDigits (c :: ds ++ [])) (c :: ds ++ []).length 0) := by
    rw [readDecimal?, hspan]
    rfl
  rw [readReal?_of_head (fun d hd => isBare_of_isPlainDigit (h.2 d hd)) hs hn, hread, List.append_nil,
    Binary64.ofDecimal_whole]

theorem readReal?_escaped {sign : Char} (hs : sign = '-' ∨ sign = '+') (h : IsNumeral cs) :
    readReal? ('\\' :: sign :: cs) = none := by
  have hbare : ∀ d ∈ '\\' :: sign :: cs, IsBare d := by
    intro d hd
    rcases List.mem_cons.mp hd with rfl | hd
    · exact ⟨by decide, by decide, by decide⟩
    · rcases List.mem_cons.mp hd with rfl | hd
      · rcases hs with rfl | rfl <;> exact ⟨by decide, by decide, by decide⟩
      · exact isBare_of_isPlainDigit (h.2 d hd)
  rw [readReal?_of_head hbare (by decide) (by decide)]
  rfl

theorem natOfDigits_toDigits (n : Nat) : natOfDigits (Nat.toDigits 10 n) = n := Nat.ofDigitChars_ten_toDigits

theorem isNumeral_toDigits (n : Nat) : IsNumeral (Nat.toDigits 10 n) := by
  refine ⟨Nat.toDigits_ne_nil, fun c hc => ?_⟩
  have hd : c.isDigit = true := Nat.isDigit_of_mem_toDigits (by decide) (by decide) hc
  rw [Char.isDigit, Bool.and_eq_true, decide_eq_true_eq, decide_eq_true_eq] at hd
  rw [isPlainDigit, Bool.and_eq_true, decide_eq_true_eq, decide_eq_true_eq]
  exact hd

end Number

end CatalogSearch
