namespace CatalogSearch.Numerals

theorem toDigits_inj {m n : Nat} (h : Nat.toDigits 10 m = Nat.toDigits 10 n) : m = n := by
  have hm := Nat.ofDigitChars_ten_toDigits (n := m)
  rw [h, Nat.ofDigitChars_ten_toDigits] at hm
  exact hm.symm

theorem toList_ofNat (n : Nat) : (toString (Int.ofNat n)).toList = Nat.toDigits 10 n := Nat.toList_repr

theorem toList_negSucc (n : Nat) : (toString (Int.negSucc n)).toList = '-' :: Nat.toDigits 10 (n + 1) := by
  change ("-" ++ Nat.repr (n + 1)).toList = _
  rw [String.toList_append, Nat.toList_repr]
  rfl

theorem mem_toString {n : Int} {c : Char} (h : c ∈ (toString n).toList) : c.isDigit = true ∨ c = '-' := by
  cases n with
  | ofNat n =>
      rw [toList_ofNat] at h
      exact .inl (Nat.isDigit_of_mem_toDigits (by decide) (by decide) h)
  | negSucc n =>
      rw [toList_negSucc] at h
      rcases List.mem_cons.mp h with h | h
      · exact .inr h
      · exact .inl (Nat.isDigit_of_mem_toDigits (by decide) (by decide) h)

theorem minus_not_mem (n : Nat) : '-' ∉ Nat.toDigits 10 n := by
  intro h
  have hd := Nat.isDigit_of_mem_toDigits (by decide) (by decide) h
  cases hd

theorem toString_inj {m n : Int} (h : toString m = toString n) : m = n := by
  have hl := congrArg String.toList h
  cases m with
  | ofNat m =>
      cases n with
      | ofNat n => rw [toList_ofNat, toList_ofNat] at hl; rw [toDigits_inj hl]
      | negSucc n =>
          rw [toList_ofNat, toList_negSucc] at hl
          exact (minus_not_mem m (by rw [hl]; simp)).elim
  | negSucc m =>
      cases n with
      | ofNat n =>
          rw [toList_ofNat, toList_negSucc] at hl
          exact (minus_not_mem n (by rw [← hl]; simp)).elim
      | negSucc n =>
          rw [toList_negSucc, toList_negSucc] at hl
          have hd := toDigits_inj (List.cons.inj hl).2
          rw [Nat.succ_inj.mp hd]

theorem bar_not_mem (n : Int) : '|' ∉ (toString n).toList := by
  intro h
  rcases mem_toString h with h | h <;> cases h

theorem barred_inj {a b : String} {m n : Int} (h : a ++ "|" ++ toString m = b ++ "|" ++ toString n) :
    a = b ∧ m = n := by
  have htake : ∀ (c : String) (k : Int),
      ((c ++ "|" ++ toString k).toList.reverse.takeWhile (· != '|')).reverse = (toString k).toList := by
    intro c k
    have hall : ∀ x ∈ (toString k).toList.reverse, (x != '|') = true := by
      intro x hx
      rw [bne_iff_ne]
      rintro rfl
      exact bar_not_mem k (List.mem_reverse.mp hx)
    have hr : (c ++ "|" ++ toString k).toList.reverse =
        (toString k).toList.reverse ++ '|' :: c.toList.reverse := by simp
    rw [hr, List.takeWhile_append_of_pos hall, List.takeWhile_cons_of_neg (by simp), List.append_nil,
      List.reverse_reverse]
  have hn : m = n := by
    refine toString_inj (String.toList_injective ?_)
    rw [← htake a m, h, htake b n]
  subst hn
  exact ⟨by simpa using h, rfl⟩

end CatalogSearch.Numerals
