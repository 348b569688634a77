namespace CatalogSearch.Text

def pieces (sep : Char) : List Char → List (List Char)
  | [] => [[]]
  | c :: cs =>
      if c = sep then [] :: pieces sep cs
      else match pieces sep cs with
        | [] => [[c]]
        | p :: ps => (c :: p) :: ps

def replace (old new : Char) (cs : List Char) : List Char := cs.map fun c => if c = old then new else c

theorem pieces_ne_nil (sep : Char) (cs : List Char) : pieces sep cs ≠ [] := by
  cases cs with
  | nil => simp [pieces]
  | cons c cs =>
      rw [pieces]
      split
      · simp
      · split <;> simp

theorem intercalate_pieces (sep : Char) (cs : List Char) : [sep].intercalate (pieces sep cs) = cs := by
  induction cs with
  | nil => rfl
  | cons c cs ih =>
      rw [pieces]
      split
      · next h =>
          subst h
          cases hp : pieces c cs with
          | nil => exact absurd hp (pieces_ne_nil c cs)
          | cons p ps => rw [hp] at ih; simpa using ih
      · split
        · next hp => exact absurd hp (pieces_ne_nil sep cs)
        · next p ps hp =>
            rw [hp] at ih
            cases ps with
            | nil => simpa using ih
            | cons q qs => simpa using ih

theorem length_pieces (sep : Char) (cs : List Char) : (pieces sep cs).length = cs.count sep + 1 := by
  induction cs with
  | nil => rfl
  | cons c cs ih =>
      rw [pieces, List.count_cons]
      split
      · next h => subst h; simp [ih]
      · next h =>
          split
          · next hp => exact absurd hp (pieces_ne_nil sep cs)
          · next p ps hp => rw [hp] at ih; simpa [h] using ih

theorem one_lt_length_pieces (sep : Char) (cs : List Char) : (pieces sep cs).length > 1 ↔ sep ∈ cs := by
  rw [length_pieces, ← List.count_pos_iff]
  omega

theorem pieces_of_not_mem {sep : Char} {cs : List Char} (h : sep ∉ cs) : pieces sep cs = [cs] := by
  induction cs with
  | nil => rfl
  | cons c cs ih =>
      rw [List.mem_cons, not_or] at h
      rw [pieces, if_neg (Ne.symm h.1), ih h.2]

theorem not_mem_of_mem_pieces {sep : Char} {cs p : List Char} (h : p ∈ pieces sep cs) : sep ∉ p := by
  induction cs generalizing p with
  | nil => simp_all [pieces]
  | cons c cs ih =>
      rw [pieces] at h
      split at h
      · rcases List.mem_cons.mp h with rfl | h
        · simp
        · exact ih h
      · next hc =>
          split at h
          · simp_all
            exact Ne.symm hc
          · next q qs hq =>
              rw [hq] at ih
              rcases List.mem_cons.mp h with rfl | h
              · rw [List.mem_cons, not_or]
                exact ⟨Ne.symm hc, ih List.mem_cons_self⟩
              · exact ih (List.mem_cons_of_mem q h)

end CatalogSearch.Text
