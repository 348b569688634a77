import CatalogSearch.Proofs.Query.Lexer

namespace CatalogSearch.Query.Unescaping

open Reader Text
open Lexer (escape_intercalate group_of_words)

/-- What stands between two marks with which a text begins and ends. -/
def enclosed? (opening closing : Char) : List Char → Option (List Char)
  | [] => none
  | c :: cs => if c = opening ∧ cs.getLast? = some closing then some cs.dropLast else none

/-- The words that free text is compiled to: those of its group, or the one that stands alone. -/
def spelledWords (text : List Char) : List (List Char) :=
  match enclosed? '(' ')' text with
  | some inner => (pieces ' ' inner).map removeEscapes
  | none => if text = [] then [] else [removeEscapes text]

/-- The text that filter text is compiled to, as a phrase or as a word that stands alone. -/
def spelledText (text : List Char) : List Char := removeEscapes ((enclosed? '"' '"' text).getD text)

variable {sep c opening : Char} {t : List Char}

theorem pieces_eq_splitOn (sep : Char) (cs : List Char) : pieces sep cs = cs.splitOn sep := by
  induction cs with
  | nil => rw [pieces, List.splitOn_nil]
  | cons c cs ih =>
      rw [pieces, List.splitOn_cons_eq_if_modifyHead, ← ih]
      by_cases hc : c = sep
      · rw [if_pos hc, if_pos (beq_iff_eq.mpr hc)]
      · rw [if_neg hc, if_neg (by simpa using hc)]
        split
        · next hp => exact absurd hp (pieces_ne_nil sep cs)
        · next p ps hp => rw [hp]; rfl

theorem pieces_intercalate {ws : List (List Char)} (hne : ws ≠ []) (h : ∀ w ∈ ws, sep ∉ w) :
    pieces sep ([sep].intercalate ws) = ws := by
  rw [pieces_eq_splitOn, List.splitOn_intercalate sep h hne]

theorem escape_injective : Function.Injective escape := Function.LeftInverse.injective removeEscapes_escape

theorem escapePhrase_injective : Function.Injective escapePhrase :=
  Function.LeftInverse.injective removeEscapes_escapePhrase

theorem mem_escape_iff (hb : c ≠ '\\') : c ∈ escape t ↔ c ∈ t := by
  fun_induction escape t with
  | case1 cs ih | case2 cs ih => simp [hb, ih]
  | case3 d cs _ _ hr ih => simp [hb, ih]
  | case4 d cs _ _ hr ih => simp [ih]
  | case5 => rfl

theorem pieces_escape (t : List Char) : pieces ' ' (escape t) = (pieces ' ' t).map escape := by
  have hne : (pieces ' ' t).map escape ≠ [] := by simpa using pieces_ne_nil ' ' t
  have hnone : ∀ w ∈ (pieces ' ' t).map escape, ' ' ∉ w := by
    simp only [List.forall_mem_map, mem_escape_iff (show ' ' ≠ '\\' by decide)]
    exact fun w hw => not_mem_of_mem_pieces hw
  calc pieces ' ' (escape t) = pieces ' ' (escape ([' '].intercalate (pieces ' ' t))) := by rw [intercalate_pieces]
    _ = pieces ' ' ([' '].intercalate ((pieces ' ' t).map escape)) := by rw [escape_intercalate]
    _ = (pieces ' ' t).map escape := pieces_intercalate hne hnone

theorem enclosed?_append (opening closing : Char) (inner : List Char) :
    enclosed? opening closing (opening :: (inner ++ [closing])) = some inner := by
  simp [enclosed?]

theorem enclosed?_escape (hr : opening ∈ reserved) (hb : opening ≠ '\\') (closing : Char) (t : List Char) :
    enclosed? opening closing (escape t) = none := by
  cases he : escape t with
  | nil => rfl
  | cons c cs =>
      refine if_neg ?_
      rintro ⟨rfl, -⟩
      exact escape_ne_reserved t cs hr hb he

theorem spelledWords_group (t : List Char) : spelledWords (group t) = words t := by
  by_cases hm : ' ' ∈ t
  -- spaces alone make no group, and no word is read from the empty text
  · by_cases hw : words t = []
    · have hnone : group t = [] := (group_eq_nil_iff t).mpr ((words_eq_nil_iff t).mp hw)
      rw [hnone, hw]
      rfl
    · have hpieces : pieces ' ' ([' '].intercalate (words t)) = words t :=
        pieces_intercalate hw fun w h => not_mem_of_mem_words h
      rw [group_of_words hm hw, spelledWords, enclosed?_append]
      simp only [pieces_escape, hpieces, List.map_map]
      exact List.map_id'' removeEscapes_escape (words t)
  · rw [group_of_not_mem hm, words_of_not_mem hm, spelledWords, enclosed?_escape (by decide) (by decide)]
    simp only [removeEscapes_escape]
    by_cases ht : t = []
    · rw [ht]
      rfl
    · rw [if_neg ht, if_neg fun he => ht (escape_eq_nil he)]

theorem spelledText_exactText (t : List Char) : spelledText (exactText t) = t := by
  rw [exactText, spelledText]
  split
  · rw [phrase, List.cons_append, enclosed?_append]
    exact removeEscapes_escapePhrase t
  · rw [enclosed?_escape (by decide) (by decide)]
    exact removeEscapes_escape t

/-- Every text is read back from its escaped forms. Free text without words is compiled to nothing, any other gives its
words in their order; filter text is read back whole. -/
theorem escaping_loses_nothing :
    (∀ t, removeEscapes (escape t) = t) ∧ (∀ t, removeEscapes (escapePhrase t) = t) ∧
    Function.Injective escape ∧ Function.Injective escapePhrase ∧
    (∀ t, (group t = [] ↔ ∀ c ∈ t, c = ' ') ∧ spelledWords (group t) = (pieces ' ' t).filter (· ≠ [])) ∧
    ∀ t, spelledText (exactText t) = t := by
  refine ⟨removeEscapes_escape, removeEscapes_escapePhrase, escape_injective, escapePhrase_injective,
    fun t => ⟨?_, spelledWords_group t⟩, spelledText_exactText⟩
  rw [group_eq_nil_iff, List.all_eq_true]
  simp only [beq_iff_eq]

example : spelledWords (group "a\\ (b  && c".toList) = ["a\\".toList, "(b".toList, "&&".toList, "c".toList] := by decide

end CatalogSearch.Query.Unescaping
