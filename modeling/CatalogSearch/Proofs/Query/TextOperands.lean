import CatalogSearch.Proofs.Query.Lexer

namespace CatalogSearch.Query.Lexer

open Reader Text

/-- One operand: a word, a phrase or words between parentheses, and no operator among them. -/
inductive Operand : List Token → Prop where
  | word {w : List Char} : (Token.word w).isOperator = false → Operand [.word w]
  | phrase {p : List Char} : Operand [.phrase p]
  | group {inner : List Token} : (∀ token ∈ inner, token.isLoose = true ∧ token.isOperator = false) →
      Operand (.mark '(' :: inner ++ [.mark ')'])

/-- Tokens that ask one thing of a field and nothing else. -/
def Asks (field : List Char) (read : List Token) : Prop :=
  ∃ operand, read = .word field :: .mark ':' :: operand ∧ (Token.word field).isOperator = false ∧ Operand operand

def operatorWords : List (List Char) := ["AND".toList, "OR".toList, "NOT".toList]

variable {field t w rest : List Char} {operand : List Token}

theorem asks_iff : Asks field (.word field :: .mark ':' :: operand) ↔
    (Token.word field).isOperator = false ∧ Operand operand := by
  constructor
  · rintro ⟨other, he, hf, ho⟩
    cases he
    exact ⟨hf, ho⟩
  · rintro ⟨hf, ho⟩
    exact ⟨operand, rfl, hf, ho⟩

/-- The operators that are marks are escaped, those that are words are not. -/
theorem isOperator_escape (w : List Char) : (Token.word (escape w)).isOperator = true ↔ w ∈ operatorWords := by
  constructor
  · intro h
    have hm : escape w ∈ Conjuncts.operators := by simpa [Token.isOperator] using h
    have hw := removeEscapes_escape w
    simp only [Conjuncts.operators, List.mem_cons, List.not_mem_nil, or_false] at hm
    rcases hm with h | h | h | h | h <;> rw [h] at hw <;> subst hw
    · decide
    · decide
    · decide
    · exact absurd h (by decide)
    · exact absurd h (by decide)
  · have hall : ∀ w ∈ operatorWords, (Token.word (escape w)).isOperator = true := by decide
    exact hall w

theorem not_mem_of_isFieldName (hf : IsFieldName field) : ∀ c ∈ field, c ∉ '&' :: '|' :: stops := by
  have hall : ∀ c ∈ '&' :: '|' :: stops, isWord c = false := List.all_iff_forall_prop.mp (by decide +kernel)
  intro c hc hm
  have hw := hf.2 c hc
  rw [hall c hm] at hw
  cases hw

theorem escape_fieldName (hf : IsFieldName field) : escape field = field := by
  refine escape_eq_self fun c hc hm => not_mem_of_isFieldName hf c hc ?_
  rw [stops, ← List.cons_append, ← List.cons_append, List.mem_append]
  grind

theorem isOperator_fieldName (hf : IsFieldName field) : (Token.word field).isOperator = true ↔ field ∈ operatorWords := by
  rw [← isOperator_escape, escape_fieldName hf]

theorem lex_field (hf : IsFieldName field) (rest : List Char) :
    tokens (field ++ ':' :: rest) = (tokens rest).map (.word field :: .mark ':' :: ·) := by
  have hl : Literal stops field := by
    refine literal_of_forall fun c hc => ⟨?_, fun hm => not_mem_of_isFieldName hf c hc (by simp [hm])⟩
    rintro rfl
    exact not_mem_of_isFieldName hf _ hc (by decide)
  rw [tokens, lex_word_of_literal hl, List.nil_append, lex_mark (by decide) (by decide) (by decide), wordTokens, if_neg hf.1]
  rfl

theorem termsOf_intercalate (ws : List (List Char)) : termsOf ([' '].intercalate ws) = ws.flatMap termsOf := by
  induction ws with
  | nil => rfl
  | cons w ws ih =>
      cases ws with
      | nil => simp
      | cons v ws =>
          rw [List.intercalate_cons_cons, List.append_assoc, List.singleton_append, termsOf_append_separator (by decide),
            ih]
          rfl

theorem termsOf_words (t : List Char) : termsOf ([' '].intercalate (words t)) = termsOf t := by
  have hnil : termsOf [] = [] := rfl
  have hfilter (ws : List (List Char)) : (ws.filter (· ≠ [])).flatMap termsOf = ws.flatMap termsOf := by
    induction ws with
    | nil => rfl
    | cons w ws ih =>
        rw [List.filter_cons]
        split
        · rw [List.flatMap_cons, List.flatMap_cons, ih]
        · next hw =>
            have hw : w = [] := by simpa using hw
            rw [ih, List.flatMap_cons, hw, hnil, List.nil_append]
  rw [termsOf_intercalate, words, hfilter, ← termsOf_intercalate, intercalate_pieces]

theorem tokens_group (hm : ' ' ∈ t) (hb : allBlank t = false) : tokens (group t) =
    some (.mark '(' :: looseTokens [] ([' '].intercalate (words t)) ++ [.mark ')']) := by
  have hw : words t ≠ [] := by
    intro h
    rw [words_eq_nil_iff, List.all_eq_true] at h
    have hall : allBlank t = true := by
      refine List.all_eq_true.mpr fun c hc => ?_
      rw [beq_iff_eq.mp (h c hc)]
      decide
    rw [hall] at hb
    cases hb
  have hinner := (reads_escape ([' '].intercalate (words t))).mark (c := ')') (by decide) reads_nil
  have hall := reads_nil.mark (c := '(') (by decide) hinner
  rw [group_of_words hm hw]
  exact hall.tokens_eq

theorem operand_looseTokens_iff (ht : t ≠ []) :
    Operand (looseTokens [] t) ↔ (∀ c ∈ t, c ∉ separators) ∧ t ∉ operatorWords := by
  have hloose : ∀ token ∈ looseTokens [] t, token.isLoose = true := by
    intro token hm
    rcases mem_looseTokens.mp hm with ⟨w, -, rfl⟩ | ⟨c, -, -, rfl⟩ <;> rfl
  constructor
  · intro h
    generalize hread : looseTokens [] t = read at h
    cases h with
    | @word w ho =>
        have hnone : ∀ c ∈ t, c ∉ separators := by
          intro c hc hs
          have hm : Token.gap c ∈ looseTokens [] t := mem_looseTokens.mpr (.inr ⟨c, hc, hs, rfl⟩)
          rw [hread] at hm
          cases List.mem_singleton.mp hm
        rw [looseTokens_of_not_mem hnone, List.nil_append, wordTokens, if_neg fun h => ht (escape_eq_nil h)] at hread
        cases hread
        refine ⟨hnone, fun hm => ?_⟩
        rw [(isOperator_escape t).mpr hm] at ho
        cases ho
    | @phrase p => cases hloose (.phrase p) (by rw [hread]; exact List.mem_cons_self)
    | group => cases hloose (.mark '(') (by rw [hread]; exact List.mem_cons_self)
  · rintro ⟨hnone, ho⟩
    rw [looseTokens_of_not_mem hnone, List.nil_append, wordTokens, if_neg fun h => ht (escape_eq_nil h)]
    exact .word (Bool.eq_false_iff.mpr fun h => ho ((isOperator_escape t).mp h))

theorem operand_group_iff :
    Operand (.mark '(' :: looseTokens [] t ++ [.mark ')']) ↔ ∀ w ∈ termsOf t, w ∉ operatorWords := by
  constructor
  · intro h w hw hm
    generalize hread : .mark '(' :: looseTokens [] t ++ [.mark ')'] = read at h
    cases h with
    | word => cases (List.cons.inj hread).1
    | phrase => cases (List.cons.inj hread).1
    | group hinner =>
        have he := List.append_cancel_right (List.cons.inj hread).2
        have ho := (hinner (.word (escape w)) (he ▸ mem_looseTokens.mpr (.inl ⟨w, hw, rfl⟩))).2
        rw [(isOperator_escape w).mpr hm] at ho
        cases ho
  · intro h
    refine .group fun token hm => ?_
    rcases mem_looseTokens.mp hm with ⟨w, hw, rfl⟩ | ⟨c, -, -, rfl⟩
    · exact ⟨rfl, Bool.eq_false_iff.mpr fun ho => h w hw ((isOperator_escape w).mp ho)⟩
    · exact ⟨rfl, rfl⟩

theorem group_is_read (hb : allBlank t = false) : ∃ operand, tokens (group t) = some operand ∧
    operand.filterMap Token.said = termsOf t ∧
    (Operand operand ↔ (' ' ∈ t ∨ ∀ c ∈ t, c ∉ separators) ∧ ∀ w ∈ termsOf t, w ∉ operatorWords) := by
  have ht : t ≠ [] := by
    rintro rfl
    cases hb
  by_cases hm : ' ' ∈ t
  · refine ⟨_, tokens_group hm hb, ?_, ?_⟩
    · rw [List.cons_append, List.filterMap_cons_none rfl, List.filterMap_append, said_looseTokens, termsOf_words]
      exact List.append_nil _
    · rw [operand_group_iff, termsOf_words]
      simp [hm]
  · have hterms (hnone : ∀ c ∈ t, c ∉ separators) : termsOf t = [t] := by rw [termsOf_of_not_mem hnone, if_neg ht]
    rw [group_of_not_mem hm]
    refine ⟨_, (reads_escape t).tokens_eq, said_looseTokens t, ?_⟩
    rw [operand_looseTokens_iff ht]
    constructor
    · rintro ⟨hnone, ho⟩
      refine ⟨.inr hnone, fun w hw => ?_⟩
      rw [hterms hnone, List.mem_singleton] at hw
      rwa [hw]
    · rintro ⟨hnone, ho⟩
      have hnone := hnone.resolve_left hm
      exact ⟨hnone, ho t (by rw [hterms hnone]; exact List.mem_cons_self)⟩

theorem exactText_is_read (ht : t ≠ []) : ∃ operand, tokens (exactText t) = some operand ∧
    operand.filterMap Token.said = (if ' ' ∈ t then [t] else termsOf t) ∧
    (Operand operand ↔ ' ' ∈ t ∨ (∀ c ∈ t, c ∉ separators) ∧ t ∉ operatorWords) := by
  by_cases hm : ' ' ∈ t
  · rw [exactText, if_pos ((one_lt_length_pieces ' ' t).mpr hm), if_pos hm]
    refine ⟨_, (reads_phrase t).tokens_eq, ?_, ?_⟩
    · simp [Token.said, removeEscapes_escapePhrase]
    · simp [hm, Operand.phrase]
  · rw [exactText, if_neg fun h => hm ((one_lt_length_pieces ' ' t).mp h), if_neg hm]
    refine ⟨_, (reads_escape t).tokens_eq, said_looseTokens t, ?_⟩
    rw [operand_looseTokens_iff ht]
    simp [hm]

theorem fieldCondition_is_read {value : List Char} {operand : List Token} (hf : IsFieldName field)
    (hne : field ≠ categoryField.toList) (h : tokens value = some operand) :
    ∃ read, tokens (fieldCondition field value) = some read ∧
      read.filterMap Token.said = field :: operand.filterMap Token.said ∧
      (Asks field read ↔ field ∉ operatorWords ∧ Operand operand) := by
  have hfield : (Token.word field).isOperator = false ↔ field ∉ operatorWords := by
    rw [← isOperator_fieldName hf, Bool.not_eq_true]
  have hsaid : Token.said (.word field) = some field :=
    congrArg some ((congrArg removeEscapes (escape_fieldName hf)).symm.trans (removeEscapes_escape field))
  rw [fieldCondition, if_neg hne, lex_field hf, h]
  refine ⟨_, rfl, ?_, ?_⟩
  · rw [List.filterMap_cons_some hsaid]
    rfl
  · rw [asks_iff, hfield]

/-- Every word that is told is read as it is told, behind its field. Free text is one operand of the field if the engine
divides it only within parentheses and none of its words is an operator; a text that must be found as it is has no
condition if it becomes a phrase. -/
theorem texts_are_one_operand (hf : IsFieldName field) (hne : field ≠ categoryField.toList) (hb : allBlank t = false) :
    (∃ read, tokens (fieldCondition field (group t)) = some read ∧ read.filterMap Token.said = field :: termsOf t ∧
      (Asks field read ↔ field ∉ operatorWords ∧ (' ' ∈ t ∨ ∀ c ∈ t, c ∉ separators) ∧
        ∀ w ∈ termsOf t, w ∉ operatorWords)) ∧
    (∃ read, tokens (fieldCondition field (exactText t)) = some read ∧
      read.filterMap Token.said = field :: (if ' ' ∈ t then [t] else termsOf t) ∧
      (Asks field read ↔ field ∉ operatorWords ∧ (' ' ∈ t ∨ (∀ c ∈ t, c ∉ separators) ∧ t ∉ operatorWords))) := by
  have ht : t ≠ [] := by
    rintro rfl
    cases hb
  constructor
  · obtain ⟨operand, hread, hsaid, hone⟩ := group_is_read hb
    rw [← hone, ← hsaid]
    exact fieldCondition_is_read hf hne hread
  · obtain ⟨operand, hread, hsaid, hone⟩ := exactText_is_read ht
    rw [← hone, ← hsaid]
    exact fieldCondition_is_read hf hne hread

theorem blue_lamp_is_one_operand :
    (∃ read, tokens (fieldCondition "name".toList (group "blue\tOR(2) lamp".toList)) = some read ∧ Asks "name".toList read) ∧
      ∃ read, tokens (fieldCondition "name".toList (exactText "red OR".toList)) = some read ∧ Asks "name".toList read := by
  have hf : IsFieldName "name".toList := ⟨by decide, List.all_eq_true.mp (by decide)⟩
  obtain ⟨read, hread, -, hasks⟩ :=
    (texts_are_one_operand (t := "blue\tOR(2) lamp".toList) hf (by decide) (by decide)).1
  obtain ⟨exact, hexact, -, hexactly⟩ := (texts_are_one_operand (t := "red OR".toList) hf (by decide) (by decide)).2
  exact ⟨⟨read, hread, hasks.mpr ⟨by decide, .inl (by decide), by decide⟩⟩,
    ⟨exact, hexact, hexactly.mpr ⟨by decide, .inl (by decide)⟩⟩⟩

/-- Words that are operators stay operators, and a text that only other separators divide is not enclosed. -/
theorem operators_come_through :
    (∃ read, tokens (fieldCondition "name".toList (group "red OR blue".toList)) = some read ∧
      .word "OR".toList ∈ read ∧ ¬Asks "name".toList read) ∧
    ∃ read, tokens (fieldCondition "name".toList (exactText "red\tOR\tblue".toList)) = some read ∧
      .gap '\t' ∈ read ∧ .word "OR".toList ∈ read ∧ ¬Asks "name".toList read := by
  have hgroup : ¬Operand (.mark '(' :: looseTokens [] "red OR blue".toList ++ [.mark ')']) := by
    rw [operand_group_iff]
    decide
  have hloose : ¬Operand (looseTokens [] "red\tOR\tblue".toList) := by
    rw [operand_looseTokens_iff (by decide)]
    exact fun h => h.1 '\t' (by decide) (by decide)
  refine ⟨⟨_, by decide, by decide, fun h => hgroup (asks_iff.mp h).2⟩,
    ⟨_, by decide, by decide, by decide, fun h => hloose (asks_iff.mp h).2⟩⟩

end CatalogSearch.Query.Lexer
