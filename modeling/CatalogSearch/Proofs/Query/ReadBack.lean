import CatalogSearch.Proofs.Query.Reader
import Mathlib.Data.List.TakeDrop
import Mathlib.Tactic.Tauto

namespace CatalogSearch.Query.Reader

open Text

/-- What can stand behind an operand: nothing, a space or a closing bracket. -/
def Ends (rest : List Char) : Prop := ∀ c ∈ rest.head?, c ∈ [' ', ')', ']']

theorem ends_nil : Ends [] := by simp [Ends]

theorem ends_cons {c : Char} (rest : List Char) (h : c ∈ [' ', ')', ']']) : Ends (c :: rest) := by
  simpa [Ends] using h

theorem ends_append {sep : List Char} (rest : List Char) (h : sep.head? = some ' ') : Ends (sep ++ rest) := by
  cases sep with
  | nil => cases h
  | cons c cs => exact ends_cons _ (by simp_all)

theorem readWord_of_ends {rest : List Char} (h : Ends rest) : readWord rest = ([], rest) := by
  rcases rest with _ | ⟨c, _ | ⟨d, rest⟩⟩
  · rfl
  · have hc : c ∈ marks := by have := h c rfl; simp only [marks]; grind
    simp [readWord, hc]
  · have hm : c ∈ marks := by have := h c rfl; simp only [marks]; grind
    have hb : c ≠ '\\' := by rintro rfl; simp [marks] at hm
    simp [readWord, hm, hb]

theorem readWord_backslash (c : Char) (cs : List Char) :
    readWord ('\\' :: c :: cs) = (c :: (readWord cs).1, (readWord cs).2) := by simp [readWord]

theorem readWord_cons {c : Char} (cs : List Char) (hb : c ≠ '\\') (hm : c ∉ marks) :
    readWord (c :: cs) = (c :: (readWord cs).1, (readWord cs).2) := by
  cases cs <;> simp [readWord, hb, hm]

theorem not_mem_marks {c : Char} (hs : c ≠ ' ') (hr : c ∉ reserved) : c ∉ marks := by
  simp only [marks, reserved, List.mem_cons, List.not_mem_nil, or_false, not_or] at hr ⊢
  tauto

theorem readWord_escape (t rest : List Char) (hs : ' ' ∉ t) (he : Ends rest) :
    readWord (escape t ++ rest) = (t, rest) := by
  fun_induction escape t with
  | case1 cs ih =>
      have h := ih (fun hm => hs (by simp [hm]))
      simp only [List.cons_append]
      rw [readWord_backslash, readWord_cons _ (by decide) (by decide), h]
  | case2 cs ih =>
      have h := ih (fun hm => hs (by simp [hm]))
      simp only [List.cons_append]
      rw [readWord_backslash, readWord_cons _ (by decide) (by decide), h]
  | case3 c cs _ _ hc ih =>
      have h := ih (fun hm => hs (by simp [hm]))
      simp only [List.cons_append]
      rw [readWord_backslash, h]
  | case4 c cs _ _ hc ih =>
      have h := ih (fun hm => hs (by simp [hm]))
      have hb : c ≠ '\\' := by rintro rfl; exact hc (by decide)
      have hm := not_mem_marks (by rintro rfl; simp at hs) hc
      rw [List.cons_append, readWord_cons _ hb hm, h]
  | case5 => exact readWord_of_ends he

theorem readPhrase_escapePhrase (t rest : List Char) :
    readPhrase (escapePhrase t ++ '"' :: rest) = some (t, rest) := by
  induction t with
  | nil => cases rest <;> simp [escapePhrase, readPhrase]
  | cons c t ih =>
      rw [escapePhrase]
      split
      · next hc => simp [readPhrase, ih]
      · next hc =>
          obtain ⟨d, ds, hd⟩ : ∃ d ds, escapePhrase t ++ '"' :: rest = d :: ds := by
            cases escapePhrase t <;> simp
          rw [not_or] at hc
          rw [hd] at ih
          simp [hd, readPhrase, hc, ih]

theorem escape_ne_reserved (t cs : List Char) {c : Char} (hr : c ∈ reserved) (hb : c ≠ '\\') : escape t ≠ c :: cs := by
  fun_cases escape t with
  | case1 | case2 | case3 | case5 => simp [Ne.symm hb]
  | case4 d ds _ _ hd =>
      rintro ⟨⟩
      exact hd hr

theorem exactText_ne_bracket (t cs : List Char) : exactText t ≠ '[' :: cs := by
  rw [exactText]
  split
  · simp [phrase]
  · exact escape_ne_reserved t cs (by decide) (by decide)

theorem readExact_exactText (t rest : List Char) (he : Ends rest) :
    readExact (exactText t ++ rest) = some (t, rest) := by
  rw [exactText]
  split
  · simp [phrase, readExact, readPhrase_escapePhrase]
  · next h =>
      rw [one_lt_length_pieces] at h
      have hw := readWord_escape t rest h he
      rw [readExact, hw]
      intro cs hc
      cases ht : escape t with
      | nil => rw [ht, List.nil_append] at hc; subst hc; simp [Ends] at he
      | cons c ds =>
          rw [ht, List.cons_append, List.cons.injEq] at hc
          exact escape_ne_reserved t ds (c := '"') (by decide) (by decide) (by rw [ht, hc.1])

theorem after?_append (start rest : List Char) : after? start (start ++ rest) = some rest := by
  simp [after?, List.isPrefixOf_iff_prefix]

theorem after?_cons_of_ne {c d : Char} (start rest : List Char) (h : c ≠ d) :
    after? (c :: start) (d :: rest) = none := by
  simp [after?, h]

def IsFieldName (field : List Char) : Prop := field ≠ [] ∧ ∀ c ∈ field, isWord c

theorem IsFieldName.exists_cons {field : List Char} (h : IsFieldName field) :
    ∃ c cs, field = c :: cs ∧ c ≠ '(' := by
  obtain ⟨hn, hw⟩ := h
  cases field with
  | nil => exact absurd rfl hn
  | cons c cs =>
      refine ⟨c, cs, rfl, ?_⟩
      rintro rfl
      exact absurd (hw '(' (by simp)) (by decide)

theorem readField_append {field : List Char} (h : IsFieldName field) (rest : List Char) :
    readField (field ++ ':' :: rest) = some (field, rest) := by
  obtain ⟨hn, hw⟩ := h
  have ht : (field ++ ':' :: rest).takeWhile isWord = field := by
    rw [List.takeWhile_append_of_pos hw, List.takeWhile_cons_of_neg (by decide), List.append_nil]
  have hd : (field ++ ':' :: rest).dropWhile isWord = ':' :: rest := by
    rw [List.dropWhile_append_of_pos hw, List.dropWhile_cons_of_neg (by decide)]
  have ha := after?_append [':'] rest
  rw [List.singleton_append] at ha
  simp only [readField, List.span_eq_takeWhile_dropWhile, ht, hd, hn, if_false, ha, Option.map_some]

section Clauses

variable {α β : Type} {readOperand : List Char → Option (α × List Char)}

/-- A text that reads as an operand wherever one can end. -/
def IsOperand (readOperand : List Char → Option (α × List Char)) (text : List Char) (v : α) : Prop :=
  ∀ rest, Ends rest → readOperand (text ++ rest) = some (v, rest)

/-- A text that reads as a clause wherever an operand can end. -/
def IsClause (readOperand : List Char → Option (α × List Char)) (text : List Char) (c : Clause α) : Prop :=
  ∀ n rest, text.length < n → Ends rest → readClause readOperand n (text ++ rest) = some (c, rest)

theorem readClause_field {field : List Char} (h : IsFieldName field) (n : Nat) (rest : List Char) :
    readClause readOperand (n + 1) (field ++ rest) = readSimple readOperand (field ++ rest) := by
  obtain ⟨c, cs, rfl, hc⟩ := h.exists_cons
  rw [readClause, List.cons_append, after?_cons_of_ne _ _ (Ne.symm hc)]

theorem isClause_holds {field text : List Char} {v : α} (hf : IsFieldName field) (hv : IsOperand readOperand text v)
    (hb : ∀ cs, text ≠ '[' :: cs) : IsClause readOperand (field ++ ':' :: text) (.holds field v) := by
  intro n rest hn he
  obtain ⟨n, rfl⟩ : ∃ m, n = m + 1 := ⟨n - 1, by omega⟩
  have ha : after? ['['] (text ++ rest) = none := by
    cases text with
    | nil =>
        cases rest with
        | nil => rfl
        | cons c rest => exact after?_cons_of_ne _ _ (by rintro rfl; simp [Ends] at he)
    | cons c cs => exact after?_cons_of_ne _ _ (by rintro rfl; exact hb cs rfl)
  rw [List.append_assoc, List.cons_append, readClause_field hf, readSimple, readField_append hf]
  simp [ha, hv rest he]

theorem isClause_within {field lower upper : List Char} {v w : α} (hf : IsFieldName field)
    (hv : IsOperand readOperand lower v) (hw : IsOperand readOperand upper w) :
    IsClause readOperand (field ++ ':' :: '[' :: lower ++ " TO ".toList ++ upper ++ [']']) (.within field v w) := by
  intro n rest hn he
  obtain ⟨n, rfl⟩ : ∃ m, n = m + 1 := ⟨n - 1, by omega⟩
  have hl := hv (" TO ".toList ++ (upper ++ (']' :: rest))) (ends_append _ rfl)
  have hu := hw (']' :: rest) (ends_cons _ (by simp))
  have hs := after?_append [']'] rest
  have ht : field ++ ':' :: '[' :: lower ++ " TO ".toList ++ upper ++ [']'] ++ rest =
      field ++ ':' :: '[' :: (lower ++ (" TO ".toList ++ (upper ++ (']' :: rest)))) := by simp
  rw [List.singleton_append] at hs
  rw [ht, readClause_field hf, readSimple, readField_append hf]
  simp only [Option.bind_eq_bind, Option.bind_some]
  rw [show '[' :: (lower ++ _) = ['['] ++ (lower ++ (" TO ".toList ++ (upper ++ (']' :: rest)))) from rfl,
    after?_append]
  simp only [readRange, hl, Option.bind_eq_bind, Option.bind_some, after?_append, hu, hs]
  rfl

theorem readParts_intercalate (f : β → List Char) (g : β → Clause α) (x : β) (xs : List β)
    (h : ∀ y ∈ x :: xs, IsClause readOperand (f y) (g y)) (n : Nat) (rest : List Char)
    (hn : (" OR ".toList.intercalate ((x :: xs).map f)).length + 1 < n) :
    readParts readOperand n (" OR ".toList.intercalate ((x :: xs).map f) ++ ')' :: rest) =
      some ((x :: xs).map g, rest) := by
  induction xs generalizing x n with
  | nil =>
      obtain ⟨n, rfl⟩ : ∃ m, n = m + 1 := ⟨n - 1, by omega⟩
      simp only [List.map_cons, List.map_nil, List.intercalate_singleton] at hn ⊢
      have hx := h x (by simp) n (')' :: rest) (by omega) (ends_cons _ (by simp))
      have hs := after?_append [')'] rest
      rw [List.singleton_append] at hs
      have ho : after? " OR ".toList (')' :: rest) = none := rfl
      rw [readParts, hx]
      simp only [Option.bind_eq_bind, Option.bind_some]
      rw [ho, hs]
      rfl
  | cons y ys ih =>
      obtain ⟨n, rfl⟩ : ∃ m, n = m + 1 := ⟨n - 1, by omega⟩
      rw [List.map_cons, List.map_cons, List.intercalate_cons_cons] at hn ⊢
      simp only [List.length_append] at hn
      have hsep : 2 ≤ " OR ".toList.length := by decide
      have hx := h x (by simp) n (" OR ".toList ++ (" OR ".toList.intercalate (f y :: ys.map f) ++ ')' :: rest))
        (by omega) (ends_append _ rfl)
      have hy := ih y (fun z hz => h z (by simp_all)) n (by rw [List.map_cons]; omega)
      rw [List.map_cons] at hy
      rw [List.append_assoc, List.append_assoc, readParts, hx]
      simp only [Option.bind_eq_bind, Option.bind_some, after?_append, hy]
      rfl

theorem isClause_either (f : β → List Char) (g : β → Clause α) (xs : List β) (hne : xs ≠ [])
    (h : ∀ x ∈ xs, IsClause readOperand (f x) (g x)) :
    IsClause readOperand ('(' :: " OR ".toList.intercalate (xs.map f) ++ [')']) (.either (xs.map g)) := by
  intro n rest hn he
  obtain ⟨n, rfl⟩ : ∃ m, n = m + 1 := ⟨n - 1, by omega⟩
  cases xs with
  | nil => exact absurd rfl hne
  | cons x xs =>
      have hp := readParts_intercalate f g x xs h n rest (by simp at hn ⊢; omega)
      have ha := after?_append ['('] (" OR ".toList.intercalate ((x :: xs).map f) ++ ')' :: rest)
      rw [List.singleton_append] at ha
      rw [List.append_assoc, List.cons_append, List.singleton_append, readClause, ha]
      simp only [hp, Option.map_some]

theorem IsClause.ne_nil {text : List Char} {c : Clause α} (h : IsClause readOperand text c) : text ≠ [] := by
  rintro rfl
  have hr := h 1 [' '] (by simp) (ends_cons _ (by simp))
  simp [readClause, readSimple, after?, readField, List.span_eq_takeWhile_dropWhile,
    show isWord ' ' = false by decide] at hr

theorem readConjuncts_intercalate (f : β → List Char) (g : β → Clause α) (x : β) (xs : List β)
    (h : ∀ y ∈ x :: xs, IsClause readOperand (f y) (g y)) (n : Nat)
    (hn : (conjunction ((x :: xs).map f)).length + 1 < n) :
    readConjuncts readOperand n (conjunction ((x :: xs).map f)) = some ((x :: xs).map g) := by
  induction xs generalizing x n with
  | nil =>
      obtain ⟨n, rfl⟩ : ∃ m, n = m + 1 := ⟨n - 1, by omega⟩
      simp only [conjunction, List.map_cons, List.map_nil, List.intercalate_singleton] at hn ⊢
      have hx := h x (by simp) n [] (by omega) ends_nil
      rw [List.append_nil] at hx
      simp [readConjuncts, hx]
  | cons y ys ih =>
      obtain ⟨n, rfl⟩ : ∃ m, n = m + 1 := ⟨n - 1, by omega⟩
      rw [conjunction, List.map_cons, List.map_cons, List.intercalate_cons_cons] at hn ⊢
      simp only [List.length_append] at hn
      have hsep : 2 ≤ " AND ".toList.length := by decide
      have hne (rest : List Char) : " AND ".toList ++ rest ≠ [] := by
        intro he
        rw [List.append_eq_nil_iff] at he
        exact absurd he.1 (by decide)
      have hx := h x (by simp) n (" AND ".toList ++ " AND ".toList.intercalate (f y :: ys.map f))
        (by omega) (ends_append _ rfl)
      have hy := ih y (fun z hz => h z (by simp_all)) n (by rw [conjunction, List.map_cons]; omega)
      rw [conjunction, List.map_cons] at hy
      rw [List.append_assoc, readConjuncts, hx]
      simp only [Option.bind_eq_bind, Option.bind_some, hne, if_false, after?_append, hy]
      rfl

theorem readText_conjunction (f : β → List Char) (g : β → Clause α) (xs : List β)
    (h : ∀ x ∈ xs, IsClause readOperand (f x) (g x)) :
    readText readOperand (conjunction (xs.map f)) = some (xs.map g) := by
  cases xs with
  | nil => rfl
  | cons x xs =>
      have hx := (h x (by simp)).ne_nil
      have hne : conjunction ((x :: xs).map f) ≠ [] := by
        cases xs with
        | nil => simpa [conjunction] using hx
        | cons y ys => rw [conjunction, List.map_cons, List.map_cons, List.intercalate_cons_cons]; simp [hx]
      rw [readText, if_neg hne]
      exact readConjuncts_intercalate f g x xs h _ (by omega)

end Clauses

def condition (field text : List Char) : Clause (List Char) :=
  if field = categoryField.toList then .either [.holds categoryField.toList text, .holds shownField.toList text]
  else .holds field text

def clauseOf (field : List Char) : Criterion → Clause (List Char)
  | .equals text => condition field text
  | .anyOf texts => .either (texts.map (condition field))
  | .between lower upper => .within field lower upper

theorem isFieldName_shown : IsFieldName shownField.toList :=
  ⟨by decide, List.all_eq_true.mp (by decide)⟩

theorem isClause_condition {readOperand : List Char → Option (List Char × List Char)} {field text v : List Char}
    (hf : IsFieldName field) (hv : IsOperand readOperand text v) (hb : ∀ cs, text ≠ '[' :: cs) :
    IsClause readOperand (fieldCondition field text) (condition field v) := by
  have hh {name : List Char} (hn : IsFieldName name) := isClause_holds hn hv hb
  rw [fieldCondition, condition]
  split
  · next hc =>
      subst hc
      have he := isClause_either (fun name => name ++ ':' :: text) (fun name => .holds name v)
        [categoryField.toList, shownField.toList] (by simp)
        (by simp only [List.mem_cons, List.not_mem_nil, or_false]; rintro x (rfl | rfl)
            · exact hh hf
            · exact hh isFieldName_shown)
      simpa only [List.map_cons, List.map_nil, List.intercalate_cons_cons, List.intercalate_singleton,
        List.append_assoc, List.cons_append] using he
  · exact hh hf

theorem isClause_filterClause {field : List Char} (hf : IsFieldName field) (c : Criterion) (hc : c ≠ .anyOf []) :
    IsClause readExact (c.filterClause field) (clauseOf field c) := by
  have ht (text : List Char) : IsClause readExact (fieldCondition field (exactText text)) (condition field text) :=
    isClause_condition hf (readExact_exactText text) (exactText_ne_bracket text)
  cases c with
  | equals text => exact ht text
  | anyOf texts =>
      exact isClause_either _ (condition field) texts (by rintro rfl; exact hc rfl) fun text _ => ht text
  | between lower upper => exact isClause_within hf (readExact_exactText lower) (readExact_exactText upper)

theorem scalar?_condition (field text : List Char) : scalar? (condition field text) = some (field, text) := by
  rw [condition]
  split
  · next h => simp [scalar?, h]
  · rfl

theorem scalar?_either (field : List Char) (texts : List (List Char)) :
    scalar? (.either (texts.map (condition field))) = none := by
  by_cases hf : field = categoryField.toList
  · rcases texts with _ | ⟨t, _ | ⟨u, _ | ⟨v, texts⟩⟩⟩ <;> simp [scalar?, condition, hf]
  · rcases texts with _ | ⟨t, _ | ⟨u, _ | ⟨v, texts⟩⟩⟩ <;> simp [scalar?, condition, hf]

theorem mapM_scalar?_condition (field : List Char) (texts : List (List Char)) :
    (texts.map (condition field)).mapM scalar? = some (texts.map (field, ·)) := by
  induction texts with
  | nil => rfl
  | cons t texts ih => simp [scalar?_condition, ih]

theorem asked?_clauseOf (field : List Char) (c : Criterion) (hc : c ≠ .anyOf []) :
    asked? (clauseOf field c) = some (field, c) := by
  cases c with
  | equals text => simp [asked?, clauseOf, scalar?_condition]
  | between lower upper => rfl
  | anyOf texts =>
      cases texts with
      | nil => exact absurd rfl hc
      | cons t texts =>
          have hn := scalar?_either field (t :: texts)
          have hm := mapM_scalar?_condition field (t :: texts)
          simp only [asked?, clauseOf, hn, hm, Option.bind_eq_bind, Option.bind_some]
          simp [Function.comp_def]

theorem mapM_asked?_clauseOf (asked : List (List Char × Criterion)) (h : ∀ a ∈ asked, a.2 ≠ .anyOf []) :
    (asked.map fun a => clauseOf a.1 a.2).mapM asked? = some asked := by
  induction asked with
  | nil => rfl
  | cons a as ih =>
      have ha := asked?_clauseOf a.1 a.2 (h a (by simp))
      have has := ih (fun b hb => h b (by simp [hb]))
      rw [List.map_cons, List.mapM_cons, ha, has]
      rfl

theorem readFilters_conjunction (asked : List (List Char × Criterion))
    (h : ∀ a ∈ asked, IsFieldName a.1 ∧ a.2 ≠ .anyOf []) :
    readFilters (conjunction (asked.map fun a => a.2.filterClause a.1)) = some asked := by
  have ht : readText readExact _ = _ := readText_conjunction (fun a => Criterion.filterClause a.1 a.2)
    (fun a => clauseOf a.1 a.2) asked fun a ha => isClause_filterClause (h a ha).1 a.2 (h a ha).2
  rw [readFilters, ht]
  exact mapM_asked?_clauseOf asked fun a ha => (h a ha).2

end CatalogSearch.Query.Reader
