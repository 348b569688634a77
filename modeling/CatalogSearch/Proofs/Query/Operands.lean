import CatalogSearch.Proofs.Query.ReadBack

namespace CatalogSearch.Query.Reader

open Text

/-- A text up to the first of some characters that no backslash stands before, as it is spelled, and the rest. -/
def readUntil (stops : List Char) : List Char → List Char × List Char
  | '\\' :: c :: cs => ('\\' :: c :: (readUntil stops cs).1, (readUntil stops cs).2)
  | c :: cs => if c ∈ stops then ([], c :: cs) else (c :: (readUntil stops cs).1, (readUntil stops cs).2)
  | [] => ([], [])

def readEnclosed (opening closing : Char) (cs : List Char) : Option (List Char × List Char) :=
  (after? [closing] (readUntil [closing] cs).2).map (opening :: (readUntil [closing] cs).1 ++ [closing], ·)

/-- An operand as it is spelled: a star, a group of words, a phrase or a single word. -/
def readSpelled : List Char → Option (List Char × List Char)
  | '*' :: cs => some (['*'], cs)
  | '(' :: cs => readEnclosed '(' ')' cs
  | '"' :: cs => readEnclosed '"' '"' cs
  | cs => some (readUntil marks cs)

def prepend (c : Char) : List (List Char) → List (List Char)
  | [] => [[c]]
  | word :: words => (c :: word) :: words

def readWords : List Char → List (List Char)
  | '\\' :: c :: cs => prepend c (readWords cs)
  | c :: cs => if c = ' ' then [] :: readWords cs else prepend c (readWords cs)
  | [] => [[]]

def wordsOf : List Char → List (List Char)
  | [] => []
  | '(' :: cs => readWords cs.dropLast
  | cs => readWords cs

def textOf : List Char → List Char
  | '"' :: cs => removeEscapes cs.dropLast
  | cs => removeEscapes cs

/-- A text in which a backslash stands before each of some characters. -/
inductive Literal (stops : List Char) : List Char → Prop where
  | nil : Literal stops []
  | plain {c : Char} {cs : List Char} : c ≠ '\\' → c ∉ stops → Literal stops cs → Literal stops (c :: cs)
  | escaped (c : Char) {cs : List Char} : Literal stops cs → Literal stops ('\\' :: c :: cs)

variable {stops : List Char} {cs ds t : List Char}

theorem Literal.append (h : Literal stops cs) (hd : Literal stops ds) : Literal stops (cs ++ ds) := by
  induction h with
  | nil => exact hd
  | plain hb hs _ ih => exact .plain hb hs ih
  | escaped c _ ih => exact .escaped c ih

theorem literal_of_forall (h : ∀ c ∈ cs, c ≠ '\\' ∧ c ∉ stops) : Literal stops cs := by
  induction cs with
  | nil => exact .nil
  | cons c cs ih =>
      obtain ⟨hb, hs⟩ := h c List.mem_cons_self
      exact .plain hb hs (ih fun d hd => h d (List.mem_cons_of_mem c hd))

theorem literal_escape (h : ∀ c ∈ t, c ∈ stops → c ∈ reserved) (ha : '&' ∉ stops) (hp : '|' ∉ stops) :
    Literal stops (escape t) := by
  fun_induction escape t with
  | case1 cs ih => exact .escaped _ (.plain (by decide) ha (ih fun c hc => h c (by simp [hc])))
  | case2 cs ih => exact .escaped _ (.plain (by decide) hp (ih fun c hc => h c (by simp [hc])))
  | case3 c cs _ _ hr ih => exact .escaped c (ih fun d hd => h d (by simp [hd]))
  | case4 c cs _ _ hr ih =>
      refine .plain ?_ (fun hs => hr (h c List.mem_cons_self hs)) (ih fun d hd => h d (by simp [hd]))
      rintro rfl
      exact hr (by decide)
  | case5 => exact .nil

theorem literal_escapePhrase (t : List Char) : Literal ['"'] (escapePhrase t) := by
  induction t with
  | nil => exact .nil
  | cons c t ih =>
      rw [escapePhrase]
      split
      · exact .escaped c ih
      · next hc =>
          rw [not_or] at hc
          exact .plain hc.2 (by simpa using hc.1) ih

theorem readUntil_append (h : Literal stops cs) (rest : List Char) :
    readUntil stops (cs ++ rest) = (cs ++ (readUntil stops rest).1, (readUntil stops rest).2) := by
  induction h with
  | nil => rfl
  | @plain c cs hb hs _ ih =>
      rw [List.cons_append, readUntil, if_neg hs, ih]
      · rfl
      · intro d ds hc
        exact (hb hc).elim
  | escaped c _ ih => rw [List.cons_append, List.cons_append, readUntil, ih]; rfl

theorem readUntil_of_stop {c : Char} (hc : c ∈ stops) (hb : c ≠ '\\') (rest : List Char) :
    readUntil stops (c :: rest) = ([], c :: rest) := by
  rw [readUntil, if_pos hc]
  intro d ds he
  exact (hb he).elim

theorem readUntil_of_ends {rest : List Char} (h : Ends rest) : readUntil marks rest = ([], rest) := by
  cases rest with
  | nil => rfl
  | cons c rest =>
      have hc := h c rfl
      have hm : c ∈ marks := by simp only [marks]; grind
      refine readUntil_of_stop hm ?_ rest
      rintro rfl
      exact absurd hm (by decide)

theorem readEnclosed_append {opening closing : Char} (h : Literal [closing] cs) (hb : closing ≠ '\\')
    (rest : List Char) :
    readEnclosed opening closing (cs ++ closing :: rest) = some (opening :: cs ++ [closing], rest) := by
  have ha := after?_append [closing] rest
  rw [List.singleton_append] at ha
  rw [readEnclosed, readUntil_append h, readUntil_of_stop (by simp) hb, ha, List.append_nil]
  rfl

theorem literal_words {ws : List (List Char)} (hs : ' ' ∉ stops) (hb : ∀ c ∈ stops, c ∈ reserved) :
    Literal stops ([' '].intercalate (ws.map escape)) := by
  have ha : '&' ∉ stops := fun h => absurd (hb _ h) (by decide)
  have hp : '|' ∉ stops := fun h => absurd (hb _ h) (by decide)
  have hw : ∀ w, Literal stops (escape w) := fun w => literal_escape (fun c _ hc => hb c hc) ha hp
  induction ws with
  | nil => exact .nil
  | cons w ws ih =>
      cases ws with
      | nil =>
          rw [List.map_singleton, List.intercalate_singleton]
          exact hw w
      | cons v ws =>
          rw [List.map_cons, List.map_cons, List.intercalate_cons_cons]
          exact ((hw w).append (.plain (by decide) hs .nil)).append ih

theorem foldr_prepend (w v : List Char) (vs : List (List Char)) : w.foldr prepend (v :: vs) = (w ++ v) :: vs := by
  induction w with
  | nil => rfl
  | cons c w ih => rw [List.foldr_cons, ih]; rfl

theorem readWords_cons {c : Char} (hb : c ≠ '\\') (hs : c ≠ ' ') (cs : List Char) :
    readWords (c :: cs) = prepend c (readWords cs) := by
  rw [readWords, if_neg hs]
  intro d ds he
  exact (hb he).elim

theorem readWords_escape (w cs : List Char) (hs : ' ' ∉ w) :
    readWords (escape w ++ cs) = w.foldr prepend (readWords cs) := by
  fun_induction escape w with
  | case1 w ih =>
      have h := ih (fun hm => hs (by simp [hm]))
      rw [List.cons_append, List.cons_append, List.cons_append, readWords, readWords_cons (by decide) (by decide), h]
      rfl
  | case2 w ih =>
      have h := ih (fun hm => hs (by simp [hm]))
      rw [List.cons_append, List.cons_append, List.cons_append, readWords, readWords_cons (by decide) (by decide), h]
      rfl
  | case3 c w _ _ hr ih =>
      rw [List.cons_append, List.cons_append, readWords, ih (fun hm => hs (by simp [hm]))]
      rfl
  | case4 c w _ _ hr ih =>
      have hb : c ≠ '\\' := by rintro rfl; exact hr (by decide)
      have hc : c ≠ ' ' := by rintro rfl; simp at hs
      rw [List.cons_append, readWords_cons hb hc, ih (fun hm => hs (by simp [hm]))]
      rfl
  | case5 => rfl

theorem readWords_intercalate {ws : List (List Char)} (hne : ws ≠ []) (hs : ∀ w ∈ ws, ' ' ∉ w) :
    readWords ([' '].intercalate (ws.map escape)) = ws := by
  induction ws with
  | nil => exact absurd rfl hne
  | cons w ws ih =>
      have hw := hs w List.mem_cons_self
      cases ws with
      | nil =>
          have hr := readWords_escape w [] hw
          rw [List.append_nil] at hr
          rw [List.map_singleton, List.intercalate_singleton, hr, readWords, foldr_prepend, List.append_nil]
      | cons v ws =>
          have hrest := ih (List.cons_ne_nil v ws) fun u hu => hs u (List.mem_cons_of_mem w hu)
          rw [List.map_cons] at hrest
          rw [List.map_cons, List.map_cons, List.intercalate_cons_cons, List.append_assoc, List.singleton_append,
            readWords_escape w _ hw, readWords, if_pos rfl, hrest, foldr_prepend, List.append_nil]
          · intro d ds he
            exact absurd he (by decide)

theorem words_of_not_mem (h : ' ' ∉ t) : words t = if t = [] then [] else [t] := by
  rw [words, pieces_of_not_mem h]
  by_cases ht : t = [] <;> simp [ht]

theorem not_mem_of_mem_words {w : List Char} (h : w ∈ words t) : ' ' ∉ w :=
  not_mem_of_mem_pieces (List.mem_filter.mp h).1

theorem removeEscapes_cons {c : Char} (hb : c ≠ '\\') (cs : List Char) :
    removeEscapes (c :: cs) = c :: removeEscapes cs := by
  rw [removeEscapes]
  intro d ds he
  exact (hb he).elim

theorem removeEscapes_escape (t : List Char) : removeEscapes (escape t) = t := by
  fun_induction escape t with
  | case1 cs ih | case2 cs ih => rw [removeEscapes, removeEscapes_cons (by decide), ih]
  | case3 c cs _ _ _ ih => rw [removeEscapes, ih]
  | case4 c cs _ _ hr ih =>
      have hb : c ≠ '\\' := by rintro rfl; exact hr (by decide)
      rw [removeEscapes_cons hb, ih]
  | case5 => rfl

theorem escape_eq_nil (h : escape t = []) : t = [] := by
  cases t with
  | nil => rfl
  | cons c cs =>
      have hr := removeEscapes_escape (c :: cs)
      rw [h] at hr
      cases hr

theorem wordsOf_group (t : List Char) : wordsOf (group t) = words t := by
  by_cases hm : ' ' ∈ t
  · rw [group, if_pos ((one_lt_length_pieces ' ' t).mpr hm)]
    cases hw : words t with
    | nil => rfl
    | cons w ws =>
        have hs : ∀ v ∈ w :: ws, ' ' ∉ v := fun v hv => not_mem_of_mem_words (hw ▸ hv)
        simp only [wordsOf, List.cons_append, List.dropLast_concat]
        exact readWords_intercalate (List.cons_ne_nil w ws) hs
  · have hr := readWords_escape t [] hm
    rw [List.append_nil, readWords, foldr_prepend, List.append_nil] at hr
    rw [group, if_neg (fun h => hm ((one_lt_length_pieces ' ' t).mp h)), words_of_not_mem hm]
    split
    · next ht => rw [ht]; rfl
    · next ht =>
        unfold wordsOf
        split
        · next he => exact absurd (escape_eq_nil he) ht
        · next cs he => exact absurd he (escape_ne_reserved t cs (by decide) (by decide))
        · exact hr

theorem words_eq_nil_iff (t : List Char) : words t = [] ↔ t.all (· == ' ') = true := by
  rw [words, List.filter_eq_nil_iff]
  induction t with
  | nil => simp [pieces]
  | cons c t ih =>
      rw [pieces, List.all_cons]
      split
      · next hc => simpa [hc] using ih
      · next hc =>
          split <;> simp [hc]

theorem group_eq_nil_iff (t : List Char) : group t = [] ↔ t.all (· == ' ') = true := by
  rw [← words_eq_nil_iff]
  constructor
  · intro h
    rw [← wordsOf_group, h]
    rfl
  · intro h
    by_cases hm : ' ' ∈ t
    · rw [group, if_pos ((one_lt_length_pieces ' ' t).mpr hm), h]
    · rw [words_of_not_mem hm] at h
      split at h
      · next ht => rw [ht]; rfl
      · cases h

theorem removeEscapes_escapePhrase (t : List Char) : removeEscapes (escapePhrase t) = t := by
  induction t with
  | nil => rfl
  | cons c t ih =>
      rw [escapePhrase]
      split
      · rw [removeEscapes, ih]
      · next hc =>
          rw [not_or] at hc
          rw [removeEscapes_cons hc.2, ih]

theorem textOf_exactText (t : List Char) : textOf (exactText t) = t := by
  rw [exactText]
  split
  · simp only [textOf, phrase, List.cons_append, List.dropLast_concat]
    exact removeEscapes_escapePhrase t
  · unfold textOf
    split
    · next cs he => exact absurd he (escape_ne_reserved t cs (by decide) (by decide))
    · exact removeEscapes_escape t

theorem isOperand_star : IsOperand readSpelled ['*'] ['*'] := fun _ _ => rfl

theorem isOperand_escape (hs : ' ' ∉ t) : IsOperand readSpelled (escape t) (escape t) := by
  intro rest he
  have hl : Literal marks (escape t) := by
    refine literal_escape ?_ (by decide) (by decide)
    intro c hc hm
    by_contra hr
    exact not_mem_marks (by rintro rfl; exact hs hc) hr hm
  have hw : readUntil marks (escape t ++ rest) = (escape t, rest) := by
    rw [readUntil_append hl, readUntil_of_ends he, List.append_nil]
  have hstart : ∀ c cs, escape t ++ rest = c :: cs → c ∉ ['*', '(', '"'] := by
    intro c cs hc hm
    cases ht : escape t with
    | nil =>
        rw [ht, List.nil_append] at hc
        have hend := he c (by rw [hc]; rfl)
        simp only [List.mem_cons, List.not_mem_nil, or_false] at hm hend
        rcases hm with rfl | rfl | rfl <;> simp at hend
    | cons d ds =>
        rw [ht, List.cons_append, List.cons.injEq] at hc
        rw [hc.1] at ht
        have hr : c ∈ reserved ∧ c ≠ '\\' := by
          simp only [List.mem_cons, List.not_mem_nil, or_false] at hm
          rcases hm with rfl | rfl | rfl <;> decide
        exact escape_ne_reserved t ds hr.1 hr.2 ht
  unfold readSpelled
  split
  · next cs hc => exact absurd (List.mem_cons_self) (hstart _ cs hc)
  · next cs hc => exact absurd (by simp) (hstart _ cs hc)
  · next cs hc => exact absurd (by simp) (hstart _ cs hc)
  · rw [hw]

theorem isOperand_group (t : List Char) : IsOperand readSpelled (group t) (group t) := by
  by_cases hm : ' ' ∈ t
  · rw [group, if_pos ((one_lt_length_pieces ' ' t).mpr hm)]
    cases words t with
    | nil => exact isOperand_escape (List.not_mem_nil)
    | cons w ws =>
        intro rest _
        have hl : Literal [')'] ([' '].intercalate ((w :: ws).map escape)) := literal_words (by decide) (by simp [reserved])
        rw [List.append_assoc, List.cons_append, List.singleton_append]
        exact readEnclosed_append hl (by decide) rest
  · rw [group, if_neg (fun h => hm ((one_lt_length_pieces ' ' t).mp h))]
    exact isOperand_escape hm

theorem isOperand_exactText (t : List Char) : IsOperand readSpelled (exactText t) (exactText t) := by
  rw [exactText]
  split
  · intro rest _
    rw [phrase, List.append_assoc, List.cons_append, List.singleton_append]
    exact readEnclosed_append (literal_escapePhrase t) (by decide) rest
  · next h => exact isOperand_escape (fun hm => h ((one_lt_length_pieces ' ' t).mpr hm))

theorem group_ne_bracket (t cs : List Char) : group t ≠ '[' :: cs := by
  rw [group]
  split
  · split <;> simp
  · exact escape_ne_reserved t cs (by decide) (by decide)

theorem escape_eq_self (h : ∀ c ∈ t, c ∉ '&' :: '|' :: reserved) : escape t = t := by
  fun_induction escape t with
  | case1 cs ih => exact absurd List.mem_cons_self (h '&' List.mem_cons_self)
  | case2 cs ih => exact absurd (by simp) (h '|' List.mem_cons_self)
  | case3 c cs _ _ hr ih => exact absurd (by simp [hr]) (h c List.mem_cons_self)
  | case4 c cs _ _ hr ih => rw [ih fun d hd => h d (List.mem_cons_of_mem c hd)]
  | case5 => rfl

theorem group_of_not_mem (h : ' ' ∉ t) : group t = escape t := by
  rw [group, if_neg (fun hm => h ((one_lt_length_pieces ' ' t).mp hm))]

theorem group_of_mem (h : ' ' ∈ t) : group t = [] ∨ ∃ cs, group t = '(' :: cs := by
  rw [group, if_pos ((one_lt_length_pieces ' ' t).mpr h)]
  cases words t with
  | nil => exact .inl rfl
  | cons w ws => exact .inr ⟨_, rfl⟩

theorem literal_group (hs : ∀ c ∈ stops, c ∈ reserved ∧ c ≠ '(' ∧ c ≠ ')') (t : List Char) :
    Literal stops (group t) := by
  have hr : ∀ c ∈ stops, c ∈ reserved := fun c hc => (hs c hc).1
  have hn : ∀ c, (c ∉ reserved ∨ c = '(' ∨ c = ')') → c ∉ stops := by
    intro c hc hm
    obtain ⟨h, ho, hl⟩ := hs c hm
    tauto
  rw [group]
  split
  · cases words t with
    | nil => exact .nil
    | cons w ws =>
        have hw : Literal stops ([' '].intercalate ((w :: ws).map escape)) := literal_words (hn ' ' (.inl (by decide))) hr
        exact .plain (by decide) (hn '(' (by simp)) (hw.append (.plain (by decide) (hn ')' (by simp)) .nil))
  · exact literal_escape (fun c _ hc => hr c hc) (hn '&' (.inl (by decide))) (hn '|' (.inl (by decide)))

end CatalogSearch.Query.Reader
