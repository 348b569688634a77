import CatalogSearch.Proofs.Query.Lexer
import CatalogSearch.Proofs.Query.SearchText

namespace CatalogSearch.Query.Lexer

open Reader Text FilterText SearchText

def Token.ends : Token → Bool
  | .gap c => c = ' '
  | .mark c => c ∈ [')', ']']
  | .word _ | .phrase _ => false

def Next (ok : Token → Bool) (read : List Token) : Prop := ∃ token ∈ read.head?, ok token = true

/-- Right behind each mark of one kind stands a token of some kinds. -/
def Followed (c : Char) (ok : Token → Bool) : List Token → Prop
  | [] => True
  | token :: read => (token = .mark c → Next ok read) ∧ Followed c ok read

/-- Each colon has an operand. -/
def Filled (read : List Token) : Prop := Followed ':' (fun token => !token.ends) read

/-- No parenthesis is closed where it is opened. -/
def Paired (read : List Token) : Prop := Followed '(' (· ≠ .mark ')') read

/-- A name of which nothing is a bracket, a quote, a backslash or a colon. -/
def PlainName (name : List Char) : Prop := ∀ c ∈ name, c ∉ ['\\', '"', '(', ')', '[', ']', ':']

instance (name : List Char) : Decidable (PlainName name) := decidable_of_iff _ List.all_iff_forall_prop

/-- An empty text, as itself or as one of several, is what a value lists. -/
def ListsEmpty (field : List Char) (v : Value) : Prop := ∃ texts, Asks field v (.anyOf texts) ∧ [] ∈ texts

def AsksEmpty (field : List Char) (v : Value) : Prop := Asks field v (.equals []) ∨ ListsEmpty field v

variable {field name text other t operator : List Char} {read next : List Token} {token : Token} {c : Char}
  {ok : Token → Bool} {full full' : Prop}

theorem next_append_cons (h : ok token = false) : Next ok (read ++ token :: next) ↔ Next ok read := by
  cases read with
  | nil => simp [Next, h]
  | cons first read => rfl

theorem Next.append (h : Next ok read) (next : List Token) : Next ok (read ++ next) := by
  cases read with
  | nil => simp [Next] at h
  | cons first read => exact h

theorem followed_append_of_not_mem (h : .mark c ∉ read) : Followed c ok (read ++ next) ↔ Followed c ok next := by
  induction read with
  | nil => rfl
  | cons first read ih =>
      rw [List.mem_cons, not_or] at h
      rw [List.cons_append, Followed, ih h.2]
      exact and_iff_right fun hf => absurd hf.symm h.1

theorem followed_of_not_mem (h : .mark c ∉ read) : Followed c ok read := by
  rw [← List.append_nil read, followed_append_of_not_mem h]
  trivial

theorem Followed.append (h : Followed c ok read) (hn : Followed c ok next) : Followed c ok (read ++ next) := by
  induction read with
  | nil => exact hn
  | cons first read ih => exact ⟨fun hf => (h.1 hf).append next, ih h.2⟩

theorem followed_append_cons (hm : token ≠ .mark c) (h : ok token = false) :
    Followed c ok (read ++ token :: next) ↔ Followed c ok read ∧ Followed c ok next := by
  induction read with
  | nil => exact ⟨fun hf => ⟨trivial, hf.2⟩, fun hf => ⟨fun he => absurd he hm, hf.2⟩⟩
  | cons first read ih => rw [List.cons_append, Followed, Followed, next_append_cons h, ih, and_assoc]

theorem Paired.cons (h : Paired read) (ht : token ≠ .mark '(') : Paired (token :: read) := ⟨fun he => absurd he ht, h⟩

/-- An operand as it is compiled: without colons, and empty only if it comes as nothing that could follow one. -/
def IsFull (text : List Char) : Prop :=
  ∃ read, Reads text read ∧ .mark ':' ∉ read ∧ Paired read ∧ (Next (fun token => !token.ends) read ↔ text ≠ [])

/-- A text of conditions, all of which have an operand if and only if something holds, between which no
parenthesis is closed where it is opened, not even one that opens right before the text. -/
def Compiles (text : List Char) (full : Prop) : Prop :=
  ∃ read, Reads text read ∧ (Filled read ↔ full) ∧ Paired (.mark '(' :: read)

theorem exists_reads_name (h : PlainName name) (hw : Literal stops text) :
    ∃ read, Reads (text ++ name) read ∧ ∀ c ∈ ['(', ')', ':'], .mark c ∉ read := by
  have hword : ∀ c, Token.mark c ∉ wordTokens text := by
    intro c hm
    rw [wordTokens] at hm
    split at hm
    · cases hm
    · cases List.mem_singleton.mp hm
  induction name generalizing text with
  | nil =>
      rw [List.append_nil]
      exact ⟨_, reads_literal hw, fun c _ => hword c⟩
  | cons d name ih =>
      have hd := h d List.mem_cons_self
      have hrest : PlainName name := fun c hc => h c (List.mem_cons_of_mem d hc)
      simp only [List.mem_cons, List.not_mem_nil, or_false, not_or] at hd
      by_cases hs : d ∈ separators
      · obtain ⟨read, hread, hmarks⟩ := ih hrest .nil (by simp [wordTokens])
        refine ⟨_, (reads_literal hw).gap hs hread, fun c hc hm => ?_⟩
        rcases List.mem_append.mp hm with hm | hm
        · exact hword c hm
        · exact hmarks c hc (by simpa using hm)
      by_cases hr : d ∈ reserved
      · obtain ⟨read, hread, hmarks⟩ := ih hrest .nil (by simp [wordTokens])
        refine ⟨_, (reads_literal hw).mark ⟨hr, hd.2.1, hd.1⟩ hread, fun c hc hm => ?_⟩
        rcases List.mem_append.mp hm with hm | hm
        · exact hword c hm
        · rcases List.mem_cons.mp hm with he | hm
          · cases he
            simp_all
          · exact hmarks c hc hm
      · have hnext : Literal stops (text ++ [d]) :=
          hw.append (.plain hd.1 (fun hm => (List.mem_append.mp hm).elim hs hr) .nil)
        obtain ⟨read, hread, hmarks⟩ := ih hrest hnext (by simp [wordTokens])
        exact ⟨read, by simpa using hread, hmarks⟩

theorem compiles_condition (hn : PlainName name) (h : IsFull text) : Compiles (name ++ ':' :: text) (text ≠ []) := by
  obtain ⟨front, hfront, hmarks⟩ := exists_reads_name hn .nil
  obtain ⟨read, hread, hcolon, hpaired, hnext⟩ := h
  refine ⟨_, hfront.mark (by decide) hread, ?_, ?_, ?_⟩
  · rw [Filled, followed_append_of_not_mem (hmarks ':' (by decide)), ← hnext]
    exact ⟨fun hf => hf.1 rfl, fun hs => ⟨fun _ => hs, followed_of_not_mem hcolon⟩⟩
  · intro _
    cases front with
    | nil => simp [Next]
    | cons first front =>
        refine ⟨first, rfl, decide_eq_true ?_⟩
        rintro rfl
        exact hmarks ')' (by decide) List.mem_cons_self
  · rw [← Paired, Paired, followed_append_of_not_mem (hmarks '(' (by decide))]
    exact hpaired.cons (by decide)

theorem Compiles.parentheses (h : Compiles text full) : Compiles ('(' :: text ++ [')']) full := by
  obtain ⟨read, hread, hfilled, hpaired⟩ := h
  refine ⟨_, reads_nil.mark (c := '(') (by decide) (hread.mark (c := ')') (by decide) reads_nil), ?_, ?_⟩
  · rw [List.nil_append, Filled, Followed, followed_append_cons (by simp) rfl, ← Filled, hfilled]
    simp [Followed]
  · have hlast : Paired [.mark ')'] := Paired.cons trivial (by decide)
    exact ⟨fun _ => ⟨.mark '(', rfl, rfl⟩, hpaired.append hlast⟩

theorem Compiles.join (h : Compiles text full) (ho : Compiles other full') (hw : Literal stops operator) (hn : operator ≠ []) :
    Compiles (text ++ ((' ' :: operator ++ [' ']) ++ other)) (full ∧ full') := by
  obtain ⟨read, hread, hfilled, hpaired⟩ := h
  obtain ⟨next, hnext, hfilled', hpaired'⟩ := ho
  have hall := hread.gap (s := ' ') (by decide) ((reads_literal hw).gap (s := ' ') (by decide) hnext)
  have htext : text ++ ((' ' :: operator ++ [' ']) ++ other) = text ++ ' ' :: (operator ++ ' ' :: other) := by simp
  rw [wordTokens, if_neg hn] at hall
  rw [htext]
  refine ⟨_, hall, ?_, hpaired.append ?_⟩
  · rw [Filled, followed_append_cons (by simp) rfl, ← Filled, hfilled, List.singleton_append, Followed, Followed, ← Filled, hfilled']
    simp
  · exact ((Paired.cons hpaired'.2 (by decide)).cons (by simp)).cons (by decide)

theorem compiles_intercalate {α : Type} {f : α → List Char} {full : α → Prop} {xs : List α} (hne : xs ≠ [])
    (h : ∀ x ∈ xs, Compiles (f x) (full x)) (hw : Literal stops operator) (hn : operator ≠ []) :
    Compiles ((' ' :: operator ++ [' ']).intercalate (xs.map f)) (∀ x ∈ xs, full x) := by
  induction xs with
  | nil => exact absurd rfl hne
  | cons x xs ih =>
      have hx := h x List.mem_cons_self
      cases xs with
      | nil => simpa using hx
      | cons y xs =>
          have hrest := ih (List.cons_ne_nil y xs) fun z hz => h z (List.mem_cons_of_mem x hz)
          rw [List.map_cons, List.map_cons, List.intercalate_cons_cons, List.append_assoc, List.forall_mem_cons]
          exact hx.join hrest hw hn

theorem compiles_fieldCondition (hn : PlainName name) (h : IsFull text) : Compiles (fieldCondition name text) (text ≠ []) := by
  rw [fieldCondition]
  split
  · have hcategory : PlainName categoryField.toList := by decide
    have hshown : PlainName shownField.toList := by decide
    have hor : Literal stops "OR".toList := literal_of_forall (List.all_iff_forall_prop.mp (by decide))
    have hboth := ((compiles_condition hcategory h).join (compiles_condition hshown h) hor (by decide)).parentheses
    rw [and_self] at hboth
    simpa using hboth
  · exact compiles_condition hn h

theorem mark_not_mem_looseTokens (c : Char) (t : List Char) : .mark c ∉ looseTokens [] t := by
  intro hm
  rcases mem_looseTokens.mp hm with ⟨w, -, he⟩ | ⟨d, -, -, he⟩ <;> cases he

theorem isFull_escape (hs : ' ' ∉ t) : IsFull (escape t) := by
  refine ⟨_, reads_escape t, mark_not_mem_looseTokens ':' t, followed_of_not_mem (mark_not_mem_looseTokens '(' t), ?_⟩
  constructor
  · rintro ⟨token, hm, -⟩ he
    rw [escape_eq_nil he] at hm
    cases hm
  · intro hne
    have ht : t ≠ [] := by
      rintro rfl
      exact hne rfl
    obtain ⟨token, hhead, ⟨w, rfl⟩ | ⟨c, hc, rfl⟩⟩ := head?_looseTokens ht
    · exact ⟨_, hhead, rfl⟩
    · have hc : c ≠ ' ' := by
        rintro rfl
        exact hs (List.mem_of_mem_head? hc)
      exact ⟨_, hhead, by simp [Token.ends, hc]⟩

theorem isFull_phrase (t : List Char) : IsFull (phrase t) :=
  ⟨_, reads_phrase t, by simp, Paired.cons trivial (by simp), by simp [Next, Token.ends, phrase]⟩

theorem isFull_exactText (t : List Char) : IsFull (exactText t) := by
  rw [exactText]
  split
  · exact isFull_phrase t
  · next h => exact isFull_escape fun hm => h ((one_lt_length_pieces ' ' t).mpr hm)

theorem intercalate_words_ne_nil (hw : words t ≠ []) : [' '].intercalate (words t) ≠ [] := by
  obtain ⟨w, ws, h⟩ := List.exists_cons_of_ne_nil hw
  have hne : w ≠ [] := by
    have hm : w ∈ words t := by rw [h]; exact List.mem_cons_self
    simpa using (List.mem_filter.mp hm).2
  rw [h]
  cases ws <;> simp [hne]

theorem isFull_group (t : List Char) : IsFull (group t) := by
  by_cases hm : ' ' ∈ t
  · by_cases hw : words t = []
    · have hnil : group t = [] := (group_eq_nil_iff t).mpr ((words_eq_nil_iff t).mp hw)
      rw [hnil]
      exact ⟨[], reads_nil, List.not_mem_nil, trivial, by simp [Next]⟩
    · have hinner := (reads_escape ([' '].intercalate (words t))).mark (c := ')') (by decide) reads_nil
      have hnone := fun c => mark_not_mem_looseTokens c ([' '].intercalate (words t))
      obtain ⟨token, hhead, hkind⟩ := head?_looseTokens (intercalate_words_ne_nil hw)
      have hclosed : Paired (looseTokens [] ([' '].intercalate (words t)) ++ [.mark ')']) :=
        (followed_of_not_mem (hnone '(')).append (Paired.cons trivial (by decide))
      rw [group_of_words hm hw]
      refine ⟨_, reads_nil.mark (c := '(') (by decide) hinner, ?_, ⟨fun _ => ?_, hclosed⟩, ?_⟩
      · simp [hnone]
      · refine Next.append ⟨token, hhead, decide_eq_true ?_⟩ _
        rcases hkind with ⟨w, rfl⟩ | ⟨c, -, rfl⟩ <;> exact fun he => by cases he
      · simp [Next, Token.ends]
  · rw [group_of_not_mem hm]
    exact isFull_escape hm

theorem isFull_star : IsFull wildcard.toList :=
  ⟨_, reads_nil.mark (c := '*') (by decide) reads_nil, by decide, Paired.cons trivial (by decide), by
    simp [Next, Token.ends, wildcard]⟩

theorem isFull_range {lower upper : List Char} (hl : IsFull lower) (hu : IsFull upper) :
    IsFull ('[' :: lower ++ " TO ".toList ++ upper ++ [']']) := by
  obtain ⟨ra, hra, hca, hpa, -⟩ := hl
  obtain ⟨rb, hrb, hcb, hpb, -⟩ := hu
  have hto : Reads "TO".toList [.word "TO".toList] :=
    reads_literal (literal_of_forall (List.all_iff_forall_prop.mp (by decide)))
  have hrest := hto.gap (s := ' ') (by decide) (hrb.mark (c := ']') (by decide) reads_nil)
  have hall := reads_nil.mark (c := '[') (by decide) (hra.gap (s := ' ') (by decide) hrest)
  have htext : '[' :: lower ++ " TO ".toList ++ upper ++ [']'] =
      [] ++ '[' :: (lower ++ ' ' :: ("TO".toList ++ ' ' :: (upper ++ ']' :: []))) := by simp
  have hend : Paired (rb ++ [.mark ']']) := hpb.append (Paired.cons trivial (by decide))
  rw [htext]
  refine ⟨_, hall, ?_, ?_, ?_⟩
  · simp [hca, hcb]
  · exact Paired.cons (hpa.append (((Paired.cons hend (by decide)).cons (by simp)).cons (by decide))) (by decide)
  · simp [Next, Token.ends]

/-- The texts that are operands of conditions of their own. -/
def conditionTexts : Criterion → List (List Char)
  | .equals text => [text]
  | .anyOf texts => texts
  | .between _ _ => []

def spelledBy (prepare : List Char → List Char) : Criterion → Criterion
  | .equals text => .equals (prepare text)
  | .anyOf texts => .anyOf (texts.map exactText)
  | .between lower upper => .between (prepare lower) (prepare upper)

theorem spelling_eq (asked : Criterion) : spelling asked = spelledBy group asked := by
  cases asked <;> rfl

theorem filterClause_eq (field : List Char) (asked : Criterion) :
    asked.filterClause field = clauseText field (spelledBy exactText asked) := by
  cases asked with
  | anyOf texts => simp [Criterion.filterClause, Criterion.disjunction, clauseText, spelledBy, Function.comp_def]
  | _ => rfl

theorem isFull_of_spelledBy {prepare : List Char → List Char} (hp : ∀ t, IsFull (prepare t)) {asked : Criterion}
    (h : text ∈ operands (spelledBy prepare asked)) : IsFull text := by
  cases asked with
  | equals t =>
      rw [List.mem_singleton.mp h]
      exact hp t
  | anyOf ts =>
      obtain ⟨t, -, rfl⟩ := List.mem_map.mp h
      exact isFull_exactText t
  | between a b =>
      rcases List.mem_cons.mp h with rfl | h
      · exact hp a
      · rw [List.mem_singleton.mp h]
        exact hp b

theorem compiles_clauseText {spelled : Criterion} (hn : PlainName field) (hc : spelled ≠ .anyOf [])
    (h : ∀ text ∈ operands spelled, IsFull text) :
    Compiles (clauseText field spelled) (∀ text ∈ conditionTexts spelled, text ≠ []) := by
  have hor : Literal stops "OR".toList := literal_of_forall (List.all_iff_forall_prop.mp (by decide))
  cases spelled with
  | equals t =>
      rw [conditionTexts, List.forall_mem_singleton]
      exact compiles_fieldCondition hn (h t (List.mem_singleton_self t))
  | anyOf ts =>
      have hne : ts ≠ [] := by
        rintro rfl
        exact hc rfl
      exact (compiles_intercalate hne (fun t ht => compiles_fieldCondition hn (h t ht)) hor (by decide)).parentheses
  | between a b =>
      have hrange := compiles_condition hn (isFull_range (h a List.mem_cons_self) (h b (by simp [operands])))
      simpa [clauseText, conditionTexts] using hrange

theorem tokens_conjunction (clauses : List (List Char × Criterion))
    (h : ∀ a ∈ clauses, PlainName a.1 ∧ a.2 ≠ .anyOf [] ∧ ∀ text ∈ operands a.2, IsFull text) :
    ∃ read, tokens (conjunction (clauses.map fun a => clauseText a.1 a.2)) = some read ∧ Paired read ∧
      (Filled read ↔ ∀ a ∈ clauses, ∀ text ∈ conditionTexts a.2, text ≠ []) := by
  have hand : Literal stops "AND".toList := literal_of_forall (List.all_iff_forall_prop.mp (by decide))
  by_cases hne : clauses = []
  · subst hne
    exact ⟨[], rfl, trivial, by simp [Filled, Followed]⟩
  · obtain ⟨read, hread, hfilled, hpaired⟩ :=
      compiles_intercalate hne (fun a ha => compiles_clauseText (h a ha).1 (h a ha).2.1 (h a ha).2.2) hand (by decide)
    exact ⟨read, hread.tokens_eq, hpaired.2, hfilled⟩

theorem exactText_eq_nil_iff : exactText t = [] ↔ t = [] := by
  constructor
  · intro h
    rw [← textOf_exactText t, h]
    rfl
  · rintro rfl
    rfl

theorem asksEmpty_iff (field : List Char) (v : Value) :
    AsksEmpty field v ↔ ∃ asked, Criterion.ofValue? field v = some asked ∧ [] ∈ conditionTexts asked := by
  simp only [AsksEmpty, ListsEmpty, asks_iff]
  constructor
  · rintro (h | ⟨texts, h, hm⟩)
    · exact ⟨_, h, List.mem_cons_self⟩
    · exact ⟨_, h, hm⟩
  · rintro ⟨asked, h, hm⟩
    cases asked with
    | equals t =>
        rw [conditionTexts, List.mem_singleton] at hm
        exact .inl (by rw [h, hm])
    | anyOf ts => exact .inr ⟨ts, h, hm⟩
    | between a b => cases hm

theorem filled_exactly (asked : Criterion) :
    (∀ text ∈ conditionTexts (spelledBy exactText asked), text ≠ []) ↔ [] ∉ conditionTexts asked := by
  have htexts : conditionTexts (spelledBy exactText asked) = (conditionTexts asked).map exactText := by
    cases asked <;> rfl
  rw [htexts, List.forall_mem_map]
  constructor
  · intro h hm
    exact h [] hm rfl
  · intro h text hm he
    rw [exactText_eq_nil_iff.mp he] at hm
    exact h hm

theorem filled_spelled (field : List Char) (v : Value) :
    (∀ spelled, spelled? field v = some spelled → ∀ text ∈ conditionTexts spelled, text ≠ []) ↔ ¬ListsEmpty field v := by
  constructor
  · rintro h ⟨texts, ha, hm⟩
    have hstar : v.same (.text wildcard) = false := by
      rw [← Bool.not_eq_true, Value.same_text_right]
      rintro rfl
      rw [asks_iff] at ha
      cases ha
    rw [asks_iff] at ha
    have hs : spelled? field v = some (.anyOf (texts.map exactText)) := by
      rw [spelled?, hstar, ha]
      simp [spelling]
    exact h _ hs [] (List.mem_map.mpr ⟨[], hm, rfl⟩) rfl
  · intro h spelled hs text hm he
    subst he
    rcases spelled?_eq_some hs with ⟨-, rfl⟩ | ⟨-, asked, ha, rfl, hne⟩
    · simp [conditionTexts, wildcard] at hm
    · cases asked with
      | equals t =>
          rw [spelling, conditionTexts, List.mem_singleton] at hm
          exact hne (by rw [spelling, hm])
      | anyOf ts =>
          obtain ⟨t, ht, he⟩ := List.mem_map.mp hm
          rw [exactText_eq_nil_iff.mp he] at ht
          exact h ⟨ts, ha, ht⟩
      | between a b => cases hm

theorem tokens_filters (filters : Entries) (h : ∀ e ∈ filters, PlainName e.1.chars) :
    ∃ read, tokens (conjunction (filterClauses filters)) = some read ∧ Paired read ∧
      (Filled read ↔ ∀ e ∈ filters, ¬AsksEmpty e.1.chars e.2) := by
  have hclauses : filterClauses filters =
      ((askedOf filters).map fun a => (a.1, spelledBy exactText a.2)).map fun a => clauseText a.1 a.2 := by
    rw [filterClauses_eq_map, List.map_map]
    exact List.map_congr_left fun a _ => filterClause_eq a.1 a.2
  obtain ⟨read, hread, hpaired, hfilled⟩ := tokens_conjunction
    ((askedOf filters).map fun a => (a.1, spelledBy exactText a.2)) (by
    intro b hb
    obtain ⟨a, ha, rfl⟩ := List.mem_map.mp hb
    obtain ⟨e, he, hm⟩ := List.mem_filterMap.mp ha
    obtain ⟨asked, hc, rfl⟩ := Option.map_eq_some_iff.mp hm
    have hne : asked ≠ .anyOf [] := ne_anyOf_nil ((asks_iff _ _ _).mpr hc)
    exact ⟨h e he, by cases asked <;> simp_all [spelledBy], fun text ht => isFull_of_spelledBy isFull_exactText ht⟩)
  rw [hclauses]
  refine ⟨read, hread, hpaired, hfilled.trans ?_⟩
  rw [List.forall_mem_map]
  simp only [filled_exactly, asksEmpty_iff]
  constructor
  · rintro hall e he ⟨asked, hc, hm⟩
    exact hall (e.1.chars, asked) (List.mem_filterMap.mpr ⟨e, he, by rw [hc]; rfl⟩) hm
  · intro hall a ha hm
    obtain ⟨e, he, hs⟩ := List.mem_filterMap.mp ha
    obtain ⟨asked, hc, rfl⟩ := Option.map_eq_some_iff.mp hs
    exact hall e he ⟨asked, hc, hm⟩

theorem tokens_query (query : Entries) (h : ∀ e ∈ query, PlainName e.1.chars) :
    ∃ read, tokens (searchConditions (.map query)) = some read ∧ Paired read ∧
      (Filled read ↔ ∀ e ∈ query, ¬ListsEmpty e.1.chars e.2) := by
  obtain ⟨read, hread, hpaired, hfilled⟩ := tokens_conjunction (spelledOf query) (by
    intro a ha
    obtain ⟨e, he, hm⟩ := List.mem_filterMap.mp ha
    obtain ⟨spelled, hs, rfl⟩ := Option.map_eq_some_iff.mp hm
    refine ⟨h e he, spelled_ne_nil hs, ?_⟩
    rcases spelled?_eq_some hs with ⟨-, rfl⟩ | ⟨-, asked, -, rfl, -⟩
    · exact List.forall_mem_singleton.mpr isFull_star
    · rw [spelling_eq]
      exact fun text => isFull_of_spelledBy isFull_group)
  rw [searchConditions, searchClauses_eq_map]
  refine ⟨read, hread, hpaired, hfilled.trans ?_⟩
  simp only [← filled_spelled]
  constructor
  · intro hall e he spelled hs
    exact hall (e.1.chars, spelled) (List.mem_filterMap.mpr ⟨e, he, by rw [hs]; rfl⟩)
  · intro hall a ha
    obtain ⟨e, he, hm⟩ := List.mem_filterMap.mp ha
    obtain ⟨spelled, hs, rfl⟩ := Option.map_eq_some_iff.mp hm
    exact hall e he spelled hs

/-- Each condition that filters or a query compile to has an operand exactly if none of the texts asked for is empty, and
a parenthesis is never closed where it is opened. Alone an empty text is skipped in a query, but in no filter, and in
neither of them as one of several. -/
theorem empty_texts_are_compiled (filters query : Entries) (hf : ∀ e ∈ filters, PlainName e.1.chars)
    (hq : ∀ e ∈ query, PlainName e.1.chars) :
    (∃ clauses read, compileFilters (.map filters) = .ok clauses ∧ tokens (conjunction clauses) = some read ∧ Paired read ∧
      (Filled read ↔ ∀ e ∈ filters, ¬AsksEmpty e.1.chars e.2)) ∧
    ∃ read, tokens (searchConditions (.map query)) = some read ∧ Paired read ∧
      (Filled read ↔ ∀ e ∈ query, ¬ListsEmpty e.1.chars e.2) := by
  obtain ⟨read, hread, hpaired, hfilled⟩ := tokens_filters filters hf
  exact ⟨⟨filterClauses filters, read, compileFilters_map filters, hread, hpaired, hfilled⟩, tokens_query query hq⟩

def shelfFilters : Entries :=
  [(.text "color", .text "light red"), (.text "my size", .tuple [.text "  ", .text "m"]), (.text "price", .list [])]

def shelfQuery : Entries := [(.text "name", .text "  "), (.text "sku", .list [.text " ", .text "7"])]

theorem shelf_operands_are_filled :
    (∃ clauses read, compileFilters (.map shelfFilters) = .ok clauses ∧ tokens (conjunction clauses) = some read ∧
      Paired read ∧ Filled read) ∧
    ∃ read, tokens (searchConditions (.map shelfQuery)) = some read ∧ Paired read ∧ Filled read := by
  have hf : ∀ e ∈ shelfFilters, PlainName e.1.chars := by decide
  have hq : ∀ e ∈ shelfQuery, PlainName e.1.chars := by decide
  obtain ⟨⟨clauses, read, hc, hread, hpaired, hfilled⟩, other, hother, hpairs, hfills⟩ :=
    empty_texts_are_compiled shelfFilters shelfQuery hf hq
  have hfilters : ∀ e ∈ shelfFilters, ∀ asked ∈ Criterion.ofValue? e.1.chars e.2, [] ∉ conditionTexts asked := by decide
  have hquery : ∀ e ∈ shelfQuery, ∀ asked ∈ Criterion.ofValue? e.1.chars e.2, [] ∉ conditionTexts asked := by decide
  refine ⟨⟨clauses, read, hc, hread, hpaired, hfilled.mpr fun e he h => ?_⟩, other, hother, hpairs, hfills.mpr fun e he h => ?_⟩
  · obtain ⟨asked, ha, hm⟩ := (asksEmpty_iff _ _).mp h
    exact hfilters e he asked ha hm
  · obtain ⟨asked, ha, hm⟩ := (asksEmpty_iff _ _).mp (.inr h)
    exact hquery e he asked ha hm

/-- A blank filter, and a blank among the texts of a query, leave a field without an operand. -/
theorem blank_texts_leave_no_operand :
    (compileFilters (.map [(.text "color", .text "")]) = .ok ["color:".toList] ∧
      ∃ read, tokens "color:".toList = some read ∧ ¬Filled read) ∧
    searchConditions (.map [(.text "color", .list [.text "", .text "red"])]) = "(color: OR color:red)".toList ∧
      ∃ read, tokens "(color: OR color:red)".toList = some read ∧ ¬Filled read := by
  have hlist : (Value.list [.text "", .text "red"]).same (.text wildcard) = false := by simp [Value.same]
  refine ⟨⟨?_, [.word "color".toList, .mark ':'], by decide, ?_⟩, searchConditions_singleton ?_,
    [.mark '(', .word "color".toList, .mark ':', .gap ' ', .word "OR".toList, .gap ' ', .word "color".toList, .mark ':',
      .word "red".toList, .mark ')'], by decide, ?_⟩
  · rw [compileFilters_map]
    exact congrArg Except.ok (by decide)
  · simp [Filled, Followed, Next]
  · unfold searchEntry?
    rw [hlist, if_neg (by decide)]
    decide
  · simp [Filled, Followed, Next, Token.ends]

end CatalogSearch.Query.Lexer
