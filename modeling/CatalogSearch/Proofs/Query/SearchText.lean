import CatalogSearch.Proofs.Query.FilterText
import CatalogSearch.Proofs.Query.Stars
import CatalogSearch.Proofs.Value.Keys

namespace CatalogSearch.Query.SearchText

open Reader FilterText Text

/-- What is sought in a field: anything, words, one of several texts, or what lies between two bounds. -/
inductive Sought where
  | anything
  | words (words : List (List Char))
  | anyOf (texts : List (List Char))
  | between (lower upper : List (List Char))
  deriving DecidableEq

def soughtBy : Criterion → Sought
  | .equals text => if text = wildcard.toList then .anything else .words (wordsOf text)
  | .anyOf texts => .anyOf (texts.map textOf)
  | .between lower upper => .between (wordsOf lower) (wordsOf upper)

def readConditions (cs : List Char) : Option (List (List Char × Sought)) := do
  let spelled ← (← readText readSpelled cs).mapM asked?
  pure (spelled.map fun a => (a.1, soughtBy a.2))

/-- What a value seeks in its field. Words are what stands between spaces; the items of a collection
are sought as they are. -/
inductive Seeks (field : List Char) (v : Value) : Sought → Prop where
  | anything : v = .text wildcard → Seeks field v .anything
  | words {text : List Char} : v ≠ .text wildcard → Asks field v (.equals text) → words text ≠ [] →
      Seeks field v (.words (words text))
  | anyOf {texts : List (List Char)} : Asks field v (.anyOf texts) → Seeks field v (.anyOf texts)
  | between {lower upper : List Char} : Asks field v (.between lower upper) →
      Seeks field v (.between (words lower) (words upper))

/-- An empty collection, unless of prices, and a text of spaces alone seek nothing. -/
def seeksNothing (field : List Char) (v : Value) : Bool :=
  asksNothing field v || !v.isMap && v.sequence?.isNone && v.operand.all (· == ' ')

def SeeksInOrder (query : Entries) (sought : List (List Char × Sought)) : Prop :=
  List.Forall₂ (fun e a => a.1 = e.1.chars ∧ Seeks a.1 e.2 a.2) (query.filter fun e => !seeksNothing e.1.chars e.2) sought

/-- A criterion with its texts as they are spelled where something is searched. -/
def spelling : Criterion → Criterion
  | .equals text => .equals (group text)
  | .anyOf texts => .anyOf (texts.map exactText)
  | .between lower upper => .between (group lower) (group upper)

def spelled? (field : List Char) (v : Value) : Option Criterion :=
  if v.same (.text wildcard) then some (.equals wildcard.toList)
  else (Criterion.ofValue? field v).bind fun c => if spelling c = .equals [] then none else some (spelling c)

def clauseText (field : List Char) : Criterion → List Char
  | .equals text => fieldCondition field text
  | .anyOf texts => '(' :: " OR ".toList.intercalate (texts.map (fieldCondition field)) ++ [')']
  | .between lower upper => field ++ ':' :: '[' :: lower ++ " TO ".toList ++ upper ++ [']']

variable {field text : List Char} {v : Value} {c : Criterion}

theorem searchEntry?_eq (field : List Char) (v : Value) :
    searchEntry? field v = (spelled? field v).map (clauseText field) := by
  unfold searchEntry? spelled?
  split
  · rfl
  · cases Criterion.ofValue? field v with
    | none => rfl
    | some c =>
        cases c with
        | equals t => by_cases h : group t = [] <;> simp [Criterion.searchClause?, spelling, clauseText, h]
        | anyOf ts => simp [Criterion.searchClause?, Criterion.disjunction, spelling, clauseText, Function.comp_def]
        | between a b => simp [Criterion.searchClause?, Criterion.range, spelling, clauseText]

theorem spelled?_eq_some (h : spelled? field v = some c) :
    v = .text wildcard ∧ c = .equals wildcard.toList ∨
      v ≠ .text wildcard ∧ ∃ asked, Asks field v asked ∧ c = spelling asked ∧ c ≠ .equals [] := by
  unfold spelled? at h
  split at h
  · next hw => exact .inl ⟨(Value.same_text_right v wildcard).mp hw, (Option.some.inj h).symm⟩
  · next hw =>
      refine .inr ⟨fun hv => hw ((Value.same_text_right v wildcard).mpr hv), ?_⟩
      obtain ⟨asked, ha, hs⟩ := Option.bind_eq_some_iff.mp h
      split at hs
      · cases hs
      · next hne =>
          cases hs
          exact ⟨asked, (asks_iff field v asked).mpr ha, rfl, hne⟩

theorem group_ne_star (t : List Char) : group t ≠ wildcard.toList := by
  rw [group]
  split
  · split <;> simp [wildcard]
  · exact escape_ne_reserved t [] (by decide) (by decide)

theorem seeks_of_spelled (h : spelled? field v = some c) : Seeks field v (soughtBy c) := by
  rcases spelled?_eq_some h with ⟨hv, rfl⟩ | ⟨hv, asked, ha, rfl, hne⟩
  · exact .anything hv
  · cases asked with
    | equals t =>
        have hw : words t ≠ [] := by
          intro hnil
          rw [words_eq_nil_iff, ← group_eq_nil_iff] at hnil
          exact hne (by rw [spelling, hnil])
        rw [spelling, soughtBy, if_neg (group_ne_star t), wordsOf_group]
        exact .words hv ha hw
    | anyOf ts =>
        have ht : (ts.map exactText).map textOf = ts := by
          rw [List.map_map]
          exact List.map_id'' textOf_exactText ts
        rw [spelling, soughtBy, ht]
        exact .anyOf ha
    | between a b =>
        rw [spelling, soughtBy, wordsOf_group, wordsOf_group]
        exact .between ha

theorem spelled?_eq_none_iff (field : List Char) (v : Value) :
    spelled? field v = none ↔ seeksNothing field v = true := by
  by_cases hv : v = .text wildcard
  · subst hv
    have hs : seeksNothing field (.text wildcard) = false := rfl
    rw [spelled?, if_pos (Value.same_text_self wildcard), hs]
    simp
  · have hw : ¬ v.same (.text wildcard) = true := fun h => hv ((Value.same_text_right v wildcard).mp h)
    rw [spelled?, if_neg hw, seeksNothing]
    cases hc : Criterion.ofValue? field v with
    | none => simp [(ofValue?_eq_none_iff field v).mp hc]
    | some c =>
        have ha : asksNothing field v = false := by
          rw [← Bool.not_eq_true, ← ofValue?_eq_none_iff, hc]
          simp
        rw [ha, Option.bind_some, Bool.false_or]
        cases (asks_iff field v c).mpr hc with
        | scalar hm hs => simp [spelling, group_eq_nil_iff, hm, hs]
        | sequence hs _ _ => simp [spelling, hs]
        | prices hs _ => simp [spelling, hs]
        | mapping _ _ _ => simp [spelling, Value.isMap]
        | record _ => simp [spelling, Value.isMap]

def spelledOf (query : Entries) : List (List Char × Criterion) :=
  query.filterMap fun e => (spelled? e.1.chars e.2).map (e.1.chars, ·)

theorem searchClauses_eq_map (query : Entries) :
    searchClauses query = (spelledOf query).map fun a => clauseText a.1 a.2 := by
  rw [searchClauses, spelledOf, List.map_filterMap]
  congr 1
  funext e
  rw [searchEntry?_eq]
  cases spelled? e.1.chars e.2 <;> rfl

theorem seeksInOrder_spelledOf (query : Entries) :
    SeeksInOrder query ((spelledOf query).map fun a => (a.1, soughtBy a.2)) := by
  induction query with
  | nil => exact .nil
  | cons e query ih =>
      rw [SeeksInOrder, spelledOf, List.filter_cons, List.filterMap_cons]
      cases hc : spelled? e.1.chars e.2 with
      | none => rw [(spelled?_eq_none_iff _ _).mp hc]; exact ih
      | some c =>
          have hn : seeksNothing e.1.chars e.2 = false := by
            rw [← Bool.not_eq_true, ← spelled?_eq_none_iff, hc]
            simp
          rw [hn]
          exact .cons ⟨rfl, seeks_of_spelled hc⟩ ih

def operands : Criterion → List (List Char)
  | .equals text => [text]
  | .anyOf texts => texts
  | .between lower upper => [lower, upper]

def IsSpelled (text : List Char) : Prop := IsOperand readSpelled text text ∧ ∀ cs, text ≠ '[' :: cs

theorem isSpelled_star : IsSpelled wildcard.toList := ⟨isOperand_star, by simp [wildcard]⟩

theorem isSpelled_of_spelling {asked : Criterion} (h : text ∈ operands (spelling asked)) : IsSpelled text := by
  have hg (t : List Char) : IsSpelled (group t) := ⟨isOperand_group t, group_ne_bracket t⟩
  cases asked with
  | equals t =>
      rw [List.mem_singleton.mp h]
      exact hg t
  | anyOf ts =>
      obtain ⟨t, -, rfl⟩ := List.mem_map.mp h
      exact ⟨isOperand_exactText t, exactText_ne_bracket t⟩
  | between a b =>
      rcases List.mem_cons.mp h with rfl | h
      · exact hg a
      · rw [List.mem_singleton.mp h]
        exact hg b

theorem isClause_clauseText (hf : IsFieldName field) (hc : c ≠ .anyOf []) (h : ∀ text ∈ operands c, IsSpelled text) :
    IsClause readSpelled (clauseText field c) (clauseOf field c) := by
  cases c with
  | equals t =>
      have ht := h t (List.mem_singleton_self t)
      exact isClause_condition hf ht.1 ht.2
  | anyOf ts =>
      exact isClause_either _ (condition field) ts (by rintro rfl; exact hc rfl)
        fun t hm => isClause_condition hf (h t hm).1 (h t hm).2
  | between a b => exact isClause_within hf (h a List.mem_cons_self).1 (h b (by simp [operands])).1

theorem mem_spelledOf {query : Entries} (hq : NamesFields query) {a : List Char × Criterion} (h : a ∈ spelledOf query) :
    ∃ e ∈ query, a.1 = e.1.chars ∧ spelled? a.1 e.2 = some a.2 ∧ IsFieldName a.1 := by
  obtain ⟨e, he, hm⟩ := List.mem_filterMap.mp h
  obtain ⟨c, hc, rfl⟩ := Option.map_eq_some_iff.mp hm
  obtain ⟨name, hn, hw⟩ := hq e he
  refine ⟨e, he, rfl, hc, ?_⟩
  rw [hn]
  exact hw

theorem spelled_ne_nil (h : spelled? field v = some c) : c ≠ .anyOf [] := by
  rcases spelled?_eq_some h with ⟨-, rfl⟩ | ⟨-, asked, ha, rfl, -⟩
  · simp
  · have hne := ne_anyOf_nil ha
    cases asked <;> simp_all [spelling]

theorem isSpelled_of_spelled (h : spelled? field v = some c) : ∀ text ∈ operands c, IsSpelled text := by
  intro text hm
  rcases spelled?_eq_some h with ⟨-, rfl⟩ | ⟨-, asked, -, rfl, -⟩
  · rw [List.mem_singleton.mp hm]
    exact isSpelled_star
  · exact isSpelled_of_spelling hm

theorem readConditions_searchConditions {query : Entries} (hq : NamesFields query) :
    readConditions (searchConditions (.map query)) = some ((spelledOf query).map fun a => (a.1, soughtBy a.2)) := by
  have ht : readText readSpelled _ = _ := readText_conjunction (fun a => clauseText a.1 a.2)
    (fun a => clauseOf a.1 a.2) (spelledOf query) (by
      intro a ha
      obtain ⟨e, -, -, hs, hf⟩ := mem_spelledOf hq ha
      exact isClause_clauseText hf (spelled_ne_nil hs) (isSpelled_of_spelled hs))
  have hm := mapM_asked?_clauseOf (spelledOf query) (by
    intro a ha
    obtain ⟨e, -, -, hs, -⟩ := mem_spelledOf hq ha
    exact spelled_ne_nil hs)
  rw [readConditions, searchConditions, searchClauses_eq_map, ht]
  simp only [Option.bind_eq_bind, Option.bind_some, hm]
  rfl

variable {asked : List Char → Prop}

theorem starsAre_fieldCondition (hf : IsFieldName field) (h : ∀ name, IsFieldName name →
    name = field ∨ field = categoryField.toList ∧ name = shownField.toList → StarsAre asked (name ++ [':'] ++ text)) :
    StarsAre asked (fieldCondition field text) := by
  rw [fieldCondition]
  split
  · next hc =>
      have hcategory := h field hf (.inl rfl)
      have hshown := h shownField.toList isFieldName_shown (.inr ⟨hc, rfl⟩)
      have hopen : Starless ['('] := starless_of_all (by decide)
      have hclose : Starless [')'] := starless_of_all (by decide)
      have hboth := (hcategory.join hshown separates_or).within hopen (by simp [Opens]) hclose (ends_cons _ (by simp))
      subst hc
      simpa only [List.append_assoc, List.cons_append, List.nil_append] using hboth
  · have hone := h field hf (.inl rfl)
    rwa [List.append_assoc, List.singleton_append] at hone

theorem starless_condition (hf : IsFieldName field) (ht : Starless text) : Starless (fieldCondition field text) :=
  starsAre_fieldCondition hf fun _ hn _ => (starless_field hn).append ht

theorem starless_escape (t : List Char) : Starless (escape t) := by
  have hs : ∀ c ∈ ['*', '"'], c ∈ reserved := by simp [reserved]
  exact starless_of_literal (literal_escape (fun c _ hc => hs c hc) (by decide) (by decide))

theorem starless_group (t : List Char) : Starless (group t) := by
  rw [group]
  split
  · split
    · exact starless_of_literal .nil
    · have hw : Literal ['*', '"'] ([' '].intercalate ((words t).map escape)) :=
          literal_words (by decide) (by simp [reserved])
      have hopen : Starless ['('] := starless_of_all (by decide)
      have hclose : Starless [')'] := starless_of_all (by decide)
      exact (hopen.append (starless_of_literal hw)).append hclose
  · exact starless_escape t

theorem starless_exactText (t : List Char) : Starless (exactText t) := by
  rw [exactText]
  split
  · exact starless_phrase t
  · exact starless_escape t

theorem starless_clauseText (hf : IsFieldName field) (h : ∀ text ∈ operands c, Starless text) :
    Starless (clauseText field c) := by
  have hopen : Starless ['('] := starless_of_all (by decide)
  have hclose : Starless [')'] := starless_of_all (by decide)
  cases c with
  | equals t => exact starless_condition hf (h t (List.mem_singleton_self t))
  | anyOf ts =>
      have hparts : Starless (" OR ".toList.intercalate (ts.map (fieldCondition field))) := by
        refine starsAre_intercalate ?_ separates_or
        intro part hm
        obtain ⟨t, ht, rfl⟩ := List.mem_map.mp hm
        exact starless_condition hf (h t ht)
      exact (hopen.append hparts).append hclose
  | between a b =>
      have hfrom : Starless ['['] := starless_of_all (by decide)
      have hto : Starless " TO ".toList := starless_of_all (by decide)
      have hend : Starless [']'] := starless_of_all (by decide)
      have ha := hfrom.append (h a List.mem_cons_self)
      have hb := (hto.append (h b (by simp [operands]))).append hend
      have hrange := (starless_field hf).append (ha.append hb)
      simpa only [clauseText, List.append_assoc, List.cons_append, List.nil_append] using hrange

def AsksAnything (query : Entries) (name : List Char) : Prop :=
  ∃ e ∈ query, e.2 = .text wildcard ∧
    (name = e.1.chars ∨ e.1.chars = categoryField.toList ∧ name = shownField.toList)

theorem starsAre_searchConditions {query : Entries} (hq : NamesFields query) :
    StarsAre (AsksAnything query) (searchConditions (.map query)) := by
  rw [searchConditions, searchClauses_eq_map]
  refine starsAre_intercalate ?_ separates_and
  intro text hm
  obtain ⟨a, ha, rfl⟩ := List.mem_map.mp hm
  obtain ⟨e, he, hname, hs, hf⟩ := mem_spelledOf hq ha
  rcases spelled?_eq_some hs with ⟨hv, hc⟩ | ⟨-, asked, -, hc, -⟩
  · rw [hc]
    refine starsAre_fieldCondition hf fun name hn ho => starsAre_star hn ⟨e, he, hv, ?_⟩
    rwa [hname] at ho
  · have hstarless : ∀ text ∈ operands (spelling asked), Starless text := by
      intro text hm
      cases asked with
      | equals t =>
          rw [List.mem_singleton.mp hm]
          exact starless_group t
      | anyOf ts =>
          obtain ⟨t, -, rfl⟩ := List.mem_map.mp hm
          exact starless_exactText t
      | between a b =>
          rcases List.mem_cons.mp hm with rfl | hm
          · exact starless_group a
          · rw [List.mem_singleton.mp hm]
            exact starless_group b
    rw [hc]
    exact (starless_clauseText hf hstarless).starsAre

/-- The text that a search compiles to reads back, in order, as what each entry seeks in its field, so that
searches with one text seek the same; and a star outside of phrases is always the whole operand of a field
that was searched for a star. -/
theorem search_conditions_read_back (query : Entries) (hq : NamesFields query) :
    ∃ sought, readConditions (searchConditions (.map query)) = some sought ∧ SeeksInOrder query sought ∧
      (∀ others, NamesFields others → searchConditions (.map others) = searchConditions (.map query) →
        SeeksInOrder others sought) ∧
      ∀ before after, searchConditions (.map query) = before ++ '*' :: after → placeAfter before = .bare →
        ∃ outer name, before = outer ++ name ++ [':'] ∧ Opens outer ∧ AsksAnything query name ∧ Ends after := by
  refine ⟨_, readConditions_searchConditions hq, seeksInOrder_spelledOf query, ?_,
    (starsAre_searchConditions hq).operand⟩
  intro others ho ht
  have hr := readConditions_searchConditions ho
  rw [ht, readConditions_searchConditions hq, Option.some.injEq] at hr
  rw [hr]
  exact seeksInOrder_spelledOf others

def mixedQuery : Entries := [
  (.text "categories", .text "*"),
  (.text "name", .text " red) AND  in_stock:* "),
  (.text "color", .list [.text "light *", .null, .text "\"*"]),
  (.text "sku", .text "  "),
  (.text "price", .list []),
  (.text "brand", .tuple []),
  (.text "size", .map [(.text "from", .text "1 TO"), (.text "to", .text "\t")]),
  (.text "sku", .text "*")]

theorem namesFields_mixedQuery : NamesFields mixedQuery := by
  intro e he
  simp only [mixedQuery, List.mem_cons, List.not_mem_nil, or_false] at he
  rcases he with rfl | rfl | rfl | rfl | rfl | rfl | rfl | rfl <;>
    exact ⟨_, rfl, by decide, List.all_eq_true.mp (by decide)⟩

theorem mixed_query_reads_back : NamesFields mixedQuery ∧
    ∃ sought, readConditions (searchConditions (.map mixedQuery)) = some sought ∧ SeeksInOrder mixedQuery sought ∧
      (∀ others, NamesFields others → searchConditions (.map others) = searchConditions (.map mixedQuery) →
        SeeksInOrder others sought) ∧
      ∀ before after, searchConditions (.map mixedQuery) = before ++ '*' :: after → placeAfter before = .bare →
        ∃ outer name, before = outer ++ name ++ [':'] ∧ Opens outer ∧ AsksAnything mixedQuery name ∧ Ends after :=
  ⟨namesFields_mixedQuery, search_conditions_read_back mixedQuery namesFields_mixedQuery⟩

theorem searchConditions_singleton {name : String} (h : searchEntry? name.toList v = some text) :
    searchConditions (.map [(.text name, v)]) = text := by
  have hn : (Value.text name).chars = name.toList := rfl
  simp [searchConditions, searchClauses, hn, h, conjunction]

/-- An empty list of prices is a range without bounds, and in a phrase a star stands without a backslash. -/
theorem empty_prices_and_quoted_stars_show :
    readConditions (searchConditions (.map [(.text "price", .list [])])) = some [("price".toList, .between [] [])] ∧
    searchConditions (.map [(.text "name", .list [.text "a *"])]) = "(name:\"a ".toList ++ '*' :: "\")".toList := by
  have hprices : (Value.list []).same (.text wildcard) = false := by simp [Value.same]
  have hnames : (Value.list [.text "a *"]).same (.text wildcard) = false := by simp [Value.same]
  constructor
  · have hq : NamesFields [(.text "price", .list [])] := by
      intro e he
      rw [List.mem_singleton.mp he]
      exact ⟨_, rfl, by decide, List.all_eq_true.mp (by decide)⟩
    have hs : spelled? "price".toList (.list []) = some (.between [] []) := by
      rw [spelled?, hprices, if_neg (by decide)]
      decide
    have hn : (Value.text "price").chars = "price".toList := rfl
    have hone : spelledOf [(.text "price", .list [])] = [("price".toList, .between [] [])] := by
      simp only [spelledOf, List.filterMap_cons, List.filterMap_nil, hn, hs, Option.map_some]
    rw [readConditions_searchConditions hq, hone]
    rfl
  · refine searchConditions_singleton ?_
    unfold searchEntry?
    rw [hnames, if_neg (by decide)]
    decide

end CatalogSearch.Query.SearchText
