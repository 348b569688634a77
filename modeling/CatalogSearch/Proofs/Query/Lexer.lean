import CatalogSearch.Proofs.Query.Conjuncts
import Mathlib.Data.Bool.AllAny

namespace CatalogSearch.Query.Lexer

open Reader Text

/-- The characters at which the engine ends a word. -/
def separators : List Char := [' ', '\t', '\n', '\r', '\u3000']

inductive Token where
  | word (spelled : List Char)
  | phrase (spelled : List Char)
  | mark (c : Char)
  | gap (c : Char)
  deriving DecidableEq

namespace Token

/-- What is searched for when a token is met. -/
def said : Token → Option (List Char)
  | .word spelled | .phrase spelled => some (removeEscapes spelled)
  | .mark _ | .gap _ => none

/-- Words that join or negate what stands beside them. -/
def isOperator : Token → Bool
  | .word spelled => spelled ∈ Conjuncts.operators
  | _ => false

def isLoose : Token → Bool
  | .word _ | .gap _ => true
  | .phrase _ | .mark _ => false

end Token

/-- What has been read of the token that is not yet complete; without any of its characters it is no word. -/
inductive Begun where
  | word (spelled : List Char)
  | phrase (spelled : List Char)

def wordTokens (spelled : List Char) : List Token := if spelled = [] then [] else [.word spelled]

/-- The tokens of a text. A backslash takes the next character into the word or phrase; a phrase must be closed. -/
def lex : Begun → List Char → Option (List Token)
  | .word w, '\\' :: c :: cs => lex (.word (w ++ ['\\', c])) cs
  | .phrase p, '\\' :: c :: cs => lex (.phrase (p ++ ['\\', c])) cs
  | .word w, c :: cs =>
      if c = '"' then (lex (.phrase []) cs).map (wordTokens w ++ ·)
      else if c ∈ separators then (lex (.word []) cs).map (wordTokens w ++ .gap c :: ·)
      else if c ∈ reserved then (lex (.word []) cs).map (wordTokens w ++ .mark c :: ·)
      else lex (.word (w ++ [c])) cs
  | .phrase p, c :: cs =>
      if c = '"' then (lex (.word []) cs).map (.phrase p :: ·) else lex (.phrase (p ++ [c])) cs
  | .word w, [] => some (wordTokens w)
  | .phrase _, [] => none

def tokens (text : List Char) : Option (List Token) := lex (.word []) text

/-- The words of a text as the engine divides it. -/
def termsOf (t : List Char) : List (List Char) := (t.splitOnP (· ∈ separators)).filter (· ≠ [])

/-- The tokens of a text in which nothing but the separators counts, behind the beginning of a word. -/
def looseTokens : List Char → List Char → List Token
  | w, [] => wordTokens (escape w)
  | w, c :: cs => if c ∈ separators then wordTokens (escape w) ++ .gap c :: looseTokens [] cs else looseTokens (w ++ [c]) cs

variable {w p t field rest : List Char} {c s : Char}

def stops : List Char := separators ++ reserved

theorem lex_word_of_literal (h : Literal stops t) (w rest : List Char) :
    lex (.word w) (t ++ rest) = lex (.word (w ++ t)) rest := by
  induction h generalizing w with
  | nil => rw [List.nil_append, List.append_nil]
  | @plain c t hb hs _ ih =>
      rw [stops, List.mem_append, not_or] at hs
      have hq : c ≠ '"' := by
        rintro rfl
        exact hs.2 (by decide)
      rw [List.cons_append, lex, if_neg hq, if_neg hs.1, if_neg hs.2, ih, List.append_assoc]
      · rfl
      · intro d ds he
        exact (hb he).elim
  | escaped c _ ih =>
      rw [List.cons_append, List.cons_append, lex, ih, List.append_assoc]
      rfl

theorem lex_phrase_of_literal (h : Literal ['"'] t) (p rest : List Char) :
    lex (.phrase p) (t ++ '"' :: rest) = (lex (.word []) rest).map (.phrase (p ++ t) :: ·) := by
  induction h generalizing p with
  | nil =>
      rw [List.nil_append, List.append_nil, lex, if_pos rfl]
      intro d ds he
      exact absurd he (by decide)
  | @plain c t hb hs _ ih =>
      rw [List.cons_append, lex, if_neg (by simpa using hs), ih, List.append_assoc]
      · rfl
      · intro d ds he
        exact (hb he).elim
  | escaped c _ ih =>
      rw [List.cons_append, List.cons_append, lex, ih, List.append_assoc]
      rfl

theorem lex_gap (hs : s ∈ separators) (w rest : List Char) :
    lex (.word w) (s :: rest) = (lex (.word []) rest).map (wordTokens w ++ .gap s :: ·) := by
  have hn : s ≠ '"' ∧ s ≠ '\\' := by
    constructor <;> rintro rfl <;> exact absurd hs (by decide)
  rw [lex, if_neg hn.1, if_pos hs]
  intro d ds he
  exact (hn.2 he).elim

theorem lex_mark (hr : c ∈ reserved) (hq : c ≠ '"') (hb : c ≠ '\\') (w rest : List Char) :
    lex (.word w) (c :: rest) = (lex (.word []) rest).map (wordTokens w ++ .mark c :: ·) := by
  have hs : c ∉ separators := fun hs => by
    have hnone : ∀ s ∈ separators, s ∉ reserved := List.all_iff_forall_prop.mp (by decide)
    exact hnone c hs hr
  rw [lex, if_neg hq, if_neg hs, if_pos hr]
  intro d ds he
  exact (hb he).elim

theorem separated_or_not (t : List Char) : (∀ c ∈ t, c ∉ separators) ∨
    ∃ p s u, t = p ++ s :: u ∧ (∀ c ∈ p, c ∉ separators) ∧ s ∈ separators := by
  induction t with
  | nil => exact .inl (by simp)
  | cons c t ih =>
      by_cases hc : c ∈ separators
      · exact .inr ⟨[], c, t, rfl, by simp, hc⟩
      · rcases ih with h | ⟨p, s, u, rfl, hp, hs⟩
        · exact .inl (List.forall_mem_cons.mpr ⟨hc, h⟩)
        · exact .inr ⟨c :: p, s, u, rfl, List.forall_mem_cons.mpr ⟨hc, hp⟩, hs⟩

theorem separated_induction {P : List Char → Prop} (hnone : ∀ p, (∀ c ∈ p, c ∉ separators) → P p)
    (hsplit : ∀ p s t, (∀ c ∈ p, c ∉ separators) → s ∈ separators → P t → P (p ++ s :: t)) (t : List Char) : P t := by
  rcases separated_or_not t with h | ⟨p, s, u, ht, hp, hs⟩
  · exact hnone t h
  · rw [ht]
    exact hsplit p s u hp hs (separated_induction hnone hsplit u)
termination_by t.length
decreasing_by
  subst t
  simp only [List.length_append, List.length_cons]
  omega

theorem exists_cons_of_append {cs : List Char} (hs : s ≠ c) (h : p ++ s :: t = c :: cs) : ∃ ds, p = c :: ds := by
  cases p with
  | nil => exact absurd (List.cons.inj h).1 hs
  | cons d p => exact ⟨p, by rw [(List.cons.inj h).1]⟩

theorem escape_append_separator (hs : s ∈ separators) (p t : List Char) :
    escape (p ++ s :: t) = escape p ++ s :: escape t := by
  have hn : s ∉ reserved ∧ s ≠ '&' ∧ s ≠ '|' := by
    have hall : ∀ s ∈ separators, s ∉ reserved ∧ s ≠ '&' ∧ s ≠ '|' := List.all_iff_forall_prop.mp (by decide)
    exact hall s hs
  obtain ⟨hr, ha, hb⟩ := hn
  fun_induction escape p with
  | case1 p ih | case2 p ih => rw [List.cons_append, List.cons_append, escape, ih]; rfl
  | case3 c p h₁ h₂ hc ih =>
      rw [List.cons_append, escape, if_pos hc, ih]
      · rfl
      · intro cs hand hcs
        obtain ⟨ds, hds⟩ := exists_cons_of_append ha hcs
        exact h₁ ds hand hds
      · intro cs hor hcs
        obtain ⟨ds, hds⟩ := exists_cons_of_append hb hcs
        exact h₂ ds hor hds
  | case4 c p h₁ h₂ hc ih =>
      rw [List.cons_append, escape, if_neg hc, ih]
      · rfl
      · intro cs hand hcs
        obtain ⟨ds, hds⟩ := exists_cons_of_append ha hcs
        exact h₁ ds hand hds
      · intro cs hor hcs
        obtain ⟨ds, hds⟩ := exists_cons_of_append hb hcs
        exact h₂ ds hor hds
  | case5 =>
      rw [List.nil_append, escape, if_neg hr]
      · rfl
      · exact fun cs hand => (ha hand).elim
      · exact fun cs hor => (hb hor).elim

theorem escape_intercalate (ws : List (List Char)) :
    [' '].intercalate (ws.map escape) = escape ([' '].intercalate ws) := by
  induction ws with
  | nil => rfl
  | cons w ws ih =>
      cases ws with
      | nil => simp
      | cons v ws =>
          rw [List.map_cons, List.map_cons, List.intercalate_cons_cons, List.intercalate_cons_cons, List.append_assoc,
            List.append_assoc, List.singleton_append, List.singleton_append, escape_append_separator (by decide), ← ih,
            List.map_cons]

theorem group_of_words (hm : ' ' ∈ t) (hw : words t ≠ []) :
    group t = '(' :: (escape ([' '].intercalate (words t)) ++ [')']) := by
  rw [← escape_intercalate, group, if_pos ((one_lt_length_pieces ' ' t).mpr hm)]
  split
  · next h => exact absurd h hw
  · rfl

theorem literal_escape_of_not_mem (h : ∀ c ∈ p, c ∉ separators) : Literal stops (escape p) :=
  literal_escape (fun c hc hm => (List.mem_append.mp hm).resolve_left (h c hc)) (by decide) (by decide)

theorem looseTokens_of_not_mem (h : ∀ c ∈ p, c ∉ separators) (w : List Char) :
    looseTokens w p = wordTokens (escape (w ++ p)) := by
  induction p generalizing w with
  | nil => rw [looseTokens, List.append_nil]
  | cons c p ih =>
      rw [looseTokens, if_neg (h c List.mem_cons_self), ih fun d hd => h d (List.mem_cons_of_mem c hd), List.append_assoc]
      rfl

theorem looseTokens_append (hp : ∀ c ∈ p, c ∉ separators) (hs : s ∈ separators) (w t : List Char) :
    looseTokens w (p ++ s :: t) = wordTokens (escape (w ++ p)) ++ .gap s :: looseTokens [] t := by
  induction p generalizing w with
  | nil => rw [List.nil_append, List.append_nil, looseTokens, if_pos hs]
  | cons c p ih =>
      rw [List.cons_append, looseTokens, if_neg (hp c List.mem_cons_self), ih fun d hd => hp d (List.mem_cons_of_mem c hd),
        List.append_assoc]
      rfl

theorem termsOf_of_not_mem (h : ∀ c ∈ p, c ∉ separators) : termsOf p = if p = [] then [] else [p] := by
  rw [termsOf, List.splitOnP_eq_singleton (by simpa using h)]
  by_cases hp : p = [] <;> simp [hp]

theorem termsOf_append_separator (hs : s ∈ separators) (p t : List Char) :
    termsOf (p ++ s :: t) = termsOf p ++ termsOf t := by
  have hd : decide (s ∈ separators) = true := decide_eq_true hs
  induction p using separated_induction with
  | hnone p hp =>
      rw [termsOf_of_not_mem hp, termsOf, List.splitOnP_append_cons_of_forall_mem (by simpa using hp) s hd, termsOf]
      by_cases hp : p = [] <;> simp [hp]
  | hsplit p r u hp hr ih =>
      have hdr : decide (r ∈ separators) = true := decide_eq_true hr
      have hfirst (v : List Char) : termsOf (p ++ r :: v) = [p].filter (· ≠ []) ++ termsOf v := by
        rw [termsOf, List.splitOnP_append_cons_of_forall_mem (by simpa using hp) r hdr, ← List.singleton_append,
          List.filter_append]
        rfl
      rw [List.append_assoc, List.cons_append, hfirst, hfirst, ih, List.append_assoc]

theorem head?_looseTokens (ht : t ≠ []) : ∃ token, (looseTokens [] t).head? = some token ∧
    ((∃ w, token = .word w) ∨ ∃ c, t.head? = some c ∧ token = .gap c) := by
  rcases separated_or_not t with h | ⟨p, s, u, rfl, hp, hs⟩
  · rw [looseTokens_of_not_mem h, List.nil_append, wordTokens, if_neg fun he => ht (escape_eq_nil he)]
    exact ⟨_, rfl, .inl ⟨_, rfl⟩⟩
  · rw [looseTokens_append hp hs, List.nil_append, wordTokens]
    cases p with
    | nil => exact ⟨_, rfl, .inr ⟨s, rfl, rfl⟩⟩
    | cons c p =>
        rw [if_neg fun he => List.cons_ne_nil c p (escape_eq_nil he)]
        exact ⟨_, rfl, .inl ⟨_, rfl⟩⟩

def EndsWord (rest : List Char) : Prop :=
  ∀ w, lex (.word w) rest = (lex (.word []) rest).map (wordTokens w ++ ·)

theorem endsWord_nil : EndsWord [] := by
  intro w
  simp [lex, wordTokens]

theorem endsWord_mark (hr : c ∈ reserved) (hq : c ≠ '"') (hb : c ≠ '\\') : EndsWord (c :: rest) := by
  intro w
  rw [lex_mark hr hq hb, lex_mark hr hq hb, Option.map_map]
  rfl

theorem endsWord_gap (hs : s ∈ separators) : EndsWord (s :: rest) := by
  intro w
  rw [lex_gap hs, lex_gap hs, Option.map_map]
  rfl

/-- A text that comes as tokens of its own wherever a word can end behind it. -/
def Reads (text : List Char) (read : List Token) : Prop :=
  ∀ rest, EndsWord rest → lex (.word []) (text ++ rest) = (lex (.word []) rest).map (read ++ ·)

section Reads

variable {text other : List Char} {read next : List Token}

theorem Reads.tokens_eq (h : Reads text read) : tokens text = some read := by
  have hr := h [] endsWord_nil
  rw [List.append_nil] at hr
  rw [tokens, hr]
  simp [lex, wordTokens]

theorem reads_nil : Reads [] [] := by
  intro rest _
  exact Option.map_id'.symm

theorem reads_literal (h : Literal stops text) : Reads text (wordTokens text) := by
  intro rest he
  rw [lex_word_of_literal h, he]
  rfl

theorem reads_phrase (t : List Char) : Reads (phrase t) [.phrase (escapePhrase t)] := by
  intro rest _
  have htext : phrase t ++ rest = '"' :: (escapePhrase t ++ '"' :: rest) := by simp [phrase]
  rw [htext, lex, if_pos rfl, lex_phrase_of_literal (literal_escapePhrase t), List.nil_append, Option.map_map]
  · rfl
  · intro c cs he
    exact absurd he (by decide)

theorem Reads.gap (h : Reads text read) (hs : s ∈ separators) (ho : Reads other next) :
    Reads (text ++ s :: other) (read ++ .gap s :: next) := by
  intro rest he
  rw [List.append_assoc, List.cons_append, h _ (endsWord_gap hs), lex_gap hs, ho rest he, Option.map_map, Option.map_map]
  congr 1
  funext tokens
  simp [wordTokens]

theorem Reads.mark (h : Reads text read) (hc : c ∈ reserved ∧ c ≠ '"' ∧ c ≠ '\\') (ho : Reads other next) :
    Reads (text ++ c :: other) (read ++ .mark c :: next) := by
  obtain ⟨hr, hq, hb⟩ := hc
  intro rest he
  rw [List.append_assoc, List.cons_append, h _ (endsWord_mark hr hq hb), lex_mark hr hq hb, ho rest he, Option.map_map,
    Option.map_map]
  congr 1
  funext tokens
  simp [wordTokens]

/-- Escaped texts are read as the words and gaps that they have without escapes. -/
theorem reads_escape (t : List Char) : Reads (escape t) (looseTokens [] t) := by
  induction t using separated_induction with
  | hnone p hp =>
      rw [looseTokens_of_not_mem hp]
      exact reads_literal (literal_escape_of_not_mem hp)
  | hsplit p s t hp hs ih =>
      rw [escape_append_separator hs, looseTokens_append hp hs]
      exact (reads_literal (literal_escape_of_not_mem hp)).gap hs ih

end Reads

theorem wordTokens_escape (hp : ∀ c ∈ p, c ∉ separators) : wordTokens (escape p) = (termsOf p).map fun w => .word (escape w) := by
  rw [termsOf_of_not_mem hp, wordTokens]
  by_cases he : p = []
  · subst he
    rfl
  · rw [if_neg he, if_neg fun h => he (escape_eq_nil h)]
    rfl

theorem mem_looseTokens {token : Token} : token ∈ looseTokens [] t ↔
    (∃ w ∈ termsOf t, token = .word (escape w)) ∨ ∃ c ∈ t, c ∈ separators ∧ token = .gap c := by
  induction t using separated_induction with
  | hnone p hp =>
      rw [looseTokens_of_not_mem hp, List.nil_append, wordTokens_escape hp, List.mem_map]
      constructor
      · rintro ⟨w, hw, rfl⟩
        exact .inl ⟨w, hw, rfl⟩
      · rintro (⟨w, hw, rfl⟩ | ⟨c, hc, hs, -⟩)
        · exact ⟨w, hw, rfl⟩
        · exact absurd hs (hp c hc)
  | hsplit p s t hp hs ih =>
      rw [looseTokens_append hp hs, List.nil_append, wordTokens_escape hp, termsOf_append_separator hs]
      simp only [List.mem_append, List.mem_cons, List.mem_map, ih]
      grind

theorem said_looseTokens (t : List Char) : (looseTokens [] t).filterMap Token.said = termsOf t := by
  induction t using separated_induction with
  | hnone p hp =>
      rw [looseTokens_of_not_mem hp, List.nil_append, wordTokens_escape hp]
      simp [Token.said, removeEscapes_escape, Function.comp_def]
  | hsplit p s t hp hs ih =>
      rw [looseTokens_append hp hs, List.nil_append, wordTokens_escape hp, termsOf_append_separator hs,
        List.filterMap_append, List.filterMap_cons, ih]
      simp [Token.said, removeEscapes_escape, Function.comp_def]

end CatalogSearch.Query.Lexer
