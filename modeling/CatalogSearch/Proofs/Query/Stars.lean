import CatalogSearch.Proofs.Query.Operands

namespace CatalogSearch.Query.Reader

open Text

/-- Where a text has come to: outside of phrases or in one, and there behind a backslash or not. -/
inductive Place where
  | bare | literal | quoted | quotedLiteral
  deriving DecidableEq

def Place.next : Place → Char → Place
  | bare, c => if c = '\\' then literal else if c = '"' then quoted else bare
  | literal, _ => bare
  | quoted, c => if c = '\\' then quotedLiteral else if c = '"' then bare else quoted
  | quotedLiteral, _ => quoted

def placeAfter (cs : List Char) : Place := cs.foldl Place.next .bare

def Opens (cs : List Char) : Prop := ∀ c ∈ cs.getLast?, c ∈ [' ', '(']

/-- A text that ends outside of phrases, and outside of which every star is the operand of a field
that a star is asked of. -/
structure StarsAre (asked : List Char → Prop) (text : List Char) : Prop where
  bare : placeAfter text = .bare
  operand : ∀ before after, text = before ++ '*' :: after → placeAfter before = .bare →
    ∃ outer name, before = outer ++ name ++ [':'] ∧ Opens outer ∧ asked name ∧ Ends after

def Starless (text : List Char) : Prop := StarsAre (fun _ => False) text

variable {asked : List Char → Prop} {cs ds field text : List Char}

theorem placeAfter_append (h : placeAfter cs = .bare) (ds : List Char) : placeAfter (cs ++ ds) = placeAfter ds := by
  rw [placeAfter, List.foldl_append, ← placeAfter, h]
  rfl

theorem starless_of (h : placeAfter text = .bare)
    (hs : ∀ before after, text = before ++ '*' :: after → placeAfter before ≠ .bare) : Starless text :=
  ⟨h, fun before after ht hb => (hs before after ht hb).elim⟩

theorem Starless.absurd {P : Prop} {before after : List Char} (h : Starless text) (ht : text = before ++ '*' :: after)
    (hp : placeAfter before = .bare) : P := by
  obtain ⟨-, -, -, -, hf, -⟩ := h.operand before after ht hp
  exact hf.elim

theorem Starless.starsAre (h : Starless text) : StarsAre asked text := by
  exact ⟨h.bare, fun _ _ ht hb => h.absurd ht hb⟩

theorem starless_of_literal (h : Literal ['*', '"'] cs) : Starless cs := by
  induction h with
  | nil => exact starless_of rfl fun before after ht => by simp at ht
  | @plain c cs hb hs _ ih =>
      have hn : Place.bare.next c = .bare := by simp_all [Place.next]
      refine starless_of ?_ ?_
      · rw [placeAfter, List.foldl_cons, hn]
        exact ih.bare
      · rintro (_ | ⟨d, before⟩) after ht hp
        · rw [List.nil_append, List.cons.injEq] at ht
          exact hs (by simp [ht.1])
        · rw [List.cons_append, List.cons.injEq] at ht
          obtain ⟨rfl, ht⟩ := ht
          rw [placeAfter, List.foldl_cons, hn] at hp
          exact ih.absurd ht hp
  | @escaped c cs _ ih =>
      refine starless_of ih.bare ?_
      rintro (_ | ⟨d, _ | ⟨e, before⟩⟩) after ht hp
      · simp at ht
      · rw [List.cons_append, List.cons.injEq] at ht
        rw [← ht.1] at hp
        exact absurd hp (by decide)
      · rw [List.cons_append, List.cons_append, List.cons.injEq, List.cons.injEq] at ht
        obtain ⟨rfl, rfl, ht⟩ := ht
        exact ih.absurd ht hp

theorem quoted_of_literal (h : Literal ['"'] cs) :
    cs.foldl Place.next .quoted = .quoted ∧
      ∀ before after, cs = before ++ after → before.foldl Place.next .quoted ≠ .bare := by
  induction h with
  | nil =>
      refine ⟨rfl, ?_⟩
      intro before after ht
      rw [(List.append_eq_nil_iff.mp ht.symm).1]
      decide
  | @plain c cs hb hs _ ih =>
      have hn : Place.quoted.next c = .quoted := by simp_all [Place.next]
      refine ⟨by rw [List.foldl_cons, hn]; exact ih.1, ?_⟩
      rintro (_ | ⟨d, before⟩) after ht
      · decide
      · rw [List.cons_append, List.cons.injEq] at ht
        rw [← ht.1, List.foldl_cons, hn]
        exact ih.2 before after ht.2
  | @escaped c cs _ ih =>
      refine ⟨ih.1, ?_⟩
      rintro (_ | ⟨d, _ | ⟨e, before⟩⟩) after ht
      · decide
      · rw [List.cons_append, List.cons.injEq] at ht
        rw [← ht.1]
        decide
      · rw [List.cons_append, List.cons_append, List.cons.injEq, List.cons.injEq] at ht
        rw [← ht.1]
        exact ih.2 before after ht.2.2

theorem starless_phrase (t : List Char) : Starless (phrase t) := by
  obtain ⟨hq, hin⟩ := quoted_of_literal (literal_escapePhrase t)
  refine starless_of ?_ ?_
  · change ((escapePhrase t) ++ ['"']).foldl Place.next .quoted = .bare
    rw [List.foldl_append, hq]
    rfl
  · rintro (_ | ⟨c, before⟩) after ht hp
    · simp [phrase] at ht
    · rw [phrase, List.cons_append, List.cons_append, List.cons.injEq] at ht
      obtain ⟨rfl, ht⟩ := ht
      change before.foldl Place.next .quoted = .bare at hp
      rcases List.append_eq_append_iff.mp ht with ⟨m, -, hm⟩ | ⟨m, hc, -⟩
      · cases m with
        | nil => simp at hm
        | cons c m => simp at hm
      · exact hin before m hc hp

theorem star_of_append {before after : List Char} (hb : placeAfter cs = .bare) (ht : cs ++ ds = before ++ '*' :: after)
    (hp : placeAfter before = .bare) :
    (∃ m, cs = before ++ '*' :: m ∧ after = m ++ ds) ∨
      ∃ m, before = cs ++ m ∧ ds = m ++ '*' :: after ∧ placeAfter m = .bare := by
  rcases List.append_eq_append_iff.mp ht with ⟨m, rfl, hm⟩ | ⟨m, rfl, hm⟩
  · rw [placeAfter_append hb] at hp
    exact .inr ⟨m, rfl, hm, hp⟩
  · cases m with
    | nil => exact .inr ⟨[], by simp, by simpa using hm.symm, rfl⟩
    | cons c m =>
        rw [List.cons_append, List.cons.injEq] at hm
        obtain ⟨rfl, rfl⟩ := hm
        exact .inl ⟨m, rfl, rfl⟩

theorem opens_append (h : Opens ds) (hc : ds = [] → Opens cs) : Opens (cs ++ ds) := by
  rcases List.eq_nil_or_concat ds with rfl | ⟨ds, d, rfl⟩
  · rw [List.append_nil]
    exact hc rfl
  · intro c hm
    rw [List.concat_eq_append] at h hm
    rw [← List.append_assoc, List.getLast?_concat] at hm
    exact h c (by rwa [List.getLast?_concat])

theorem Ends.append (h : Ends cs) (hd : cs = [] → Ends ds) : Ends (cs ++ ds) := by
  cases cs with
  | nil => exact hd rfl
  | cons c cs => exact h

theorem Starless.append (h : Starless cs) (hd : Starless ds) : Starless (cs ++ ds) := by
  refine starless_of (by rw [placeAfter_append h.bare, hd.bare]) ?_
  intro before after ht hp
  rcases star_of_append h.bare ht hp with ⟨m, hm, -⟩ | ⟨m, -, hm, hp⟩
  · exact h.absurd hm hp
  · exact hd.absurd hm hp

variable {pre post sep : List Char}

theorem StarsAre.within (h : StarsAre asked cs) (hpre : Starless pre) (ho : Opens pre) (hpost : Starless post)
    (he : Ends post) : StarsAre asked (pre ++ (cs ++ post)) := by
  refine ⟨by rw [placeAfter_append hpre.bare, placeAfter_append h.bare, hpost.bare], ?_⟩
  intro before after ht hp
  rcases star_of_append hpre.bare ht hp with ⟨m, hm, -⟩ | ⟨m, rfl, hm, hp⟩
  · exact hpre.absurd hm hp
  rcases star_of_append h.bare hm hp with ⟨k, hk, rfl⟩ | ⟨k, -, hk, hp⟩
  · obtain ⟨outer, name, rfl, hout, ha, hend⟩ := h.operand m k hk hp
    exact ⟨pre ++ outer, name, by simp, opens_append hout fun _ => ho, ha, hend.append fun _ => he⟩
  · exact hpost.absurd hk hp

/-- What can stand between clauses. -/
structure Separates (sep : List Char) : Prop where
  starless : Starless sep
  opens : Opens sep
  ends : Ends sep
  ne_nil : sep ≠ []

theorem StarsAre.join (h : StarsAre asked cs) (hd : StarsAre asked ds) (hsep : Separates sep) :
    StarsAre asked (cs ++ (sep ++ ds)) := by
  obtain ⟨hs, ho, he, hne⟩ := hsep
  refine ⟨by rw [placeAfter_append h.bare, placeAfter_append hs.bare, hd.bare], ?_⟩
  intro before after ht hp
  rcases star_of_append h.bare ht hp with ⟨m, hm, rfl⟩ | ⟨m, rfl, hm, hp⟩
  · obtain ⟨outer, name, hb, hout, ha, hend⟩ := h.operand before m hm hp
    exact ⟨outer, name, hb, hout, ha, hend.append fun _ => he.append fun hnil => (hne hnil).elim⟩
  rcases star_of_append hs.bare hm hp with ⟨k, hk, -⟩ | ⟨k, rfl, hk, hp⟩
  · exact hs.absurd hk hp
  · obtain ⟨outer, name, rfl, hout, ha, hend⟩ := hd.operand k after hk hp
    refine ⟨cs ++ (sep ++ outer), name, by simp, ?_, ha, hend⟩
    refine opens_append (opens_append hout fun _ => ho) fun hnil => ?_
    exact (hne (List.append_eq_nil_iff.mp hnil).1).elim

theorem starsAre_intercalate {texts : List (List Char)} (h : ∀ text ∈ texts, StarsAre asked text)
    (hsep : Separates sep) : StarsAre asked (sep.intercalate texts) := by
  induction texts with
  | nil => exact (starless_of_literal .nil).starsAre
  | cons text texts ih =>
      have ht := h text List.mem_cons_self
      have hrest := ih fun other hm => h other (List.mem_cons_of_mem text hm)
      cases texts with
      | nil =>
          rw [List.intercalate_singleton]
          exact ht
      | cons other texts =>
          rw [List.intercalate_cons_cons, List.append_assoc]
          exact ht.join hrest hsep

theorem starless_of_all (h : cs.all (fun c => c ∉ ['\\', '*', '"']) = true) : Starless cs := by
  refine starless_of_literal (literal_of_forall fun c hc => ?_)
  have hm := of_decide_eq_true (List.all_eq_true.mp h c hc)
  simp only [List.mem_cons, List.not_mem_nil, or_false, not_or] at hm ⊢
  exact hm

theorem separates_or : Separates " OR ".toList :=
  ⟨starless_of_all (by decide), by change Opens [' ', 'O', 'R', ' ']; simp [Opens],
    ends_cons (c := ' ') _ (by simp), by decide⟩

theorem separates_and : Separates " AND ".toList :=
  ⟨starless_of_all (by decide), by change Opens [' ', 'A', 'N', 'D', ' ']; simp [Opens],
    ends_cons (c := ' ') _ (by simp), by decide⟩

theorem starless_field (h : IsFieldName field) : Starless (field ++ [':']) := by
  refine Starless.append (starless_of_all (List.all_eq_true.mpr fun c hc => decide_eq_true fun hm => ?_))
    (starless_of_all (by decide))
  have hw := h.2 c hc
  simp only [List.mem_cons, List.not_mem_nil, or_false] at hm
  rcases hm with rfl | rfl | rfl <;> exact absurd hw (by decide)

theorem starsAre_star (h : IsFieldName field) (ha : asked field) : StarsAre asked (field ++ [':'] ++ ['*']) := by
  refine ⟨by rw [placeAfter_append (starless_field h).bare]; rfl, ?_⟩
  intro before after ht hp
  rcases star_of_append (starless_field h).bare ht hp with ⟨m, hm, -⟩ | ⟨m, rfl, hm, hp⟩
  · exact (starless_field h).absurd hm hp
  · cases m with
    | nil =>
        rw [List.nil_append, List.cons.injEq] at hm
        refine ⟨[], field, by simp, by simp [Opens], ha, ?_⟩
        rw [← hm.2]
        exact ends_nil
    | cons c m => simp at hm

end CatalogSearch.Query.Reader
