import CatalogSearch.Proofs.Value.Records
import CatalogSearch.Web.Arguments
import Mathlib.Data.List.Induction
import Mathlib.Data.List.Nodup
import Mathlib.Data.List.Pairwise

namespace CatalogSearch.Web.Arguments

open Entries

theorem all_cons (a : String × String) (args : Arguments) (name : String) :
    all (a :: args) name = if a.1 = name then a.2 :: args.all name else args.all name := by
  by_cases h : a.1 = name <;> simp [all, h]

theorem mem_names_iff (args : Arguments) (name : String) : name ∈ args.names ↔ args.all name ≠ [] := by
  have hfold : ∀ seen : List String, name ∈ args.foldl (fun seen a => if a.1 ∈ seen then seen else seen ++ [a.1]) seen ↔
      name ∈ seen ∨ args.all name ≠ [] := by
    induction args with
    | nil => simp [all]
    | cons a args ih =>
        intro seen
        rw [List.foldl_cons, ih, all_cons]
        by_cases ha : a.1 = name
        · rw [ha, if_pos rfl]
          by_cases hs : name ∈ seen <;> simp [hs]
        · rw [if_neg ha]
          by_cases hs : a.1 ∈ seen <;> simp [hs, Ne.symm ha]
  rw [names, hfold]
  simp

theorem nodup_names (args : Arguments) : args.names.Nodup := by
  refine List.foldlRecOn (motive := List.Nodup) args _ List.nodup_nil ?_
  intro seen hs a _
  split
  · exact hs
  · next hm =>
      rw [← List.concat_eq_append]
      exact List.Nodup.concat hm hs

/-- What is asked of a field, or of one end of its range. -/
abbrev Asked := FilterName × Value

/-- Of several values one end of a range takes the first, and a field takes all. -/
def valueFor (bound : Option String) : List Value → Option Value
  | [] => none
  | [v] => some v
  | v :: vs => some (if bound.isSome then v else .list (v :: vs))

def asked? (args : Arguments) (name : String) : Option Asked := do
  let filter ← FilterName.read? name.toList
  let v ← valueFor filter.bound (((args.all name).filter (· ≠ "")).map .text)
  pure (filter, v)

def told (args : Arguments) : List Asked := args.names.filterMap args.asked?

def file (filters : Entries) : Asked → Outcome Entries
  | (⟨field, some bound⟩, v) => addBound filters field bound v
  | (⟨field, none⟩, v) => pure (filters.set field v)

theorem addFilter_eq (args : Arguments) (filters : Entries) (name : String) :
    addFilter args filters name = (args.asked? name).elim (pure filters) (file filters) := by
  unfold addFilter asked?
  rcases FilterName.read? name.toList with _ | ⟨field, bound⟩
  · rfl
  · rcases ((args.all name).filter (· ≠ "")).map Value.text with _ | ⟨v, _ | ⟨w, vs⟩⟩ <;> cases bound <;> rfl

theorem filters_eq (args : Arguments) : args.filters = args.told.foldlM file [] := by
  have hfold : ∀ (names : List String) (filters : Entries),
      names.foldlM (addFilter args) filters = (names.filterMap args.asked?).foldlM file filters := by
    intro names
    induction names with
    | nil => exact fun _ => rfl
    | cons name names ih =>
        intro filters
        rw [List.foldlM_cons, addFilter_eq, List.filterMap_cons]
        cases args.asked? name with
        | none => exact ih filters
        | some a =>
            rw [List.foldlM_cons]
            exact bind_congr ih
  exact hfold _ _

theorem valueFor_texts {bound : Option String} {texts : List String} {v : Value}
    (h : valueFor bound (texts.map .text) = some v) :
    (∃ s, v = .text s) ∨ bound = none ∧ ∃ texts : List String, v = .list (texts.map .text) := by
  rcases texts with _ | ⟨s, _ | ⟨t, texts⟩⟩
  · cases h
  · exact .inl ⟨s, (Option.some.inj h).symm⟩
  · cases bound with
    | some bound => exact .inl ⟨s, (Option.some.inj h).symm⟩
    | none => exact .inr ⟨rfl, s :: t :: texts, (Option.some.inj h).symm⟩

theorem value_of_told {args : Arguments} {a : Asked} (h : a ∈ args.told) :
    (∃ s, a.2 = .text s) ∨ a.1.bound = none ∧ ∃ texts : List String, a.2 = .list (texts.map .text) := by
  obtain ⟨name, -, ha⟩ := List.mem_filterMap.mp h
  obtain ⟨filter, -, ha⟩ := Option.bind_eq_some_iff.mp ha
  obtain ⟨v, hv, ha⟩ := Option.bind_eq_some_iff.mp ha
  cases ha
  exact valueFor_texts hv

/-- A field as a whole is asked for once more, or after nothing but ends of its range. -/
def Orderly (a b : Asked) : Prop := a.1.field = b.1.field → a.1.bound = none → b.1.bound = none

/-- Two askings of which neither is in the way of the other: of different fields, or of both ends of a range. -/
def Apart (a b : Asked) : Prop := a.1.field = b.1.field → a.1.bound ≠ none ∧ b.1.bound ≠ none ∧ a.1.bound ≠ b.1.bound

theorem Apart.symm {a b : Asked} (h : Apart a b) : Apart b a := by
  intro he
  obtain ⟨ha, hb, hne⟩ := h he.symm
  exact ⟨hb, ha, hne.symm⟩

theorem Apart.orderly {a b : Asked} (h : Apart a b) : Orderly a b := fun he hn => absurd hn (h he).1

section

variable {asked : List Asked} {es es' : Entries} {a : Asked}

theorem foldlM_file_concat (asked : List Asked) (a : Asked) (es : Entries) :
    (asked ++ [a]).foldlM file es = asked.foldlM file es >>= fun fs => file fs a := by
  rw [List.foldlM_append]
  exact bind_congr fun fs => bind_pure (file fs a)

def IsPlain (es : Entries) (field : String) : Prop := ∃ v, es.field? field = some v ∧ v.isMap = false

theorem isPlain_set (es : Entries) (name field : String) (v : Value) :
    IsPlain (es.set name v) field ↔ if field = name then v.isMap = false else IsPlain es field := by
  unfold IsPlain
  rw [Entries.field?_set]
  by_cases h : field = name <;> simp [h]

theorem addBound_eq (es : Entries) (field bound : String) (v : Value) :
    IsPlain es field ∧ addBound es field bound v = .error .wrongKind ∨
      ¬IsPlain es field ∧ ∃ range, es.field field (.map []) = .map range ∧
        addBound es field bound v = .ok (es.set field (.map (Entries.set range bound v))) := by
  rw [addBound, IsPlain, Entries.field]
  cases hv : es.field? field with
  | none => exact .inr ⟨by simp, [], rfl, rfl⟩
  | some w =>
      cases w with
      | map range => exact .inr ⟨by simp [Value.isMap], range, rfl, rfl⟩
      | _ => exact .inl ⟨⟨_, rfl, rfl⟩, rfl⟩

/-- The fields with a filter that is no range are those that were asked for as a whole. -/
def Settles (asked : List Asked) (es : Entries) : Prop :=
  ∀ field, IsPlain es field ↔ ∃ a ∈ asked, a.1.field = field ∧ a.1.bound = none

theorem settles_file (hv : a.1.bound = none → a.2.isMap = false) (h : Settles asked es) (he : file es a = .ok es') :
    Settles (asked ++ [a]) es' := by
  obtain ⟨⟨name, bound⟩, v⟩ := a
  intro field
  have hstep : IsPlain es' field ↔ IsPlain es field ∨ name = field ∧ bound = none := by
    cases bound with
    | none =>
        cases he
        rw [isPlain_set]
        by_cases hn : field = name
        · simp [hn, hv rfl]
        · simp [hn, Ne.symm hn]
    | some bound =>
        rcases addBound_eq es name bound v with ⟨-, hb⟩ | ⟨hp, range, -, hb⟩
        · cases he.symm.trans hb
        · cases he.symm.trans hb
          rw [isPlain_set]
          by_cases hn : field = name
          · simp [hn, hp, Value.isMap]
          · simp [hn]
  rw [hstep, h field]
  simp [or_and_right, exists_or]

theorem settles_of_filed (hv : ∀ a ∈ asked, a.1.bound = none → a.2.isMap = false) (h : asked.foldlM file [] = .ok es) :
    Settles asked es := by
  induction asked using List.reverseRecOn generalizing es with
  | nil =>
      cases h
      intro field
      simp [IsPlain, Entries.field?, Keyed.find?]
  | append_singleton asked a ih =>
      rw [foldlM_file_concat] at h
      obtain ⟨fs, hf, h⟩ := Folds.bind_eq_ok.mp h
      exact settles_file (hv a (by simp)) (ih (fun b hb => hv b (by simp [hb])) hf) h

theorem filed_iff (h : Settles asked es) : (∃ es', file es a = .ok es') ↔ ∀ b ∈ asked, Orderly b a := by
  obtain ⟨⟨name, bound⟩, v⟩ := a
  cases bound with
  | none => exact ⟨fun _ _ _ _ _ => rfl, fun _ => ⟨_, rfl⟩⟩
  | some bound =>
      have hord : (∀ b ∈ asked, Orderly b (⟨name, some bound⟩, v)) ↔ ¬IsPlain es name := by
        rw [h name]
        simp [Orderly]
      rw [hord]
      rcases addBound_eq es name bound v with ⟨hp, hb⟩ | ⟨hp, range, -, hb⟩
      · simp [file, hb, hp]
      · simp [file, hb, hp]

theorem filed_iff_orderly (hv : ∀ a ∈ asked, a.1.bound = none → a.2.isMap = false) :
    (∃ es, asked.foldlM file [] = .ok es) ↔ asked.Pairwise Orderly := by
  induction asked using List.reverseRecOn with
  | nil => exact ⟨fun _ => .nil, fun _ => ⟨[], rfl⟩⟩
  | append_singleton asked a ih =>
      have hv' : ∀ b ∈ asked, b.1.bound = none → b.2.isMap = false := fun b hb => hv b (by simp [hb])
      rw [List.pairwise_append, ← ih hv']
      constructor
      · rintro ⟨es', h⟩
        rw [foldlM_file_concat] at h
        obtain ⟨es, hf, h⟩ := Folds.bind_eq_ok.mp h
        have ha := (filed_iff (settles_of_filed hv' hf)).mp ⟨es', h⟩
        refine ⟨⟨es, hf⟩, List.pairwise_singleton _ _, ?_⟩
        intro b hb c hc
        rw [List.mem_singleton.mp hc]
        exact ha b hb
      · rintro ⟨⟨es, hf⟩, -, ha⟩
        obtain ⟨es', h⟩ := (filed_iff (settles_of_filed hv' hf)).mpr fun b hb => ha b hb a (List.mem_singleton_self a)
        exact ⟨es', by rw [foldlM_file_concat, hf]; exact h⟩

/-- A range with the ends that were asked for, of which there is one. -/
structure IsRangeOf (asked : List Asked) (field : String) (range : Entries) : Prop where
  record : range.IsRecord
  bounds : ∀ bound v, range.field? bound = some v ↔ (⟨field, some bound⟩, v) ∈ asked
  given : ∃ bound v, (⟨field, some bound⟩, v) ∈ asked

/-- What a field holds that was asked for: its plain filter, or its range. -/
inductive Filed (asked : List Asked) (field : String) : Value → Prop where
  | plain {v : Value} : (⟨field, none⟩, v) ∈ asked → Filed asked field v
  | range {es : Entries} : IsRangeOf asked field es → Filed asked field (.map es)

/-- Filters that hold just what was asked for. -/
structure Collects (asked : List Asked) (es : Entries) : Prop where
  record : es.IsRecord
  fields : ∀ field, es.hasField field ↔ ∃ a ∈ asked, a.1.field = field
  filed : ∀ field v, es.field? field = some v → Filed asked field v

theorem mem_concat_of_ne {field : String} {bound : Option String} {v : Value} (h : a.1.field ≠ field) :
    ((⟨field, bound⟩, v) : Asked) ∈ asked ++ [a] ↔ (⟨field, bound⟩, v) ∈ asked := by
  rw [List.mem_append, List.mem_singleton, or_iff_left]
  rintro rfl
  exact h rfl

theorem Filed.concat {field : String} {v : Value} (h : Filed asked field v) (ha : a.1.field ≠ field) :
    Filed (asked ++ [a]) field v := by
  cases h with
  | plain hm => exact .plain (List.mem_append_left _ hm)
  | range hr =>
      refine .range ⟨hr.record, ?_, ?_⟩
      · intro bound v
        rw [hr.bounds, mem_concat_of_ne ha]
      · obtain ⟨bound, v, hm⟩ := hr.given
        exact ⟨bound, v, List.mem_append_left _ hm⟩

theorem Collects.set {name : String} {v : Value} (h : Collects asked es) (hn : a.1.field = name)
    (hv : Filed (asked ++ [a]) name v) : Collects (asked ++ [a]) (es.set name v) where
  record := h.record.set name v
  fields := by
    intro field
    rw [hasField_set, h.fields]
    simp [or_and_right, exists_or, hn, or_comm, eq_comm]
  filed := by
    intro field w hw
    rw [Entries.field?_set] at hw
    split at hw
    · next he =>
        cases hw
        rw [he]
        exact hv
    · next he => exact (h.filed field w hw).concat (by rw [hn]; exact Ne.symm he)

/-- Before one of its ends is filed, a field that was not asked for as a whole holds a range of the other
ends, or none as yet. -/
theorem Collects.range {name : String} (h : Collects asked es) (hn : ∀ v, (⟨name, none⟩, v) ∉ asked) :
    ∃ range : Entries, es.field name (.map []) = .map range ∧ range.IsRecord ∧
      ∀ bound v, range.field? bound = some v ↔ (⟨name, some bound⟩, v) ∈ asked := by
  rw [Entries.field]
  cases hv : es.field? name with
  | none =>
      refine ⟨[], rfl, isRecord_nil, fun bound v => iff_of_false (by simp [Entries.field?, Keyed.find?]) ?_⟩
      intro hm
      have hf := (h.fields name).mpr ⟨_, hm, rfl⟩
      rw [hasField_eq, hv] at hf
      cases hf
  | some w =>
      cases h.filed name w hv with
      | plain hm => exact absurd hm (hn w)
      | range hr => exact ⟨_, rfl, hr.record, hr.bounds⟩

theorem collects_file (h : Collects asked es) (ha : ∀ b ∈ asked, Apart b a) :
    ∃ es', file es a = .ok es' ∧ Collects (asked ++ [a]) es' := by
  obtain ⟨⟨name, bound⟩, v⟩ := a
  cases bound with
  | none => exact ⟨_, rfl, h.set rfl (.plain (by simp))⟩
  | some bound =>
      obtain ⟨range, hrange, hrecord, hbounds⟩ := h.range fun w hm => (ha _ hm rfl).1 rfl
      have hnot : ∀ w, (⟨name, some bound⟩, w) ∉ asked := fun w hm => (ha _ hm rfl).2.2 rfl
      refine ⟨_, by rw [file, addBound, hrange]; rfl, h.set rfl (.range ⟨hrecord.set bound v, ?_, bound, v, by simp⟩)⟩
      intro other w
      rw [Entries.field?_set, List.mem_append, List.mem_singleton]
      by_cases ho : other = bound
      · simp [ho, hnot, eq_comm]
      · simp [ho, hbounds]

theorem collects_filed (h : asked.Pairwise Apart) : ∃ es, asked.foldlM file [] = .ok es ∧ Collects asked es := by
  induction asked using List.reverseRecOn with
  | nil =>
      refine ⟨[], rfl, isRecord_nil, ?_, ?_⟩
      · intro field
        simp [Entries.hasField, Keyed.has, Keyed.find?]
      · intro field v hv
        cases hv
  | append_singleton asked a ih =>
      obtain ⟨h, -, ha⟩ := List.pairwise_append.mp h
      obtain ⟨es, hf, hc⟩ := ih h
      obtain ⟨es', he, hc'⟩ := collects_file hc fun b hb => ha b hb a (List.mem_singleton_self a)
      exact ⟨es', by rw [foldlM_file_concat, hf]; exact he, hc'⟩

theorem apart_of_mem (h : asked.Pairwise Apart) {b : Asked} (ha : a ∈ asked) (hb : b ∈ asked) (hne : a ≠ b) :
    Apart a b := by
  have : Std.Symm Apart := ⟨fun _ _ => Apart.symm⟩
  exact h.forall ha hb hne

theorem eq_of_plain (h : asked.Pairwise Apart) {field : String} {v : Value} (ha : (⟨field, none⟩, v) ∈ asked) {b : Asked}
    (hb : b ∈ asked) (hf : b.1.field = field) : b = (⟨field, none⟩, v) := by
  by_contra hne
  exact (apart_of_mem h ha hb (Ne.symm hne) hf.symm).1 rfl

theorem Filed.same {field : String} {v w : Value} (h : asked.Pairwise Apart)
    (hs : ∀ a ∈ asked, a.2.same a.2 = true) (hv : Filed asked field v) (hw : Filed asked field w) : v.same w = true := by
  cases hv with
  | plain hm =>
      cases hw with
      | plain hm' =>
          cases eq_of_plain h hm hm' rfl
          exact hs _ hm
      | range hr =>
          obtain ⟨bound, x, hx⟩ := hr.given
          cases eq_of_plain h hm hx rfl
  | range hr =>
      cases hw with
      | plain hm =>
          obtain ⟨bound, x, hx⟩ := hr.given
          cases eq_of_plain h hm hx rfl
      | range hr' =>
          have hfields : ∀ bound x, Entries.field? _ bound = some x ↔ Entries.field? _ bound = some x := fun bound x =>
            (hr.bounds bound x).trans (hr'.bounds bound x).symm
          refine hr.record.same hr'.record ?_ ?_
          · intro bound
            rw [hasField_eq, hasField_eq, Option.isSome_iff_exists, Option.isSome_iff_exists]
            exact exists_congr (hfields bound)
          · intro bound x y hx hy
            cases ((hfields bound x).mp hx).symm.trans hy
            exact hs _ ((hr.bounds bound x).mp hx)

theorem Collects.same (h : asked.Pairwise Apart) (hs : ∀ a ∈ asked, a.2.same a.2 = true)
    (he : Collects asked es) (he' : Collects asked es') : (Value.map es).same (.map es') = true := by
  refine he.record.same he'.record ?_ ?_
  · intro field
    rw [he.fields, he'.fields]
  · intro field v w hv hw
    exact (he.filed field v hv).same h hs (he'.filed field w hw)

theorem Collects.of_perm {others : List Asked} (hp : asked.Perm others) (h : Collects asked es) : Collects others es where
  record := h.record
  fields := by
    intro field
    rw [h.fields]
    simp only [hp.mem_iff]
  filed := by
    intro field v hv
    cases h.filed field v hv with
    | plain hm => exact .plain (hp.mem_iff.mp hm)
    | range hr =>
        refine .range ⟨hr.record, fun bound v => (hr.bounds bound v).trans hp.mem_iff, ?_⟩
        obtain ⟨bound, v, hm⟩ := hr.given
        exact ⟨bound, v, hp.mem_iff.mp hm⟩

theorem file_fails {failure : Failure} (h : asked.foldlM file es = .error failure) : failure = .wrongKind := by
  induction asked generalizing es with
  | nil => cases h
  | cons a asked ih =>
      rw [List.foldlM_cons] at h
      cases hf : file es a with
      | ok fs =>
          rw [hf] at h
          exact ih h
      | error e =>
          obtain ⟨⟨name, _ | bound⟩, v⟩ := a
          · cases hf
          · rw [hf] at h
            cases h
            rcases addBound_eq es name bound v with ⟨-, hb⟩ | ⟨-, range, -, hb⟩
            · cases hf.symm.trans hb
              rfl
            · cases hf.symm.trans hb

end

theorem told_perm {args args' : Arguments} (h : ∀ name, args'.all name = args.all name) : args'.told.Perm args.told := by
  have hnames : args'.names.Perm args.names := by
    refine (List.perm_ext_iff_of_nodup args'.nodup_names args.nodup_names).mpr fun name => ?_
    rw [mem_names_iff, mem_names_iff, h]
  have hasked : args'.asked? = args.asked? := by
    funext name
    rw [asked?, asked?, h]
  rw [told, told, hasked]
  exact hnames.filterMap _

theorem same_of_told {args : Arguments} {a : Asked} (h : a ∈ args.told) : a.2.same a.2 = true := by
  rcases value_of_told h with ⟨s, hs⟩ | ⟨-, texts, ht⟩
  · rw [hs]
    exact Value.same_text_self s
  · rw [ht, Value.same]
    exact Value.sameItems_texts texts

/-- Arguments tell of filters unless an end of a range comes behind a plain filter of its field. Where none is
in the way of another, the filters hold just what the arguments ask for, in whatever order their names come. -/
theorem filters_of_arguments (args : Arguments) :
    (args.told.Pairwise Orderly → ∃ es, args.filters = .ok es) ∧
    (¬args.told.Pairwise Orderly → args.filters = .error .wrongKind) ∧
    (args.told.Pairwise Apart → ∃ es, args.filters = .ok es ∧ Collects args.told es ∧
      ∀ args' : Arguments, (∀ name, args'.all name = args.all name) →
        ∃ es', args'.filters = .ok es' ∧ (Value.map es).same (.map es') = true) := by
  have hplain : ∀ a ∈ args.told, a.1.bound = none → a.2.isMap = false := by
    intro a ha _
    rcases value_of_told ha with ⟨s, hs⟩ | ⟨-, texts, ht⟩
    · rw [hs]
      rfl
    · rw [ht]
      rfl
  have hiff := filed_iff_orderly hplain
  rw [← filters_eq] at hiff
  refine ⟨hiff.mpr, ?_, ?_⟩
  · intro hn
    cases hf : args.filters with
    | ok es => exact absurd (hiff.mp ⟨es, hf⟩) hn
    | error failure =>
        rw [filters_eq] at hf
        rw [file_fails hf]
  · intro ha
    obtain ⟨es, he, hc⟩ := collects_filed ha
    refine ⟨es, (filters_eq args).trans he, hc, ?_⟩
    intro args' hall
    have hp := told_perm hall
    obtain ⟨es', he', hc'⟩ := collects_filed ((hp.pairwise_iff Apart.symm).mpr ha)
    exact ⟨es', (filters_eq args').trans he', hc.same ha (fun a => same_of_told) (hc'.of_perm hp)⟩

def shopArguments : Arguments := [
  ("q", "lamp"), ("filters[price][from]", "1"), ("filters[color]", "red"), ("filters[size]", ""),
  ("filters[price][to]", "5"), ("filters[color]", "blue")]

theorem told_shopArguments : shopArguments.told = [
    (⟨"price", some "from"⟩, .text "1"), (⟨"color", none⟩, .list [.text "red", .text "blue"]),
    (⟨"price", some "to"⟩, .text "5")] := by
  rfl

def shopArguments' : Arguments := [
  ("filters[price][to]", "5"), ("filters[color]", "red"), ("filters[color]", "blue"), ("filters[price][from]", "1"),
  ("filters[size]", ""), ("q", "lamp")]

theorem all_shopArguments' (name : String) : shopArguments'.all name = shopArguments.all name := by
  by_cases hname : name ∈ shopArguments.names
  · have hm : name ∈ ["q", "filters[price][from]", "filters[color]", "filters[size]", "filters[price][to]"] := hname
    simp only [List.mem_cons, List.not_mem_nil, or_false] at hm
    rcases hm with rfl | rfl | rfl | rfl | rfl <;> rfl
  · have hname' : name ∉ shopArguments'.names := by
      intro hm
      apply hname
      revert hm
      simp [shopArguments, shopArguments', names]
      tauto
    rw [mem_names_iff, not_not] at hname hname'
    rw [hname, hname']

theorem apart_shopArguments : shopArguments.told.Pairwise Apart := by
  rw [told_shopArguments]
  simp [Apart]

theorem shop_arguments_tell_filters : shopArguments.told.Pairwise Orderly ∧ shopArguments.told.Pairwise Apart ∧
    (∀ name, shopArguments'.all name = shopArguments.all name) ∧
    ∃ es es', shopArguments.filters = .ok es ∧ Collects shopArguments.told es ∧
      shopArguments'.filters = .ok es' ∧ (Value.map es).same (.map es') = true := by
  obtain ⟨es, he, hc, hall⟩ := (filters_of_arguments shopArguments).2.2 apart_shopArguments
  obtain ⟨es', he', hs⟩ := hall shopArguments' all_shopArguments'
  exact ⟨apart_shopArguments.imp Apart.orderly, apart_shopArguments, all_shopArguments', es, es', he, hc, he', hs⟩

theorem filters_pair {args : Arguments} {a b : Asked} (h : args.told = [a, b]) :
    args.filters = file [] a >>= fun es => file es b := by
  rw [filters_eq, h, List.foldlM_cons]
  exact bind_congr fun es => bind_pure (file es b)

/-- An end of a range fails behind a plain filter of its field, and is lost before it. Two names of one field
take each other's place. -/
theorem order_of_names_shows :
    filters [("filters[price]", "5"), ("filters[price][from]", "1")] = .error .wrongKind ∧
    filters [("filters[price][from]", "1"), ("filters[price]", "5")] = .ok [(.text "price", .text "5")] ∧
    filters [("filters[size]", "s"), ("filters[size]\n", "m")] = .ok [(.text "size", .text "m")] ∧
    filters [("filters[size]\n", "m"), ("filters[size]", "s")] = .ok [(.text "size", .text "s")] := by
  refine ⟨?_, ?_, ?_, ?_⟩
  · rw [filters_pair (a := (⟨"price", none⟩, .text "5")) (b := (⟨"price", some "from"⟩, .text "1")) rfl]
    simp [file, addBound, Entries.field, field?_set_self]
    rfl
  · rw [filters_pair (a := (⟨"price", some "from"⟩, .text "1")) (b := (⟨"price", none⟩, .text "5")) rfl]
    simp [file, addBound, Entries.field, Entries.field?, Entries.set, Keyed.find?, Keyed.insert, Value.same_text]
    rfl
  · rw [filters_pair (a := (⟨"size", none⟩, .text "s")) (b := (⟨"size", none⟩, .text "m")) rfl]
    simp [file, Entries.set, Keyed.insert, Value.same_text]
    rfl
  · rw [filters_pair (a := (⟨"size", none⟩, .text "m")) (b := (⟨"size", none⟩, .text "s")) rfl]
    simp [file, Entries.set, Keyed.insert, Value.same_text]
    rfl

end CatalogSearch.Web.Arguments
