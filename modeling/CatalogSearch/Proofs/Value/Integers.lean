import CatalogSearch.Value.Reading
import Mathlib.Data.List.TakeWhile
import Mathlib.Data.Option.Basic

namespace CatalogSearch

namespace Text

variable {p : Char → Bool} {c : Char} {cs : List Char}

theorem mem_dropWhile (h : c ∈ cs) (hc : p c = false) : c ∈ cs.dropWhile p := by
  rw [← List.takeWhile_append_dropWhile (p := p) (l := cs), List.mem_append] at h
  rcases h with h | h
  · rw [List.mem_takeWhile_imp h] at hc
    cases hc
  · exact h

theorem mem_stripped (h : c ∈ cs) (hc : p c = false) : c ∈ ((cs.dropWhile p).reverse.dropWhile p).reverse :=
  List.mem_reverse.mpr (mem_dropWhile (List.mem_reverse.mpr (mem_dropWhile h hc)) hc)

theorem stripped_eq_self (h : ∀ c ∈ cs, p c = false) : ((cs.dropWhile p).reverse.dropWhile p).reverse = cs := by
  have hdrop : ∀ ds : List Char, (∀ c ∈ ds, p c = false) → ds.dropWhile p = ds := by
    intro ds hd
    refine List.dropWhile_eq_self_iff.mpr fun hl => ?_
    rw [hd _ (List.getElem_mem hl)]
    exact Bool.false_ne_true
  rw [hdrop cs h, hdrop cs.reverse fun c hc => h c (List.mem_reverse.mp hc), List.reverse_reverse]

theorem trim_eq_self (h : ∀ c ∈ cs, isBlank c = false) : trim cs = cs := stripped_eq_self h

theorem trim_eq_nil_iff (cs : List Char) : trim cs = [] ↔ allBlank cs = true := by
  rw [allBlank, List.all_eq_true]
  constructor
  · intro h c hc
    by_contra hb
    have hm : c ∈ trim cs := mem_stripped hc (Bool.not_eq_true _ ▸ hb)
    rw [h] at hm
    cases hm
  · intro h
    rw [trim, trimLeft, List.dropWhile_eq_nil_iff.mpr h]
    rfl

end Text

namespace Number

variable {c : Char} {cs : List Char}

def isForeign (c : Char) : Bool :=
  !Text.isBlank c && plainDigit c == c && !isPlainDigit c && c != '_' && c != '-' && c != '+'

theorem mem_bridged (h : c ∈ cs) (hc : c ≠ '_') {b : Bool} {ds : List Char} (hb : bridged b cs = some ds) : c ∈ ds := by
  induction cs generalizing b ds with
  | nil => cases h
  | cons d cs ih =>
      rw [bridged] at hb
      split at hb
      · next hd =>
          split at hb
          · exact ih ((List.mem_cons.mp h).resolve_left fun he => hc (he.trans hd)) hb
          · cases hb
      · obtain ⟨es, he, rfl⟩ := Option.map_eq_some_iff.mp hb
        rcases List.mem_cons.mp h with rfl | h
        · exact List.mem_cons_self
        · exact List.mem_cons_of_mem _ (ih h he)

theorem mem_signed (h : c ∈ cs) (hm : c ≠ '-') (hp : c ≠ '+') : c ∈ (signed cs).2 := by
  unfold signed
  split
  · exact (List.mem_cons.mp h).resolve_left hm
  · exact (List.mem_cons.mp h).resolve_left hp
  · exact h

theorem readInt?_foreign (h : c ∈ cs) (hf : isForeign c = true) : readInt? cs = none := by
  simp only [isForeign, Bool.and_eq_true, Bool.not_eq_true', bne_iff_ne, beq_iff_eq] at hf
  obtain ⟨⟨⟨⟨⟨hb, hd⟩, hp⟩, hu⟩, hm⟩, ha⟩ := hf
  have hmargin : isMargin c = false := by rw [isMargin, hb]; rfl
  have ht : c ∈ (trimMargin cs).map plainDigit := List.mem_map.mpr ⟨c, Text.mem_stripped h hmargin, hd⟩
  by_contra hr
  obtain ⟨n, hr⟩ := Option.ne_none_iff_exists'.mp hr
  obtain ⟨ds, hbr, hr⟩ := Option.bind_eq_some_iff.mp hr
  obtain ⟨u, hg, -⟩ := Option.bind_eq_some_iff.mp hr
  have hall : (signed ds).2.all isPlainDigit = true := by
    have hdigits := (Option.guard_eq_some' u).mp hg
    rw [Bool.and_eq_true, Bool.and_eq_true] at hdigits
    exact hdigits.1.2
  rw [List.all_eq_true.mp hall c (mem_signed (mem_bridged ht hu hbr) hm ha)] at hp
  cases hp

end Number

namespace Value

theorem integerOf?_foreign {v : Value} {c : Char} (h : c ∈ v.chars) (hf : Number.isForeign c = true) :
    v.integerOf? = none := by
  unfold integerOf?
  split
  · rfl
  · apply Number.readInt?_foreign _ hf
    simp only [Number.isForeign, Bool.and_eq_true, Bool.not_eq_true'] at hf
    exact Text.mem_stripped h hf.1.1.1.1.1

theorem scalar_of_integerOf? {v : Value} {n : Int} (h : v.integerOf? = some n) :
    v.isMap = false ∧ v.sequence? = none ∧ v ≠ .null := by
  cases v with
  | null => cases h
  | list xs =>
      have hc : '[' ∈ (Value.list xs).chars := by simp [chars, literal]
      rw [integerOf?_foreign hc (by decide)] at h
      cases h
  | tuple xs =>
      have hc : '(' ∈ (Value.tuple xs).chars := by simp [chars, literal]
      rw [integerOf?_foreign hc (by decide)] at h
      cases h
  | set xs =>
      have hc : '\x7b' ∈ (Value.set xs).chars ∨ '(' ∈ (Value.set xs).chars := by
        simp only [chars, literal]
        split
        · exact .inr (by decide)
        · exact .inl (by simp)
      rcases hc with hc | hc <;> rw [integerOf?_foreign hc (by decide)] at h <;> cases h
  | map es =>
      have hc : '\x7b' ∈ (Value.map es).chars := by simp [chars, literal]
      rw [integerOf?_foreign hc (by decide)] at h
      cases h
  | _ => simp [isMap, sequence?]

end Value

end CatalogSearch
