import CatalogSearch.Calendar.Iso
import CatalogSearch.Proofs.Number.WholeNumbers
import Mathlib.Data.List.Basic

namespace CatalogSearch.Calendar

/-- What can be told of an offset in the notation: less than a day, and a second at least if it is any at all. -/
def IsOffset (n : Int) : Prop := n = 0 ∨ 1000000 ≤ n.natAbs ∧ n.natAbs < 86400000000

/-- A moment of the calendar whose offset, if it is known, can be told. -/
structure Moment.Proper (t : Moment) : Prop where
  isValid : t.isValid = true
  offset : ∀ n, t.offset = some n → IsOffset n

theorem Date.bounds {d : Date} (h : d.isValid = true) : d.year < 10 ^ 4 ∧ d.month < 10 ^ 2 ∧ d.day < 10 ^ 2 := by
  simp only [Date.isValid, Bool.and_eq_true, decide_eq_true_eq] at h
  have hdays : daysIn d.year d.month ≤ 31 := by
    unfold daysIn
    split_ifs <;> omega
  omega

theorem Moment.bounds {t : Moment} (h : t.isValid = true) :
    t.date.isValid = true ∧ t.hour < 10 ^ 2 ∧ t.minute < 10 ^ 2 ∧ t.second < 10 ^ 2 ∧ t.micro < 10 ^ 6 := by
  simp only [Moment.isValid, Bool.and_eq_true, decide_eq_true_eq] at h
  obtain ⟨⟨⟨⟨hd, hh⟩, hm⟩, hs⟩, hu⟩ := h
  exact ⟨hd, by omega, by omega, by omega, hu⟩

theorem proper_midnight {d : Date} (h : d.isValid = true) : d.midnight.Proper where
  isValid := by simp [Date.midnight, Moment.isValid, h]
  offset := by rintro n ⟨⟩

namespace Iso

open Number

section Padded

variable {width n : Nat}

theorem length_padded (width : Nat) (h : n < 10 ^ (width + 1)) : (padded (width + 1) n).length = width + 1 := by
  have hl := (Nat.length_toDigits_le_iff (b := 10) (by decide) (Nat.succ_pos width)).mpr h
  simp only [padded, List.length_append, List.length_replicate]
  omega

theorem isPlainDigit_of_mem_padded {c : Char} (h : c ∈ padded width n) : isPlainDigit c = true := by
  rcases List.mem_append.mp h with hz | hd
  · rw [List.eq_of_mem_replicate hz]
    decide
  · exact (isNumeral_toDigits n).2 c hd

theorem ofDigitChars_padded (width n : Nat) : Nat.ofDigitChars 10 (padded width n) 0 = n := by
  rw [padded, Nat.ofDigitChars_append, Nat.ofDigitChars_replicate_zero, Nat.mul_zero, Nat.ofDigitChars_ten_toDigits]

theorem digits?_append {ds : List Char} (h : ∀ c ∈ ds, isPlainDigit c = true) (value : Nat) (rest : List Char) :
    digits? ds.length value (ds ++ rest) = some (Nat.ofDigitChars 10 ds value, rest) := by
  induction ds generalizing value with
  | nil => rfl
  | cons c ds ih =>
      have hc := h c List.mem_cons_self
      rw [isPlainDigit, Bool.and_eq_true, decide_eq_true_eq, decide_eq_true_eq] at hc
      have hd : digit? c = some (c.toNat - 48) := if_pos hc
      rw [List.length_cons, List.cons_append, digits?, hd, Nat.ofDigitChars_cons]
      exact ih (fun d hd => h d (List.mem_cons_of_mem c hd)) _

theorem digits?_padded (width : Nat) (h : n < 10 ^ (width + 1)) (rest : List Char) :
    digits? (width + 1) 0 (padded (width + 1) n ++ rest) = some (n, rest) := by
  have hdigits : ∀ c ∈ padded (width + 1) n, isPlainDigit c = true := fun _ hc => isPlainDigit_of_mem_padded hc
  have hd := digits?_append hdigits 0 rest
  rw [length_padded width h, ofDigitChars_padded] at hd
  exact hd

theorem padded_eq_cons (width : Nat) (h : n < 10 ^ (width + 1)) :
    ∃ c cs, padded (width + 1) n = c :: cs ∧ cs.length = width ∧ isPlainDigit c = true := by
  have hl := length_padded width h
  cases hp : padded (width + 1) n with
  | nil => rw [hp] at hl; cases hl
  | cons c cs =>
      refine ⟨c, cs, rfl, ?_, isPlainDigit_of_mem_padded (hp ▸ List.mem_cons_self)⟩
      rw [hp] at hl
      exact Nat.succ_inj.mp hl

end Padded

section Characters

def characters : List Char := "0123456789-:.+T".toList

variable {c : Char} {t : Moment}

theorem mem_characters_of_mem_padded {width n : Nat} (h : c ∈ padded width n) : c ∈ characters :=
  List.mem_append_left "-:.+T".toList (mem_digits (isPlainDigit_of_mem_padded h))

theorem mem_characters_of_mem_writeMicro {micro : Nat} (h : c ∈ writeMicro micro) : c ∈ characters := by
  unfold writeMicro at h
  split at h
  · cases h
  · rcases List.mem_cons.mp h with rfl | h
    · decide
    · exact mem_characters_of_mem_padded h

theorem mem_characters_of_mem_writeOffset {n : Int} (h : c ∈ writeOffset n) : c ∈ characters := by
  have hsign : (if n < 0 then '-' else '+') ∈ characters := by split <;> decide
  have hcolon : ':' ∈ characters := by decide
  simp only [writeOffset, List.mem_cons, List.mem_append, or_assoc] at h
  rcases h with rfl | h | rfl | h | h
  · exact hsign
  · exact mem_characters_of_mem_padded h
  · exact hcolon
  · exact mem_characters_of_mem_padded h
  · split at h
    · cases h
    · simp only [List.mem_cons, List.mem_append, or_assoc] at h
      rcases h with rfl | h | h
      · exact hcolon
      · exact mem_characters_of_mem_padded h
      · exact mem_characters_of_mem_writeMicro h

theorem mem_characters_of_mem_writeTime (h : c ∈ writeTime t) : c ∈ characters := by
  have hcolon : ':' ∈ characters := by decide
  simp only [writeTime, List.mem_append, List.mem_cons, or_assoc] at h
  rcases h with h | rfl | h | rfl | h | h | h
  · exact mem_characters_of_mem_padded h
  · exact hcolon
  · exact mem_characters_of_mem_padded h
  · exact hcolon
  · exact mem_characters_of_mem_padded h
  · exact mem_characters_of_mem_writeMicro h
  · cases ho : t.offset with
    | none => rw [ho] at h; cases h
    | some n => rw [ho] at h; exact mem_characters_of_mem_writeOffset h

theorem mem_characters_of_mem_write (h : c ∈ write 'T' t) : c ∈ characters := by
  have hminus : '-' ∈ characters := by decide
  simp only [write, writeDay, List.mem_append, List.mem_cons, or_assoc] at h
  rcases h with h | rfl | h | rfl | h | rfl | h
  · exact mem_characters_of_mem_padded h
  · exact hminus
  · exact mem_characters_of_mem_padded h
  · exact hminus
  · exact mem_characters_of_mem_padded h
  · decide
  · exact mem_characters_of_mem_writeTime h

theorem not_blank_of_mem_characters : ∀ c ∈ characters, Text.isBlank c = false :=
  List.all_iff_forall_prop.mp (by decide)

theorem places_eq_self {cs : List Char} (h : ∀ c ∈ cs, c ∈ characters) : places cs = cs := by
  have hsize : ∀ c ∈ characters, c.utf8Size = 1 := List.all_iff_forall_prop.mp (by decide)
  induction cs with
  | nil => rfl
  | cons c cs ih =>
      have hi := ih fun d hd => h d (List.mem_cons_of_mem c hd)
      rw [places] at hi ⊢
      rw [List.flatMap_cons, hi, hsize c (h c List.mem_cons_self)]
      rfl

end Characters

section Clock

variable {next : Char} {fields n micro : Nat}

theorem readFraction?_padded (h : micro < 10 ^ 6) : readFraction? next (padded 6 micro) = some ⟨[], micro, next == stop⟩ := by
  have hd := digits?_padded 5 h []
  rw [List.append_nil] at hd
  have hl := length_padded 5 h
  rw [readFraction?, hl]
  simp only [min_self, Nat.sub_self, hd, Option.bind_eq_bind, Option.bind_some, List.dropWhile_nil, List.headD_nil]
  rw [show tenTo 0 = 1 from rfl, Nat.mul_one]
  rfl

theorem readClock?_last (colons : Option Bool) (h : n < 10 ^ 2) :
    readClock? next colons (fields + 1) (padded 2 n) = some ⟨[n], 0, next == stop⟩ := by
  have hd := digits?_padded 1 h []
  rw [List.append_nil] at hd
  rw [readClock?, hd]
  rfl

theorem readClock?_colon {colons : Option Bool} (hc : colons.getD true = true) (h : n < 10 ^ 2) {rest : List Char}
    (hr : rest ≠ []) :
    readClock? next colons (fields + 1) (padded 2 n ++ ':' :: rest) =
      (readClock? next (some true) fields rest).map fun clock => { clock with fields := n :: clock.fields } := by
  have hl : ¬(':' :: rest).length ≤ 1 := by
    have hp := List.length_pos_iff.mpr hr
    rw [List.length_cons]
    omega
  rw [readClock?, digits?_padded 1 h]
  simp only [Option.bind_eq_bind, Option.bind_some, List.headD_cons, beq_self_eq_true, hc, Bool.and_self, if_true,
    List.tail_cons]
  rw [if_neg hl]
  cases readClock? next (some true) fields rest <;> rfl

theorem readClock?_micro (h : n < 10 ^ 2) (hu : micro < 10 ^ 6) :
    readClock? next (some true) (fields + 1) (padded 2 n ++ writeMicro micro) = some ⟨[n], micro, next == stop⟩ := by
  unfold writeMicro
  split
  · next hz =>
      rw [List.append_nil, readClock?_last _ h, hz]
  · have hl : ¬('.' :: padded 6 micro).length ≤ 1 := by
      rw [List.length_cons, length_padded 5 hu]
      decide
    rw [readClock?, digits?_padded 1 h]
    simp only [Option.bind_eq_bind, Option.bind_some, List.headD_cons, Option.getD_some, List.tail_cons]
    rw [if_neg hl, if_neg (by decide), if_pos (by decide), readFraction?_padded hu]
    rfl

theorem padded_append_ne_nil (rest : List Char) : padded 2 n ++ rest ≠ [] := by
  intro h
  have hp := (List.append_eq_nil_iff.mp h).1
  exact Nat.toDigits_ne_nil (List.append_eq_nil_iff.mp hp).2

theorem readClock?_clock (next : Char) {hour minute second : Nat} (hh : hour < 10 ^ 2) (hm : minute < 10 ^ 2)
    (hs : second < 10 ^ 2) (hu : micro < 10 ^ 6) :
    readClock? next none 3 (padded 2 hour ++ ':' :: (padded 2 minute ++ ':' :: (padded 2 second ++ writeMicro micro))) =
      some ⟨[hour, minute, second], micro, next == stop⟩ := by
  rw [readClock?_colon rfl hh (padded_append_ne_nil _), readClock?_colon rfl hm (padded_append_ne_nil _),
    readClock?_micro hs hu]
  rfl

theorem readClock?_hourMinute {hour minute : Nat} (hh : hour < 10 ^ 2) (hm : minute < 10 ^ 2) :
    readClock? next none 3 (padded 2 hour ++ ':' :: padded 2 minute) = some ⟨[hour, minute], 0, next == stop⟩ := by
  have hne : padded 2 minute ≠ [] := by
    have h := padded_append_ne_nil (n := minute) []
    rwa [List.append_nil] at h
  rw [readClock?_colon rfl hh hne, readClock?_last _ hm]
  rfl

end Clock

section Offset

variable {n : Int}

theorem readOffset?_of_clock {sign : Int} {cs : List Char} {clock : Clock} {size : Nat}
    (hr : readClock? stop none 3 cs = some clock) (he : clock.ended = true)
    (hsize : clock.seconds * 1000000 + clock.micro = size) (hs : clock.seconds ≠ 0) (hlt : size < 86400000000) :
    readOffset? sign cs = some (sign * size) := by
  have hsize' : (clock.seconds : Int) * 1000000 + clock.micro = size := by exact_mod_cast hsize
  have hguard : (clock.seconds : Int) * 1000000 + clock.micro < 86400000000 := by omega
  unfold readOffset?
  rw [hr, Option.bind_eq_bind, Option.bind_some, he]
  change (if clock.seconds = 0 then some 0 else _) = _
  rw [if_neg hs]
  change (guard ((clock.seconds : Int) * 1000000 + clock.micro < 86400000000) >>= fun _ =>
    some (sign * ((clock.seconds : Int) * 1000000 + clock.micro))) = _
  rw [guard, if_pos hguard, hsize']
  rfl

def offsetBody (size : Nat) : List Char :=
  padded 2 (size / 1000000 / 3600) ++ ':' :: padded 2 (size / 1000000 / 60 % 60) ++
    if size % 60000000 = 0 then [] else ':' :: padded 2 (size / 1000000 % 60) ++ writeMicro (size % 1000000)

theorem writeOffset_eq (n : Int) : writeOffset n = (if n < 0 then '-' else '+') :: offsetBody n.natAbs := rfl

theorem seconds_hourMinute (hour minute micro : Nat) (ended : Bool) :
    (⟨[hour, minute], micro, ended⟩ : Clock).seconds = hour * 3600 + minute * 60 := by
  simp [Clock.seconds]

theorem seconds_clock (hour minute second micro : Nat) (ended : Bool) :
    (⟨[hour, minute, second], micro, ended⟩ : Clock).seconds = hour * 3600 + minute * 60 + second := by
  simp [Clock.seconds]

theorem readOffset?_offsetBody (sign : Int) {size : Nat} (hpos : 1000000 ≤ size) (hlt : size < 86400000000) :
    readOffset? sign (offsetBody size) = some (sign * size) := by
  have hh : size / 1000000 / 3600 < 10 ^ 2 := by omega
  have hm : size / 1000000 / 60 % 60 < 10 ^ 2 := by omega
  unfold offsetBody
  split
  · next hz =>
      rw [List.append_nil]
      refine readOffset?_of_clock (readClock?_hourMinute hh hm) rfl ?_ ?_ hlt
      · rw [seconds_hourMinute]
        dsimp only
        omega
      · rw [seconds_hourMinute]
        omega
  · have hs : size / 1000000 % 60 < 10 ^ 2 := by omega
    have hu : size % 1000000 < 10 ^ 6 := by omega
    rw [List.append_assoc, List.cons_append, List.cons_append]
    refine readOffset?_of_clock (readClock?_clock _ hh hm hs hu) rfl ?_ ?_ hlt
    · rw [seconds_clock]
      dsimp only
      omega
    · rw [seconds_clock]
      omega

theorem readOffset?_zero (sign : Int) : readOffset? sign (offsetBody 0) = some 0 := by
  have hr : readClock? stop none 3 (padded 2 0 ++ ':' :: padded 2 0) = some ⟨[0, 0], 0, true⟩ :=
    readClock?_hourMinute (by decide) (by decide)
  unfold readOffset?
  rw [show offsetBody 0 = padded 2 0 ++ ':' :: padded 2 0 from rfl, hr]
  rfl

theorem readOffset?_writeOffset (h : IsOffset n) :
    readOffset? (if (if n < 0 then '-' else '+') = '-' then -1 else 1) (offsetBody n.natAbs) = some n := by
  rcases h with rfl | ⟨hpos, hlt⟩
  · exact readOffset?_zero 1
  · rw [readOffset?_offsetBody _ hpos hlt]
    by_cases hneg : n < 0
    · rw [if_pos hneg, if_pos rfl]
      congr 1
      omega
    · rw [if_neg hneg, if_neg (by decide)]
      congr 1
      omega

end Offset

section Reading

variable {t : Moment} {d : Date}

theorem isOffsetMark_of_mem_padded {width n : Nat} {c : Char} (h : c ∈ padded width n) : isOffsetMark c = false := by
  have hall : ∀ c ∈ "0123456789".toList, isOffsetMark c = false := List.all_iff_forall_prop.mp (by decide)
  exact hall c (mem_digits (isPlainDigit_of_mem_padded h))

theorem isOffsetMark_of_mem_writeMicro {micro : Nat} {c : Char} (h : c ∈ writeMicro micro) : isOffsetMark c = false := by
  unfold writeMicro at h
  split at h
  · cases h
  · rcases List.mem_cons.mp h with rfl | h
    · rfl
    · exact isOffsetMark_of_mem_padded h

def clockText (t : Moment) : List Char :=
  padded 2 t.hour ++ ':' :: (padded 2 t.minute ++ ':' :: (padded 2 t.second ++ writeMicro t.micro))

theorem isOffsetMark_of_mem_clockText {c : Char} (h : c ∈ clockText t) : isOffsetMark c = false := by
  simp only [clockText, List.mem_append, List.mem_cons] at h
  rcases h with h | rfl | h | rfl | h | h
  · exact isOffsetMark_of_mem_padded h
  · rfl
  · exact isOffsetMark_of_mem_padded h
  · rfl
  · exact isOffsetMark_of_mem_padded h
  · exact isOffsetMark_of_mem_writeMicro h

theorem writeTime_eq {n : Int} (h : t.offset = some n) : writeTime t = clockText t ++ writeOffset n := by
  simp [writeTime, clockText, h]

theorem readTime?_writeTime (h : t.Proper) {n : Int} (ho : t.offset = some n) :
    ∃ clock, readTime? (writeTime t) = some (clock, some n) ∧ clock.fields = [t.hour, t.minute, t.second] ∧
      clock.micro = t.micro := by
  obtain ⟨-, hh, hm, hs, hu⟩ := Moment.bounds h.isValid
  have hmark : isOffsetMark (if n < 0 then '-' else '+') = true := by split <;> rfl
  have hsign : (if n < 0 then '-' else '+') = '-' ∨ (if n < 0 then '-' else '+') = '+' := by split <;> simp
  have hspan : (writeTime t).span (fun c => !isOffsetMark c) = (clockText t, writeOffset n) := by
    have hclock : ∀ c ∈ clockText t, (!isOffsetMark c) = true := by
      intro c hc
      rw [isOffsetMark_of_mem_clockText hc]
      rfl
    rw [writeTime_eq ho, List.span_eq_takeWhile_dropWhile, List.takeWhile_append_of_pos hclock,
      List.dropWhile_append_of_pos hclock, writeOffset_eq, List.takeWhile_cons_of_neg (by simp [hmark]),
      List.dropWhile_cons_of_neg (by simp [hmark]), List.append_nil]
  have hread := readOffset?_writeOffset (h.offset n ho)
  -- The clock is read up to the sign; which sign it is matters only to the offset.
  rw [readTime?, hspan]
  simp only [writeOffset_eq, List.headD_cons]
  generalize (if n < 0 then '-' else '+') = mark at hsign hread ⊢
  have hclock := readClock?_clock mark hh hm hs hu
  refine ⟨⟨[t.hour, t.minute, t.second], t.micro, mark == stop⟩, ?_, rfl, rfl⟩
  rw [clockText, hclock, Option.bind_eq_bind, Option.bind_some]
  rcases hsign with rfl | rfl
  · change (readOffset? (if '-' = '-' then -1 else 1) (offsetBody n.natAbs) >>= _) = _
    rw [hread]
    rfl
  · change (readOffset? (if '+' = '-' then -1 else 1) (offsetBody n.natAbs) >>= _) = _
    rw [hread]
    rfl

theorem writeDay_shape (h : d.isValid = true) : ∃ y₀ y₁ y₂ y₃ m₀ m₁ d₀ d₁,
    padded 4 d.year = [y₀, y₁, y₂, y₃] ∧ padded 2 d.month = [m₀, m₁] ∧ padded 2 d.day = [d₀, d₁] ∧ m₀ ≠ 'W' := by
  obtain ⟨hy, hm, hd⟩ := Date.bounds h
  obtain ⟨y₀, ys, hy, hl, -⟩ := padded_eq_cons 3 hy
  obtain ⟨y₁, y₂, y₃, rfl⟩ := List.length_eq_three.mp hl
  obtain ⟨d₀, d₁, hd⟩ := List.length_eq_two.mp (length_padded 1 hd)
  obtain ⟨m₀, ms, hm, hl, hdigit⟩ := padded_eq_cons 1 hm
  obtain ⟨m₁, rfl⟩ := List.length_eq_one_iff.mp hl
  refine ⟨y₀, y₁, y₂, y₃, m₀, m₁, d₀, d₁, hy, hm, hd, ?_⟩
  rintro rfl
  cases hdigit

theorem length_writeDay (h : d.isValid = true) : (writeDay d).length = 10 := by
  obtain ⟨y₀, y₁, y₂, y₃, m₀, m₁, d₀, d₁, hy, hm, hd, -⟩ := writeDay_shape h
  rw [writeDay, hy, hm, hd]
  rfl

theorem dayLength_writeDay (h : d.isValid = true) (rest : List Char) : dayLength (writeDay d ++ rest) = 10 := by
  obtain ⟨y₀, y₁, y₂, y₃, m₀, m₁, d₀, d₁, hy, hm, hd, hw⟩ := writeDay_shape h
  have hlength : (writeDay d ++ rest).length ≠ 7 := by
    rw [List.length_append, length_writeDay h]
    omega
  have hhyphen : charAt (writeDay d ++ rest) 4 = '-' := by
    rw [writeDay, hy, hm, hd]
    rfl
  have hmonth : charAt (writeDay d ++ rest) 5 = m₀ := by
    rw [writeDay, hy, hm, hd]
    rfl
  rw [dayLength, if_neg hlength, hhyphen, hmonth, if_pos rfl, if_neg hw]

theorem readDay?_writeDay (h : d.isValid = true) : readDay? (writeDay d) = some d := by
  obtain ⟨y₀, y₁, y₂, y₃, m₀, m₁, d₀, d₁, hy, hm, hd, hw⟩ := writeDay_shape h
  obtain ⟨hyear, hmonth, hday⟩ := Date.bounds h
  have hreadYear := digits?_padded 3 hyear ('-' :: (padded 2 d.month ++ '-' :: padded 2 d.day))
  have hreadMonth := digits?_padded 1 hmonth ('-' :: padded 2 d.day)
  have hreadDay := digits?_padded 1 hday []
  have hshape : writeDay d = padded 4 d.year ++ '-' :: (padded 2 d.month ++ '-' :: padded 2 d.day) := by
    simp [writeDay]
  rw [readDay?, hshape, hreadYear]
  simp only [Option.bind_eq_bind, Option.bind_some, List.head?_cons, beq_self_eq_true, if_true, List.tail_cons]
  -- A week would begin with its letter where the month has a digit.
  split
  · next hweek =>
      rw [hm] at hweek
      exact (hw (List.cons.inj hweek).1).elim
  · rw [List.append_nil] at hreadDay
    rw [hreadMonth]
    simp only [Option.bind_some, List.head?_cons, List.tail_cons, hreadDay, h, guard]
    rfl

/-- What is written of a moment with an offset is read back as that moment, but for whether it was there again. -/
theorem read?_write (h : t.Proper) (ho : t.offset ≠ none) : read? (write 'T' t) = some { t with again := false } := by
  obtain ⟨n, hn⟩ := Option.ne_none_iff_exists'.mp ho
  obtain ⟨clock, hread, hfields, hmicro⟩ := readTime?_writeTime h hn
  have hdate := (Moment.bounds h.isValid).1
  have hplaces : places (writeTime t) = writeTime t := places_eq_self fun c hc => mem_characters_of_mem_writeTime hc
  have hmoment : (⟨t.date, clock.fields.getD 0 0, clock.fields.getD 1 0, clock.fields.getD 2 0, clock.micro, some n,
      false⟩ : Moment) = { t with again := false } := by
    rw [hfields, hmicro, ← hn]
    rfl
  have hvalid : ({ t with again := false } : Moment).isValid = true := h.isValid
  rw [read?, write, dayLength_writeDay hdate, List.take_left' (length_writeDay hdate),
    List.drop_left' (length_writeDay hdate), readDay?_writeDay hdate]
  simp only [Option.bind_eq_bind, Option.bind_some, hplaces, hread, hmoment, hvalid, guard]
  rfl

theorem isOffset_of_readOffset? {sign n : Int} (hs : sign = 1 ∨ sign = -1) {cs : List Char}
    (h : readOffset? sign cs = some n) : IsOffset n := by
  obtain ⟨clock, -, h⟩ := Option.bind_eq_some_iff.mp h
  obtain ⟨_, -, h⟩ := Option.bind_eq_some_iff.mp h
  split at h
  · exact .inl (Option.some.inj h).symm
  · next hz =>
      obtain ⟨_, hg, h⟩ := Option.bind_eq_some_iff.mp h
      have hlt := (Option.guard_eq_some' _).mp hg
      have hn := Option.some.inj h
      right
      rcases hs with rfl | rfl <;> omega

theorem isOffset_of_readTime? {cs : List Char} {clock : Clock} {n : Int} (h : readTime? cs = some (clock, some n)) :
    IsOffset n := by
  obtain ⟨_, -, h⟩ := Option.bind_eq_some_iff.mp h
  split at h
  · obtain ⟨_, -, h⟩ := Option.bind_eq_some_iff.mp h
    cases h
  · obtain ⟨_, -, h⟩ := Option.bind_eq_some_iff.mp h
    cases h
    exact .inl rfl
  · next mark after _ =>
      obtain ⟨m, hm, h⟩ := Option.bind_eq_some_iff.mp h
      cases h
      exact isOffset_of_readOffset? (by split <;> simp) hm

theorem isValid_of_readDay? {cs : List Char} (h : readDay? cs = some d) : d.isValid = true := by
  obtain ⟨⟨year, rest⟩, -, h⟩ := Option.bind_eq_some_iff.mp h
  dsimp only at h
  split at h
  · obtain ⟨_, -, h⟩ := Option.bind_eq_some_iff.mp h
    obtain ⟨_, -, h⟩ := Option.bind_eq_some_iff.mp h
    obtain ⟨_, -, h⟩ := Option.bind_eq_some_iff.mp h
    obtain ⟨_, hg, h⟩ := Option.bind_eq_some_iff.mp h
    cases h
    exact (Option.guard_eq_some' _).mp hg
  · obtain ⟨_, -, h⟩ := Option.bind_eq_some_iff.mp h
    obtain ⟨_, -, h⟩ := Option.bind_eq_some_iff.mp h
    obtain ⟨_, -, h⟩ := Option.bind_eq_some_iff.mp h
    obtain ⟨_, -, h⟩ := Option.bind_eq_some_iff.mp h
    obtain ⟨_, hg, h⟩ := Option.bind_eq_some_iff.mp h
    cases h
    exact (Option.guard_eq_some' _).mp hg

/-- Whatever the form it was given in, a moment that is read can be written. -/
theorem proper_of_read? {cs : List Char} (h : read? cs = some t) : t.Proper := by
  obtain ⟨date, hd, h⟩ := Option.bind_eq_some_iff.mp h
  split at h
  · cases h
    exact proper_midnight (isValid_of_readDay? hd)
  · obtain ⟨⟨clock, offset⟩, ht, h⟩ := Option.bind_eq_some_iff.mp h
    obtain ⟨_, hg, h⟩ := Option.bind_eq_some_iff.mp h
    cases h
    refine ⟨(Option.guard_eq_some' _).mp hg, ?_⟩
    rintro n rfl
    exact isOffset_of_readTime? ht

end Reading

end Iso

end CatalogSearch.Calendar
