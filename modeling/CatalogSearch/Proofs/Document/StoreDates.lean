import CatalogSearch.Attribute
import CatalogSearch.Calendar.Daylight
import CatalogSearch.Proofs.Calendar.Notation
import CatalogSearch.Proofs.Value.Filing
import CatalogSearch.Proofs.Value.Integers

namespace CatalogSearch

open Calendar

/-- The moment that a value names: the first of a day, or the one that its text tells. -/
def Value.moment? : Value → Option Moment
  | .null => none
  | .moment t => some t
  | .date d => some d.midnight
  | v => Iso.read? (Text.trim v.chars)

/-- Days and moments are those of the calendar, with offsets that can be told. -/
def Value.OnCalendar : Value → Prop
  | .moment t => t.Proper
  | .date d => d.isValid = true
  | _ => True

theorem Value.proper_of_moment? {v : Value} (h : v.OnCalendar) {t : Moment} (ht : v.moment? = some t) : t.Proper := by
  unfold moment? at ht
  split at ht
  · cases ht
  · cases ht
    exact h
  · cases ht
    exact proper_midnight h
  · exact Iso.proper_of_read? ht

/-- A distance of whole seconds and of less than a day can be told. -/
theorem Calendar.Zone.isOffset_offsetAt (z : Zone) (t : Moment) : IsOffset (z.offsetAt t) := by
  have hw := z.within t
  unfold IsOffset offsetAt
  omega

namespace Store

variable {s : Store} {t : Moment} {v : Value}

theorem read?_emptyDates {text : List Char} (h : String.ofList text ∈ emptyDates) : Iso.read? text = none := by
  have hall : ∀ e ∈ emptyDates, Iso.read? e.toList = none := List.all_iff_forall_prop.mp (by decide)
  simpa using hall _ h

/-- What is left of a value that names no moment; an empty date is nothing. -/
def unread (v : Value) : Value := if String.ofList (Text.trim v.chars) ∈ emptyDates then .null else v

theorem moment?_unread (h : v.moment? = none) : (unread v).moment? = none := by
  unfold unread
  split
  · rfl
  · exact h

theorem unread_unread (v : Value) : unread (unread v) = unread v := by
  by_cases h : String.ofList (Text.trim v.chars) ∈ emptyDates
  · rw [unread, unread, if_pos h]
    rfl
  · rw [unread, unread, if_neg h, if_neg h]

variable [Zones]

theorem proper_place (s : Store) (h : t.Proper) : (s.place t).Proper where
  isValid := h.isValid
  offset := by
    intro n hn
    cases ho : t.offset with
    | none =>
        rw [place, ho] at hn
        exact Option.some.inj hn ▸ s.zone.isOffset_offsetAt t
    | some m =>
        rw [place, ho] at hn
        exact Option.some.inj hn ▸ h.offset m ho

theorem writeMoment_place (s s' : Store) (t : Moment) :
    s'.writeMoment { s.place t with again := false } = s.writeMoment t := rfl

theorem date_of_moment? (s : Store) (h : v.moment? = some t) : s.date v = s.writeMoment t := by
  unfold Value.moment? at h
  split at h
  · cases h
  · cases h
    rfl
  · cases h
    rfl
  · next hn hm hd =>
      have hne : String.ofList (Text.trim v.chars) ∉ emptyDates := by
        intro he
        rw [read?_emptyDates he] at h
        cases h
      cases v with
      | null => exact (hn rfl).elim
      | moment t => exact (hm t rfl).elim
      | date d => exact (hd d rfl).elim
      | _ => simp only [date, if_neg hne, h]

theorem date_of_not_moment? (s : Store) (h : v.moment? = none) : s.date v = unread v := by
  cases v with
  | null => rfl
  | moment t => cases h
  | date d => cases h
  | _ =>
      have hr : Iso.read? (Text.trim (Value.chars _)) = none := h
      simp only [date, unread, hr]

theorem moment?_writeMoment (s : Store) (h : t.Proper) :
    (s.writeMoment t).moment? = some { s.place t with again := false } := by
  have hblank : ∀ c ∈ Iso.write 'T' (s.place t), Text.isBlank c = false := fun c hc =>
    Iso.not_blank_of_mem_characters c (Iso.mem_characters_of_mem_write hc)
  have hm : (s.writeMoment t).moment? = Iso.read? (Text.trim (s.writeMoment t).chars) := rfl
  rw [hm, writeMoment, Value.chars_ofChars, Text.trim_eq_self hblank]
  exact Iso.read?_write (s.proper_place h) (Option.some_ne_none _)

theorem date_date (s s' : Store) (h : v.OnCalendar) : s'.date (s.date v) = s.date v := by
  cases hm : v.moment? with
  | none => rw [s.date_of_not_moment? hm, s'.date_of_not_moment? (moment?_unread hm), unread_unread]
  | some t =>
      have hp := Value.proper_of_moment? h hm
      rw [s.date_of_moment? hm, s'.date_of_moment? (s.moment?_writeMoment hp), writeMoment_place]

theorem date_ne_list (s : Store) (h : ∀ xs, v ≠ .list xs) (xs : List Value) : s.date v ≠ .list xs := by
  cases hm : v.moment? with
  | none =>
      rw [s.date_of_not_moment? hm, unread]
      split
      · exact Value.noConfusion
      · exact h xs
  | some t =>
      rw [s.date_of_moment? hm]
      exact Value.noConfusion

end Store

namespace Attribute

variable [Zones] {a : Attribute} {s s' : Store}

theorem indexValue_date (h : a.kind = .date) (s : Store) {v : Value} (hv : ∀ xs, v ≠ .list xs) :
    a.indexValue s v = s.date v := by
  cases v with
  | list xs => exact (hv xs rfl).elim
  | _ => simp only [indexValue, h]

theorem indexValue_dates (h : a.kind = .date) (s : Store) (xs : List Value) :
    a.indexValue s (.list xs) = .list ((xs.map s.date).filter Value.truthy) := by
  simp only [indexValue, h]

theorem indexValue_dates_twice (h : a.kind = .date) (s s' : Store) {xs : List Value} (hx : ∀ x ∈ xs, x.OnCalendar) :
    a.indexValue s' (a.indexValue s (.list xs)) = a.indexValue s (.list xs) := by
  have hstay : ∀ y ∈ (xs.map s.date).filter Value.truthy, s'.date y = id y := by
    intro y hy
    obtain ⟨x, hm, rfl⟩ := List.mem_map.mp (List.mem_filter.mp hy).1
    exact s.date_date s' (hx x hm)
  rw [indexValue_dates h, indexValue_dates h, List.map_congr_left hstay, List.map_id, List.filter_filter]
  simp only [Bool.and_self]

end Attribute

namespace Store

/-- A date that was rendered for one store is the same for every other: it says where its clock stands, its
own or else the store's, and what it says on that clock is what the value said. -/
theorem rendered_dates_stay [Zones] (s s' : Store) {v : Value} (h : v.OnCalendar) :
    s'.date (s.date v) = s.date v ∧
    (∀ t, v.moment? = some t → s.date v = .ofChars (Iso.write 'T' (s.place t)) ∧
      Iso.read? (Iso.write 'T' (s.place t)) =
        some { t with offset := some (t.offset.getD (s.zone.offsetAt t)), again := false }) ∧
    ∀ a : Attribute, a.kind = .date →
      ((∀ xs, v ≠ .list xs) → a.indexValue s' (a.indexValue s v) = a.indexValue s v) ∧
      ∀ xs : List Value, (∀ x ∈ xs, x.OnCalendar) →
        a.indexValue s' (a.indexValue s (.list xs)) = a.indexValue s (.list xs) := by
  refine ⟨s.date_date s' h, ?_, ?_⟩
  · intro t ht
    have hp := s.proper_place (Value.proper_of_moment? h ht)
    exact ⟨s.date_of_moment? ht, Iso.read?_write hp (Option.some_ne_none _)⟩
  · intro a ha
    constructor
    · intro hv
      rw [Attribute.indexValue_date ha s hv, Attribute.indexValue_date ha s' (s.date_ne_list hv), s.date_date s' h]
    · intro xs hx
      exact Attribute.indexValue_dates_twice ha s s' hx

open scoped Calendar.Daylight

def berlin : Store := { id := 1, timezone := some "Europe/Berlin" }

def tokyo : Store := { id := 2, timezone := some "Asia/Tokyo" }

/-- In the hour that Berlin skips in spring, on a clock an hour and one and a half seconds behind the zero meridian. -/
def skippedHour : Moment := ⟨⟨2024, 3, 31⟩, 2, 30, 0, 7, some (-3601500000), false⟩

def repeatedHour : Moment := ⟨⟨2024, 10, 27⟩, 2, 30, 0, 0, none, true⟩

theorem skipped_hour_stays :
    (Value.moment skippedHour).OnCalendar ∧
      berlin.date (.moment skippedHour) = .text "2024-03-31T02:30:00.000007-01:00:01.500000" ∧
      tokyo.date (.text "2024-03-31T02:30:00.000007-01:00:01.500000") =
        .text "2024-03-31T02:30:00.000007-01:00:01.500000" ∧
      berlin.date (.text "20240331T0230") = .text "2024-03-31T02:30:00+01:00" ∧
      tokyo.date (.text "2024-03-31T02:30:00+01:00") = .text "2024-03-31T02:30:00+01:00" ∧
      berlin.date (.text "20241027T0230") = .text "2024-10-27T02:30:00+02:00" ∧
      berlin.date (.moment repeatedHour) = .text "2024-10-27T02:30:00+01:00" ∧
      tokyo.date (.text "2024-10-27T02:30:00+01:00") = .text "2024-10-27T02:30:00+01:00" := by
  have hp : skippedHour.Proper := by
    refine ⟨by decide, ?_⟩
    rintro n ⟨⟩
    exact .inr (by decide)
  have hmoment : berlin.date (.moment skippedHour) = .text "2024-03-31T02:30:00.000007-01:00:01.500000" := rfl
  have htext : berlin.date (.text "20240331T0230") = .text "2024-03-31T02:30:00+01:00" := rfl
  have hrepeated : repeatedHour.Proper := ⟨by decide, by rintro n ⟨⟩⟩
  have hagain : berlin.date (.moment repeatedHour) = .text "2024-10-27T02:30:00+01:00" := rfl
  refine ⟨hp, hmoment, ?_, htext, ?_, rfl, hagain, ?_⟩
  · have hstay := (rendered_dates_stay berlin tokyo (v := .moment skippedHour) hp).1
    rwa [hmoment] at hstay
  · have hstay := (rendered_dates_stay berlin tokyo (v := .text "20240331T0230") trivial).1
    rwa [htext] at hstay
  · have hstay := (rendered_dates_stay berlin tokyo (v := .moment repeatedHour) hrepeated).1
    rwa [hagain] at hstay

def halfSecond : Moment := ⟨⟨2024, 1, 5⟩, 10, 0, 0, 0, some 500000, false⟩

/-- Half a second is no offset to the reader, but the writer tells it. -/
theorem half_seconds_do_not_stay :
    tokyo.date (berlin.date (.moment halfSecond)) ≠ berlin.date (.moment halfSecond) ∧
      berlin.date (.moment halfSecond) = .text "2024-01-05T10:00:00+00:00:00.500000" ∧
      tokyo.date (.text "2024-01-05T10:00:00+00:00:00.500000") = .text "2024-01-05T10:00:00+00:00" := by
  have hmoment : berlin.date (.moment halfSecond) = .text "2024-01-05T10:00:00+00:00:00.500000" := rfl
  have htext : tokyo.date (.text "2024-01-05T10:00:00+00:00:00.500000") = .text "2024-01-05T10:00:00+00:00" := rfl
  refine ⟨?_, hmoment, htext⟩
  rw [hmoment, htext]
  simp

end Store

end CatalogSearch
