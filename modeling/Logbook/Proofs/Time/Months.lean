import Logbook.Time.Instant

/-!
# Moves by months

What a move by months is, told by the fields of the date that the clock shows before and after it.

* `Date.eq_of_dayNumber_eq` — no two dates of the calendar have the same day number.
* `LocalTime.MonthsLater` — the later clock shows the month that many months on, the same day of it or
  else its last one, and the same time of day.
* `LocalTime.monthsLater_iff` — exactly one clock shows that, and `LocalTime.addMonths` finds it.
-/

namespace Logbook

namespace Date

/-! ## Dates and their numbers -/

/-- A day lies in its month: not before the first day of it, and before that of the next one. -/
theorem monthStart_bounds {d : Date} (h : d.Valid) :
    monthStart d.monthIndex ≤ d.dayNumber ∧ d.dayNumber < monthStart (d.monthIndex + 1) := by
  have hpos := h.day_pos
  have hle := h.day_le
  have hnext := monthStart_succ d.monthIndex
  rw [ofMonthIndex_monthIndex h] at hnext
  dsimp only at hnext
  rw [dayNumber_eq_monthStart h]
  omega

/-- Later months start later. -/
theorem monthStart_le {i j : Int} (h : i ≤ j) : monthStart i ≤ monthStart j := by
  obtain ⟨months, rfl⟩ := Int.le.dest h
  have := add_le_monthStart i months
  omega

/-- Days with the same number are in the same month. -/
theorem monthIndex_eq {d e : Date} (hd : d.Valid) (he : e.Valid)
    (h : d.dayNumber = e.dayNumber) : d.monthIndex = e.monthIndex := by
  obtain ⟨hd₁, hd₂⟩ := monthStart_bounds hd
  obtain ⟨he₁, he₂⟩ := monthStart_bounds he
  rcases Int.lt_trichotomy d.monthIndex e.monthIndex with hlt | heq | hlt
  · have := monthStart_le (show d.monthIndex + 1 ≤ e.monthIndex by omega)
    omega
  · exact heq
  · have := monthStart_le (show e.monthIndex + 1 ≤ d.monthIndex by omega)
    omega

/-- A date is given by its month and the day of it. -/
theorem eq_of_monthIndex_eq {d e : Date} (hd : d.Valid) (he : e.Valid)
    (hmonth : d.monthIndex = e.monthIndex) (hday : d.day = e.day) : d = e := by
  have h : ({ d with day := 1 } : Date) = { e with day := 1 } := by
    rw [← ofMonthIndex_monthIndex hd, ← ofMonthIndex_monthIndex he, hmonth]
  cases d
  cases e
  simp_all

/-- Dates with the same day number are the same. -/
theorem eq_of_dayNumber_eq {d e : Date} (hd : d.Valid) (he : e.Valid)
    (h : d.dayNumber = e.dayNumber) : d = e := by
  have hmonth := monthIndex_eq hd he h
  refine eq_of_monthIndex_eq hd he hmonth ?_
  rw [dayNumber_eq_monthStart hd, dayNumber_eq_monthStart he, hmonth] at h
  omega

/-- A date of the calendar is the date of its day number. -/
theorem ofDayNumber_dayNumber {d : Date} (h : d.Valid) : ofDayNumber d.dayNumber = d :=
  eq_of_dayNumber_eq (ofDayNumber_valid _) h (dayNumber_ofDayNumber _)

/-! ## The date that is reached -/

theorem ofMonthIndex_valid (i : Int) : (ofMonthIndex i).Valid := by
  have hlength := (daysInMonth_bounds (i / 12) ((i % 12).toNat + 1)).1
  exact ⟨Nat.le_add_left .., by dsimp only [ofMonthIndex]; omega, Nat.le_refl _,
    by dsimp only [ofMonthIndex]; omega⟩

theorem monthIndex_ofMonthIndex (i : Int) : (ofMonthIndex i).monthIndex = i := by
  unfold ofMonthIndex monthIndex
  dsimp only
  omega

/-- The calendar has the date that is reached. -/
theorem addMonths_valid {d : Date} (h : d.Valid) (months : Nat) : (d.addMonths months).Valid := by
  have hfirst := ofMonthIndex_valid (d.monthIndex + months)
  have hpos := h.day_pos
  have hlength := (daysInMonth_bounds (ofMonthIndex (d.monthIndex + months)).year
    (ofMonthIndex (d.monthIndex + months)).month).1
  refine ⟨hfirst.month_pos, hfirst.month_le, ?_, Nat.min_le_right _ _⟩
  dsimp only [addMonths]
  omega

theorem monthIndex_addMonths (d : Date) (months : Nat) :
    (d.addMonths months).monthIndex = d.monthIndex + months :=
  monthIndex_ofMonthIndex _

theorem day_addMonths (d : Date) (months : Nat) :
    (d.addMonths months).day =
      min d.day (daysInMonth (d.addMonths months).year (d.addMonths months).month) := rfl

/-- The last day of January goes to the last day of February, in a leap year and in any other. -/
example : addMonths ⟨2024, 1, 31⟩ 1 = ⟨2024, 2, 29⟩ ∧ addMonths ⟨2024, 1, 31⟩ 13 = ⟨2025, 2, 28⟩ := by
  decide

end Date

/-! ## The clock that is reached -/

namespace LocalTime

theorem date_valid (l : LocalTime) : l.date.Valid :=
  Date.ofDayNumber_valid _

theorem secondOfDay_lt (l : LocalTime) : (l.secondOfDay : Int) < secondsPerDay := by
  unfold secondOfDay secondsPerDay
  omega

/-- The later clock shows the month `months` months on, on the same day of it or else on its last day,
at the same time of day. -/
structure MonthsLater (months : Nat) (l later : LocalTime) : Prop where
  month : later.date.monthIndex = l.date.monthIndex + months
  day : later.date.day = min l.date.day (Date.daysInMonth later.date.year later.date.month)
  secondOfDay : later.secondOfDay = l.secondOfDay
  nanos : later.nanos = l.nanos

variable {l later : LocalTime} {months : Nat}

theorem date_addMonths (l : LocalTime) (months : Nat) :
    (l.addMonths months).date = l.date.addMonths months := by
  have hday : (l.addMonths months).seconds / secondsPerDay =
      (l.date.addMonths months).dayNumber := by
    have := l.secondOfDay_lt
    unfold addMonths
    dsimp only
    unfold secondsPerDay at *
    omega
  rw [date, hday, Date.ofDayNumber_dayNumber (Date.addMonths_valid l.date_valid months)]

theorem secondOfDay_addMonths (l : LocalTime) (months : Nat) :
    (l.addMonths months).secondOfDay = l.secondOfDay := by
  have := l.secondOfDay_lt
  show (((l.date.addMonths months).dayNumber * secondsPerDay + l.secondOfDay) %
    secondsPerDay).toNat = l.secondOfDay
  unfold secondsPerDay at *
  omega

/-- The date that is `months` months later is the one that a move by months comes to. -/
theorem MonthsLater.date_eq (h : l.MonthsLater months later) :
    later.date = l.date.addMonths months := by
  have hmonth : later.date.monthIndex = (l.date.addMonths months).monthIndex := by
    rw [h.month, Date.monthIndex_addMonths]
  have hfirst : (Date.ofMonthIndex later.date.monthIndex) =
      Date.ofMonthIndex (l.date.addMonths months).monthIndex := by rw [hmonth]
  rw [Date.ofMonthIndex_monthIndex later.date_valid,
    Date.ofMonthIndex_monthIndex (Date.addMonths_valid l.date_valid months), Date.mk.injEq]
    at hfirst
  obtain ⟨hyear, hnumber, -⟩ := hfirst
  refine Date.eq_of_monthIndex_eq later.date_valid (Date.addMonths_valid l.date_valid months)
    hmonth ?_
  rw [h.day, Date.day_addMonths, hyear, hnumber]

/-- Exactly one clock shows a time that many months later. -/
theorem monthsLater_iff : l.MonthsLater months later ↔ later = l.addMonths months := by
  constructor
  · intro h
    refine LocalTime.ext ?_ h.nanos
    rw [later.seconds_eq, h.date_eq, h.secondOfDay]
    rfl
  · rintro rfl
    refine ⟨?_, ?_, l.secondOfDay_addMonths months, rfl⟩
    · rw [date_addMonths, Date.monthIndex_addMonths]
    · rw [date_addMonths, Date.day_addMonths]

end LocalTime

end Logbook
