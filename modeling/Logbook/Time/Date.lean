/-!
# Civil dates

The proleptic Gregorian calendar over all years, and the count of days since 1970-01-01.

* `Date.dayNumber` / `Date.ofDayNumber` count days from a date and back; `dayNumber_ofDayNumber` and
  `ofDayNumber_valid` say that every day number has exactly its date.
* `Date.addMonths` moves a date by whole months, lowering the day to the last one of the month
  reached; `add_le_dayNumber_addMonths` bounds the move from below by 28 days a month.
* `Date.weekday`, `Date.dayOfYear` and `Date.isoWeek` read off the usual calendar fields.

Model of the dates of `chrono`, with `checked_add_months`, as `tr-types` and `tr-reduce` use them.
-/

namespace Logbook

/-- A day of the civil calendar; year 0 is the year before year 1. -/
structure Date where
  year : Int
  month : Nat
  day : Nat
deriving DecidableEq, Repr

namespace Date

/-! ## Years and months -/

/-- A year divisible by 4 is a leap year, except a century that is not divisible by 400. -/
def IsLeap (year : Int) : Prop :=
  year % 4 = 0 ∧ (year % 100 ≠ 0 ∨ year % 400 = 0)

instance (year : Int) : Decidable (IsLeap year) :=
  inferInstanceAs (Decidable (_ ∧ _))

/-- The lengths of the twelve months of a year. -/
def monthLengths (year : Int) : List Nat :=
  [31, if IsLeap year then 29 else 28, 31, 30, 31, 30, 31, 31, 30, 31, 30, 31]

/-- The length of one month, which counts from 1. -/
def daysInMonth (year : Int) (month : Nat) : Nat :=
  (monthLengths year).getD (month - 1) 31

/-- The number of days in months of the given lengths. -/
def totalDays : List Nat → Nat
  | [] => 0
  | length :: rest => length + totalDays rest

/-- The number of days of the year before the first of `month`. -/
def daysBeforeMonth (year : Int) (month : Nat) : Nat :=
  totalDays ((monthLengths year).take (month - 1))

/-- The day number of the first of January. -/
def daysBeforeYear (year : Int) : Int :=
  365 * (year - 1970) + (year - 1) / 4 - (year - 1) / 100 + (year - 1) / 400 - 477

/-- A date that the calendar has. -/
structure Valid (d : Date) : Prop where
  month_pos : 1 ≤ d.month
  month_le : d.month ≤ 12
  day_pos : 1 ≤ d.day
  day_le : d.day ≤ daysInMonth d.year d.month

instance (d : Date) : Decidable d.Valid :=
  decidable_of_iff (1 ≤ d.month ∧ d.month ≤ 12 ∧ 1 ≤ d.day ∧ d.day ≤ daysInMonth d.year d.month)
    ⟨fun ⟨a, b, c, e⟩ => ⟨a, b, c, e⟩, fun ⟨a, b, c, e⟩ => ⟨a, b, c, e⟩⟩

theorem daysBeforeYear_succ (year : Int) :
    daysBeforeYear (year + 1) = daysBeforeYear year + if IsLeap year then 366 else 365 := by
  by_cases h : IsLeap year
  · rw [if_pos h]
    unfold IsLeap at h
    unfold daysBeforeYear
    omega
  · rw [if_neg h]
    unfold IsLeap at h
    unfold daysBeforeYear
    omega

theorem daysInMonth_bounds (year : Int) (month : Nat) :
    28 ≤ daysInMonth year month ∧ daysInMonth year month ≤ 31 := by
  unfold daysInMonth monthLengths
  rcases Nat.lt_or_ge (month - 1) 12 with h | h
  · generalize month - 1 = k at h
    have : ∀ leap : Nat, 28 ≤ leap → leap ≤ 31 → ∀ k < 12,
        28 ≤ [31, leap, 31, 30, 31, 30, 31, 31, 30, 31, 30, 31].getD k 31 ∧
          [31, leap, 31, 30, 31, 30, 31, 31, 30, 31, 30, 31].getD k 31 ≤ 31 := by
      intro leap h1 h2 k hk
      match k, hk with
      | 0, _ | 2, _ | 3, _ | 4, _ | 5, _ | 6, _ | 7, _ | 8, _ | 9, _ | 10, _ | 11, _ => simp
      | 1, _ => simpa using ⟨h1, h2⟩
    exact this _ (by split <;> omega) (by split <;> omega) k h
  · rw [List.getD_eq_getElem?_getD, List.getElem?_eq_none (by simpa using h)]
    simp

/-! ## Counting days -/

/-- The number of days from 1970-01-01 to the date. -/
def dayNumber (d : Date) : Int :=
  daysBeforeYear d.year + daysBeforeMonth d.year d.month + d.day - 1

/-- The year that holds a day: whole cycles of 400, 100, 4 and 1 years are split off in turn. -/
def yearOfDay (n : Int) : Int :=
  let n := n + 719162
  let inCycle := n % 146097
  let centuries := min (inCycle / 36524) 3
  let inCentury := inCycle - 36524 * centuries
  let inLeapCycle := inCentury % 1461
  400 * (n / 146097) + 100 * centuries + 4 * (inCentury / 1461) + min (inLeapCycle / 365) 3 + 1

/-- Splits a day of the year, counted from 0, into the month and the day of that month. -/
def splitMonths : List Nat → (month day : Nat) → Nat × Nat
  | [], month, day => (month, day + 1)
  | length :: rest, month, day =>
    if day < length then (month, day + 1) else splitMonths rest (month + 1) (day - length)

/-- The date of a day number. -/
def ofDayNumber (n : Int) : Date :=
  let year := yearOfDay n
  let (month, day) := splitMonths (monthLengths year) 1 (n - daysBeforeYear year).toNat
  ⟨year, month, day⟩

/-- The quotients of a year number that is given in cycles of 400, 100, 4 and 1 years. -/
theorem cycle_quotients {a c q y : Int} (hc : 0 ≤ c ∧ c ≤ 3) (hq : 0 ≤ q ∧ q ≤ 24)
    (hy : 0 ≤ y ∧ y ≤ 3) :
    (400 * a + 100 * c + 4 * q + y) / 4 = 100 * a + 25 * c + q ∧
      (400 * a + 100 * c + 4 * q + y) / 100 = 4 * a + c ∧
      (400 * a + 100 * c + 4 * q + y) / 400 = a := by
  obtain ⟨hc0, hc3⟩ := hc
  obtain ⟨hq0, hq24⟩ := hq
  obtain ⟨hy0, hy3⟩ := hy
  refine ⟨by omega, ?_, by omega⟩
  have : 0 ≤ 4 * q + y ∧ 4 * q + y < 100 := by omega
  omega

/-- The year of a day starts no later than the day, and the next year after it. -/
theorem yearOfDay_bounds (n : Int) :
    daysBeforeYear (yearOfDay n) ≤ n ∧ n < daysBeforeYear (yearOfDay n + 1) := by
  obtain ⟨m, hm⟩ : ∃ m, n + 719162 = m := ⟨_, rfl⟩
  obtain ⟨a, ha⟩ : ∃ a, m / 146097 = a := ⟨_, rfl⟩
  obtain ⟨s, hs⟩ : ∃ s, m % 146097 = s := ⟨_, rfl⟩
  obtain ⟨c, hc⟩ : ∃ c, min (s / 36524) 3 = c := ⟨_, rfl⟩
  obtain ⟨r, hr⟩ : ∃ r, s - 36524 * c = r := ⟨_, rfl⟩
  obtain ⟨q, hq⟩ : ∃ q, r / 1461 = q := ⟨_, rfl⟩
  obtain ⟨t, ht⟩ : ∃ t, r % 1461 = t := ⟨_, rfl⟩
  obtain ⟨y, hy⟩ : ∃ y, min (t / 365) 3 = y := ⟨_, rfl⟩
  have hz : yearOfDay n = 400 * a + 100 * c + 4 * q + y + 1 := by
    subst hm ha hs hc hr hq ht hy; rfl
  have hms : m = 146097 * a + s ∧ 0 ≤ s ∧ s < 146097 := by omega
  clear ha hs
  have hcr : 0 ≤ c ∧ c ≤ 3 ∧ s = 36524 * c + r ∧ 0 ≤ r ∧ (r < 36524 ∨ r = 36524 ∧ c = 3) := by
    omega
  clear hc hr
  have hqt : 0 ≤ q ∧ q ≤ 24 ∧ r = 1461 * q + t ∧ 0 ≤ t ∧ t < 1461 := by omega
  clear hq ht
  have hyt : 0 ≤ y ∧ y ≤ 3 ∧ 365 * y ≤ t ∧ (t < 365 * y + 365 ∨ t = 1460 ∧ y = 3) := by omega
  clear hy
  obtain ⟨h4, h100, h400⟩ := cycle_quotients (a := a) ⟨hcr.1, hcr.2.1⟩ ⟨hqt.1, hqt.2.1⟩
    ⟨hyt.1, hyt.2.1⟩
  have hstart : daysBeforeYear (yearOfDay n) = 365 * (400 * a + 100 * c + 4 * q + y - 1969) +
      (100 * a + 25 * c + q) - (4 * a + c) + a - 477 := by
    rw [hz, daysBeforeYear, Int.add_sub_cancel, h4, h100, h400]
    omega
  have hn : n = 146097 * a + 36524 * c + 1461 * q + t - 719162 := by omega
  clear h4 h100 h400
  rw [daysBeforeYear_succ, hstart]
  obtain ⟨hy0, hy3, hty, ht⟩ := hyt
  refine ⟨by clear hms hcr ht; omega, ?_⟩
  by_cases hlast : t = 1460 ∧ y = 3
  · have hleap : IsLeap (yearOfDay n) := by
      rw [hz, hlast.2]
      unfold IsLeap
      omega
    rw [if_pos hleap]
    clear hms hcr hleap ht
    omega
  · have : t < 365 * y + 365 := by omega
    clear hms hcr ht hlast
    split <;> omega

theorem splitMonths_eq (lengths : List Nat) (month day : Nat) (h : day < totalDays lengths) :
    ∃ k < lengths.length, (splitMonths lengths month day).1 = month + k ∧
      1 ≤ (splitMonths lengths month day).2 ∧
      (splitMonths lengths month day).2 ≤ lengths.getD k 31 ∧
      totalDays (lengths.take k) + (splitMonths lengths month day).2 = day + 1 := by
  induction lengths generalizing month day with
  | nil => simp [totalDays] at h
  | cons length rest ih =>
    rw [splitMonths]
    by_cases hd : day < length
    · refine ⟨0, by simp, ?_⟩
      rw [if_pos hd]
      simp [totalDays]
      omega
    · rw [if_neg hd]
      simp only [totalDays] at h
      obtain ⟨k, hk, h1, h2, h3, h4⟩ := ih (month + 1) (day - length) (by omega)
      refine ⟨k + 1, by simpa using hk, by omega, h2, ?_, ?_⟩
      · simpa using h3
      · simp only [List.take_succ_cons, totalDays]
        omega

theorem totalDays_take_succ {lengths : List Nat} {k : Nat} (h : k < lengths.length) :
    totalDays (lengths.take (k + 1)) = totalDays (lengths.take k) + lengths[k] := by
  induction lengths generalizing k with
  | nil => simp at h
  | cons length rest ih =>
    cases k with
    | zero => simp [totalDays]
    | succ k =>
      have hk : k < rest.length := by simpa using h
      simp only [List.take_succ_cons, totalDays, ih hk, List.getElem_cons_succ]
      omega

theorem totalDays_monthLengths (year : Int) :
    totalDays (monthLengths year) = if IsLeap year then 366 else 365 := by
  unfold monthLengths
  split <;> rfl

theorem ofDayNumber_spec (n : Int) : (ofDayNumber n).Valid ∧ (ofDayNumber n).dayNumber = n := by
  have hb := yearOfDay_bounds n
  have hs := daysBeforeYear_succ (yearOfDay n)
  have hl := totalDays_monthLengths (yearOfDay n)
  have hlen : (monthLengths (yearOfDay n)).length = 12 := rfl
  obtain ⟨k, hk, h1, h2, h3, h4⟩ := splitMonths_eq (monthLengths (yearOfDay n)) 1
    (n - daysBeforeYear (yearOfDay n)).toNat (by split at hs <;> simp_all <;> omega)
  have hm : (ofDayNumber n).month = 1 + k := h1
  have hy : (ofDayNumber n).year = yearOfDay n := rfl
  have hd : (ofDayNumber n).day = (splitMonths (monthLengths (yearOfDay n)) 1
    (n - daysBeforeYear (yearOfDay n)).toNat).2 := rfl
  refine ⟨⟨by omega, by omega, by omega, ?_⟩, ?_⟩
  · rw [daysInMonth, hm, hy, hd, Nat.add_sub_cancel_left]
    exact h3
  · rw [dayNumber, daysBeforeMonth, hm, hy, hd, Nat.add_sub_cancel_left]
    omega

/-- The date of a day number has that number. -/
theorem dayNumber_ofDayNumber (n : Int) : (ofDayNumber n).dayNumber = n :=
  (ofDayNumber_spec n).2

/-- The date of a day number is one the calendar has. -/
theorem ofDayNumber_valid (n : Int) : (ofDayNumber n).Valid :=
  (ofDayNumber_spec n).1

/-! ## Moving by months -/

/-- The months from January of year 0 to the month of the date. -/
def monthIndex (d : Date) : Int :=
  12 * d.year + (d.month - 1)

/-- The first day of the month with the given index. -/
def ofMonthIndex (i : Int) : Date :=
  ⟨i / 12, (i % 12).toNat + 1, 1⟩

/-- Moves the date by `months` months; a day that the month reached lacks becomes its last day. -/
def addMonths (d : Date) (months : Nat) : Date :=
  let first := ofMonthIndex (d.monthIndex + months)
  { first with day := min d.day (daysInMonth first.year first.month) }

/-- The day number of the first day of the month with the given index. -/
def monthStart (i : Int) : Int :=
  (ofMonthIndex i).dayNumber

theorem monthStart_succ (i : Int) :
    monthStart (i + 1) =
      monthStart i + daysInMonth (ofMonthIndex i).year (ofMonthIndex i).month := by
  unfold monthStart ofMonthIndex dayNumber
  simp only
  have h12 : 0 ≤ i % 12 ∧ i % 12 < 12 := by omega
  obtain ⟨k, hk⟩ : ∃ k : Nat, (i % 12).toNat = k := ⟨_, rfl⟩
  rw [hk]
  by_cases hlast : k = 11
  · subst hlast
    have h1 : (i + 1) / 12 = i / 12 + 1 := by omega
    have h2 : ((i + 1) % 12).toNat = 0 := by omega
    rw [h1, h2, daysBeforeYear_succ]
    unfold daysInMonth daysBeforeMonth monthLengths
    split <;> simp [totalDays] <;> omega
  · have h1 : (i + 1) / 12 = i / 12 := by omega
    have h2 : ((i + 1) % 12).toNat = k + 1 := by omega
    rw [h1, h2]
    unfold daysInMonth daysBeforeMonth
    have hk' : k < (monthLengths (i / 12)).length := by
      simp [monthLengths]; omega
    simp only [Nat.add_sub_cancel, totalDays_take_succ hk',
      List.getElem?_eq_getElem hk', List.getD_eq_getElem?_getD, Option.getD_some]
    omega

theorem add_le_monthStart (i : Int) (months : Nat) :
    monthStart i + 28 * months ≤ monthStart (i + months) := by
  induction months with
  | zero => simp
  | succ m ih =>
    have h := monthStart_succ (i + m)
    have hb := (daysInMonth_bounds (ofMonthIndex (i + m)).year (ofMonthIndex (i + m)).month).1
    have he : i + ((m + 1 : Nat) : Int) = i + m + 1 := by omega
    rw [he]
    omega

theorem ofMonthIndex_monthIndex {d : Date} (h : d.Valid) :
    ofMonthIndex d.monthIndex = { d with day := 1 } := by
  have h1 := h.month_pos
  have h2 := h.month_le
  unfold ofMonthIndex monthIndex
  have e1 : (12 * d.year + ((d.month : Int) - 1)) / 12 = d.year := by omega
  have e2 : ((12 * d.year + ((d.month : Int) - 1)) % 12).toNat + 1 = d.month := by omega
  rw [e1, e2]

theorem dayNumber_eq_monthStart {d : Date} (h : d.Valid) :
    d.dayNumber = monthStart d.monthIndex + d.day - 1 := by
  rw [monthStart, ofMonthIndex_monthIndex h, dayNumber, dayNumber]
  simp only
  omega

theorem dayNumber_addMonths {d : Date} (months : Nat) :
    (d.addMonths months).dayNumber = monthStart (d.monthIndex + months) +
      min d.day (daysInMonth (ofMonthIndex (d.monthIndex + months)).year
        (ofMonthIndex (d.monthIndex + months)).month) - 1 := by
  simp only [addMonths, monthStart, dayNumber, ofMonthIndex]
  omega

/-- A move by months is a move by at least 28 days a month. -/
theorem add_le_dayNumber_addMonths {d : Date} (h : d.Valid) (months : Nat) :
    d.dayNumber + 28 * months ≤ (d.addMonths months).dayNumber := by
  rw [dayNumber_addMonths, dayNumber_eq_monthStart h]
  have hlow := add_le_monthStart d.monthIndex months
  have hnext := add_le_monthStart (d.monthIndex + 1) months
  have hs := monthStart_succ d.monthIndex
  have ht := monthStart_succ (d.monthIndex + months)
  have hday := h.day_le
  rw [ofMonthIndex_monthIndex h] at hs
  have he : d.monthIndex + 1 + (months : Int) = d.monthIndex + months + 1 := by omega
  rw [he] at hnext
  simp only at hs
  rw [Nat.min_def]
  split <;> omega

/-! ## Calendar fields -/

/-- The day of the year, from 1. -/
def dayOfYear (d : Date) : Nat :=
  daysBeforeMonth d.year d.month + d.day

/-- The day of the week, Monday = 1 to Sunday = 7. -/
def weekday (d : Date) : Nat :=
  ((d.dayNumber + 3) % 7).toNat + 1

/-- The number of ISO weeks of a year: 53 if it has 53 Thursdays, else 52. -/
def isoWeeks (year : Int) : Nat :=
  let first := Date.weekday ⟨year, 1, 1⟩
  if first = 4 ∨ (first = 3 ∧ IsLeap year) then 53 else 52

/-- The ISO week number: a week belongs to the year that holds its Thursday. -/
def isoWeek (d : Date) : Nat :=
  let week := (d.dayOfYear + 10 - d.weekday) / 7
  if week = 0 then isoWeeks (d.year - 1)
  else if isoWeeks d.year < week then 1
  else week

/-- The quarter of the year, from 1. -/
def quarter (d : Date) : Nat :=
  (d.month - 1) / 3 + 1

end Date

end Logbook
