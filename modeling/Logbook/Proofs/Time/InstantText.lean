import Logbook.Proofs.Text.Trim
import Logbook.Time.InstantText

/-!
# The text of an instant and back

The text of an instant is the date and the time that a clock shows, so it is read back part by part.
It can name a leap second only as second 60 of a minute.

* `Instant.OnClock` — a leap second, if it is one, is the last second of a minute.
* `Instant.number?_padded`, `Instant.date?_chars`, `Instant.subsecond?_chars` — the parts of the text
  are read back, whatever follows them.
* `Instant.read?_text_iff` — the instants that are read back from their text are those on the clock,
  and `Instant.onClock_of_read?` says that no text gives any other one.
-/

namespace Logbook

open Digits

/-! ## Numbers -/

theorem Digits.padded_ne_nil (width n : Nat) : padded width n ≠ [] := by
  unfold padded List.leftpad
  simp [digits_ne_nil]

/-- Zeros behind a number multiply it by ten. -/
theorem Digits.value_append_zeros (cs : List Char) (k : Nat) :
    value (cs ++ List.replicate k '0') = value cs * Nat.pow 10 k := by
  induction k with
  | zero => simp
  | succ k ih =>
    rw [List.replicate_succ', ← List.append_assoc, value_append, ih]
    show 10 * (value cs * Nat.pow 10 k) = value cs * (Nat.pow 10 k * 10)
    rw [Nat.mul_left_comm, Nat.mul_comm 10]

namespace Instant

/-- A number ends where its width does, or before a character that is no digit. -/
theorem number?_append {width : Nat} {run rest : List Char} (hne : run ≠ [])
    (hrun : ∀ c ∈ run, c.isDigit = true) (hwidth : run.length ≤ width)
    (hend : run.length = width ∨ ∀ c, rest.head? = some c → c.isDigit = false) :
    number? width (run ++ rest) = some (value run, rest) := by
  have htake : ((run ++ rest).takeWhile Char.isDigit).take width = run := by
    rw [List.takeWhile_append_of_pos hrun]
    rcases hend with hlength | hrest
    · rw [← hlength, List.take_left]
    · have hnone : rest.takeWhile Char.isDigit = [] := by
        cases rest with
        | nil => rfl
        | cons c rest => simp [hrest c rfl]
      rw [hnone, List.append_nil, List.take_of_length_le hwidth]
  unfold number?
  rw [htake]
  cases run with
  | nil => exact absurd rfl hne
  | cons c run => simp

/-- A number that is filled up to its width is read back, whatever follows. -/
theorem number?_padded {width n : Nat} (hw : 0 < width) (h : n < Nat.pow 10 width)
    (rest : List Char) : number? width (padded width n ++ rest) = some (n, rest) := by
  have hlength := length_padded hw h
  rw [number?_append (padded_ne_nil width n) (fun c hc => isDigit_of_mem_padded hc)
    (Nat.le_of_eq hlength) (.inl hlength), value_padded]

theorem number?_padded_two {n : Nat} (h : n < 100) (rest : List Char) :
    number? 2 (padded 2 n ++ rest) = some (n, rest) :=
  number?_padded (by omega) h rest

theorem trimStart_padded (width n : Nat) (rest : List Char) :
    trimStart (padded width n ++ rest) = padded width n ++ rest :=
  trimStart_digits (padded_ne_nil width n) (fun _ hc => isDigit_of_mem_padded hc) rest

/-! ## Dates -/

theorem year?_digits {run rest : List Char} (hne : run ≠ [])
    (hrun : ∀ c ∈ run, c.isDigit = true) :
    year? (run ++ rest) = (number? 4 (run ++ rest)).map fun (y, rest) => (y, rest) := by
  cases run with
  | nil => exact absurd rfl hne
  | cons c run =>
    have hc := hrun c List.mem_cons_self
    have hminus : c ≠ '-' := by rintro rfl; cases hc
    have hplus : c ≠ '+' := by rintro rfl; cases hc
    simp [year?, hminus, hplus]

/-- A year of up to four digits stands alone; a sign announces any other one. -/
theorem year?_yearChars (year : Int) (rest : List Char) :
    year? (yearChars year ++ '-' :: rest) = some (year, '-' :: rest) := by
  have hrun (n : Nat) : ∀ c ∈ padded 4 n, c.isDigit = true := fun c hc => isDigit_of_mem_padded hc
  have hsigned : number? (padded 4 year.natAbs ++ '-' :: rest).length
      (padded 4 year.natAbs ++ '-' :: rest) = some (year.natAbs, '-' :: rest) := by
    rw [number?_append (padded_ne_nil _ _) (hrun _) (by simp) (.inr (by simp)), value_padded]
  unfold yearChars
  split
  · next h =>
    have hyear : (year.toNat : Int) = year := by omega
    rw [year?_digits (padded_ne_nil _ _) (hrun _), number?_padded (by omega)
      (show year.toNat < 10000 by omega)]
    simp only [Option.map_some, hyear]
  · split
    · next h hneg =>
      have hyear : (-(year.natAbs : Int)) = year := by omega
      simp only [List.cons_append, year?, hsigned, Option.map_some, hyear]
    · next h hneg =>
      have hyear : (year.natAbs : Int) = year := by omega
      simp only [List.cons_append, year?, hsigned, Option.map_some, hyear]

theorem trimStart_yearChars (year : Int) (rest : List Char) :
    trimStart (yearChars year ++ rest) = yearChars year ++ rest := by
  unfold yearChars
  split
  · exact trimStart_padded 4 _ rest
  · split
    · exact trimStart_cons (by decide) _
    · exact trimStart_cons (by decide) _

theorem skip?_self (c : Char) (rest : List Char) : skip? c (c :: rest) = some rest := by
  simp [skip?]

/-- A date is read back, whatever follows. -/
theorem date?_chars {d : Date} (hmonth : d.month < 100) (hday : d.day < 100) (rest : List Char) :
    date? (d.chars ++ rest) = some (d, rest) := by
  have hminus (cs : List Char) : trimStart ('-' :: cs) = '-' :: cs := trimStart_cons (by decide) cs
  simp only [date?, Date.chars, List.append_assoc, List.cons_append, trimStart_yearChars,
    year?_yearChars, hminus, skip?_self, trimStart_padded, number?_padded_two hmonth,
    number?_padded_two hday, Option.bind_eq_bind, Option.bind_some]

/-! ## Times of day -/

/-- The places after the point are read back if no digit follows. -/
theorem subsecond?_chars {nanos : Nat} (h : nanos < 1000000000) {rest : List Char}
    (hrest : ∀ c, rest.head? = some c → c.isDigit = false ∧ c ≠ '.') :
    subsecond? (subsecondChars nanos ++ rest) = some (nanos, rest) := by
  have hplaces {width n k : Nat} (hw : 0 < width) (hn : n < Nat.pow 10 width)
      (hwidth : width + k = 9) (hvalue : n * Nat.pow 10 k = nanos) :
      subsecond? ('.' :: padded width n ++ rest) = some (nanos, rest) := by
    have hlength := length_padded hw hn
    have hsplit : splitDigits (padded width n ++ rest) = (padded width n, rest) :=
      splitDigits_of_digits (fun c hc => isDigit_of_mem_padded hc) fun c hc => (hrest c hc).1
    have htake : (padded width n).take 9 = padded width n := List.take_of_length_le (by omega)
    have hright : List.rightpad 9 '0' (padded width n) =
        padded width n ++ List.replicate k '0' := by
      rw [List.rightpad, hlength]
      congr 2
      omega
    have hne : (padded width n).isEmpty = false := by simp [padded_ne_nil]
    simp only [List.cons_append, subsecond?, hsplit, hne, htake, hright, value_append_zeros,
      value_padded, hvalue, Bool.false_eq_true, if_false]
  unfold subsecondChars
  split
  · next hzero =>
    subst hzero
    cases rest with
    | nil => rfl
    | cons c rest =>
      have hdot := (hrest c rfl).2
      simp [subsecond?, hdot]
  · split
    · exact hplaces (k := 6) (by omega) (show nanos / 1000000 < 1000 by omega) rfl
        (show nanos / 1000000 * 1000000 = nanos by omega)
    · split
      · exact hplaces (k := 3) (by omega) (show nanos / 1000 < 1000000 by omega) rfl
          (show nanos / 1000 * 1000 = nanos by omega)
      · exact hplaces (k := 0) (by omega) h rfl (Nat.mul_one nanos)

/-- A time of day is read back as what a clock shows that reads it. -/
theorem clock?_chars (l : LocalTime) {rest : List Char}
    (hrest : ∀ c, rest.head? = some c → c.isDigit = false ∧ c ≠ '.') :
    clock? l.date (l.clockChars ++ (subsecondChars l.subsecond ++ rest)) =
      (LocalTime.ofClock? l.date l.hour l.minute l.second l.subsecond).map (·, rest) := by
  have hcolon (cs : List Char) : trimStart (':' :: cs) = ':' :: cs := trimStart_cons (by decide) cs
  have hday : l.secondOfDay < 86400 := by
    unfold LocalTime.secondOfDay secondsPerDay
    omega
  have hnanos := l.nanos_lt
  have hhour : l.hour < 100 := by
    unfold LocalTime.hour
    omega
  have hminute : l.minute < 100 := by
    unfold LocalTime.minute
    omega
  have hsecond : l.second < 100 := by
    unfold LocalTime.second
    omega
  have hsubsecond : l.subsecond < 1000000000 := Nat.mod_lt _ (by omega)
  simp only [clock?, LocalTime.clockChars, List.append_assoc, List.cons_append, trimStart_padded,
    number?_padded_two hhour, number?_padded_two hminute, number?_padded_two hsecond, hcolon,
    skip?_self, subsecond?_chars hsubsecond hrest, Option.bind_eq_bind, Option.bind_some]
  cases LocalTime.ofClock? l.date l.hour l.minute l.second l.subsecond <;> rfl

end Instant

/-! ## Leap seconds -/

namespace LocalTime

/-- The time is one that a clock can show: a leap second comes after the last second of a minute. -/
def OnClock (l : LocalTime) : Prop :=
  l.IsLeap → l.seconds % 60 = 59

instance (l : LocalTime) : Decidable l.OnClock :=
  inferInstanceAs (Decidable (_ → _))

/-- What a clock reads is always a time, but a leap second within a minute is read as the second
after it. -/
theorem exists_ofClock? (l : LocalTime) :
    ∃ w, ofClock? l.date l.hour l.minute l.second l.subsecond = some w ∧ (w = l ↔ l.OnClock) := by
  have hseconds := l.seconds_eq
  have hnanos := l.nanos_lt
  have hday : l.secondOfDay < 86400 := by
    unfold secondOfDay secondsPerDay
    omega
  unfold secondsPerDay at hseconds
  unfold ofClock? OnClock IsLeap hour minute second subsecond
  rw [dif_pos (by omega)]
  refine ⟨_, rfl, ?_⟩
  rw [LocalTime.ext_iff]
  unfold secondsPerDay
  dsimp only
  omega

theorem onClock_of_ofClock? {d : Date} {hour minute second nanos : Nat} {w : LocalTime}
    (h : ofClock? d hour minute second nanos = some w) : w.OnClock := by
  unfold ofClock? at h
  split at h
  · cases h
    unfold OnClock IsLeap secondsPerDay
    dsimp only
    omega
  · cases h

end LocalTime

namespace Instant

/-- The instant is one that a clock set to UTC can show. -/
def OnClock (t : Instant) : Prop :=
  t.utc.OnClock

instance (t : Instant) : Decidable t.OnClock :=
  inferInstanceAs (Decidable t.utc.OnClock)

/-- The calendar covers the year of every instant. -/
theorem yearInRange (t : Instant) : YearInRange t.utc.date.year := by
  obtain ⟨hlow, hhigh⟩ := t.inRange
  obtain ⟨hyear, hnext⟩ := Date.yearOfDay_bounds (t.utc.seconds / secondsPerDay)
  show -262143 ≤ Date.yearOfDay (t.utc.seconds / secondsPerDay) ∧
    Date.yearOfDay (t.utc.seconds / secondsPerDay) ≤ 262142
  generalize Date.yearOfDay (t.utc.seconds / secondsPerDay) = year at hyear hnext
  unfold LocalTime.firstSecond at hlow
  unfold LocalTime.lastSecond at hhigh
  unfold Date.daysBeforeYear secondsPerDay at *
  -- The calendar ends with whole years, so the years next to it are told apart to the day.
  refine ⟨?_, ?_⟩
  · rcases Int.lt_trichotomy year (-262144) with h | rfl | h <;> omega
  · rcases Int.lt_trichotomy year 262143 with h | rfl | h <;> omega

/-- **Which instants are read back from their text**: those that a clock can show. -/
theorem read?_text_iff (t : Instant) : read? t.text = some t ↔ t.OnClock := by
  have hvalid := Date.ofDayNumber_valid (t.utc.seconds / secondsPerDay)
  have hvalid : t.utc.date.Valid := hvalid
  have hmonth := hvalid.month_le
  have hday := Nat.le_trans hvalid.day_le (Date.daysInMonth_bounds _ _).2
  obtain ⟨w, hw, hwall⟩ := t.utc.exists_ofClock?
  have hend : ∀ c, ['Z'].head? = some c → c.isDigit = false ∧ c ≠ '.' := by simp
  have hclock := clock?_chars t.utc hend
  have hzone : offset? (trimStart ['Z']) = some (0, []) := by decide
  have hread : read? t.text = ofUtc? (w.ahead (-0)) := by
    simp only [read?, text, String.toList_ofList, chars, LocalTime.chars, List.append_assoc,
      List.cons_append, date?_chars (show t.utc.date.month < 100 by omega)
      (show t.utc.date.day < 100 by omega), hclock, hw, hzone, Option.map_some,
      Option.bind_eq_bind, Option.bind_some]
    rw [if_pos ⟨hvalid, t.yearInRange, rfl⟩]
  have hahead : w.ahead (-0) = w := by
    show (⟨w.seconds + -0, w.nanos, _⟩ : LocalTime) = w
    ext <;> simp
  rw [hread, hahead, ofUtc?_eq_some_iff, eq_comm]
  exact hwall

/-! ## Any text -/

theorem onClock_of_clock? {date : Date} {cs rest : List Char} {w : LocalTime}
    (h : clock? date cs = some (w, rest)) : w.OnClock := by
  simp only [clock?, Option.bind_eq_bind, Option.bind_eq_some_iff, Option.some.injEq,
    Prod.mk.injEq] at h
  obtain ⟨_, -, _, -, _, -, _, -, _, -, _, -, w', hw, rfl, -⟩ := h
  exact LocalTime.onClock_of_ofClock? hw

/-- An offset is a number of whole minutes. -/
theorem offset?_mod {cs rest : List Char} {offset : Int} (h : offset? cs = some (offset, rest)) :
    offset % 60 = 0 := by
  unfold offset? at h
  split at h
  · cases h
    rfl
  · cases cs with
    | nil => cases h
    | cons sign cs =>
      simp only at h
      split at h
      · cases h
        rfl
      · split at h
        · cases h
        · simp only [Option.bind_eq_bind, Option.bind_eq_some_iff] at h
          obtain ⟨⟨hours, _⟩, -, ⟨minutes, _⟩, -, h⟩ := h
          simp only at h
          split at h
          · cases h
            split <;> omega
          · cases h

/-- Every text that is read gives an instant that a clock can show. -/
theorem onClock_of_read? {s : String} {t : Instant} (h : read? s = some t) : t.OnClock := by
  simp only [read?, Option.bind_eq_bind, Option.bind_eq_some_iff] at h
  obtain ⟨⟨date, cs⟩, -, h⟩ := h
  have htime (cs : List Char) (h : ((clock? date cs).bind fun x =>
      (offset? (trimStart x.2)).bind fun y =>
        if date.Valid ∧ YearInRange date.year ∧ trimStart y.2 = [] then
          ofUtc? (x.1.ahead (-y.1))
        else none) = some t) : t.OnClock := by
    simp only [Option.bind_eq_some_iff] at h
    obtain ⟨⟨w, _⟩, hclock, ⟨offset, _⟩, hoffset, h⟩ := h
    split at h
    · rw [ofUtc?_eq_some_iff] at h
      have hw := onClock_of_clock? hclock
      have hminutes := offset?_mod hoffset
      unfold OnClock LocalTime.OnClock LocalTime.IsLeap at *
      rw [h]
      unfold LocalTime.ahead
      dsimp only
      omega
    · cases h
  -- Three characters may stand between the date and the time.
  split at h
  · exact htime _ h
  · exact htime _ h
  · exact htime _ h
  · cases h

end Instant

end Logbook
