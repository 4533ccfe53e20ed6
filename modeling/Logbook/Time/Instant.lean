import Logbook.Time.Date

/-!
# Wall times and instants

* `LocalTime` is what a clock on the wall shows: a second and the nanoseconds in it. A leap second is
  shown as second 60 after a second 59 and has no number of its own.
* `LocalTime.add` and `LocalTime.since` do arithmetic in nanoseconds, and `LocalTime.addMonths` moves
  the date and keeps the time of day.
* `Instant` is a point of time, given by what a clock set to UTC shows, within the range that the
  calendar covers; its bounds are part of the type, so arithmetic on instants answers `none` outside
  them.

Model of `Timestamp` of `tr-types`, that is, of the UTC instants of `chrono` with the sums and
differences that `tr-types` and `tr-series` take of them.
-/

namespace Logbook

/-- Nanoseconds in a second. -/
def nanosPerSecond : Int := 1000000000

/-- Seconds in a day. -/
def secondsPerDay : Int := 86400

/-- Nanoseconds in a day. -/
def nanosPerDay : Int := 86400000000000

/-! ## Wall times -/

/-- What a wall clock shows: seconds from midnight of 1970-01-01 on that clock, 86400 to a day, and
nanoseconds. From 1000000000 nanoseconds on, the clock shows the leap second after the second. -/
@[ext] structure LocalTime where
  seconds : Int
  nanos : Nat
  nanos_lt : nanos < 2000000000
deriving DecidableEq, Repr

namespace LocalTime

/-! ### Order -/

/-- The place of the time among all times, with as much room for the leap second after a second as
for the second itself. -/
def rank (l : LocalTime) : Int :=
  l.seconds * 2000000000 + l.nanos

instance : LE LocalTime := ⟨fun a b => a.rank ≤ b.rank⟩

instance : LT LocalTime := ⟨fun a b => a.rank < b.rank⟩

instance (a b : LocalTime) : Decidable (a ≤ b) :=
  inferInstanceAs (Decidable (a.rank ≤ b.rank))

instance (a b : LocalTime) : Decidable (a < b) :=
  inferInstanceAs (Decidable (a.rank < b.rank))

theorem le_def {a b : LocalTime} : a ≤ b ↔ a.rank ≤ b.rank := Iff.rfl

theorem lt_def {a b : LocalTime} : a < b ↔ a.rank < b.rank := Iff.rfl

/-- Times are in the order of their seconds, and times of one second in that of their nanoseconds. -/
theorem lt_iff {a b : LocalTime} :
    a < b ↔ a.seconds < b.seconds ∨ a.seconds = b.seconds ∧ a.nanos < b.nanos := by
  have := a.nanos_lt
  have := b.nanos_lt
  rw [lt_def, rank, rank]
  omega

theorem seconds_le_of_le {a b : LocalTime} (h : a ≤ b) : a.seconds ≤ b.seconds := by
  have := a.nanos_lt
  have := b.nanos_lt
  rw [le_def, rank, rank] at h
  omega

/-- Different times have different places. -/
theorem eq_of_rank_eq {a b : LocalTime} (h : a.rank = b.rank) : a = b := by
  have := a.nanos_lt
  have := b.nanos_lt
  unfold rank at h
  ext <;> omega

/-! ### The clock -/

/-- Whether the clock shows a leap second. -/
def IsLeap (l : LocalTime) : Prop :=
  1000000000 ≤ l.nanos

instance (l : LocalTime) : Decidable l.IsLeap :=
  inferInstanceAs (Decidable (_ ≤ _))

/-- The date that the clock shows. -/
def date (l : LocalTime) : Date :=
  Date.ofDayNumber (l.seconds / secondsPerDay)

/-- Seconds since midnight. -/
def secondOfDay (l : LocalTime) : Nat :=
  (l.seconds % secondsPerDay).toNat

/-- The hour of the day, 0 to 23. -/
def hour (l : LocalTime) : Nat := l.secondOfDay / 3600

/-- The minute of the hour. -/
def minute (l : LocalTime) : Nat := l.secondOfDay / 60 % 60

/-- The second of the minute; a leap second is shown as one more than the second before it. -/
def second (l : LocalTime) : Nat := l.secondOfDay % 60 + l.nanos / 1000000000

/-- The nanoseconds of the second that is shown. -/
def subsecond (l : LocalTime) : Nat := l.nanos % 1000000000

/-- What a clock shows that reads `hour`, `minute`, `second` and nanoseconds on the date, if a clock
can show it; second 60 is a leap second. -/
def ofClock? (d : Date) (hour minute second nanos : Nat) : Option LocalTime :=
  if h : hour < 24 ∧ minute < 60 ∧ second ≤ 60 ∧ nanos < 1000000000 then
    some ⟨d.dayNumber * secondsPerDay + (hour * 3600 + minute * 60 + min second 59 : Nat),
      second / 60 * 1000000000 + nanos, by omega⟩
  else none

/-- What a clock shows that is `offset` seconds ahead. -/
def ahead (l : LocalTime) (offset : Int) : LocalTime :=
  { l with seconds := l.seconds + offset }

/-! ### Moving the clock -/

/-- What a clock shows `n` nanoseconds after midnight of 1970-01-01, if it shows no leap seconds. -/
def ofNanos (n : Int) : LocalTime :=
  ⟨n / nanosPerSecond, (n % nanosPerSecond).toNat, by unfold nanosPerSecond; omega⟩

/-- The nanoseconds from midnight of 1970-01-01 to the time, where every day has 86400 seconds. -/
def toNanos (l : LocalTime) : Int :=
  l.seconds * nanosPerSecond + l.nanos

/-- The time `d` nanoseconds later. A leap second takes as long as any other second, but none is
known of except the one that the clock shows at the start. -/
def add (l : LocalTime) (d : Int) : LocalTime :=
  let n := l.nanos + d
  if l.nanos < 1000000000 ∨ n < 1000000000 then ofNanos (l.seconds * nanosPerSecond + n)
  else if h : n < 2000000000 then ⟨l.seconds, n.toNat, by omega⟩
  else ofNanos ((l.seconds - 1) * nanosPerSecond + n)

/-- The nanoseconds from `b` to `a`: the days between their dates, and the time between their times
of day, to which a leap second belongs that the clock shows at the earlier time of day. -/
def since (a b : LocalTime) : Int :=
  let n := (a.seconds - b.seconds) * nanosPerSecond + (a.nanos - b.nanos)
  if b.secondOfDay < a.secondOfDay ∧ b.IsLeap then n + nanosPerSecond
  else if a.secondOfDay < b.secondOfDay ∧ a.IsLeap then n - nanosPerSecond
  else n

/-- The same time of day, `months` months later; see `Date.addMonths` for the day. -/
def addMonths (l : LocalTime) (months : Nat) : LocalTime :=
  { l with seconds := (l.date.addMonths months).dayNumber * secondsPerDay + l.secondOfDay }

theorem toNanos_ofNanos (n : Int) : (ofNanos n).toNanos = n := by
  unfold toNanos ofNanos nanosPerSecond
  dsimp only
  omega

/-- Apart from leap seconds, a time is given by its nanoseconds. -/
theorem ofNanos_toNanos {l : LocalTime} (h : ¬ l.IsLeap) : ofNanos l.toNanos = l := by
  unfold IsLeap at h
  unfold toNanos ofNanos nanosPerSecond
  ext <;> dsimp only <;> omega

/-- Whole seconds are added to the seconds; a leap second is over after one. -/
theorem add_seconds (l : LocalTime) {s : Int} (h : 1 ≤ s) :
    l.add (s * nanosPerSecond) = ⟨l.seconds + s, l.nanos % 1000000000, by omega⟩ := by
  have := l.nanos_lt
  unfold add ofNanos nanosPerSecond
  dsimp only
  split
  · ext <;> dsimp only <;> omega
  · split
    · omega
    · ext <;> dsimp only <;> omega

theorem seconds_eq (l : LocalTime) :
    l.seconds = l.date.dayNumber * secondsPerDay + l.secondOfDay := by
  unfold date secondOfDay secondsPerDay
  rw [Date.dayNumber_ofDayNumber]
  omega

/-- A move by months is a move by at least 28 days a month. -/
theorem add_le_seconds_addMonths (l : LocalTime) (months : Nat) :
    l.seconds + 28 * months * secondsPerDay ≤ (l.addMonths months).seconds := by
  have h := Date.add_le_dayNumber_addMonths (d := l.date) (Date.ofDayNumber_valid _) months
  have hl := l.seconds_eq
  unfold addMonths
  dsimp only
  unfold secondsPerDay at *
  omega

/-! ### The range of the calendar -/

/-- The first second of the year -262143. -/
def firstSecond : Int := -8334601228800

/-- The last second of the year 262142. -/
def lastSecond : Int := 8210266876799

/-- Whether the calendar covers the time. -/
def InRange (l : LocalTime) : Prop :=
  firstSecond ≤ l.seconds ∧ l.seconds ≤ lastSecond

instance (l : LocalTime) : Decidable l.InRange :=
  inferInstanceAs (Decidable (_ ∧ _))

end LocalTime

/-! ## Instants -/

/-- A point of time: what a clock set to UTC shows, in the range of the calendar. -/
@[ext] structure Instant where
  utc : LocalTime
  inRange : utc.InRange
deriving DecidableEq, Repr

namespace Instant

/-! ### Order -/

/-- The place of the instant among all instants. -/
def rank (t : Instant) : Int :=
  t.utc.rank

instance : LE Instant := ⟨fun a b => a.rank ≤ b.rank⟩

instance : LT Instant := ⟨fun a b => a.rank < b.rank⟩

instance (a b : Instant) : Decidable (a ≤ b) :=
  inferInstanceAs (Decidable (a.rank ≤ b.rank))

instance (a b : Instant) : Decidable (a < b) :=
  inferInstanceAs (Decidable (a.rank < b.rank))

theorem le_def {a b : Instant} : a ≤ b ↔ a.rank ≤ b.rank := Iff.rfl

theorem lt_def {a b : Instant} : a < b ↔ a.rank < b.rank := Iff.rfl

/-- The earlier of two instants. -/
def earlier (a b : Instant) : Instant := if b < a then b else a

/-- The later of two instants. -/
def later (a b : Instant) : Instant := if a < b then b else a

theorem rank_earlier (a b : Instant) : (earlier a b).rank = min a.rank b.rank := by
  unfold earlier
  split <;> rename_i h <;> rw [lt_def] at h <;> omega

theorem rank_later (a b : Instant) : (later a b).rank = max a.rank b.rank := by
  unfold later
  split <;> rename_i h <;> rw [lt_def] at h <;> omega

/-- The instant moved into the range from `low` to `high`. -/
def clamp (t low high : Instant) : Instant :=
  if t < low then low else if high < t then high else t

/-! ### Arithmetic -/

/-- The instant at which a clock set to UTC shows the time, if it lies in range. -/
def ofUtc? (l : LocalTime) : Option Instant :=
  if h : l.InRange then some ⟨l, h⟩ else none

/-- The instant `s` seconds after 1970-01-01T00:00:00Z, if it lies in range. -/
def ofSeconds? (s : Int) : Option Instant :=
  ofUtc? (LocalTime.ofNanos (s * nanosPerSecond))

/-- The instant `d` nanoseconds later, if it lies in range. -/
def add? (t : Instant) (d : Int) : Option Instant :=
  ofUtc? (t.utc.add d)

/-- The nanoseconds from `b` to `a`. -/
def since (a b : Instant) : Int :=
  a.utc.since b.utc

theorem ofUtc?_eq_some_iff {l : LocalTime} {t : Instant} : ofUtc? l = some t ↔ t.utc = l := by
  unfold ofUtc?
  split
  · rw [Option.some.injEq]
    exact ⟨fun h => h ▸ rfl, fun h => Instant.ext h.symm⟩
  · rename_i h
    refine ⟨fun h' => by simp at h', fun h' => absurd ?_ h⟩
    exact h' ▸ t.inRange

theorem ofUtc?_eq_none_iff {l : LocalTime} : ofUtc? l = none ↔ ¬ l.InRange := by
  unfold ofUtc?
  split <;> simp_all

end Instant

end Logbook
