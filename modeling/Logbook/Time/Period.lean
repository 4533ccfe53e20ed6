import Logbook.Text.Blank
import Logbook.Text.Digits
import Logbook.Text.Quoted
import Logbook.Time.InstantText
import Logbook.Time.Zone

/-!
# Periods

A period is a positive number of seconds, minutes, hours, days, weeks, months, quarters or years.

* `Period.read` and `Period.text` are its written form, `7d` or `1M`.
* `Period.step` moves an instant by one period. A period of months moves the date that the clock of
  a zone shows; a wall time that the zone skips is replaced by the end of the gap.
* `Zone.le_wall_of_firstAtOrAfter`: at the end of the gap the clock has reached the time asked for.
* `Period.lt_step`: a step always moves ahead, by a second or more, and by more than 25 days if it
  counts months.

Model of `Period` and `PeriodUnit` with `new`, `fmt`, `from_str` and `advance`, of
`first_instant_at_or_after`, and of `PeriodError` of `tr-types`.
-/

namespace Logbook

/-! ## Units -/

/-- The units that a period can count. -/
inductive TimeUnit where
  | second | minute | hour | day | week | month | quarter | year
deriving DecidableEq, Repr

namespace TimeUnit

/-- The letter after the count; months and minutes differ in case. -/
def suffix : TimeUnit → Char
  | second => 's'
  | minute => 'm'
  | hour => 'h'
  | day => 'd'
  | week => 'w'
  | month => 'M'
  | quarter => 'q'
  | year => 'y'

/-- The unit that a suffix names; three units have a second, longer suffix. -/
def ofSuffix? : List Char → Option TimeUnit
  | ['s'] | ['s', 'e', 'c'] => some second
  | ['m'] | ['m', 'i', 'n'] => some minute
  | ['h'] => some hour
  | ['d'] => some day
  | ['w'] => some week
  | ['M'] | ['m', 'o'] => some month
  | ['q'] => some quarter
  | ['y'] => some year
  | _ => none

/-- The seconds in a unit of fixed length. -/
def seconds? : TimeUnit → Option Nat
  | second => some 1
  | minute => some 60
  | hour => some 3600
  | day => some 86400
  | week => some 604800
  | _ => none

/-- The months in a unit of the calendar; 0 for a unit of fixed length. -/
def months : TimeUnit → Nat
  | month => 1
  | quarter => 3
  | year => 12
  | _ => 0

theorem ofSuffix?_suffix (u : TimeUnit) : ofSuffix? [u.suffix] = some u := by
  cases u <;> rfl

theorem months_pos {u : TimeUnit} (h : u.seconds? = none) : 0 < u.months := by
  cases u <;> simp_all [seconds?, months]

theorem seconds_pos {u : TimeUnit} {s : Nat} (h : u.seconds? = some s) : 0 < s := by
  cases u <;> simp_all [seconds?] <;> omega

end TimeUnit

/-! ## Periods and their errors -/

/-- A positive number of units; the count fits in 32 bits. -/
structure Period where
  count : Nat
  unit : TimeUnit
  count_pos : 0 < count
  count_lt : count < 4294967296
deriving DecidableEq

namespace Period

/-- The written form of a period: its count and the suffix of its unit. -/
def text (p : Period) : String :=
  String.ofList (Digits.digits p.count ++ [p.unit.suffix])

/-- Whether the length of the period depends on where it starts. -/
def isCalendar (p : Period) : Bool :=
  p.unit.seconds?.isNone

/-- The length of a period of fixed length, in seconds. -/
def seconds? (p : Period) : Option Nat :=
  p.unit.seconds?.map (· * p.count)

end Period

/-- Why a period cannot be read, or cannot be added to an instant. -/
inductive PeriodError where
  /-- The text `input` does not start with a digit. -/
  | missingCount (input : String)
  /-- The count does not fit in 32 bits. -/
  | countOutOfRange (input : String)
  /-- What follows the count is no unit. -/
  | unknownUnit (input : String)
  /-- The count is zero. -/
  | zeroCount (input : String)
  /-- One period after `start` is outside the calendar. -/
  | overflow (period : Period) (start : Instant)
  /-- The clock of the zone shows a time outside the calendar at the instant. -/
  | wallTimeOutOfRange (instant : Instant)
deriving DecidableEq

namespace PeriodError

/-- The message of a text that is no period. -/
def invalidMessage (input reason : String) : String :=
  "invalid period " ++ quoted input ++ ": " ++ reason

/-- The error in words. -/
def message : PeriodError → String
  | missingCount input => invalidMessage input "missing count"
  | countOutOfRange input => invalidMessage input "count out of range"
  | unknownUnit input => invalidMessage input "unknown unit"
  | zeroCount input => invalidMessage input "count must be at least 1"
  | overflow period start =>
    "period " ++ period.text ++ " overflows the timestamp range from " ++ start.inWords
  | wallTimeOutOfRange instant => "wall time out of range at " ++ instant.inWords

end PeriodError

/-! ## Reading -/

namespace Period

/-- The period of `count` units, unless the count is zero or does not fit in 32 bits. -/
def ofCount (count : Nat) (unit : TimeUnit) : Except PeriodError Period :=
  let input := String.ofList (Digits.digits count ++ [unit.suffix])
  if lt : count < 4294967296 then
    if pos : 0 < count then .ok ⟨count, unit, pos, lt⟩ else .error (.zeroCount input)
  else .error (.countOutOfRange input)

/-- Reads a period: digits and the suffix of a unit, with blanks around them. Of several faults the
first of these counts: no digits, a count beyond 32 bits, an unknown unit, a count of zero. -/
def read (input : String) : Except PeriodError Period :=
  let (run, suffix) := Digits.splitDigits (trim input.toList)
  if run.isEmpty then .error (.missingCount input)
  else if lt : Digits.value run < 4294967296 then
    match TimeUnit.ofSuffix? suffix with
    | none => .error (.unknownUnit input)
    | some unit =>
      if pos : 0 < Digits.value run then .ok ⟨Digits.value run, unit, pos, lt⟩
      else .error (.zeroCount input)
  else .error (.countOutOfRange input)

end Period

/-! ## The end of a gap -/

/-- Why no instant can be found for a wall time. -/
inductive SearchFault where
  /-- The instant would lie outside the calendar. -/
  | outOfRange
  /-- The clock shows a time outside the calendar at the instant. -/
  | wallTime (instant : Instant)
deriving DecidableEq

namespace Zone

/-- Halves the range between a nanosecond of UTC at which the clock shows a time before `wall` and
one at which it does not, until they are neighbours, and answers the later one. -/
def bisect (z : Zone) (wall : LocalTime) (low high : Int) : Except SearchFault Instant :=
  if low + 1 < high then
    let mid := low + (high - low) / 2
    match Instant.ofUtc? (.ofNanos mid) with
    | none => .error .outOfRange
    | some t =>
      if (z.wallTime t).InRange then
        if z.wallTime t < wall then bisect z wall mid high else bisect z wall low mid
      else .error (.wallTime t)
  else
    match Instant.ofUtc? (.ofNanos high) with
    | none => .error .outOfRange
    | some t => .ok t
termination_by (high - low).toNat

/-- The first instant at which the clock of the zone shows the time; if it never does, the end of
the gap, which is sought within a day on either side. -/
def firstAtOrAfter (z : Zone) (l : LocalTime) : Except SearchFault Instant :=
  match z.earliest? l.seconds with
  | some s =>
    match Instant.ofUtc? { l with seconds := s } with
    | some t => .ok t
    | none => .error .outOfRange
  | none =>
    let low := l.add (-nanosPerDay)
    let high := l.add nanosPerDay
    if low.InRange ∧ high.InRange then z.bisect l low.toNanos high.toNanos
    else .error .outOfRange

/-- If the clock has reached a time at the end of the range, then also at the instant found. -/
theorem le_wall_of_bisect {z : Zone} {wall : LocalTime} {low high : Int} {t : Instant}
    (hhigh : ∀ u ∈ Instant.ofUtc? (.ofNanos high), wall ≤ z.wallTime u)
    (h : z.bisect wall low high = .ok t) : wall ≤ z.wallTime t := by
  induction low, high using bisect.induct z wall with
  | case1 low high hgap mid hmid =>
    rw [bisect, if_pos hgap] at h
    simp only [mid] at hmid
    simp only [hmid] at h
    simp at h
  | case2 low high hgap mid m hmid hrange hlt ih =>
    rw [bisect, if_pos hgap] at h
    simp only [mid] at hmid ih
    simp only [hmid] at h
    rw [if_pos hrange, if_pos hlt] at h
    exact ih hhigh h
  | case3 low high hgap mid m hmid hrange hlt ih =>
    rw [bisect, if_pos hgap] at h
    simp only [mid] at hmid ih
    simp only [hmid] at h
    rw [if_pos hrange, if_neg hlt] at h
    refine ih (fun u hu => ?_) h
    rw [hmid, Option.mem_some] at hu
    subst hu
    exact Int.not_lt.1 hlt
  | case4 low high hgap mid m hmid hrange =>
    rw [bisect, if_pos hgap] at h
    simp only [mid] at hmid
    simp only [hmid] at h
    rw [if_neg hrange] at h
    simp at h
  | case5 low high hgap hend =>
    rw [bisect, if_neg hgap, hend] at h
    simp at h
  | case6 low high hgap m hend =>
    rw [bisect, if_neg hgap, hend] at h
    cases h
    exact hhigh _ (Option.mem_def.2 hend)

/-- A day after a time, the clock has passed that time. -/
theorem le_wall_of_add_day {z : Zone} {l : LocalTime} {u : Instant}
    (h : Instant.ofUtc? (.ofNanos (l.add nanosPerDay).toNanos) = some u) : l ≤ z.wallTime u := by
  have hday := l.add_seconds (s := secondsPerDay) (by decide)
  rw [show nanosPerDay = secondsPerDay * nanosPerSecond from rfl, hday,
    LocalTime.ofNanos_toNanos (by simp only [LocalTime.IsLeap]; omega),
    Instant.ofUtc?_eq_some_iff] at h
  have hbound := (z.wallSecond_bounds u.utc.seconds).1
  rw [← seconds_wallTime, h] at hbound
  exact Int.le_of_lt (LocalTime.lt_iff.2 (.inl (by dsimp only at hbound; omega)))

/-- The clock has reached the time asked for. -/
theorem le_wall_of_firstAtOrAfter {z : Zone} {l : LocalTime} {t : Instant}
    (h : z.firstAtOrAfter l = .ok t) : l ≤ z.wallTime t := by
  unfold firstAtOrAfter at h
  split at h
  · rename_i s hs
    split at h
    · rename_i t' ht
      cases h
      have hwall : z.wallTime t = l := by
        unfold wallTime
        rw [Instant.ofUtc?_eq_some_iff.1 ht]
        exact LocalTime.ext (wallSecond_of_earliest? hs) rfl
      rw [hwall]
      exact Int.le_refl _
    · simp at h
  · simp only at h
    split at h
    · exact le_wall_of_bisect (fun u hu => le_wall_of_add_day (Option.mem_def.1 hu)) h
    · simp at h

end Zone

/-! ## Stepping -/

namespace Period

/-- One period after `t`. A period of fixed length adds its seconds. A period of the calendar moves
the date that the clock of the zone shows, keeps the time of day, and takes the first instant at
which the clock has reached the new wall time. -/
def step (p : Period) (z : Zone) (t : Instant) : Except PeriodError Instant :=
  match p.seconds? with
  | some s =>
    match t.add? (s * nanosPerSecond) with
    | some next => .ok next
    | none => .error (.overflow p t)
  | none =>
    let months := p.unit.months * p.count
    let wall := z.wallTime t
    let target := wall.addMonths months
    if 4294967296 ≤ months then .error (.overflow p t)
    else if ¬ wall.InRange then .error (.wallTimeOutOfRange t)
    else if ¬ target.InRange then .error (.overflow p t)
    else
      match z.firstAtOrAfter target with
      | .ok next => .ok next
      | .error .outOfRange => .error (.overflow p t)
      | .error (.wallTime instant) => .error (.wallTimeOutOfRange instant)

theorem add_lt_step_of_calendar {p : Period} {z : Zone} {t next : Instant}
    (hp : p.seconds? = none) (h : p.step z t = .ok next) :
    t.utc.seconds + 26 * secondsPerDay < next.utc.seconds := by
  unfold step at h
  rw [hp] at h
  simp only at h
  split at h
  · simp at h
  split at h
  · simp at h
  split at h
  · simp at h
  split at h
  · rename_i next' hnext
    cases h
    have h1 := LocalTime.seconds_le_of_le (Zone.le_wall_of_firstAtOrAfter hnext)
    have h2 := LocalTime.add_le_seconds_addMonths (z.wallTime t) (p.unit.months * p.count)
    have h3 := (z.wallSecond_bounds t.utc.seconds).1
    have h4 := (z.wallSecond_bounds next.utc.seconds).2
    rw [Zone.seconds_wallTime] at h1 h2
    have h5 : 1 ≤ p.unit.months * p.count :=
      Nat.mul_pos (TimeUnit.months_pos (Option.map_eq_none_iff.1 hp)) p.count_pos
    generalize p.unit.months * p.count = m at h1 h2 h5
    unfold secondsPerDay at *
    omega
  · simp at h
  · simp at h

theorem one_le_seconds {p : Period} {s : Nat} (hp : p.seconds? = some s) : 1 ≤ s := by
  obtain ⟨u, hu, rfl⟩ := Option.map_eq_some_iff.1 hp
  exact Nat.mul_pos (TimeUnit.seconds_pos hu) p.count_pos

/-- A step of a period of fixed length adds exactly its seconds, and leaves a leap second. -/
theorem utc_step_of_fixed {p : Period} {z : Zone} {t next : Instant} {s : Nat}
    (hp : p.seconds? = some s) (h : p.step z t = .ok next) :
    next.utc = ⟨t.utc.seconds + s, t.utc.nanos % 1000000000, by omega⟩ := by
  unfold step at h
  rw [hp] at h
  simp only at h
  split at h
  · rename_i n hn
    cases h
    have := one_le_seconds hp
    rw [Instant.ofUtc?_eq_some_iff.1 hn]
    exact t.utc.add_seconds (by omega)
  · simp at h

/-- A step moves ahead by a second or more. -/
theorem seconds_lt_step {p : Period} {z : Zone} {t next : Instant} (h : p.step z t = .ok next) :
    t.utc.seconds < next.utc.seconds := by
  cases hp : p.seconds? with
  | none =>
    have := add_lt_step_of_calendar hp h
    unfold secondsPerDay at this
    omega
  | some s =>
    have := one_le_seconds hp
    rw [utc_step_of_fixed hp h]
    dsimp only
    omega

/-- A step moves ahead. -/
theorem lt_step {p : Period} {z : Zone} {t next : Instant} (h : p.step z t = .ok next) :
    t.rank < next.rank :=
  LocalTime.lt_iff.2 (.inl (seconds_lt_step h))

end Period

end Logbook
