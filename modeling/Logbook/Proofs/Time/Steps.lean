import Logbook.Proofs.Outcome
import Logbook.Proofs.Time.Months
import Logbook.Time.Period

/-!
# What a step comes to

* `Zone.exists_earliest?` — the search for a wall time finds the first second that shows it.
* `LocalTime.DaysInside` — a time lies some days inside the calendar.
* `Zone.firstAtOrAfter_of_shown` — a wall time that some instant shows is found, at the first of them.
* `Period.step_fixed_eq_ok_iff`, `Period.step_fixed_eq_error_iff`, `Period.step_calendar_eq` — the
  outcome of a step, written out.
* `Period.step_comes_to` — a step of a fixed period adds its seconds, and a step of a period of the
  calendar moves the date on the wall.
-/

namespace Logbook

/-! ## The first instant that shows a wall time -/

namespace Zone

/-- The search passes no second that shows the wall time. -/
theorem exists_earliestFrom {start : Option Int} {offset : Int} {changes : List OffsetChange}
    {wall s : Int} (hstart : ∀ a ∈ start, a ≤ s) (hs : s + offsetFrom offset changes s = wall) :
    ∃ first, earliestFrom start offset changes wall = some first ∧ first ≤ s := by
  have hall : ∀ r : Int, s ≤ r → start.all (· ≤ r) = true := by
    intro r hr
    rw [Option.all_eq_true]
    intro a ha
    exact decide_eq_true (Int.le_trans (hstart a ha) hr)
  induction changes generalizing start offset with
  | nil =>
    have hwall : wall - offset = s := by
      dsimp only [offsetFrom] at hs
      omega
    refine ⟨s, ?_, Int.le_refl s⟩
    simp only [earliestFrom, hwall, hall s (Int.le_refl s), if_true]
  | cons c rest ih =>
    rw [offsetFrom] at hs
    rw [earliestFrom]
    by_cases hc : c.since ≤ s
    · -- The second comes after the change, but an earlier one before it may show the time too.
      rw [if_pos hc] at hs
      by_cases hbefore : (start.all (· ≤ wall - offset)) = true ∧ wall - offset < c.since
      · exact ⟨wall - offset, if_pos hbefore, by omega⟩
      · rw [if_neg hbefore]
        have hsome : ∀ a ∈ some c.since, a ≤ s := by
          intro a ha
          cases Option.mem_some.1 ha
          exact hc
        refine ih hsome hs fun r hr => ?_
        simpa using Int.le_trans hc hr
    · rw [if_neg hc] at hs
      have hwall : wall - offset = s := by omega
      refine ⟨s, ?_, Int.le_refl s⟩
      rw [hwall, if_pos ⟨hall s (Int.le_refl s), Int.not_le.1 hc⟩]

/-- If a clock shows a wall time at some second, the search finds one that is not later. -/
theorem exists_earliest? {z : Zone} {wall s : Int} (h : z.wallSecond s = wall) :
    ∃ first, z.earliest? wall = some first ∧ first ≤ s :=
  exists_earliestFrom (by simp) h

end Zone

/-! ## Times inside the calendar -/

namespace LocalTime

/-- The time is at least `days` days away from both ends of the calendar. -/
def DaysInside (days : Nat) (l : LocalTime) : Prop :=
  firstSecond + days * secondsPerDay ≤ l.seconds ∧ l.seconds + days * secondsPerDay ≤ lastSecond

instance (days : Nat) (l : LocalTime) : Decidable (l.DaysInside days) :=
  inferInstanceAs (Decidable (_ ∧ _))

theorem DaysInside.mono {l : LocalTime} {days fewer : Nat} (h : l.DaysInside days)
    (hle : fewer ≤ days) : l.DaysInside fewer := by
  unfold DaysInside secondsPerDay at *
  omega

/-- What is some days inside the calendar is covered by it, as is all that is less far away. -/
theorem DaysInside.inRange {l m : LocalTime} {days : Nat} (h : l.DaysInside days)
    (hlow : l.seconds - days * secondsPerDay ≤ m.seconds)
    (hhigh : m.seconds ≤ l.seconds + days * secondsPerDay) : m.InRange := by
  unfold DaysInside at h
  unfold InRange
  omega

end LocalTime

namespace Zone

theorem nanos_wallTime (z : Zone) (t : Instant) : (z.wallTime t).nanos = t.utc.nanos := rfl

/-- A second that a clock shows is less than a day away from the second at which it shows it. -/
theorem near_wallSecond {z : Zone} {s wall : Int} (h : z.wallSecond s = wall) :
    wall - secondsPerDay ≤ s ∧ s ≤ wall + secondsPerDay := by
  have := z.wallSecond_bounds s
  omega

/-- A second that shows the wall time is found, and so is the time. -/
theorem wallTime_of_firstAtOrAfter {z : Zone} {l : LocalTime} {t : Instant} {s : Int}
    (hs : z.earliest? l.seconds = some s) (h : z.firstAtOrAfter l = .ok t) : z.wallTime t = l := by
  rw [firstAtOrAfter, hs] at h
  dsimp only at h
  split at h
  · rename_i found hutc
    cases h
    rw [Instant.ofUtc?_eq_some_iff] at hutc
    unfold wallTime
    rw [hutc]
    exact LocalTime.ext (wallSecond_of_earliest? hs) rfl
  · cases h

/-- A wall time that some second shows is found, at the first of the instants that show it. -/
theorem firstAtOrAfter_of_shown {z : Zone} {l : LocalTime} {s : Int} (hl : l.DaysInside 1)
    (hs : z.wallSecond s = l.seconds) :
    ∃ t, z.firstAtOrAfter l = .ok t ∧ z.wallTime t = l ∧ ∀ u, z.wallTime u = l → t ≤ u := by
  obtain ⟨first, hfirst, -⟩ := exists_earliest? hs
  have hshown := wallSecond_of_earliest? hfirst
  obtain ⟨hlow, hhigh⟩ := near_wallSecond hshown
  have hin : LocalTime.InRange { l with seconds := first } :=
    hl.inRange (by dsimp only; omega) (by dsimp only; omega)
  have hutc : Instant.ofUtc? { l with seconds := first } = some ⟨{ l with seconds := first }, hin⟩ :=
    Instant.ofUtc?_eq_some_iff.2 rfl
  refine ⟨⟨{ l with seconds := first }, hin⟩, ?_, LocalTime.ext hshown rfl, ?_⟩
  · rw [firstAtOrAfter, hfirst]
    dsimp only
    rw [hutc]
  · intro u hu
    have hseconds : z.wallSecond u.utc.seconds = l.seconds := by rw [← seconds_wallTime, hu]
    have hnanos : u.utc.nanos = l.nanos := by rw [← hu, nanos_wallTime]
    obtain ⟨first', hfirst', hle⟩ := exists_earliest? hseconds
    cases hfirst.symm.trans hfirst'
    show first * 2000000000 + (l.nanos : Int) ≤ u.utc.seconds * 2000000000 + u.utc.nanos
    omega

end Zone

/-! ## Steps -/

namespace Period

variable {p : Period} {z : Zone} {t : Instant}

theorem seconds?_eq_some_iff {s : Nat} :
    p.seconds? = some s ↔ ∃ unit, p.unit.seconds? = some unit ∧ s = unit * p.count := by
  unfold seconds?
  rw [Option.map_eq_some_iff]
  exact ⟨fun ⟨unit, h, hs⟩ => ⟨unit, h, hs.symm⟩, fun ⟨unit, h, hs⟩ => ⟨unit, h, hs.symm⟩⟩

theorem step_fixed_eq {s : Nat} (hp : p.seconds? = some s) :
    p.step z t = (t.add? (s * nanosPerSecond)).elim (.error (.overflow p t)) .ok := by
  unfold step
  rw [hp]
  dsimp only
  cases t.add? (s * nanosPerSecond) <;> rfl

/-- A step of a fixed period moves the clock on by its seconds, and out of a leap second. -/
theorem step_fixed_eq_ok_iff {s : Nat} (hp : p.seconds? = some s) {next : Instant} :
    p.step z t = .ok next ↔ next.utc.seconds = t.utc.seconds + s ∧
      next.utc.nanos = t.utc.nanos % 1000000000 := by
  have hs := one_le_seconds hp
  rw [step_fixed_eq hp, Instant.add?, t.utc.add_seconds (by omega)]
  cases hutc : Instant.ofUtc? ⟨t.utc.seconds + s, t.utc.nanos % 1000000000, by omega⟩ with
  | some reached =>
    rw [Instant.ofUtc?_eq_some_iff] at hutc
    rw [Option.elim_some, Except.ok.injEq, Instant.ext_iff, LocalTime.ext_iff, hutc, eq_comm (a := _ + _),
      eq_comm (a := _ % _)]
  | none =>
    rw [Instant.ofUtc?_eq_none_iff] at hutc
    simp only [Option.elim_none, reduceCtorEq, false_iff]
    rintro ⟨hseconds, -⟩
    have hin := next.inRange
    unfold LocalTime.InRange at hutc hin
    dsimp only at hutc
    omega

theorem step_fixed_eq_error_iff {s : Nat} (hp : p.seconds? = some s) {e : PeriodError} :
    p.step z t = .error e ↔
      e = .overflow p t ∧ LocalTime.lastSecond < t.utc.seconds + s := by
  have hs := one_le_seconds hp
  have hstart := t.inRange.1
  rw [step_fixed_eq hp, Instant.add?, t.utc.add_seconds (by omega)]
  cases hutc : Instant.ofUtc? ⟨t.utc.seconds + s, t.utc.nanos % 1000000000, by omega⟩ with
  | some reached =>
    rw [Instant.ofUtc?_eq_some_iff] at hutc
    simp only [Option.elim_some, reduceCtorEq, false_iff]
    rintro ⟨-, hlast⟩
    have hend := reached.inRange.2
    rw [hutc] at hend
    dsimp only at hend
    omega
  | none =>
    rw [Instant.ofUtc?_eq_none_iff] at hutc
    have hlast : LocalTime.lastSecond < t.utc.seconds + s := by
      unfold LocalTime.InRange at hutc
      dsimp only at hutc
      omega
    simp only [Option.elim_none, Except.error.injEq, hlast, and_true, eq_comm]

/-- Where a step from an instant leads on the wall, if it counts months. -/
def target (p : Period) (z : Zone) (t : Instant) : LocalTime :=
  (z.wallTime t).addMonths (p.unit.months * p.count)

/-- The error of a step that finds no instant for its target. -/
def faultError (p : Period) (t : Instant) : SearchFault → PeriodError
  | .outOfRange => .overflow p t
  | .wallTime instant => .wallTimeOutOfRange instant

/-- A step of a period of the calendar comes to what the search finds for its target, unless the
months, the clock at the start or the target prevent it. -/
theorem step_calendar_eq (hp : p.seconds? = none) :
    p.step z t =
      if 4294967296 ≤ p.unit.months * p.count then .error (.overflow p t)
      else if ¬ (z.wallTime t).InRange then .error (.wallTimeOutOfRange t)
      else if ¬ (p.target z t).InRange then .error (.overflow p t)
      else (z.firstAtOrAfter (p.target z t)).mapError (p.faultError t) := by
  unfold step
  rw [hp]
  dsimp only
  rw [← target]
  congr 3
  cases z.firstAtOrAfter (p.target z t) with
  | ok next => rfl
  | error fault => cases fault <;> rfl

/-- What a step of a period of the calendar takes. -/
theorem step_calendar_eq_ok_iff (hp : p.seconds? = none) {next : Instant} :
    p.step z t = .ok next ↔ p.unit.months * p.count < 4294967296 ∧ (z.wallTime t).InRange ∧
      (p.target z t).InRange ∧ z.firstAtOrAfter (p.target z t) = .ok next := by
  rw [step_calendar_eq hp]
  by_cases hmonths : 4294967296 ≤ p.unit.months * p.count
  · rw [if_pos hmonths]
    exact iff_of_false nofun fun h => absurd h.1 (Nat.not_lt.2 hmonths)
  rw [if_neg hmonths]
  by_cases hwall : (z.wallTime t).InRange
  · rw [if_neg (not_not_intro hwall)]
    by_cases htarget : (p.target z t).InRange
    · rw [if_neg (not_not_intro htarget), mapError_eq_ok_iff]
      exact ⟨fun h => ⟨Nat.not_le.1 hmonths, hwall, htarget, h⟩, fun h => h.2.2.2⟩
    · rw [if_pos htarget]
      exact iff_of_false nofun fun h => htarget h.2.2.1
  · rw [if_pos hwall]
    exact iff_of_false nofun fun h => hwall h.2.1

/-- A clock is less than a day away from UTC, so one day inside the calendar it can be read. -/
theorem wallTime_inRange {days : Nat} (ht : t.utc.DaysInside (days + 1)) :
    (z.wallTime t).InRange := by
  have hbounds := z.wallSecond_bounds t.utc.seconds
  unfold secondsPerDay at hbounds
  refine ht.inRange ?_ ?_
  · rw [Zone.seconds_wallTime]
    unfold secondsPerDay
    omega
  · rw [Zone.seconds_wallTime]
    unfold secondsPerDay
    omega

/-- **What a step comes to.** A step of a fixed period moves the clock on by the seconds of its units
and keeps the part of the second (a leap second is over after one); it overflows exactly if that
leaves the calendar. A step of a period that counts months, from an instant two days inside the
calendar, has one target: the wall clock that many months later. If the months fit in 32 bits, the
target is two days inside the calendar and some instant shows it, the step comes to the first such
instant; and if the months do not fit or the target lies outside the calendar, the step overflows,
naming the period and the instant. -/
theorem step_comes_to (p : Period) (z : Zone) (t : Instant) :
    (∀ unit, p.unit.seconds? = some unit →
      (∀ next, p.step z t = .ok next ↔
        next.utc.seconds = t.utc.seconds + unit * p.count ∧
          next.utc.nanos = t.utc.nanos % 1000000000) ∧
      ∀ e, p.step z t = .error e ↔
        e = .overflow p t ∧ LocalTime.lastSecond < t.utc.seconds + unit * p.count) ∧
    (p.unit.seconds? = none → t.utc.DaysInside 2 →
      ∃ target, (∀ l, (z.wallTime t).MonthsLater (p.unit.months * p.count) l ↔ l = target) ∧
        (p.unit.months * p.count < 4294967296 → target.DaysInside 2 →
          (∃ u, z.wallTime u = target) →
            ∃ next, p.step z t = .ok next ∧ z.wallTime next = target ∧
              ∀ u, z.wallTime u = target → next ≤ u) ∧
        (4294967296 ≤ p.unit.months * p.count ∨ ¬ target.InRange →
          p.step z t = .error (.overflow p t))) := by
  refine ⟨?_, ?_⟩
  · intro unit hunit
    have hp := seconds?_eq_some_iff.2 ⟨unit, hunit, rfl⟩
    refine ⟨fun next => ?_, fun e => ?_⟩
    · rw [step_fixed_eq_ok_iff hp, Int.natCast_mul]
    · rw [step_fixed_eq_error_iff hp, Int.natCast_mul]
  · intro hunit ht
    have hp : p.seconds? = none := Option.map_eq_none_iff.2 hunit
    have hwall : (z.wallTime t).InRange := wallTime_inRange ht
    refine ⟨p.target z t, fun l => LocalTime.monthsLater_iff, ?_, ?_⟩
    · rintro hcount htarget ⟨u, hu⟩
      have hin : (p.target z t).InRange :=
        htarget.inRange (by unfold secondsPerDay; omega) (by unfold secondsPerDay; omega)
      have hone : (p.target z t).DaysInside 1 := htarget.mono (by decide)
      have hshown : z.wallSecond u.utc.seconds = (p.target z t).seconds := by
        rw [← Zone.seconds_wallTime, hu]
      obtain ⟨next, hnext, hresult⟩ := Zone.firstAtOrAfter_of_shown hone hshown
      refine ⟨next, ?_, hresult⟩
      rw [step_calendar_eq hp, if_neg (Nat.not_le.2 hcount), if_neg (not_not_intro hwall),
        if_neg (not_not_intro hin), hnext]
      rfl
    · intro hover
      rw [step_calendar_eq hp, if_neg (not_not_intro hwall)]
      by_cases hcount : 4294967296 ≤ p.unit.months * p.count
      · rw [if_pos hcount]
      · rw [if_neg hcount, if_pos (hover.resolve_left hcount)]

/-- A month from the evening of January 31 on a wall five hours behind UTC, where it is February
already: the evening of February 28 on that wall. -/
theorem step_comes_to_monthEnd :
    ∃ (p : Period) (z : Zone) (t next : Instant),
      p.count = 1 ∧ p.unit = .month ∧ t.utc.seconds = 1738384200 ∧
      t.utc.date = ⟨2025, 2, 1⟩ ∧ (z.wallTime t).date = ⟨2025, 1, 31⟩ ∧
      p.step z t = .ok next ∧ next.utc.seconds = 1740803400 ∧
      (z.wallTime next).date = ⟨2025, 2, 28⟩ ∧ ∀ u, z.wallTime u = z.wallTime next → next ≤ u := by
  let p : Period := ⟨1, .month, by decide, by decide⟩
  let z : Zone := .fixed "Etc/GMT+5" (-18000) (by decide)
  let t : Instant := ⟨⟨1738384200, 0, by omega⟩, by decide⟩
  let shown : Instant := ⟨⟨1740803400, 0, by omega⟩, by decide⟩
  obtain ⟨target, htarget, hstep, -⟩ := (step_comes_to p z t).2 rfl (by decide)
  obtain rfl := (htarget (z.wallTime shown)).1 ⟨by decide, by decide, by decide, rfl⟩
  obtain ⟨next, hnext, hwall, hfirst⟩ := hstep (by decide) (by decide) ⟨shown, rfl⟩
  have hseconds : next.utc.seconds + -18000 = 1740803400 + -18000 := congrArg (·.seconds) hwall
  refine ⟨p, z, t, next, rfl, rfl, rfl, by decide, by decide, hnext, by omega, ?_, ?_⟩
  · rw [hwall]
    decide
  · rw [hwall]
    exact hfirst

end Period

end Logbook
