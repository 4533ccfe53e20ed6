import Logbook.Proofs.Time.Gaps
import Logbook.Proofs.Time.RowWalks

/-!
# Reading clocks near the ends of time

A step of the calendar reads the clock of the zone at its start, and the search for the end of a gap
reads it all the way. Near the ends of the calendar a clock may show a time that the calendar does not
cover, and then the step can neither be made nor refused as an overflow.

* `Zone.Probes` / `Zone.Searches` — the instants at which the search reads the clock.
* `Zone.bisect_eq_error_iff` — the search fails exactly at a clock that is off the calendar.
* `Period.ReadsClock` — the instants at which a step reads the clock.
* `Period.step_eq_wallTimeOutOfRange_iff` — a step fails so exactly if one of these clocks is off the
  calendar; all other failures are overflows (`Period.readable_iff`).
* `Period.readable_of_daysInside` — away from the ends of the calendar no clock is off it.
* `Period.walkReadable_iff` — a walk can only overflow exactly if the calendar covers all that its
  steps read.
-/

namespace Logbook

/-! ## The search -/

namespace Zone

/-- The search between two nanoseconds of UTC reads the clock at the instant: it does so in the middle,
and goes on in one of the halves if the calendar covers what the clock shows. -/
inductive Probes (z : Zone) (wall : LocalTime) : (low high : Int) → Instant → Prop where
  | middle {low high : Int} {t : Instant} (hgap : low + 1 < high)
    (ht : t.utc = .ofNanos (low + (high - low) / 2)) : Probes z wall low high t
  | later {low high : Int} {t u : Instant} (hgap : low + 1 < high)
    (ht : t.utc = .ofNanos (low + (high - low) / 2)) (hread : (z.wallTime t).InRange)
    (hbefore : z.wallTime t < wall) (h : Probes z wall (low + (high - low) / 2) high u) :
    Probes z wall low high u
  | earlier {low high : Int} {t u : Instant} (hgap : low + 1 < high)
    (ht : t.utc = .ofNanos (low + (high - low) / 2)) (hread : (z.wallTime t).InRange)
    (hbefore : ¬ z.wallTime t < wall) (h : Probes z wall low (low + (high - low) / 2) u) :
    Probes z wall low high u

variable {z : Zone} {wall l : LocalTime} {low high mid : Int} {t u : Instant}

/-- The search reads the clock between its ends only. -/
theorem Probes.between (h : z.Probes wall low high u) :
    ∃ n, u.utc = .ofNanos n ∧ low < n ∧ n < high := by
  induction h with
  | middle hgap ht => exact ⟨_, ht, by omega, by omega⟩
  | later hgap _ _ _ _ ih =>
    obtain ⟨n, hn, hlow, hhigh⟩ := ih
    exact ⟨n, hn, by omega, hhigh⟩
  | earlier hgap _ _ _ _ ih =>
    obtain ⟨n, hn, hlow, hhigh⟩ := ih
    exact ⟨n, hn, hlow, by omega⟩

/-- The search reads the clock in the middle, and then in one half if the calendar covers what it
shows. -/
theorem probes_iff (hgap : low + 1 < high) (hmid : mid = low + (high - low) / 2)
    (ht : t.utc = .ofNanos mid) :
    z.Probes wall low high u ↔ u = t ∨ (z.wallTime t).InRange ∧
      (z.wallTime t < wall ∧ z.Probes wall mid high u ∨
        ¬ z.wallTime t < wall ∧ z.Probes wall low mid u) := by
  subst hmid
  have same : ∀ {t'}, t'.utc = LocalTime.ofNanos (low + (high - low) / 2) → t' = t :=
    fun ht' => Instant.ext (ht'.trans ht.symm)
  constructor
  · rintro (⟨-, ht'⟩ | ⟨-, ht', hread, hbefore, h⟩ | ⟨-, ht', hread, hafter, h⟩)
    · exact .inl (same ht')
    · cases same ht'
      exact .inr ⟨hread, .inl ⟨hbefore, h⟩⟩
    · cases same ht'
      exact .inr ⟨hread, .inr ⟨hafter, h⟩⟩
  · rintro (rfl | ⟨hread, ⟨hbefore, h⟩ | ⟨hafter, h⟩⟩)
    · exact .middle hgap ht
    · exact .later hgap ht hread hbefore h
    · exact .earlier hgap ht hread hafter h

/-- Where the calendar covers what lies between the ends, the search fails exactly at a clock that it
reads and that is off the calendar. -/
theorem bisect_eq_error_iff {fault : SearchFault} (hlt : low < high)
    (hrange : ∀ n, low ≤ n → n ≤ high → (LocalTime.ofNanos n).InRange) :
    z.bisect wall low high = .error fault ↔
      ∃ u, z.Probes wall low high u ∧ ¬ (z.wallTime u).InRange ∧ fault = .wallTime u := by
  induction low, high using bisect.induct z wall with
  | case1 low high hgap mid hmid =>
    rw [Instant.ofUtc?_eq_none_iff] at hmid
    exact absurd (hrange mid (by omega) (by omega)) hmid
  | case2 low high hgap mid t hmid hread hbefore ih =>
    rw [bisect_of_before hgap rfl hmid hread hbefore,
      ih (by omega) fun n h₁ h₂ => hrange n (by omega) h₂]
    simp only [probes_iff hgap rfl (Instant.ofUtc?_eq_some_iff.1 hmid), hread, hbefore, true_and,
      not_true, false_and, or_false, or_and_right, exists_or, exists_eq_left, false_or]
    rfl
  | case3 low high hgap mid t hmid hread hafter ih =>
    rw [bisect_of_not_before hgap rfl hmid hread hafter,
      ih (by omega) fun n h₁ h₂ => hrange n h₁ (by omega)]
    simp only [probes_iff hgap rfl (Instant.ofUtc?_eq_some_iff.1 hmid), hread, hafter, true_and,
      not_true, not_false_eq_true, false_and, false_or, or_and_right, exists_or, exists_eq_left]
    rfl
  | case4 low high hgap mid t hmid hread =>
    rw [bisect_of_unreadable hgap rfl hmid hread]
    simp [probes_iff hgap rfl (Instant.ofUtc?_eq_some_iff.1 hmid), hread, eq_comm]
  | case5 low high hgap hend =>
    rw [Instant.ofUtc?_eq_none_iff] at hend
    exact absurd (hrange high (by omega) (Int.le_refl _)) hend
  | case6 low high hgap t hend =>
    rw [bisect_of_neighbours hgap hend]
    simp only [reduceCtorEq, false_iff]
    rintro ⟨u, hu, -, -⟩
    obtain ⟨n, -, hlow, hhigh⟩ := hu.between
    omega

/-- To find the end of the gap that a wall time lies in, the clock is read at the instant. -/
structure Searches (z : Zone) (l : LocalTime) (u : Instant) : Prop where
  skipped : ∀ s, z.wallSecond s ≠ l.seconds
  days : (l.add (-nanosPerDay)).InRange ∧ (l.add nanosPerDay).InRange
  probes : z.Probes l (l.toNanos - nanosPerDay) (l.add nanosPerDay).toNanos u

/-- No instant is found for a wall time, because of a clock off the calendar, exactly if the search
reads that clock. -/
theorem firstAtOrAfter_eq_wallTime_iff :
    z.firstAtOrAfter l = .error (.wallTime u) ↔ z.Searches l u ∧ ¬ (z.wallTime u).InRange := by
  cases hfirst : z.earliest? l.seconds with
  | some s =>
    have hshown : ¬ z.Searches l u := fun h => h.skipped s (wallSecond_of_earliest? hfirst)
    rw [firstAtOrAfter, hfirst]
    dsimp only
    split <;> simp [hshown]
  | none =>
    have hskip : ∀ s, z.wallSecond s ≠ l.seconds := by
      intro s hs
      obtain ⟨first, hsome, -⟩ := exists_earliest? hs
      cases hfirst.symm.trans hsome
    rw [firstAtOrAfter_of_skipped hskip]
    by_cases hdays : (l.add (-nanosPerDay)).InRange ∧ (l.add nanosPerDay).InRange
    · rw [if_pos hdays,
        bisect_eq_error_iff l.day_before_lt fun n => l.ofNanos_inRange hdays]
      constructor
      · rintro ⟨u, hu, hoff, ⟨⟩⟩
        exact ⟨⟨hskip, hdays, hu⟩, hoff⟩
      · rintro ⟨hu, hoff⟩
        exact ⟨u, hu.probes, hoff, rfl⟩
    · rw [if_neg hdays]
      simp only [Except.error.injEq, reduceCtorEq, false_iff]
      exact fun h => hdays h.1.days

end Zone

/-! ## Steps -/

namespace Period

variable {p : Period} {z : Zone} {t u start stop : Instant}

/-- A step from `t` reads the clock of the zone at the instant: a period that counts months, at most
as many as fit in 32 bits, reads it at the start, and then to look for the end of a gap. -/
inductive ReadsClock (p : Period) (z : Zone) (t : Instant) : Instant → Prop where
  | start (hp : p.seconds? = none) (hcount : p.unit.months * p.count < 4294967296) :
    ReadsClock p z t t
  | search {u : Instant} (hp : p.seconds? = none)
    (hcount : p.unit.months * p.count < 4294967296) (hstart : (z.wallTime t).InRange)
    (htarget : (p.target z t).InRange) (h : z.Searches (p.target z t) u) : ReadsClock p z t u

theorem readsClock_iff (hp : p.seconds? = none) :
    p.ReadsClock z t u ↔ p.unit.months * p.count < 4294967296 ∧
      (u = t ∨ (z.wallTime t).InRange ∧ (p.target z t).InRange ∧ z.Searches (p.target z t) u) := by
  constructor
  · rintro (⟨-, hcount⟩ | ⟨-, hcount, hstart, htarget, h⟩)
    · exact ⟨hcount, .inl rfl⟩
    · exact ⟨hcount, .inr ⟨hstart, htarget, h⟩⟩
  · rintro ⟨hcount, rfl | ⟨hstart, htarget, h⟩⟩
    · exact .start hp hcount
    · exact .search hp hcount hstart htarget h

theorem ReadsClock.seconds?_eq (h : p.ReadsClock z t u) : p.seconds? = none := by
  cases h <;> assumption

/-- A step fails with a clock off the calendar exactly if it reads that clock. -/
theorem step_eq_wallTimeOutOfRange_iff :
    p.step z t = .error (.wallTimeOutOfRange u) ↔
      p.ReadsClock z t u ∧ ¬ (z.wallTime u).InRange := by
  cases hp : p.seconds? with
  | some s =>
    have hnever : ¬ p.ReadsClock z t u := fun h => by cases hp.symm.trans h.seconds?_eq
    simp [step_fixed_eq_error_iff hp, hnever]
  | none =>
    rw [step_calendar_eq hp, readsClock_iff hp]
    by_cases hcount : 4294967296 ≤ p.unit.months * p.count
    · simp [hcount, Nat.not_lt.2 hcount]
    rw [if_neg hcount]
    simp only [Nat.not_le.1 hcount, true_and]
    by_cases hstart : (z.wallTime t).InRange
    · have hhere : ¬ (u = t ∧ ¬ (z.wallTime u).InRange) := by
        rintro ⟨rfl, hoff⟩
        exact hoff hstart
      rw [if_neg (not_not_intro hstart)]
      by_cases htarget : (p.target z t).InRange
      · rw [if_neg (not_not_intro htarget), mapError_eq_error_iff]
        simp only [hstart, htarget, true_and, or_and_right, hhere, false_or,
          ← Zone.firstAtOrAfter_eq_wallTime_iff]
        constructor
        · rintro ⟨_ | found, hfault, ⟨⟩⟩
          exact hfault
        · intro hfault
          exact ⟨_, hfault, rfl⟩
      · rw [if_pos htarget]
        simp only [Except.error.injEq, reduceCtorEq, htarget, false_and, and_false, or_false,
          false_iff]
        exact hhere
    · rw [if_pos hstart]
      simp only [Except.error.injEq, PeriodError.wallTimeOutOfRange.injEq, hstart, false_and,
        or_false]
      constructor
      · rintro rfl
        exact ⟨rfl, hstart⟩
      · rintro ⟨rfl, -⟩
        rfl

/-- All other failures of a step are overflows. -/
theorem step_eq_error_cases {e : PeriodError} (h : p.step z t = .error e) :
    e = .overflow p t ∨ ∃ u, e = .wallTimeOutOfRange u := by
  cases hp : p.seconds? with
  | some s => exact .inl ((step_fixed_eq_error_iff hp).1 h).1
  | none =>
    rw [step_calendar_eq hp] at h
    split at h
    · cases h
      exact .inl rfl
    split at h
    · cases h
      exact .inr ⟨t, rfl⟩
    split at h
    · cases h
      exact .inl rfl
    obtain ⟨_ | found, -, rfl⟩ := mapError_eq_error_iff.1 h
    · exact .inl rfl
    · exact .inr ⟨found, rfl⟩

/-- The calendar covers what all clocks show that a step from the instant reads. -/
def Readable (p : Period) (z : Zone) (t : Instant) : Prop :=
  ∀ u, p.ReadsClock z t u → (z.wallTime u).InRange

/-- That is so exactly if a step from there can only overflow. -/
theorem readable_iff :
    p.Readable z t ↔ ∀ e, p.step z t = .error e → e = .overflow p t := by
  constructor
  · intro h e herror
    obtain heq | ⟨u, rfl⟩ := step_eq_error_cases herror
    · exact heq
    · obtain ⟨hread, hoff⟩ := step_eq_wallTimeOutOfRange_iff.1 herror
      exact absurd (h u hread) hoff
  · intro h u hread
    refine Decidable.byContradiction fun hoff => ?_
    cases h _ (step_eq_wallTimeOutOfRange_iff.2 ⟨hread, hoff⟩)

/-! ### Away from the ends -/

/-- A step of a period of fixed length reads no clock. -/
theorem readable_of_fixed (hp : p.isCalendar = false) : p.Readable z t := by
  intro u hread
  rw [isCalendar, Option.isNone_eq_false_iff, Option.isSome_iff_exists] at hp
  obtain ⟨unit, hunit⟩ := hp
  cases hread.seconds?_eq.symm.trans (seconds?_eq_some_iff.2 ⟨unit, hunit, rfl⟩)

/-- Clocks that show UTC can always be read. -/
theorem readable_of_utc (hz : ∀ s, z.offsetAt s = 0) : p.Readable z t := by
  intro u _
  have hseconds : (z.wallTime u).seconds = u.utc.seconds := by
    rw [Zone.seconds_wallTime, Zone.wallSecond, hz, Int.add_zero]
  have hin := u.inRange
  unfold LocalTime.InRange at *
  rwa [hseconds]

/-- From a day inside the calendar all clocks can be read if the target is no gap, or lies two days
inside. -/
theorem readable_of_daysInside (ht : t.utc.DaysInside 1)
    (htarget : (p.target z t).DaysInside 2 ∨ ∃ s, z.wallSecond s = (p.target z t).seconds) :
    p.Readable z t := by
  rintro u (_ | ⟨-, -, -, -, hsearch⟩)
  · exact wallTime_inRange ht
  · obtain hinside | ⟨s, hs⟩ := htarget
    · obtain ⟨n, hn, hlow, hhigh⟩ := hsearch.probes.between
      rw [Zone.wallTime_eq_wallAt hn]
      exact Zone.wallAt_inRange hinside (Int.le_of_lt hlow) (Int.le_of_lt hhigh)
    · exact absurd hs (hsearch.skipped s)

/-! ## Walks -/

/-- The calendar covers what all clocks show that a walk from `start` to `stop` reads. -/
def WalkReadable (p : Period) (z : Zone) (start stop : Instant) : Prop :=
  ∀ t, p.Reaches z start t → t < stop → p.Readable z t

/-- That is so exactly if the walk can only overflow. -/
theorem walkReadable_iff :
    p.WalkReadable z start stop ↔ ∀ e, p.tiles z stop start = .error e →
      ∃ t, p.Reaches z start t ∧ t < stop ∧ e = .overflow p t := by
  constructor
  · intro h e herror
    obtain ⟨t, hreach, ht, hstep⟩ := tiles_eq_error_iff.1 herror
    exact ⟨t, hreach, ht, readable_iff.1 (h t hreach ht) e hstep⟩
  · intro h t hreach ht
    refine readable_iff.2 fun e hstep => ?_
    -- The walk comes to this instant, so its overflow is that of the step from here.
    obtain ⟨t', -, -, rfl⟩ := h e (tiles_eq_error_iff.2 ⟨t, hreach, ht, hstep⟩)
    obtain heq | ⟨u, heq⟩ := step_eq_error_cases hstep
    · exact heq
    · cases heq

end Period

end Logbook
