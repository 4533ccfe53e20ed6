import Logbook.Proofs.Time.Steps
import Logbook.Proofs.Time.Sums

/-!
# Gaps

A wall time that no instant shows lies in a gap: the offset of the zone changes, and the clock jumps
over it. The end of the gap is found by halving a stretch of two days.

* `Zone.bisect_spec` — the search keeps a time before the wall time at its low end and one that is not
  before it at its high end, and ends with two neighbouring nanoseconds.
* `Zone.exists_change` — between such neighbours the offset changes, at a whole second.
* `Zone.offsetAt_eq_of_unchanged` — where no change lies between two seconds, the offset is the same.
* `Zone.firstAtOrAfter_of_gap` — a skipped wall time resolves to the end of its gap.
-/

namespace Logbook

/-! ## A day before and after -/

namespace LocalTime

/-- The time `m` is at most a day before or after `l`. -/
def WithinDay (l m : LocalTime) : Prop :=
  l.add (-nanosPerDay) ≤ m ∧ m ≤ l.add nanosPerDay

theorem ofNanos_le_ofNanos {m n : Int} (h : m ≤ n) : ofNanos m ≤ ofNanos n := by
  rw [le_def, rank_ofNanos, rank_ofNanos]
  omega

theorem add_day_before (l : LocalTime) :
    l.add (-nanosPerDay) = ofNanos (l.toNanos - nanosPerDay) := by
  have := l.nanos_lt
  unfold add toNanos
  rw [if_pos (Or.inr (by unfold nanosPerDay; omega))]
  congr 1
  omega

theorem add_day_after (l : LocalTime) :
    l.add nanosPerDay = ⟨l.seconds + secondsPerDay, l.nanos % 1000000000, by omega⟩ := by
  rw [show nanosPerDay = secondsPerDay * nanosPerSecond from rfl, l.add_seconds (by decide)]

/-- A leap second makes a day end a second later on the clock. -/
theorem seconds_add_day_before (l : LocalTime) :
    l.seconds - secondsPerDay ≤ (l.add (-nanosPerDay)).seconds ∧
      (l.add (-nanosPerDay)).seconds ≤ l.seconds - secondsPerDay + 1 := by
  have := l.nanos_lt
  rw [add_day_before]
  unfold ofNanos toNanos nanosPerDay nanosPerSecond secondsPerDay
  dsimp only
  omega

/-- From a day before a time to a day after it some time goes by. -/
theorem day_before_lt (l : LocalTime) : l.toNanos - nanosPerDay < (l.add nanosPerDay).toNanos := by
  have := l.nanos_lt
  rw [l.add_day_after]
  unfold toNanos nanosPerDay nanosPerSecond secondsPerDay
  dsimp only
  omega

/-- What lies between a day before and a day after a time is covered by the calendar if they are. -/
theorem ofNanos_inRange (l : LocalTime)
    (hdays : (l.add (-nanosPerDay)).InRange ∧ (l.add nanosPerDay).InRange) {n : Int}
    (hlow : l.toNanos - nanosPerDay ≤ n) (hhigh : n ≤ (l.add nanosPerDay).toNanos) :
    (ofNanos n).InRange := by
  have hfirst := hdays.1.1
  have hlast := hdays.2.2
  rw [l.add_day_before] at hfirst
  rw [l.add_day_after] at hlast hhigh
  unfold ofNanos toNanos nanosPerSecond InRange at *
  dsimp only at *
  omega

end LocalTime

namespace Zone

variable {z : Zone}

/-! ## The search -/

/-- What a clock of the zone shows `n` nanoseconds after midnight of 1970-01-01 in UTC. -/
def wallAt (z : Zone) (n : Int) : LocalTime :=
  (LocalTime.ofNanos n).ahead (z.offsetAt (n / nanosPerSecond))

theorem seconds_wallAt (z : Zone) (n : Int) :
    (z.wallAt n).seconds = z.wallSecond (n / nanosPerSecond) := rfl

theorem wallTime_eq_wallAt {t : Instant} {n : Int} (h : t.utc = .ofNanos n) :
    z.wallTime t = z.wallAt n := by
  rw [wallTime, h]
  rfl

section Search

variable {wall : LocalTime} {low high mid : Int} {t : Instant}

/-- A round of the search at whose middle the clock is before the wall time. -/
theorem bisect_of_before (hgap : low + 1 < high) (hmid : mid = low + (high - low) / 2)
    (ht : Instant.ofUtc? (.ofNanos mid) = some t) (hread : (z.wallTime t).InRange)
    (h : z.wallTime t < wall) : z.bisect wall low high = z.bisect wall mid high := by
  subst hmid
  rw [bisect, if_pos hgap]
  simp only [ht]
  rw [if_pos hread, if_pos h]

/-- A round of the search at whose middle the clock has reached the wall time. -/
theorem bisect_of_not_before (hgap : low + 1 < high) (hmid : mid = low + (high - low) / 2)
    (ht : Instant.ofUtc? (.ofNanos mid) = some t) (hread : (z.wallTime t).InRange)
    (h : ¬ z.wallTime t < wall) : z.bisect wall low high = z.bisect wall low mid := by
  subst hmid
  rw [bisect, if_pos hgap]
  simp only [ht]
  rw [if_pos hread, if_neg h]

/-- A round of the search at whose middle the clock is off the calendar. -/
theorem bisect_of_unreadable (hgap : low + 1 < high) (hmid : mid = low + (high - low) / 2)
    (ht : Instant.ofUtc? (.ofNanos mid) = some t) (hread : ¬ (z.wallTime t).InRange) :
    z.bisect wall low high = .error (.wallTime t) := by
  subst hmid
  rw [bisect, if_pos hgap]
  simp only [ht]
  rw [if_neg hread]

/-- The end of the search. -/
theorem bisect_of_neighbours (hgap : ¬ low + 1 < high)
    (ht : Instant.ofUtc? (.ofNanos high) = some t) : z.bisect wall low high = .ok t := by
  rw [bisect, if_neg hgap, ht]

/-- The search ends with two neighbours, of which the clock is before the wall time at the first and
not before it at the second, which is the answer. -/
theorem bisect_spec (hlt : low < high)
    (hrange : ∀ n, low ≤ n → n ≤ high →
      (LocalTime.ofNanos n).InRange ∧ (z.wallAt n).InRange)
    (hlow : z.wallAt low < wall) (hhigh : wall ≤ z.wallAt high) :
    ∃ n t, z.bisect wall low high = .ok t ∧ t.utc = .ofNanos n ∧ low < n ∧ n ≤ high ∧
      z.wallAt (n - 1) < wall ∧ wall ≤ z.wallAt n := by
  induction low, high using bisect.induct z wall with
  | case1 low high hgap mid hmid =>
    rw [Instant.ofUtc?_eq_none_iff] at hmid
    exact absurd (hrange mid (by omega) (by omega)).1 hmid
  | case2 low high hgap mid t hmid hread hbefore ih =>
    rw [bisect_of_before hgap rfl hmid hread hbefore]
    rw [wallTime_eq_wallAt (Instant.ofUtc?_eq_some_iff.1 hmid)] at hbefore
    obtain ⟨n, t, hfound, hutc, h₁, h₂, hends⟩ :=
      ih (by omega) (fun n h₁ h₂ => hrange n (by omega) h₂) hbefore hhigh
    exact ⟨n, t, hfound, hutc, by omega, h₂, hends⟩
  | case3 low high hgap mid t hmid hread hbefore ih =>
    rw [bisect_of_not_before hgap rfl hmid hread hbefore]
    rw [wallTime_eq_wallAt (Instant.ofUtc?_eq_some_iff.1 hmid)] at hbefore
    obtain ⟨n, t, hfound, hutc, h₁, h₂, hends⟩ :=
      ih (by omega) (fun n h₁ h₂ => hrange n h₁ (by omega)) hlow (Int.not_lt.1 hbefore)
    exact ⟨n, t, hfound, hutc, h₁, by omega, hends⟩
  | case4 low high hgap mid t hmid hread =>
    rw [wallTime_eq_wallAt (Instant.ofUtc?_eq_some_iff.1 hmid)] at hread
    exact absurd (hrange mid (by omega) (by omega)).2 hread
  | case5 low high hgap hend =>
    rw [Instant.ofUtc?_eq_none_iff] at hend
    exact absurd (hrange high (by omega) (Int.le_refl _)).1 hend
  | case6 low high hgap t hend =>
    have hnext : low = high - 1 := by omega
    exact ⟨high, t, bisect_of_neighbours hgap hend, Instant.ofUtc?_eq_some_iff.1 hend, hlt,
      Int.le_refl _, hnext ▸ hlow, hhigh⟩

end Search

/-! ## Changes of the offset -/

/-- The offset at the second is not the one before it. -/
def ChangesAt (z : Zone) (s : Int) : Prop :=
  z.offsetAt (s - 1) ≠ z.offsetAt s

instance (z : Zone) (s : Int) : Decidable (z.ChangesAt s) :=
  inferInstanceAs (Decidable (_ ≠ _))

/-- The offset changes at the second `c`, and at no other second within a day of the time. -/
def OnlyChangeNear (z : Zone) (l : LocalTime) (c : Int) : Prop :=
  ∀ s, l.WithinDay (.ofNanos (s * nanosPerSecond)) ∧ z.ChangesAt s ↔ s = c

/-- If no second shows the wall time and the clock passes it within a nanosecond, the offset changes
at the second that begins there. -/
theorem exists_change {wall : LocalTime} {n : Int} (hskip : ∀ s, z.wallSecond s ≠ wall.seconds)
    (hbefore : z.wallAt (n - 1) < wall) (hafter : wall ≤ z.wallAt n) :
    ∃ c, n = c * nanosPerSecond ∧ z.ChangesAt c ∧ z.wallSecond (c - 1) < wall.seconds ∧
      wall.seconds < z.wallSecond c := by
  have h₁ := LocalTime.seconds_le_of_le (Int.le_of_lt hbefore)
  have h₂ := LocalTime.seconds_le_of_le hafter
  rw [seconds_wallAt] at h₁ h₂
  have hne₁ := hskip ((n - 1) / nanosPerSecond)
  have hne₂ := hskip (n / nanosPerSecond)
  -- Within one second the clock cannot get past a second that it does not show.
  have hnew : (n - 1) / nanosPerSecond ≠ n / nanosPerSecond := by
    intro hsame
    rw [hsame] at h₁
    omega
  obtain ⟨c, hc⟩ : ∃ c, n / nanosPerSecond = c := ⟨_, rfl⟩
  have hlast : (n - 1) / nanosPerSecond = c - 1 ∧ n = c * nanosPerSecond := by
    unfold nanosPerSecond at *
    omega
  rw [hlast.1] at h₁ hne₁
  rw [hc] at h₂ hne₂
  refine ⟨c, hlast.2, ?_, by omega, by omega⟩
  intro hsame
  unfold wallSecond at *
  omega

/-- Seconds without a change between them have the same offset. -/
theorem offsetAt_eq_of_unchanged {a b : Int} (hab : a ≤ b)
    (h : ∀ s, a < s → s ≤ b → ¬ z.ChangesAt s) : z.offsetAt a = z.offsetAt b := by
  obtain ⟨k, rfl⟩ := Int.le.dest hab
  clear hab
  induction k with
  | zero => simp
  | succ k ih =>
    have hlast : z.offsetAt (a + (k + 1 : Nat) - 1) = z.offsetAt (a + (k + 1 : Nat)) :=
      Decidable.not_not.1 (h _ (by omega) (Int.le_refl _))
    rw [← hlast, ih fun s h₁ h₂ => h s h₁ (by omega)]
    congr 1
    omega

/-! ## The end of the gap -/

variable {l : LocalTime}

/-- If no instant shows a time inside the calendar, no second shows its second. -/
theorem wallSecond_ne_of_skipped (hl : l.DaysInside 1) (hskip : ∀ u : Instant, z.wallTime u ≠ l)
    (s : Int) : z.wallSecond s ≠ l.seconds := by
  intro hs
  obtain ⟨hlow, hhigh⟩ := near_wallSecond hs
  have hin : LocalTime.InRange { l with seconds := s } :=
    hl.inRange (by dsimp only; omega) (by dsimp only; omega)
  exact hskip ⟨{ l with seconds := s }, hin⟩ (LocalTime.ext hs rfl)

/-- A time one day inside the calendar has a day before and after it that the calendar covers. -/
theorem days_inRange (hl : l.DaysInside 1) :
    (l.add (-nanosPerDay)).InRange ∧ (l.add nanosPerDay).InRange := by
  have hbefore := l.seconds_add_day_before
  unfold secondsPerDay at hbefore
  refine ⟨hl.inRange ?_ ?_, hl.inRange ?_ ?_⟩
  all_goals unfold secondsPerDay
  · omega
  · omega
  · rw [l.add_day_after]
    unfold secondsPerDay
    dsimp only
    omega
  · rw [l.add_day_after]
    unfold secondsPerDay
    dsimp only
    omega

/-- The search for a skipped wall time runs over a day before and after it, which the calendar has to
cover. -/
theorem firstAtOrAfter_of_skipped (hskip : ∀ s, z.wallSecond s ≠ l.seconds) :
    z.firstAtOrAfter l =
      if (l.add (-nanosPerDay)).InRange ∧ (l.add nanosPerDay).InRange then
        z.bisect l (l.toNanos - nanosPerDay) (l.add nanosPerDay).toNanos
      else .error .outOfRange := by
  have hnone : z.earliest? l.seconds = none := by
    cases hfirst : z.earliest? l.seconds with
    | none => rfl
    | some s => exact absurd (wallSecond_of_earliest? hfirst) (hskip s)
  have hlow : (l.add (-nanosPerDay)).toNanos = l.toNanos - nanosPerDay := by
    rw [l.add_day_before, LocalTime.toNanos_ofNanos]
  rw [firstAtOrAfter, hnone]
  dsimp only
  rw [hlow]

/-- Around a time two days inside the calendar, all clocks can be read a day before and after. -/
theorem wallAt_inRange (hl : l.DaysInside 2) {n : Int} (hlow : l.toNanos - nanosPerDay ≤ n)
    (hhigh : n ≤ (l.add nanosPerDay).toNanos) : (z.wallAt n).InRange := by
  have hnanos := l.nanos_lt
  have hbounds := z.wallSecond_bounds (n / nanosPerSecond)
  rw [l.add_day_after] at hhigh
  unfold LocalTime.toNanos at hlow hhigh
  dsimp only at hhigh
  have hseconds : l.seconds - 86400 ≤ n / nanosPerSecond ∧
      n / nanosPerSecond ≤ l.seconds + 86400 := by
    unfold nanosPerDay nanosPerSecond secondsPerDay at *
    omega
  unfold secondsPerDay at hbounds
  refine hl.inRange ?_ ?_
  all_goals
    rw [seconds_wallAt]
    unfold secondsPerDay
    omega

/-- A day before a skipped time the clock has not reached it, and a day after it has passed it. -/
theorem wallAt_around (hskip : ∀ s, z.wallSecond s ≠ l.seconds) :
    z.wallAt (l.toNanos - nanosPerDay) < l ∧ l < z.wallAt (l.add nanosPerDay).toNanos := by
  have hnanos := l.nanos_lt
  refine ⟨LocalTime.lt_iff.2 (.inl ?_), LocalTime.lt_iff.2 (.inl ?_)⟩
  · rw [seconds_wallAt]
    have hbounds := (z.wallSecond_bounds ((l.toNanos - nanosPerDay) / nanosPerSecond)).2
    have hne := hskip ((l.toNanos - nanosPerDay) / nanosPerSecond)
    have hlow : (l.toNanos - nanosPerDay) / nanosPerSecond ≤ l.seconds - secondsPerDay + 1 := by
      unfold LocalTime.toNanos nanosPerDay nanosPerSecond secondsPerDay
      omega
    omega
  · rw [seconds_wallAt, l.add_day_after]
    have hhigh : (LocalTime.toNanos ⟨l.seconds + secondsPerDay, l.nanos % 1000000000, by omega⟩) /
        nanosPerSecond = l.seconds + secondsPerDay := by
      unfold LocalTime.toNanos nanosPerSecond
      dsimp only
      omega
    rw [hhigh]
    have hbounds := (z.wallSecond_bounds (l.seconds + secondsPerDay)).1
    omega

/-- Before the only change near a skipped time, no clock has reached that time. -/
theorem wallSecond_lt_of_onlyChangeNear {c : Int} (hchange : z.OnlyChangeNear l c)
    (hbefore : z.wallSecond (c - 1) < l.seconds) {s : Int} (hs : s ≤ c - 1) :
    z.wallSecond s < l.seconds := by
  by_cases hfar : s ≤ l.seconds - secondsPerDay
  · have := (z.wallSecond_bounds s).2
    omega
  · -- From here on up to the change the offset is the same.
    have hnear : l.WithinDay (.ofNanos (c * nanosPerSecond)) := ((hchange c).2 rfl).1
    have hsame : z.offsetAt s = z.offsetAt (c - 1) := by
      refine offsetAt_eq_of_unchanged hs fun r h₁ h₂ hr => ?_
      have hr' : l.WithinDay (.ofNanos (r * nanosPerSecond)) := by
        refine ⟨?_, Int.le_trans (LocalTime.ofNanos_le_ofNanos ?_) hnear.2⟩
        · have := l.nanos_lt
          rw [l.add_day_before]
          refine LocalTime.ofNanos_le_ofNanos ?_
          unfold LocalTime.toNanos nanosPerDay nanosPerSecond secondsPerDay at *
          omega
        · unfold nanosPerSecond
          omega
      have := (hchange r).1 ⟨hr', hr⟩
      omega
    unfold wallSecond at *
    omega

/-- **A skipped wall time resolves to the end of its gap.** Two days inside the calendar, the search
for a wall time that no instant shows ends with an instant within a day of that time read as UTC. There
the clock is past the wall time, while a nanosecond earlier it is before it. If the offset changes at
only one second within that day, the instant is that second, and at no earlier instant the clock has
reached the wall time. -/
theorem firstAtOrAfter_of_gap {z : Zone} {l : LocalTime} (hl : l.DaysInside 2)
    (hgap : ∀ u, z.wallTime u ≠ l) :
    ∃ r, z.firstAtOrAfter l = .ok r ∧ l.WithinDay r.utc ∧ l < z.wallTime r ∧
      (∃ before, r.add? (-1) = some before ∧ z.wallTime before < l) ∧
      ∀ c, z.OnlyChangeNear l c →
        r.utc = .ofNanos (c * nanosPerSecond) ∧ ∀ u, u < r → z.wallTime u < l := by
  have hone : l.DaysInside 1 := hl.mono (by decide)
  have hskip := wallSecond_ne_of_skipped hone hgap
  obtain ⟨hlow, hhigh⟩ := wallAt_around hskip
  have hdays := days_inRange hone
  have hrange := fun n (h₁ : l.toNanos - nanosPerDay ≤ n) h₂ =>
    And.intro (l.ofNanos_inRange hdays h₁ h₂) (wallAt_inRange (z := z) hl h₁ h₂)
  obtain ⟨n, r, hfound, hutc, h₁, h₂, hbefore, hafter⟩ :=
    bisect_spec l.day_before_lt hrange hlow (Int.le_of_lt hhigh)
  obtain ⟨c, rfl, hchange, hprevious, hnext⟩ := exists_change hskip hbefore hafter
  have hnear : l.WithinDay (.ofNanos (c * nanosPerSecond)) := by
    have hday : ¬ (l.add nanosPerDay).IsLeap := by
      rw [l.add_day_after]
      unfold LocalTime.IsLeap
      dsimp only
      omega
    rw [LocalTime.WithinDay, l.add_day_before, ← LocalTime.ofNanos_toNanos hday]
    exact ⟨LocalTime.ofNanos_le_ofNanos (Int.le_of_lt h₁), LocalTime.ofNanos_le_ofNanos h₂⟩
  refine ⟨r, ?_, hutc ▸ hnear, ?_, ?_, ?_⟩
  · rw [firstAtOrAfter_of_skipped hskip, if_pos hdays, hfound]
  · rw [wallTime_eq_wallAt hutc]
    refine LocalTime.lt_iff.2 (.inl ?_)
    rw [seconds_wallAt, Int.mul_ediv_cancel c (by decide)]
    exact hnext
  · have hin := (hrange (c * nanosPerSecond - 1) (by omega) (by omega)).1
    refine ⟨⟨_, hin⟩, ?_, ?_⟩
    · rw [Instant.add?, Instant.ofUtc?_eq_some_iff, hutc,
        LocalTime.add_of_not_isLeap (LocalTime.not_isLeap_ofNanos _), LocalTime.toNanos_ofNanos]
      rfl
    · rw [wallTime_eq_wallAt rfl]
      exact hbefore
  · intro d hd
    obtain rfl := (hd c).1 ⟨hnear, hchange⟩
    refine ⟨hutc, fun u hu => LocalTime.lt_iff.2 (.inl ?_)⟩
    rw [Instant.lt_def, Instant.rank, Instant.rank, hutc, LocalTime.rank_ofNanos] at hu
    rw [seconds_wallTime]
    refine wallSecond_lt_of_onlyChangeNear hd hprevious ?_
    unfold LocalTime.rank nanosPerSecond at hu
    omega

/-- Clocks that go from ten hours behind to fourteen hours ahead skip a whole day; its noon resolves
to the midnight after it. -/
theorem firstAtOrAfter_of_gap_wholeDay :
    ∃ (z : Zone) (l : LocalTime) (r : Instant),
      z.base = -36000 ∧ z.changes = [⟨1325239200, 50400⟩] ∧
      l.date = ⟨2011, 12, 30⟩ ∧ l.hour = 12 ∧ l.DaysInside 2 ∧ (∀ u, z.wallTime u ≠ l) ∧
      z.OnlyChangeNear l 1325239200 ∧ z.firstAtOrAfter l = .ok r ∧ r.utc.seconds = 1325239200 ∧
      r.utc.nanos = 0 ∧ ∀ u, u < r → z.wallTime u < l := by
  let z : Zone :=
    { name := "Apia"
      base := -36000
      changes := [⟨1325239200, 50400⟩]
      base_within := by decide
      changes_within := by decide
      ordered := List.pairwise_singleton .. }
  let l : LocalTime := ⟨1325246400, 500000000, by omega⟩
  have hoffset : ∀ s, z.offsetAt s = if 1325239200 ≤ s then 50400 else -36000 := fun s => rfl
  have hl : l.DaysInside 2 := by decide
  have hgap : ∀ u, z.wallTime u ≠ l := by
    intro u hu
    have hseconds : z.wallSecond u.utc.seconds = 1325246400 := congrArg LocalTime.seconds hu
    rw [wallSecond, hoffset] at hseconds
    split at hseconds <;> omega
  have hchange : z.OnlyChangeNear l 1325239200 := by
    intro s
    rw [ChangesAt, hoffset, hoffset]
    constructor
    · rintro ⟨-, hs⟩
      split at hs <;> split at hs <;> omega
    · rintro rfl
      exact ⟨⟨by decide, by decide⟩, by decide⟩
  obtain ⟨r, hfound, -, -, -, hend⟩ := firstAtOrAfter_of_gap hl hgap
  obtain ⟨hutc, hfirst⟩ := hend _ hchange
  exact ⟨z, l, r, rfl, rfl, by decide, by decide, hl, hgap, hchange, hfound, by rw [hutc]; rfl,
    by rw [hutc]; rfl, hfirst⟩

end Zone

end Logbook
