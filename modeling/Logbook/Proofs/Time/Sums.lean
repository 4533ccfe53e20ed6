import Logbook.Time.Instant

/-!
# Adding to a clock and measuring between clocks

Time is added and measured in nanoseconds, but ordered as a clock shows it. The two agree unless a
leap second is shown.

* `LocalTime.rank_add` — where a sum stands.
* `LocalTime.add_le_add` — more time after the same start never comes earlier.
* `LocalTime.since_of_not_isLeap` — without leap seconds, a measure is a difference of nanoseconds.
* `LocalTime.isLeap_of_since_neg` — only from within a leap second a measure forwards is negative.
-/

namespace Logbook

namespace LocalTime

theorem rank_ofNanos (n : Int) :
    (ofNanos n).rank = n / 1000000000 * 2000000000 + n % 1000000000 := by
  unfold rank ofNanos nanosPerSecond
  dsimp only
  omega

theorem not_isLeap_ofNanos (n : Int) : ¬ (ofNanos n).IsLeap := by
  unfold IsLeap ofNanos nanosPerSecond
  dsimp only
  omega

theorem add_zero (l : LocalTime) : l.add 0 = l := by
  have := l.nanos_lt
  unfold add ofNanos nanosPerSecond
  dsimp only
  split
  · ext <;> dsimp only <;> omega
  · split
    · ext
      · rfl
      · dsimp only
        omega
    · omega

theorem add_of_not_isLeap {l : LocalTime} (h : ¬ l.IsLeap) (d : Int) :
    l.add d = ofNanos (l.toNanos + d) := by
  unfold IsLeap at h
  unfold add toNanos
  rw [if_pos (Or.inl (by omega)), Int.add_assoc]

/-- Where a sum stands: found in nanoseconds, but within a leap second on the clock, and a second
less far once a leap second is over. -/
theorem rank_add (l : LocalTime) (d : Int) :
    (l.add d).rank =
      if l.nanos < 1000000000 ∨ l.nanos + d < 1000000000 then (ofNanos (l.toNanos + d)).rank
      else if l.nanos + d < 2000000000 then l.rank + d
      else (ofNanos (l.toNanos + d - 1000000000)).rank := by
  unfold add toNanos nanosPerSecond rank
  dsimp only
  split
  · rw [Int.add_assoc]
  · split
    · dsimp only
      omega
    · have h : (l.seconds - 1) * 1000000000 + (l.nanos + d) =
          l.seconds * 1000000000 + l.nanos + d - 1000000000 := by omega
      rw [h]

/-- More time after the same start never comes earlier. -/
theorem add_le_add (l : LocalTime) {d d' : Int} (h : d ≤ d') : l.add d ≤ l.add d' := by
  have := l.nanos_lt
  rw [le_def, rank_add, rank_add, rank_ofNanos, rank_ofNanos, rank_ofNanos, rank_ofNanos]
  unfold toNanos nanosPerSecond rank
  split <;> split <;> omega

theorem le_add (l : LocalTime) {d : Int} (h : 0 ≤ d) : l ≤ l.add d := by
  have := l.add_le_add h
  rwa [add_zero] at this

/-- The time between two clocks is at most the distance of what they show, and a second more if the
first one shows a leap second that is over by the second one. -/
theorem since_le (a b : LocalTime) :
    a.since b ≤ a.toNanos - b.toNanos +
      (if b.IsLeap ∧ a.seconds ≠ b.seconds then 1000000000 else 0) := by
  unfold since toNanos IsLeap nanosPerSecond secondOfDay secondsPerDay
  dsimp only
  by_cases h : 1000000000 ≤ b.nanos ∧ a.seconds ≠ b.seconds
  · rw [if_pos h]
    split
    · omega
    · split <;> omega
  · rw [if_neg h]
    split
    · omega
    · split <;> omega

theorem since_of_not_isLeap {a b : LocalTime} (ha : ¬ a.IsLeap) (hb : ¬ b.IsLeap) :
    a.since b = a.toNanos - b.toNanos := by
  unfold since toNanos nanosPerSecond
  dsimp only
  rw [if_neg (fun h => hb h.2), if_neg (fun h => ha h.2)]
  omega

/-- A negative measure starts in a leap second and is less than a second long. -/
theorem isLeap_of_since_neg {a b : LocalTime} (h : b ≤ a) (hneg : a.since b < 0) :
    b.IsLeap ∧ -1000000000 < a.since b := by
  have := a.nanos_lt
  have := b.nanos_lt
  rw [le_def] at h
  unfold rank at h
  revert hneg
  unfold since IsLeap nanosPerSecond secondOfDay secondsPerDay
  dsimp only
  split
  · omega
  · split <;> omega

/-- A leap second is left backwards into the second before it. -/
theorem seconds_add_of_isLeap {l : LocalTime} (h : l.IsLeap) {d : Int} (hlow : -1000000000 < d)
    (hhigh : d ≤ 0) : (l.add d).seconds = l.seconds := by
  have := l.nanos_lt
  unfold IsLeap at h
  unfold add ofNanos nanosPerSecond
  dsimp only
  split
  · dsimp only
    omega
  · split
    · rfl
    · omega

/-- A measured time leaves the calendar only towards a leap second at its very end, and not from
within that leap second. -/
theorem isLeap_of_add_not_inRange {s t : LocalTime} (hs : s.InRange) (ht : t.InRange) {d : Int}
    (hd : 0 ≤ d) (hlast : d ≤ t.since s) (hout : ¬ (s.add d).InRange) :
    t.seconds = lastSecond ∧ t.IsLeap ∧ (s.IsLeap → s.seconds < lastSecond) := by
  have := t.nanos_lt
  have := s.nanos_lt
  have hafter : lastSecond < (s.add d).seconds := by
    have := seconds_le_of_le (s.le_add hd)
    unfold InRange at hs hout
    omega
  have hsince := t.since_le s
  have hrank := s.rank_add d
  have := (s.add d).nanos_lt
  rw [rank_ofNanos, rank_ofNanos] at hrank
  unfold InRange lastSecond at *
  unfold rank toNanos IsLeap nanosPerSecond at *
  split at hrank
  · split at hsince <;> omega
  · split at hrank
    · omega
    · split at hsince <;> omega

end LocalTime

end Logbook
