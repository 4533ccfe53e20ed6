import Mathlib.Algebra.GroupWithZero.Nat
import Logbook.Proofs.Series.Nesting
import Logbook.Proofs.Time.Steps

/-!
# What a cut keeps of the count

A series may have readings outside of its bounds. They belong to the series, but to no part of it.

* `Series.Bounded` — all readings lie within the bounds, the stop excluded.
* `Segment.flatMap_readings_split` — the parts of a cut into equal parts hold the readings between
  the outermost cuts, even where the last cut leaves the segment.
* `Series.count_parts` — the counts of the parts of a series add up to that of the readings within
  its bounds, and so to that of the series exactly if these are all.
* `Series.count_parts_outside` — a series that has readings beyond its bounds.
-/

namespace Logbook

variable {β : Type}

namespace Instant

theorem later_of_le {s t : Instant} (h : t ≤ s) : s.later t = s :=
  if_neg (Int.not_lt.2 h)

theorem later_of_lt {s t : Instant} (h : s < t) : s.later t = t :=
  if_pos h

end Instant

/-- Two stretches with a bound in common, one from the start of a stretch and one up to its stop,
have the readings between their outermost bounds. -/
theorem select_append_around {readings : List (Reading β)} (ho : Reading.InOrder readings)
    {start stop : Instant} (hle : start ≤ stop) (middle : Instant) :
    Bucket.select ⟨start, middle⟩ readings ++ Bucket.select ⟨middle, stop⟩ readings =
      Bucket.select ⟨start.earlier middle, stop.later middle⟩ readings := by
  by_cases hbefore : middle < start
  · rw [Bucket.select_of_empty (b := ⟨start, middle⟩) (Int.le_of_lt hbefore), List.nil_append,
      Instant.earlier_of_ge (Int.le_of_lt hbefore),
      Instant.later_of_le (Int.le_trans (Int.le_of_lt hbefore) hle)]
  by_cases hafter : stop < middle
  · rw [Bucket.select_of_empty (b := ⟨middle, stop⟩) (Int.le_of_lt hafter), List.append_nil,
      Instant.later_of_lt hafter, Instant.earlier_of_le (Int.not_lt.1 hbefore)]
  · rw [Instant.earlier_of_le (Int.not_lt.1 hbefore), Instant.later_of_le (Int.not_lt.1 hafter)]
    exact select_append ho (Int.not_lt.1 hbefore) (Int.not_lt.1 hafter)

namespace Segment

variable (g : Segment β) {n k : Nat}

/-! ## The readings of equal parts -/

/-- The parts up to a cut have the readings up to that cut; if the cuts go back, these are none. -/
theorem CutAt.flatMap_readings_range {g : Segment β} {cuts : Nat → Instant} (h : g.CutAt n cuts)
    (hk : k < n) :
    ((List.range k).map fun j =>
        (⟨g.series, cuts j, cuts (j + 1)⟩ : Segment β)).flatMap (·.readings) =
      Bucket.select ⟨g.start, cuts k⟩ g.series.readings.toList := by
  rw [← h.start (Nat.zero_lt_of_lt hk)]
  by_cases hg : 0 ≤ g.stop.since g.start
  · refine flatMap_readings (by simp) ?_
    rw [List.map_map]
    refine (Bucket.tiles_map_range_iff cuts k).2 fun j hj => ?_
    exact h.le hg (Nat.le_succ j) (by omega)
  · have hnone (i j : Nat) (hij : i ≤ j) (hj : j < n) :
        Bucket.select ⟨cuts i, cuts j⟩ g.series.readings.toList = [] := by
      have hback := h.le_of_neg (by omega) hij hj
      exact Bucket.select_of_empty (b := ⟨cuts i, cuts j⟩) hback _
    rw [hnone 0 k (Nat.zero_le k) hk, List.flatMap_map, List.flatMap_eq_nil_iff]
    intro j hj
    have hj := List.mem_range.1 hj
    rw [readings_eq_select]
    exact hnone j (j + 1) (Nat.le_succ j) (by omega)

/-- Where the last cut leaves the segment, the parts still reach from the earliest cut to the latest
one: a last cut before the start leaves all parts but the last one empty, and a last cut after the
stop leaves the last one empty. -/
theorem flatMap_readings_split (hle : g.start ≤ g.stop) {parts : List (Segment β)}
    (h : g.split n = .ok parts) :
    ∃ last, g.boundary n (n - 1) = .ok last ∧ parts.flatMap (·.readings) =
      Bucket.select ⟨g.start.earlier last, g.stop.later last⟩ g.series.readings.toList := by
  obtain ⟨hn, cuts, hcuts, rfl⟩ := g.split_eq_ok_iff.1 h
  obtain ⟨m, rfl⟩ : ∃ m, n = m + 1 := ⟨n - 1, by omega⟩
  refine ⟨cuts m, hcuts m (Nat.le_succ m), ?_⟩
  rw [List.range_succ, List.map_append, List.flatMap_append,
    hcuts.flatMap_readings_range (Nat.lt_add_one m), List.map_singleton, List.flatMap_singleton,
    readings_eq_select]
  dsimp only [span]
  rw [hcuts.stop]
  exact select_append_around g.series.inOrder hle (cuts m)

end Segment

namespace Segment

/-- The numbers of readings of segments, added up. -/
def total (parts : List (Segment β)) : Nat :=
  (parts.map fun g => (Window.segment g).count).sum

theorem total_eq_length_flatMap (parts : List (Segment β)) :
    total parts = (parts.flatMap (·.readings)).length :=
  List.length_flatMap.symm

end Segment

/-! ## The readings within the bounds -/

namespace Series

variable (s : Series β)

/-- The readings lie within the bounds, the stop excluded. -/
def Bounded : Prop :=
  ∀ r ∈ s.readings.toList, s.start ≤ r.instant ∧ r.instant < s.stop

/-- The readings that lie within the bounds, in their order. -/
def readingsWithin : List (Reading β) :=
  s.readings.toList.filter fun r => decide (s.start ≤ r.instant ∧ r.instant < s.stop)

theorem readingsWithin_eq_iff : s.readingsWithin = s.readings.toList ↔ s.Bounded := by
  simp [readingsWithin, Bounded, List.filter_eq_self]

theorem length_readingsWithin_eq_iff :
    s.readingsWithin.length = s.readings.toList.length ↔ s.Bounded := by
  rw [readingsWithin, List.length_filter_eq_length_iff]
  simp [Bounded]

/-- A window between the bounds of its series is that part of the series. -/
theorem window_start_stop : s.window s.start s.stop = s.withinBounds := by
  have hle := s.start_le
  have hstart : (s.window s.start s.stop).start = s.start := by
    refine Instant.eq_of_rank_eq ?_
    rw [rank_start_window]
    rw [Instant.le_def] at hle
    omega
  have hstop : (s.window s.start s.stop).stop = s.stop := by
    refine Instant.eq_of_rank_eq ?_
    rw [rank_stop_window, hstart]
    rw [Instant.le_def] at hle
    omega
  show (⟨s, (s.window s.start s.stop).start, (s.window s.start s.stop).stop⟩ : Segment β) = _
  rw [hstart, hstop]
  rfl

/-- If all readings lie within the bounds, so do those of any stretch around the bounds. -/
theorem Bounded.select_eq {s : Series β} (h : s.Bounded) {start stop : Instant}
    (hstart : start ≤ s.start) (hstop : s.stop ≤ stop) :
    Bucket.select ⟨start, stop⟩ s.readings.toList = s.readings.toList := by
  rw [Bucket.select, List.filter_eq_self]
  intro r hr
  obtain ⟨h₁, h₂⟩ := h r hr
  rw [decide_eq_true_eq]
  exact ⟨Int.le_trans hstart h₁, Int.lt_of_lt_of_le h₂ hstop⟩

/-- **What a cut keeps of the count.** The counts of the parts of a series, cut at every period, add
up to the number of the readings within its bounds, and so to the count of the series exactly if all
readings are within its bounds. A cut into equal parts keeps the count of such a series, and of every
series it keeps the readings within the bounds if the last cut lies within them. The cut succeeds if
the calendar covers the last cut, and so it does unless the series stops in a leap second at the very
end of the calendar. The window between the bounds holds just the readings within them. -/
theorem count_parts :
    (∀ p z parts, (Window.series s).tile p z = .ok parts →
      Segment.total parts = s.readingsWithin.length ∧
      (Segment.total parts = (Window.series s).count ↔ s.Bounded)) ∧
    (∀ n parts, (Window.series s).split n = .ok parts →
      (s.Bounded → Segment.total parts = (Window.series s).count) ∧
      (s.withinBounds.Forward n → Segment.total parts = s.readingsWithin.length)) ∧
    (∀ n, 0 < n →
      ((∃ last, s.withinBounds.boundary n (n - 1) = .ok last) →
        ∃ parts, (Window.series s).split n = .ok parts) ∧
      ((s.stop.utc.IsLeap → s.stop.utc.seconds < LocalTime.lastSecond) →
        ∃ last, s.withinBounds.boundary n (n - 1) = .ok last)) ∧
    (Window.segment (s.window s.start s.stop)).readings = s.readingsWithin ∧
    ((Window.segment (s.window s.start s.stop)).readings = (Window.series s).readings ↔
      s.Bounded) := by
  have hwindow : (Window.segment (s.window s.start s.stop)).readings = s.readingsWithin := by
    rw [window_start_stop]
    exact s.withinBounds.readings_eq_select
  refine ⟨?_, ?_, ?_, hwindow, ?_⟩
  · intro p z parts h
    obtain ⟨htiles, hseries, -⟩ := Window.tiles_tile (w := .series s) s.start_le h
    have htotal : Segment.total parts = s.readingsWithin.length := by
      rw [Segment.total_eq_length_flatMap, Segment.flatMap_readings hseries htiles]
      rfl
    refine ⟨htotal, ?_⟩
    rw [htotal]
    exact s.length_readingsWithin_eq_iff
  · intro n parts h
    refine ⟨?_, ?_⟩
    · intro hbounded
      obtain ⟨last, -, hreadings⟩ := s.withinBounds.flatMap_readings_split s.start_le h
      rw [Segment.total_eq_length_flatMap, hreadings]
      refine congrArg List.length (hbounded.select_eq ?_ ?_)
      · rw [Instant.le_def, Instant.rank_earlier]
        exact Int.min_le_left _ _
      · rw [Instant.le_def, Instant.rank_later]
        exact Int.le_max_left _ _
    · intro hforward
      obtain ⟨htiles, hseries⟩ := Window.tiles_split (w := .series s) h
      rw [Segment.total_eq_length_flatMap, Segment.flatMap_readings hseries (htiles.2 hforward)]
      rfl
  · intro n hn
    exact ⟨(s.withinBounds.exists_split_iff hn).2, fun hstop =>
      s.withinBounds.exists_boundary_of_stop s.start_le hstop (show n - 1 < n by omega)⟩
  · rw [hwindow]
    exact s.readingsWithin_eq_iff

/-- An hour with a reading in each half of it, cut every half hour and into two parts. -/
theorem count_parts_hour :
    ∃ (s : Series String) (p : Period), s.start.utc.seconds = 0 ∧ s.stop.utc.seconds = 3600 ∧
      s.readings.toList.map (·.instant.utc.seconds) = [600, 1800] ∧ s.Bounded ∧
      p.count = 30 ∧ p.unit = .minute ∧
      (∃ parts, (Window.series s).tile p Zone.utc = .ok parts ∧ parts.length = 2 ∧
        Segment.total parts = 2) ∧
      ∃ parts, (Window.series s).split 2 = .ok parts ∧ s.withinBounds.Forward 2 ∧
        Segment.total parts = 2 := by
  let middle : Instant := ⟨⟨1800, 0, by omega⟩, by decide⟩
  let p : Period := ⟨30, .minute, by decide, by decide⟩
  let s : Series String :=
    { start := ⟨⟨0, 0, by omega⟩, by decide⟩
      stop := ⟨⟨3600, 0, by omega⟩, by decide⟩
      readings := #[⟨1, ⟨⟨600, 0, by omega⟩, by decide⟩, "first"⟩, ⟨1, middle, "second"⟩]
      start_le := by decide
      inOrder := by unfold Reading.InOrder; decide }
  have hbounded : s.Bounded := by unfold Bounded; decide
  obtain ⟨htile, hsplit, hcut, -⟩ := s.count_parts
  have hfirst : p.step Zone.utc s.start = .ok middle :=
    (Period.step_fixed_eq_ok_iff rfl).2 ⟨rfl, rfl⟩
  have hlast : p.tiles Zone.utc s.stop middle = .ok [⟨middle, s.stop⟩] :=
    Period.tiles_of_le_step (by decide) ((Period.step_fixed_eq_ok_iff rfl).2 ⟨rfl, rfl⟩)
      (Int.le_refl _)
  have hbuckets : p.tiles Zone.utc s.stop s.start = .ok [⟨s.start, middle⟩, ⟨middle, s.stop⟩] := by
    rw [Period.tiles_of_lt (by decide) hfirst, hlast, Instant.earlier_of_le (by decide)]
    rfl
  have h : (Window.series s).tile p Zone.utc =
      .ok [⟨s, s.start, middle⟩, ⟨s, middle, s.stop⟩] :=
    Segment.tile_of_tiles (g := s.withinBounds) hbuckets
  refine ⟨s, p, rfl, rfl, rfl, hbounded, rfl, rfl, ?_, ?_⟩
  · exact ⟨_, h, rfl, (htile _ _ _ h).2.2 hbounded⟩
  · obtain ⟨hsucceeds, hcovered⟩ := hcut 2 (by decide)
    obtain ⟨parts, hparts⟩ := hsucceeds (hcovered fun _ => by decide)
    exact ⟨parts, hparts, by decide, (hsplit 2 parts hparts).1 hbounded⟩

/-- An hour with three readings, one of them at its stop and one after that: its parts have one
reading, however it is cut, and so has the window between its bounds. -/
theorem count_parts_outside :
    ∃ (s : Series String) (p : Period), s.start.utc.seconds = 0 ∧ s.stop.utc.seconds = 3600 ∧
      s.readings.toList.map (·.instant.utc.seconds) = [600, 3600, 7200] ∧
      (Window.series s).count = 3 ∧ p.count = 1 ∧ p.unit = .hour ∧
      (∃ parts, (Window.series s).tile p Zone.utc = .ok parts ∧ Segment.total parts = 1) ∧
      (∃ parts, (Window.series s).split 1 = .ok parts ∧ Segment.total parts = 1) ∧
      (Window.segment (s.window s.start s.stop)).count = 1 := by
  let s : Series String :=
    { start := ⟨⟨0, 0, by omega⟩, by decide⟩
      stop := ⟨⟨3600, 0, by omega⟩, by decide⟩
      readings := #[⟨1, ⟨⟨600, 0, by omega⟩, by decide⟩, "within"⟩,
        ⟨1, ⟨⟨3600, 0, by omega⟩, by decide⟩, "at the stop"⟩,
        ⟨1, ⟨⟨7200, 0, by omega⟩, by decide⟩, "after"⟩]
      start_le := by decide
      inOrder := by unfold Reading.InOrder; decide }
  have htile : (Window.series s).tile ⟨1, .hour, by decide, by decide⟩ Zone.utc =
      .ok [s.withinBounds] :=
    Segment.tile_of_tiles (g := s.withinBounds)
      (Period.tiles_of_le_step (by decide) ((Period.step_fixed_eq_ok_iff rfl).2 ⟨rfl, rfl⟩)
        (Int.le_refl _))
  have hsplit : (Window.series s).split 1 = .ok [s.withinBounds] :=
    s.withinBounds.split_one
  have hcount : (Window.segment s.withinBounds).count = 1 := by decide +kernel
  refine ⟨s, ⟨1, .hour, by decide, by decide⟩, rfl, rfl, rfl, rfl, rfl, rfl, ⟨_, htile, hcount⟩,
    ⟨_, hsplit, hcount⟩, ?_⟩
  rw [window_start_stop]
  exact hcount

end Series

end Logbook
