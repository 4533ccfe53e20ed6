import Logbook.Proofs.Series.Split

/-!
# Segments of segments

Windows of a series can be cut into segments, and these again, to any depth.

* `Window.CutFrom` — what can be reached from a series that way.
* `Window.CutFrom.inside` — all of it lies within the bounds of the series, the right way round.
* `cutFrom_readings_tiles` — every segment reached has exactly the readings of its time, and the
  parts of every cut tile what is cut. For a cut into equal parts this needs that the last cut does
  not leave the segment, and `split_leap_second` is a segment in which it does.
-/

namespace Logbook

variable {β : Type}

namespace Window

/-- What can be cut out of a series: the series itself, any window of it, and the parts of what has
been cut out, at every period or into equal parts whose last cut lies within what is cut. -/
inductive CutFrom (s : Series β) : Window β → Prop
  | whole : CutFrom s (.series s)
  | window (start stop : Instant) : CutFrom s (.segment (s.window start stop))
  | tile {w : Window β} {p : Period} {z : Zone} {parts : List (Segment β)} {g : Segment β} :
      CutFrom s w → w.tile p z = .ok parts → g ∈ parts → CutFrom s (.segment g)
  | split {w : Window β} {n : Nat} {parts : List (Segment β)} {g : Segment β} :
      CutFrom s w → w.extent.Forward n → w.split n = .ok parts → g ∈ parts →
      CutFrom s (.segment g)

/-- The window belongs to the series and lies within its bounds, the right way round. -/
structure Inside (s : Series β) (w : Window β) : Prop where
  series : w.extent.series = s
  start : s.start ≤ w.start
  bounds : w.start ≤ w.stop
  stop : w.stop ≤ s.stop

@[simp] theorem start_extent (w : Window β) : w.extent.start = w.start := by
  cases w <;> rfl

@[simp] theorem stop_extent (w : Window β) : w.extent.stop = w.stop := by
  cases w <;> rfl

theorem inside_window (s : Series β) (start stop : Instant) :
    Inside s (.segment (s.window start stop)) := by
  have hbounds := s.start_le
  have hstart := s.rank_start_window start stop
  have hstop := s.rank_stop_window start stop
  rw [Instant.le_def] at hbounds
  refine ⟨rfl, ?_, ?_, ?_⟩
  · show s.start.rank ≤ (s.window start stop).start.rank
    omega
  · show (s.window start stop).start.rank ≤ (s.window start stop).stop.rank
    omega
  · show (s.window start stop).stop.rank ≤ s.stop.rank
    omega

/-- Segments that tile a window of a series lie within the bounds as well. -/
theorem Inside.of_tiles {s : Series β} {w : Window β} (hw : Inside s w)
    {parts : List (Segment β)} (hseries : ∀ g ∈ parts, g.series = w.extent.series)
    (h : Bucket.Tiles w.start (parts.map Segment.span) w.stop) {g : Segment β} (hg : g ∈ parts) :
    Inside s (.segment g) := by
  obtain ⟨h₁, h₂, h₃⟩ := h.within g.span (List.mem_map_of_mem hg)
  exact ⟨(hseries g hg).trans hw.series, Int.le_trans hw.start h₁, h₂, Int.le_trans h₃ hw.stop⟩

/-- A cut at every period tiles the window. -/
theorem tiles_tile {w : Window β} {p : Period} {z : Zone} {parts : List (Segment β)}
    (hle : w.start ≤ w.stop) (h : w.tile p z = .ok parts) :
    Bucket.Tiles w.start (parts.map Segment.span) w.stop ∧
      (∀ g ∈ parts, g.series = w.extent.series) ∧ ∀ g ∈ parts, g.start < g.stop := by
  unfold tile Segment.tile at h
  rw [start_extent, stop_extent] at h
  split at h
  · rename_i buckets hbuckets
    cases h
    obtain ⟨htiles, hpos⟩ := Period.tiles_tiles hbuckets hle
    have hspan : (buckets.map fun b => (⟨w.extent.series, b.start, b.stop⟩ : Segment β)).map
        Segment.span = buckets := by
      rw [List.map_map]
      exact List.map_id' buckets
    rw [hspan]
    refine ⟨htiles, ?_, ?_⟩
    · intro g hg
      obtain ⟨b, -, rfl⟩ := List.mem_map.1 hg
      rfl
    · intro g hg
      obtain ⟨b, hb, rfl⟩ := List.mem_map.1 hg
      exact hpos b hb
  · cases h

/-- A window that starts where it stops is cut into no parts, as a first part would not be empty. -/
theorem eq_nil_of_tile {w : Window β} {p : Period} {z : Zone} {parts : List (Segment β)}
    (heq : w.start = w.stop) (h : w.tile p z = .ok parts) : parts = [] := by
  obtain ⟨htiles, -, hpos⟩ := tiles_tile (heq ▸ Int.le_refl _) h
  cases parts with
  | nil => rfl
  | cons g rest =>
    have hlt := hpos g List.mem_cons_self
    obtain ⟨h₁, -, h₃⟩ := htiles.within g.span (List.mem_map_of_mem List.mem_cons_self)
    exact absurd hlt (Int.not_lt.2 (Int.le_trans h₃ (heq ▸ h₁)))

/-- A cut into equal parts tiles the window iff the last cut lies within it. -/
theorem tiles_split {w : Window β} {n : Nat} {parts : List (Segment β)}
    (h : w.split n = .ok parts) :
    (Bucket.Tiles w.start (parts.map Segment.span) w.stop ↔ w.extent.Forward n) ∧
      ∀ g ∈ parts, g.series = w.extent.series := by
  refine ⟨?_, ?_⟩
  · rw [← start_extent, ← stop_extent]
    exact w.extent.tiles_split_iff h
  · intro g hg
    obtain ⟨-, cuts, -, rfl⟩ := w.extent.split_eq_ok_iff.1 h
    obtain ⟨k, -, rfl⟩ := List.mem_map.1 hg
    rfl

/-- Whatever is cut out of a series lies within its bounds, the right way round. -/
theorem CutFrom.inside {s : Series β} {w : Window β} (h : CutFrom s w) : Inside s w := by
  induction h with
  | whole => exact ⟨rfl, Int.le_refl _, s.start_le, Int.le_refl _⟩
  | window start stop => exact inside_window s start stop
  | tile _ hparts hg ih =>
    obtain ⟨htiles, hseries, -⟩ := tiles_tile ih.bounds hparts
    exact ih.of_tiles hseries htiles hg
  | split _ hforward hparts hg ih =>
    obtain ⟨htiles, hseries⟩ := tiles_split hparts
    exact ih.of_tiles hseries (htiles.2 hforward) hg

end Window

open Window in
/-- **Segments of segments keep to their series.** Every segment that is cut out of a series, to any
depth, lies within the bounds of the series, the right way round, and has the readings of the series
that lie in its time, in their order. The parts of a window, cut at every period, tile it, and their
readings one after the other are the readings of its time. The same holds of equal parts iff the
last cut lies within the window, and so it does unless a bound is a leap second. -/
theorem cutFrom_readings_tiles (s : Series β) :
    (∀ g, CutFrom s (.segment g) →
      (s.start ≤ g.start ∧ g.start ≤ g.stop ∧ g.stop ≤ s.stop) ∧
      (g.first ≤ g.last ∧ g.last ≤ s.readings.size) ∧
      g.readings = s.readings.toList.filter
        fun r => decide (g.start ≤ r.instant ∧ r.instant < g.stop)) ∧
    (∀ w, CutFrom s w →
      (∀ p z parts, w.tile p z = .ok parts →
        Bucket.Tiles w.start (parts.map Segment.span) w.stop ∧
        (w.start = w.stop → parts = []) ∧
        parts.flatMap (·.readings) = s.readings.toList.filter
          fun r => decide (w.start ≤ r.instant ∧ r.instant < w.stop)) ∧
      (∀ n parts, w.split n = .ok parts →
        (Bucket.Tiles w.start (parts.map Segment.span) w.stop ↔ w.extent.Forward n) ∧
        (w.extent.Forward n →
          parts.flatMap (·.readings) = s.readings.toList.filter
            fun r => decide (w.start ≤ r.instant ∧ r.instant < w.stop)) ∧
        (¬ w.start.utc.IsLeap → ¬ w.stop.utc.IsLeap → w.extent.Forward n))) := by
  refine ⟨?_, ?_⟩
  · intro g hg
    have hin := hg.inside
    have hseries : g.series = s := hin.series
    refine ⟨⟨hin.start, hin.bounds, hin.stop⟩, ⟨g.first_le_last, ?_⟩, ?_⟩
    · rw [← hseries]
      exact g.last_le_size
    · rw [← hseries]
      exact g.readings_eq_select
  · intro w hw
    have hin := hw.inside
    refine ⟨?_, ?_⟩
    · intro p z parts h
      obtain ⟨htiles, hseries, -⟩ := tiles_tile hin.bounds h
      exact ⟨htiles, fun heq => eq_nil_of_tile heq h,
        Segment.flatMap_readings (fun g hg => (hseries g hg).trans hin.series) htiles⟩
    · intro n parts h
      obtain ⟨htiles, hseries⟩ := tiles_split h
      refine ⟨htiles, ?_, ?_⟩
      · intro hforward
        exact Segment.flatMap_readings (fun g hg => (hseries g hg).trans hin.series)
          (htiles.2 hforward)
      · intro hstart hstop
        obtain ⟨hn, -⟩ := w.extent.split_eq_ok_iff.1 h
        exact w.extent.forward_of_not_isLeap (by simpa using hin.bounds) (by simpa using hstart)
          (by simpa using hstop) hn

open Window in
/-- A window from 600 s to 4200 s of a series that goes on to 7200 s, cut into three parts. -/
theorem cutFrom_readings_tiles_window :
    let s : Series String :=
      { start := ⟨⟨0, 0, by omega⟩, by decide⟩
        stop := ⟨⟨7200, 0, by omega⟩, by decide⟩
        readings := #[⟨1, ⟨⟨599, 0, by omega⟩, by decide⟩, "before"⟩,
          ⟨2, ⟨⟨600, 0, by omega⟩, by decide⟩, "first"⟩,
          ⟨3, ⟨⟨1800, 0, by omega⟩, by decide⟩, "second"⟩,
          ⟨4, ⟨⟨4200, 0, by omega⟩, by decide⟩, "after"⟩]
        start_le := by decide
        inOrder := by unfold Reading.InOrder; decide }
    let w : Window String :=
      .segment (s.window ⟨⟨600, 0, by omega⟩, by decide⟩ ⟨⟨4200, 0, by omega⟩, by decide⟩)
    CutFrom s w ∧ ∃ parts, w.split 3 = .ok parts ∧ w.extent.Forward 3 ∧
      Bucket.Tiles w.start (parts.map Segment.span) w.stop ∧
      (parts.flatMap (·.readings)).map (·.feed) = [2, 3] := by
  intro s w
  have hw : CutFrom s w := .window _ _
  obtain ⟨parts, hparts⟩ : ∃ parts, w.split 3 = .ok parts :=
    (w.extent.exists_split_iff (by decide)).2
      (w.extent.exists_boundary_of_stop (by decide) (fun _ => by decide) (by decide))
  obtain ⟨htiles, hreadings, hleap⟩ := ((cutFrom_readings_tiles s).2 w hw).2 3 parts hparts
  have hforward : w.extent.Forward 3 := hleap (by decide) (by decide)
  refine ⟨hw, parts, hparts, hforward, htiles.2 hforward, ?_⟩
  rw [hreadings hforward]
  decide

/-- Half a leap second, cut in two: the cut comes before the start, as half a second is missing in
what is measured. -/
theorem split_leap_second :
    let s : Series String :=
      { start := ⟨⟨1483228799, 1500000000, by omega⟩, by decide⟩
        stop := ⟨⟨1483228800, 0, by omega⟩, by decide⟩
        readings := #[⟨1, ⟨⟨1483228799, 1600000000, by omega⟩, by decide⟩, "leap"⟩]
        start_le := by decide
        inOrder := by unfold Reading.InOrder; decide }
    ∃ parts, (Window.series s).split 2 = .ok parts ∧ ¬ s.withinBounds.Forward 2 ∧
      ¬ Bucket.Tiles s.start (parts.map Segment.span) s.stop := by
  intro s
  obtain ⟨parts, hparts⟩ : ∃ parts, (Window.series s).split 2 = .ok parts :=
    (s.withinBounds.exists_split_iff (by decide)).2
      (s.withinBounds.exists_boundary_of_stop s.start_le (fun _ => by decide) (by decide))
  have hforward : ¬ s.withinBounds.Forward 2 := by decide
  refine ⟨parts, hparts, hforward, ?_⟩
  intro h
  exact hforward ((s.withinBounds.tiles_split_iff hparts).1 h)

end Logbook
