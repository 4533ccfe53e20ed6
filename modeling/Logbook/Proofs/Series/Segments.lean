import Logbook.Proofs.Time.Tiling
import Logbook.Series.Window

/-!
# The readings of segments

* `Bucket.select` — the readings that lie in a stretch of time, in their order.
* `Segment.readings_eq_select` — whatever its bounds, a segment has the readings of its series that
  lie between them; this is what the binary search is for.
* `Segment.flatMap_readings` — if segments tile a stretch of time, their readings one after the other
  are those of the stretch.
* `Series.rank_start_window`, `Series.rank_stop_window` — where a window starts and stops, whatever
  was asked for.
-/

namespace Logbook

variable {β : Type}

/-! ## Windows -/

namespace Instant

theorem rank_clamp {t low high : Instant} (h : low ≤ high) :
    (t.clamp low high).rank = max low.rank (min t.rank high.rank) := by
  rw [le_def] at h
  unfold clamp
  split
  · rename_i hlow
    rw [lt_def] at hlow
    omega
  · rename_i hlow
    rw [lt_def] at hlow
    split
    · rename_i hhigh
      rw [lt_def] at hhigh
      omega
    · rename_i hhigh
      rw [lt_def] at hhigh
      omega

end Instant

namespace Series

theorem rank_start_window (s : Series β) (start stop : Instant) :
    (s.window start stop).start.rank = max s.start.rank (min start.rank s.stop.rank) :=
  Instant.rank_clamp s.start_le

theorem rank_stop_window (s : Series β) (start stop : Instant) :
    (s.window start stop).stop.rank =
      max (s.window start stop).start.rank (min stop.rank s.stop.rank) := by
  refine Instant.rank_clamp (?_ : (s.window start stop).start ≤ s.stop)
  have hbounds := s.start_le
  rw [Instant.le_def] at hbounds ⊢
  rw [rank_start_window]
  omega

end Series

/-! ## Readings in order -/

/-- The members that satisfy `p` stand together if their indices are those from `i` up to `j`. -/
theorem filter_eq_take_drop {α : Type} {p : α → Bool} {l : List α} {i j : Nat}
    (h : ∀ k (hk : k < l.length), p l[k] = true ↔ i ≤ k ∧ k < j) :
    l.filter p = (l.drop i).take (j - i) := by
  have hbefore : (l.take i).filter p = [] := by
    rw [List.filter_eq_nil_iff]
    intro a ha
    obtain ⟨k, hk, rfl⟩ := List.mem_take_iff_getElem.1 ha
    rw [h]
    omega
  have hinside : ((l.drop i).take (j - i)).filter p = (l.drop i).take (j - i) := by
    rw [List.filter_eq_self]
    intro a ha
    obtain ⟨k, hk, rfl⟩ := List.mem_take_iff_getElem.1 ha
    rw [List.length_drop] at hk
    rw [List.getElem_drop, h]
    omega
  have hafter : ((l.drop i).drop (j - i)).filter p = [] := by
    rw [List.filter_eq_nil_iff, List.drop_drop]
    intro a ha
    obtain ⟨k, hk, rfl⟩ := List.mem_drop_iff_getElem.1 ha
    rw [h]
    omega
  calc l.filter p
      = (l.take i ++ ((l.drop i).take (j - i) ++ (l.drop i).drop (j - i))).filter p := by
        rw [List.take_append_drop, List.take_append_drop]
    _ = (l.drop i).take (j - i) := by
        rw [List.filter_append, List.filter_append, hbefore, hinside, hafter, List.nil_append,
          List.append_nil]

/-- The readings that lie in a stretch of time, in their order. -/
def Bucket.select (b : Bucket) (readings : List (Reading β)) : List (Reading β) :=
  readings.filter fun r => b.Covers r.instant

theorem Bucket.select_of_empty {b : Bucket} (h : b.stop ≤ b.start) (readings : List (Reading β)) :
    b.select readings = [] := by
  rw [select, List.filter_eq_nil_iff]
  intro r _
  rw [Instant.le_def] at h
  rw [decide_eq_true_eq, covers_iff]
  omega

/-- Readings in order can be selected in two stretches that follow each other. -/
theorem select_append {readings : List (Reading β)} (ho : Reading.InOrder readings)
    {start middle stop : Instant} (h₁ : start ≤ middle) (h₂ : middle ≤ stop) :
    Bucket.select ⟨start, middle⟩ readings ++ Bucket.select ⟨middle, stop⟩ readings =
      Bucket.select ⟨start, stop⟩ readings := by
  rw [Instant.le_def] at h₁ h₂
  induction readings with
  | nil => rfl
  | cons r rest ih =>
    obtain ⟨hr, hrest⟩ := List.pairwise_cons.1 ho
    have ih := ih hrest
    unfold Bucket.select at ih ⊢
    simp only [List.filter_cons, Bucket.covers_iff, decide_eq_true_eq] at ih ⊢
    by_cases hm : r.instant.rank < middle.rank
    · -- The reading belongs to the first stretch or to none.
      rw [if_neg (c := middle.rank ≤ _ ∧ _) (by omega)]
      by_cases hs : start.rank ≤ r.instant.rank
      · rw [if_pos ⟨hs, hm⟩, if_pos ⟨hs, by omega⟩, List.cons_append, ih]
      · rw [if_neg (by omega), if_neg (by omega), ih]
    · -- From here on no reading belongs to the first stretch.
      have hnone : rest.filter (fun r => decide (start.rank ≤ r.instant.rank ∧
          r.instant.rank < middle.rank)) = [] := by
        rw [List.filter_eq_nil_iff]
        intro r' hr'
        have := hr r' hr'
        rw [Instant.le_def] at this
        rw [decide_eq_true_eq]
        omega
      rw [hnone, List.nil_append] at ih
      rw [if_neg (c := start.rank ≤ _ ∧ r.instant.rank < middle.rank) (by omega), hnone,
        List.nil_append]
      by_cases hs : r.instant.rank < stop.rank
      · rw [if_pos ⟨by omega, hs⟩, if_pos ⟨by omega, hs⟩, ih]
      · rw [if_neg (by omega), if_neg (by omega), ih]

/-- The readings of a tiled stretch are those of its buckets, one bucket after the other. -/
theorem Bucket.Tiles.flatMap_select {readings : List (Reading β)}
    (ho : Reading.InOrder readings) {start stop : Instant} {bs : List Bucket}
    (h : Tiles start bs stop) :
    bs.flatMap (·.select readings) = Bucket.select ⟨start, stop⟩ readings := by
  induction bs generalizing start with
  | nil =>
    cases h
    exact (Bucket.select_of_empty (Int.le_refl _) readings).symm
  | cons b rest ih =>
    obtain ⟨rfl, hle, hrest⟩ := h
    rw [List.flatMap_cons, ih hrest]
    exact select_append ho hle hrest.le

/-! ## Segments -/

namespace Segment

/-- The time of a segment. -/
def span (g : Segment β) : Bucket :=
  ⟨g.start, g.stop⟩

theorem tile_of_tiles {g : Segment β} {p : Period} {z : Zone} {bs : List Bucket}
    (h : p.tiles z g.stop g.start = .ok bs) :
    g.tile p z = .ok (bs.map fun b => ⟨g.series, b.start, b.stop⟩) := by
  rw [tile, h]

theorem first_le_last (g : Segment β) : g.first ≤ g.last :=
  Nat.le_max_right _ _

theorem last_le_size (g : Segment β) : g.last ≤ g.series.readings.size :=
  Nat.max_le.2 ⟨(lowerBound_spec g.series.inOrder _).1, (lowerBound_spec g.series.inOrder _).1⟩

/-- The binary search finds the readings between the bounds. -/
theorem covers_getElem_iff (g : Segment β) {k : Nat} (hk : k < g.series.readings.size) :
    g.span.Covers g.series.readings[k].instant ↔ g.first ≤ k ∧ k < g.last := by
  obtain ⟨-, hstart_lt, hstart_le⟩ := lowerBound_spec g.series.inOrder g.start
  obtain ⟨-, hstop_lt, hstop_le⟩ := lowerBound_spec g.series.inOrder g.stop
  have hfirst : g.first = lowerBound g.series.readings g.start := rfl
  have hlast : g.last = max (lowerBound g.series.readings g.stop) g.first := rfl
  simp only [Instant.lt_def, Instant.le_def] at hstart_lt hstart_le hstop_lt hstop_le
  rw [Bucket.covers_iff]
  simp only [span]
  by_cases h1 : k < g.first
  · have := hstart_lt k h1 hk
    omega
  · have := hstart_le k (by omega) hk
    by_cases h2 : k < lowerBound g.series.readings g.stop
    · have := hstop_lt k h2 hk
      omega
    · have := hstop_le k (by omega) hk
      omega

/-- A segment has the readings of its series that lie in its time. -/
theorem readings_eq_select (g : Segment β) :
    g.readings = g.span.select g.series.readings.toList := by
  have h : ∀ k (hk : k < g.series.readings.toList.length),
      decide (g.span.Covers g.series.readings.toList[k].instant) = true ↔
        g.first ≤ k ∧ k < g.last := by
    intro k hk
    rw [decide_eq_true_eq, Array.getElem_toList]
    exact g.covers_getElem_iff _
  unfold Bucket.select
  rw [filter_eq_take_drop h]
  simp [readings]

/-- The readings of segments that tile a stretch of time are those of the stretch: none is lost,
doubled or moved. -/
theorem flatMap_readings {s : Series β} {start stop : Instant} {parts : List (Segment β)}
    (hseries : ∀ g ∈ parts, g.series = s) (h : Bucket.Tiles start (parts.map span) stop) :
    parts.flatMap (·.readings) = Bucket.select ⟨start, stop⟩ s.readings.toList := by
  rw [← h.flatMap_select s.inOrder, List.flatMap_map, List.flatMap_def, List.flatMap_def]
  refine congrArg List.flatten (List.map_congr_left fun g hg => ?_)
  rw [readings_eq_select, hseries g hg]

end Segment

end Logbook
