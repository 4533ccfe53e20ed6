import Logbook.Series.Basic
import Logbook.Time.Rows

/-!
# Segments of a series

A segment is a stretch of time within a series. It copies no readings: it finds its first and last
reading by binary search.

* `lowerBound` is that search; before the index that it finds, all readings are earlier than the
  boundary, and from it on none is (`lowerBound_spec`).
* `Series.window` cuts a segment out of a series, and `Segment.tile` and `Segment.split` cut a
  segment into segments that follow each other without a gap.

Model of `Segment`, of `window` of `Series`, and of `lower_bound`, `tile_by_period` and
`tile_evenly` of `tr-series`.
-/

namespace Logbook

/-! ## Binary search -/

/-- The first index from `low` up to `high` whose reading is not earlier than `boundary`, if the
readings are in order. -/
def lowerBoundIn {β : Type} (readings : Array (Reading β)) (boundary : Instant) (low high : Nat)
    (h : high ≤ readings.size) : Nat :=
  if hlt : low < high then
    let middle := low + (high - low) / 2
    if readings[middle].instant < boundary then
      lowerBoundIn readings boundary (middle + 1) high h
    else lowerBoundIn readings boundary low middle (by omega)
  else low
termination_by high - low

/-- The first index whose reading is not earlier than `boundary`. -/
def lowerBound {β : Type} (readings : Array (Reading β)) (boundary : Instant) : Nat :=
  lowerBoundIn readings boundary 0 readings.size (Nat.le_refl _)

theorem instant_le_of_inOrder {β : Type} {readings : Array (Reading β)}
    (ho : Reading.InOrder readings.toList) {i j : Nat} (hij : i ≤ j) (hi : i < readings.size)
    (hj : j < readings.size) : readings[i].instant ≤ readings[j].instant := by
  rcases Nat.eq_or_lt_of_le hij with rfl | hlt
  · exact Int.le_refl _
  · exact List.pairwise_iff_getElem.1 ho i j (by simpa using hi) (by simpa using hj) hlt

theorem lowerBoundIn_spec {β : Type} {readings : Array (Reading β)} {boundary : Instant}
    (ho : Reading.InOrder readings.toList) {low high : Nat} (h : high ≤ readings.size)
    (hle : low ≤ high)
    (hbelow : ∀ i (_ : i < low) (hi : i < readings.size), readings[i].instant < boundary)
    (habove : ∀ i (_ : high ≤ i) (hi : i < readings.size), boundary ≤ readings[i].instant) :
    lowerBoundIn readings boundary low high h ≤ readings.size ∧
      (∀ i (_ : i < lowerBoundIn readings boundary low high h) (hi : i < readings.size),
        readings[i].instant < boundary) ∧
      (∀ i (_ : lowerBoundIn readings boundary low high h ≤ i) (hi : i < readings.size),
        boundary ≤ readings[i].instant) := by
  induction low, high, h using lowerBoundIn.induct readings boundary with
  | case1 low high h hlt middle hmid ih =>
    rw [lowerBoundIn, dif_pos hlt]
    simp only [middle] at hmid ih ⊢
    rw [if_pos hmid]
    refine ih (by omega) (fun i hi hs => ?_) habove
    have := instant_le_of_inOrder ho (i := i) (j := low + (high - low) / 2) (by omega) hs (by omega)
    rw [Instant.lt_def] at hmid ⊢
    rw [Instant.le_def] at this
    omega
  | case2 low high h hlt middle hmid ih =>
    rw [lowerBoundIn, dif_pos hlt]
    simp only [middle] at hmid ih ⊢
    rw [if_neg hmid]
    refine ih (by omega) hbelow (fun i hi hs => ?_)
    have := instant_le_of_inOrder ho (i := low + (high - low) / 2) (j := i) (by omega) (by omega) hs
    rw [Instant.lt_def] at hmid
    rw [Instant.le_def] at this ⊢
    omega
  | case3 low high h hlt =>
    rw [lowerBoundIn, dif_neg hlt]
    exact ⟨by omega, hbelow, fun i hi hs => habove i (by omega) hs⟩

/-- The index found separates the readings before the boundary from the others. -/
theorem lowerBound_spec {β : Type} {readings : Array (Reading β)}
    (ho : Reading.InOrder readings.toList) (boundary : Instant) :
    lowerBound readings boundary ≤ readings.size ∧
      (∀ i (_ : i < lowerBound readings boundary) (hi : i < readings.size),
        readings[i].instant < boundary) ∧
      (∀ i (_ : lowerBound readings boundary ≤ i) (hi : i < readings.size),
        boundary ≤ readings[i].instant) :=
  lowerBoundIn_spec ho _ (Nat.zero_le _) (fun _ h => absurd h (Nat.not_lt_zero _))
    (fun _ h hi => absurd hi (Nat.not_lt.2 h))

/-! ## Segments -/

/-- The part of a series from `start` up to, but not including, `stop`. -/
structure Segment (β : Type) where
  series : Series β
  start : Instant
  stop : Instant

namespace Segment

variable {β : Type}

/-- The index of the first reading of the segment. -/
def first (s : Segment β) : Nat :=
  lowerBound s.series.readings s.start

/-- The index after the last reading of the segment. -/
def last (s : Segment β) : Nat :=
  max (lowerBound s.series.readings s.stop) s.first

/-- The readings of the segment. -/
def readings (s : Segment β) : List (Reading β) :=
  (s.series.readings.extract s.first s.last).toList

/-- The values of the segment. -/
def values (s : Segment β) : List β :=
  s.readings.map (·.value)

/-- The segment cut at every period from its start; the last part ends where the segment does. -/
def tile (s : Segment β) (p : Period) (z : Zone) : Except SeriesError (List (Segment β)) :=
  match p.tiles z s.stop s.start with
  | .ok buckets => .ok (buckets.map fun b => ⟨s.series, b.start, b.stop⟩)
  | .error e => .error (.period e)

/-- The whole milliseconds that are measured between the bounds. -/
def millis (s : Segment β) : Int :=
  (s.stop.since s.start).tdiv 1000000

/-- The milliseconds from the start to the cut before part `k` of `n` equal parts. -/
def cut (s : Segment β) (n k : Nat) : Int :=
  (s.millis * k).tdiv n

/-- Where part `k` of `n` equal parts starts, if the calendar covers the cut; part `n` would start
where the segment stops. -/
def boundary (s : Segment β) (n k : Nat) : Except SeriesError Instant :=
  if k = n then .ok s.stop
  else
    match s.start.add? (s.cut n k * 1000000) with
    | some t => .ok t
    | none => .error (.cutOutOfRange s.start)

/-- Part `k` of `n` equal parts. -/
def part (s : Segment β) (n k : Nat) : Except SeriesError (Segment β) := do
  let start ← s.boundary n k
  let stop ← s.boundary n (k + 1)
  return ⟨s.series, start, stop⟩

/-- The segment cut into `n` parts of the same length, up to a millisecond. -/
def split (s : Segment β) (n : Nat) : Except SeriesError (List (Segment β)) :=
  if n = 0 then .error .zeroSegments else (List.range n).mapM (s.part n)

end Segment

namespace Series

variable {β : Type}

/-- The part of the series within its bounds; readings may lie outside of them. -/
def withinBounds (s : Series β) : Segment β :=
  ⟨s, s.start, s.stop⟩

/-- The part of the series between two instants, which are moved into the bounds of the series; if
they are the wrong way round, the part is empty. -/
def window (s : Series β) (start stop : Instant) : Segment β :=
  let start := start.clamp s.start s.stop
  ⟨s, start, stop.clamp start s.stop⟩

end Series

end Logbook
