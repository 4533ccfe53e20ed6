import Logbook.Proofs.Outcome
import Logbook.Proofs.Series.Segments
import Logbook.Proofs.Time.Sums

/-!
# Cutting a segment into equal parts

The parts of a segment are measured in nanoseconds, but bounds are ordered as a clock shows them. The
two agree unless a bound is a leap second.

* `Segment.CutAt` — where the parts are cut; `Segment.split_eq_ok_iff` makes them up from that.
* `Segment.exists_split_iff` — a segment can be cut iff the calendar covers the last cut, and
  `Segment.exists_boundary_of_stop` — it does unless the segment stops in a leap second at its end.
* `Segment.tiles_split_iff` — the parts tile the segment iff the last cut lies within it.
* `Segment.forward_of_not_isLeap` — it does whenever neither bound is a leap second.
-/

namespace Logbook

/-! ## Where the cuts are -/

namespace Segment

variable {β : Type} (g : Segment β) {n k k' : Nat}

theorem boundary_self : g.boundary n n = .ok g.stop :=
  if_pos rfl

theorem boundary_eq_ok_iff (h : k ≠ n) {t : Instant} :
    g.boundary n k = .ok t ↔ g.start.add? (g.cut n k * 1000000) = some t := by
  unfold boundary
  rw [if_neg h]
  cases g.start.add? (g.cut n k * 1000000) <;> simp

theorem exists_boundary_iff (h : k ≠ n) :
    (∃ t, g.boundary n k = .ok t) ↔ (g.start.utc.add (g.cut n k * 1000000)).InRange := by
  simp only [g.boundary_eq_ok_iff h]
  rw [← Option.isSome_iff_exists, Option.isSome_iff_ne_none, Instant.add?, ne_eq,
    Instant.ofUtc?_eq_none_iff, Decidable.not_not]

theorem cut_zero : g.cut n 0 = 0 := by
  simp [cut]

theorem boundary_zero (hn : 0 < n) : g.boundary n 0 = .ok g.start := by
  rw [g.boundary_eq_ok_iff (by omega), cut_zero]
  exact Instant.ofUtc?_eq_some_iff.2 g.start.utc.add_zero.symm

theorem cut_self (hn : 0 < n) : g.cut n n = g.millis :=
  Int.mul_tdiv_cancel _ (by omega)

theorem cut_le_cut (h : 0 ≤ g.millis) (hn : 0 < n) (hk : k ≤ k') : g.cut n k ≤ g.cut n k' :=
  Int.tdiv_le_tdiv (by omega) (Int.mul_le_mul_of_nonneg_left (by omega) h)

theorem cut_le_cut_of_nonpos (h : g.millis ≤ 0) (hn : 0 < n) (hk : k ≤ k') :
    g.cut n k' ≤ g.cut n k :=
  Int.tdiv_le_tdiv (by omega) (Int.mul_le_mul_of_nonpos_left h (by omega))

theorem cut_le_millis (h : 0 ≤ g.millis) (hn : 0 < n) (hk : k ≤ n) : g.cut n k ≤ g.millis :=
  Int.le_trans (g.cut_le_cut h hn hk) (Int.le_of_eq (g.cut_self hn))

theorem cut_nonneg (h : 0 ≤ g.millis) (hn : 0 < n) : 0 ≤ g.cut n k :=
  Int.le_trans (Int.le_of_eq g.cut_zero.symm) (g.cut_le_cut h hn (Nat.zero_le k))

theorem millis_of_nonneg (h : 0 ≤ g.stop.since g.start) :
    0 ≤ g.millis ∧ g.millis * 1000000 ≤ g.stop.since g.start := by
  unfold millis
  rw [Int.tdiv_eq_ediv_of_nonneg h]
  omega

theorem millis_of_neg (h : g.stop.since g.start < 0) :
    g.millis ≤ 0 ∧ g.stop.since g.start ≤ g.millis * 1000000 := by
  have hneg : g.millis = -((-(g.stop.since g.start)) / 1000000) := by
    unfold millis
    rw [← Int.tdiv_eq_ediv_of_nonneg (by omega), Int.neg_tdiv, Int.neg_neg]
  omega

/-! ## Whether the calendar covers the cuts -/

/-- If the calendar covers the last cut, it covers all of them: they lie between the start and the
last one. -/
theorem exists_boundary (hn : 0 < n) (hlast : ∃ t, g.boundary n (n - 1) = .ok t) (hk : k < n) :
    ∃ t, g.boundary n k = .ok t := by
  rw [g.exists_boundary_iff (by omega)] at hlast ⊢
  have hstart := g.start.inRange
  unfold LocalTime.InRange at *
  rcases Int.le_total 0 g.millis with hnonneg | hneg
  · have hfirst := g.start.utc.le_add (d := g.cut n k * 1000000)
      (Int.mul_nonneg (g.cut_nonneg hnonneg hn) (by decide))
    have hcut := g.cut_le_cut hnonneg hn (show k ≤ n - 1 by omega)
    have hle := g.start.utc.add_le_add (show g.cut n k * 1000000 ≤ g.cut n (n - 1) * 1000000 by omega)
    have := LocalTime.seconds_le_of_le hfirst
    have := LocalTime.seconds_le_of_le hle
    omega
  · have hcut := g.cut_le_cut_of_nonpos hneg hn (Nat.zero_le k)
    have hcut' := g.cut_le_cut_of_nonpos hneg hn (show k ≤ n - 1 by omega)
    rw [cut_zero] at hcut
    have hfirst := g.start.utc.add_le_add (show g.cut n k * 1000000 ≤ 0 by omega)
    have hle := g.start.utc.add_le_add (show g.cut n (n - 1) * 1000000 ≤ g.cut n k * 1000000 by omega)
    rw [LocalTime.add_zero] at hfirst
    have := LocalTime.seconds_le_of_le hfirst
    have := LocalTime.seconds_le_of_le hle
    omega

/-- The calendar covers the cuts, unless the segment stops in a leap second at its very end. -/
theorem exists_boundary_of_stop (hle : g.start ≤ g.stop)
    (hstop : g.stop.utc.IsLeap → g.stop.utc.seconds < LocalTime.lastSecond) (hk : k < n) :
    ∃ t, g.boundary n k = .ok t := by
  rw [g.exists_boundary_iff (by omega)]
  have hn : 0 < n := Nat.zero_lt_of_lt hk
  by_cases hg : 0 ≤ g.stop.since g.start
  · obtain ⟨hmillis, hspan⟩ := g.millis_of_nonneg hg
    have hfirst : 0 ≤ g.cut n k := g.cut_nonneg hmillis hn
    have hlast := g.cut_le_millis hmillis hn (Nat.le_of_lt hk)
    refine Decidable.byContradiction fun hout => ?_
    obtain ⟨hend, hleap, -⟩ := LocalTime.isLeap_of_add_not_inRange g.start.inRange g.stop.inRange
      (by omega) (show g.cut n k * 1000000 ≤ g.stop.since g.start by omega) hout
    have := hstop hleap
    omega
  · -- A negative measured time is cut within the leap second at the start.
    have hg : g.stop.since g.start < 0 := by omega
    obtain ⟨hleap, hlow⟩ := LocalTime.isLeap_of_since_neg hle hg
    obtain ⟨hmillis, hspan⟩ := g.millis_of_neg hg
    have hlow : -1000000000 < g.stop.since g.start := hlow
    have hfirst := g.cut_le_cut_of_nonpos hmillis hn (Nat.zero_le k)
    have hlast := g.cut_le_cut_of_nonpos hmillis hn (Nat.le_of_lt hk)
    rw [g.cut_zero] at hfirst
    rw [g.cut_self hn] at hlast
    unfold LocalTime.InRange
    rw [LocalTime.seconds_add_of_isLeap hleap (by omega) (by omega)]
    exact g.start.inRange

/-- The parts of the segment are cut at these instants, of which the last one is the stop. -/
def CutAt (n : Nat) (cuts : Nat → Instant) : Prop :=
  ∀ k ≤ n, g.boundary n k = .ok (cuts k)

theorem exists_cutAt_iff : (∃ cuts, g.CutAt n cuts) ↔ ∀ k < n, ∃ t, g.boundary n k = .ok t := by
  constructor
  · rintro ⟨cuts, hcuts⟩ k hk
    exact ⟨cuts k, hcuts k (Nat.le_of_lt hk)⟩
  · intro h
    refine ⟨fun k => match g.boundary n k with
      | .ok t => t
      | .error _ => g.stop, fun k hk => ?_⟩
    obtain ⟨t, ht⟩ : ∃ t, g.boundary n k = .ok t := by
      rcases Nat.eq_or_lt_of_le hk with rfl | hlt
      · exact ⟨g.stop, g.boundary_self⟩
      · exact h k hlt
    simp only [ht]

theorem part_eq_ok_iff {part : Segment β} :
    g.part n k = .ok part ↔ g.boundary n k = .ok part.start ∧
      g.boundary n (k + 1) = .ok part.stop ∧ part.series = g.series := by
  unfold Segment.part
  rw [bind_eq_ok_iff]
  simp only [bind_eq_ok_iff]
  constructor
  · rintro ⟨start, hstart, stop, hstop, h⟩
    cases h
    exact ⟨hstart, hstop, rfl⟩
  · rintro ⟨hstart, hstop, hseries⟩
    refine ⟨_, hstart, _, hstop, ?_⟩
    rw [← hseries]
    rfl

theorem split_eq_ok_iff {parts : List (Segment β)} :
    g.split n = .ok parts ↔ 0 < n ∧ ∃ cuts, g.CutAt n cuts ∧
      parts = (List.range n).map fun k => ⟨g.series, cuts k, cuts (k + 1)⟩ := by
  have hparts {cuts : Nat → Instant} (hcuts : g.CutAt n cuts) : (List.range n).map (g.part n) =
      ((List.range n).map fun k =>
        (⟨g.series, cuts k, cuts (k + 1)⟩ : Segment β)).map .ok := by
    rw [List.map_map]
    refine List.map_congr_left fun k hk => ?_
    have hk := List.mem_range.1 hk
    exact g.part_eq_ok_iff.2 ⟨hcuts k (by omega), hcuts (k + 1) (by omega), rfl⟩
  unfold split
  split
  · simp
    omega
  · rw [mapM_eq_ok_iff]
    constructor
    · intro h
      have hall : ∀ k < n, ∃ t, g.boundary n k = .ok t := by
        intro k hk
        have hmem : g.part n k ∈ parts.map .ok := h ▸ List.mem_map_of_mem (List.mem_range.2 hk)
        obtain ⟨part, -, hpart⟩ := List.mem_map.1 hmem
        exact ⟨part.start, (g.part_eq_ok_iff.1 hpart.symm).1⟩
      obtain ⟨cuts, hcuts⟩ := g.exists_cutAt_iff.2 hall
      refine ⟨by omega, cuts, hcuts, ?_⟩
      rw [hparts hcuts] at h
      exact ((List.map_inj_right fun _ _ => Except.ok.inj).1 h).symm
    · rintro ⟨-, cuts, hcuts, rfl⟩
      exact hparts hcuts

theorem split_one : g.split 1 = .ok [g] := by
  refine g.split_eq_ok_iff.2 ⟨Nat.one_pos, fun k => if k = 0 then g.start else g.stop, ?_, rfl⟩
  intro k hk
  rcases Nat.le_one_iff_eq_zero_or_eq_one.1 hk with rfl | rfl
  · exact g.boundary_zero Nat.one_pos
  · exact g.boundary_self

/-- The segment can be cut exactly if the calendar covers the last cut. -/
theorem exists_split_iff (hn : 0 < n) :
    (∃ parts, g.split n = .ok parts) ↔ ∃ t, g.boundary n (n - 1) = .ok t := by
  simp only [g.split_eq_ok_iff, hn, true_and]
  constructor
  · rintro ⟨_, cuts, hcuts, -⟩
    exact ⟨_, hcuts (n - 1) (Nat.sub_le n 1)⟩
  · intro hlast
    obtain ⟨cuts, hcuts⟩ := g.exists_cutAt_iff.2 fun k hk => g.exists_boundary hn hlast hk
    exact ⟨_, cuts, hcuts, rfl⟩

/-- From half a second before the last leap second to nine tenths into it: the cut in the middle would
be after the end of the calendar. -/
theorem exists_not_split :
    ∃ g : Segment String, g.start ≤ g.stop ∧ g.stop.utc.IsLeap ∧
      g.stop.utc.seconds = LocalTime.lastSecond ∧ ¬ ∃ parts, g.split 2 = .ok parts := by
  let s : Series String :=
    { start := ⟨⟨LocalTime.lastSecond, 500000000, by omega⟩, by decide⟩
      stop := ⟨⟨LocalTime.lastSecond, 1900000000, by omega⟩, by decide⟩
      readings := #[]
      start_le := by decide
      inOrder := List.Pairwise.nil }
  refine ⟨s.withinBounds, s.start_le, by decide, rfl, ?_⟩
  rw [s.withinBounds.exists_split_iff (by decide), s.withinBounds.exists_boundary_iff (by decide)]
  decide

/-! ## When the parts tile the segment -/

/-- The last cut lies within the segment. -/
def Forward (n : Nat) : Prop :=
  ∃ t, g.boundary n (n - 1) = .ok t ∧ g.start ≤ t ∧ t ≤ g.stop

instance : Decidable (g.Forward n) :=
  match h : g.boundary n (n - 1) with
  | .ok t => decidable_of_iff (g.start ≤ t ∧ t ≤ g.stop) (by simp [Forward, h])
  | .error _ => isFalse (by simp [Forward, h])

namespace CutAt

variable {g} {cuts : Nat → Instant}

theorem stop (h : g.CutAt n cuts) : cuts n = g.stop :=
  Except.ok.inj ((h n (Nat.le_refl n)).symm.trans g.boundary_self)

theorem add_cut (h : g.CutAt n cuts) (hk : k < n) :
    g.start.add? (g.cut n k * 1000000) = some (cuts k) :=
  (g.boundary_eq_ok_iff (by omega)).1 (h k (Nat.le_of_lt hk))

theorem utc (h : g.CutAt n cuts) (hk : k < n) :
    (cuts k).utc = g.start.utc.add (g.cut n k * 1000000) :=
  Instant.ofUtc?_eq_some_iff.1 (h.add_cut hk)

theorem start (h : g.CutAt n cuts) (hn : 0 < n) : cuts 0 = g.start :=
  Except.ok.inj ((h 0 (Nat.zero_le n)).symm.trans (g.boundary_zero hn))

theorem forward_iff (h : g.CutAt n cuts) :
    g.Forward n ↔ g.start ≤ cuts (n - 1) ∧ cuts (n - 1) ≤ g.stop := by
  unfold Forward
  rw [h (n - 1) (Nat.sub_le n 1)]
  simp

/-- A measured time of zero or more is cut at instants that never go back. -/
theorem le (h : g.CutAt n cuts) (hg : 0 ≤ g.stop.since g.start) (hk : k ≤ k') (hn : k' < n) :
    cuts k ≤ cuts k' := by
  have hcut := g.cut_le_cut (g.millis_of_nonneg hg).1 (Nat.zero_lt_of_lt hn) hk
  show (cuts k).utc ≤ (cuts k').utc
  rw [h.utc hn, h.utc (by omega)]
  exact g.start.utc.add_le_add (by omega)

/-- A negative measured time is cut at instants that never go ahead. -/
theorem le_of_neg (h : g.CutAt n cuts) (hg : g.stop.since g.start < 0) (hk : k ≤ k')
    (hn : k' < n) : cuts k' ≤ cuts k := by
  have hcut := g.cut_le_cut_of_nonpos (g.millis_of_neg hg).1 (Nat.zero_lt_of_lt hn) hk
  show (cuts k').utc ≤ (cuts k).utc
  rw [h.utc hn, h.utc (by omega)]
  exact g.start.utc.add_le_add (by omega)

/-- If the last cut lies within the segment, no cut goes back. -/
theorem le_succ_of_forward (h : g.CutAt n cuts) (hforward : g.Forward n) (hk : k < n) :
    cuts k ≤ cuts (k + 1) := by
  obtain ⟨hstart, hstop⟩ := h.forward_iff.1 hforward
  by_cases hlast : k + 1 = n
  · rw [hlast, h.stop, show k = n - 1 by omega]
    exact hstop
  by_cases hg : 0 ≤ g.stop.since g.start
  · exact h.le hg (by omega) (by omega)
  · -- The cuts do not go ahead and the last one has not gone back, so all are at the start.
    have hfixed : ∀ j < n, (cuts j).rank = g.start.rank := by
      intro j hj
      have hfirst := h.le_of_neg (by omega) (Nat.zero_le j) hj
      have hlater := h.le_of_neg (by omega) (show j ≤ n - 1 by omega) (by omega)
      rw [h.start (by omega)] at hfirst
      rw [Instant.le_def] at hstart hfirst hlater
      omega
    exact Int.le_of_eq ((hfixed k hk).trans (hfixed (k + 1) (by omega)).symm)

end CutAt

/-- The parts of a segment tile it iff the last cut lies within it. -/
theorem tiles_split_iff {parts : List (Segment β)} (h : g.split n = .ok parts) :
    Bucket.Tiles g.start (parts.map span) g.stop ↔ g.Forward n := by
  obtain ⟨hn, cuts, hcuts, rfl⟩ := g.split_eq_ok_iff.1 h
  have htiles := Bucket.tiles_map_range_iff cuts n
  rw [hcuts.start hn, hcuts.stop] at htiles
  rw [List.map_map]
  refine htiles.trans ⟨?_, ?_⟩
  · intro hmono
    have hmem : (⟨cuts (n - 1), cuts (n - 1 + 1)⟩ : Bucket) ∈
        (List.range n).map fun k => ⟨cuts k, cuts (k + 1)⟩ :=
      List.mem_map_of_mem (List.mem_range.2 (by omega))
    obtain ⟨h1, h2, h3⟩ := (htiles.2 hmono).within _ hmem
    exact hcuts.forward_iff.2 ⟨h1, Int.le_trans h2 h3⟩
  · intro hforward k hk
    exact hcuts.le_succ_of_forward hforward hk

/-- Without a leap second at a bound, a measure forwards is not negative. -/
theorem since_nonneg (hle : g.start ≤ g.stop) (hstart : ¬ g.start.utc.IsLeap)
    (hstop : ¬ g.stop.utc.IsLeap) : 0 ≤ g.stop.since g.start := by
  have hsince : g.stop.since g.start = g.stop.utc.toNanos - g.start.utc.toNanos :=
    LocalTime.since_of_not_isLeap hstop hstart
  rw [hsince]
  rw [Instant.le_def] at hle
  unfold LocalTime.IsLeap at hstart hstop
  unfold Instant.rank LocalTime.rank at hle
  unfold LocalTime.toNanos nanosPerSecond
  omega

/-- Without a leap second at a bound, the last cut lies within the segment. -/
theorem forward_of_not_isLeap (hle : g.start ≤ g.stop) (hstart : ¬ g.start.utc.IsLeap)
    (hstop : ¬ g.stop.utc.IsLeap) (hn : 0 < n) : g.Forward n := by
  have hsince : g.stop.since g.start = g.stop.utc.toNanos - g.start.utc.toNanos :=
    LocalTime.since_of_not_isLeap hstop hstart
  obtain ⟨hmillis, hspan⟩ := g.millis_of_nonneg (g.since_nonneg hle hstart hstop)
  have hcut := g.cut_le_millis hmillis hn (Nat.sub_le n 1)
  obtain ⟨t, ht⟩ := g.exists_boundary_of_stop hle (fun h => absurd h hstop)
    (show n - 1 < n by omega)
  have hutc : t.utc = g.start.utc.add (g.cut n (n - 1) * 1000000) :=
    Instant.ofUtc?_eq_some_iff.1 ((g.boundary_eq_ok_iff (by omega)).1 ht)
  refine ⟨t, ht, ?_, ?_⟩
  · show g.start.utc ≤ t.utc
    rw [hutc]
    exact g.start.utc.le_add (Int.mul_nonneg (g.cut_nonneg hmillis hn) (by decide))
  · show t.utc.rank ≤ g.stop.utc.rank
    rw [hutc, LocalTime.add_of_not_isLeap hstart, ← LocalTime.ofNanos_toNanos hstop,
      LocalTime.rank_ofNanos, LocalTime.rank_ofNanos]
    omega

end Segment

end Logbook
