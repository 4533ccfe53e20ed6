import Mathlib.Algebra.Order.Group.Nat
import Mathlib.Algebra.Order.Ring.Abs
import Mathlib.Algebra.Order.Ring.Int
import Mathlib.Data.Nat.ModEq
import Logbook.Proofs.Series.Split
import Logbook.Series.Window

/-!
# The lengths of equal parts

A segment is cut after a whole number of milliseconds, rounded down, so its parts can differ by one
millisecond, and the last one takes what is left below a millisecond.

* `next_quotient`, `last_quotient` — from one rounded quotient to the next it is the share rounded
  down or up, and to the last one the share rounded up.
* `FitsIn` — the numbers that a signed word can hold. `Segment.fitsIn_product` and `fitsIn_cut` say
  that nothing that is computed on the way to a cut is too large for its word.
* `Segment.IsShare` — what part `k` of `n` equal parts should be.
* `Segment.CutAt.toNanos` — where the cuts are, in nanoseconds.
* `Window.split_lengths` — when a window is cut, into how many parts, where, and how long they are.
-/

namespace Logbook

/-! ## Rounded quotients -/

/-- A share rounded up is one more than rounded down, unless nothing is left over. -/
theorem add_pred_div {s n : Nat} (hn : 0 < n) :
    (s + n - 1) / n = s / n + if s % n = 0 then 0 else 1 := by
  have hlt : (n - 1) % n = n - 1 := Nat.mod_eq_of_lt (by omega)
  have hzero : (n - 1) / n = 0 := Nat.div_eq_of_lt (by omega)
  rw [Nat.add_sub_assoc hn, Nat.add_div hn, hlt, hzero]
  split <;> split <;> omega

/-- From one multiple to the next, the rounded quotient grows by the share rounded down or up. -/
theorem next_quotient (s k : Nat) {n : Nat} (hn : 0 < n) :
    s * (k + 1) / n = s * k / n + s / n ∨ s * (k + 1) / n = s * k / n + (s + n - 1) / n := by
  have hmod := Nat.mod_lt (s * k) hn
  rw [Nat.mul_succ, Nat.add_div hn, add_pred_div hn]
  split
  · right
    rw [if_neg (by omega)]
    omega
  · left
    omega

/-- From the last multiple but one to the last, it grows by the share rounded up. -/
theorem last_quotient (s m : Nat) : s = s * m / (m + 1) + (s + (m + 1) - 1) / (m + 1) := by
  have hlast : s * m + s = s * (m + 1) := (Nat.mul_succ s m).symm
  have hfirst : s * m % (m + 1) < m + 1 := Nat.mod_lt _ (Nat.succ_pos m)
  -- What the two quotients leave over adds up to nothing or to one share.
  have hover : m + 1 ≤ s * m % (m + 1) + s % (m + 1) ↔ s % (m + 1) ≠ 0 := by
    constructor
    · intro hle
      omega
    · intro hne
      refine Nat.le_of_dvd (by omega) (Nat.dvd_of_mod_eq_zero ?_)
      rw [← Nat.add_mod, hlast, Nat.mul_mod_left]
  calc s = (s * m + s) / (m + 1) := by rw [hlast, Nat.mul_div_cancel _ (Nat.succ_pos m)]
    _ = s * m / (m + 1) + s / (m + 1) + if s % (m + 1) = 0 then 0 else 1 := by
      rw [Nat.add_div (Nat.succ_pos m), if_congr hover rfl rfl, ite_not]
    _ = s * m / (m + 1) + (s + (m + 1) - 1) / (m + 1) := by
      rw [add_pred_div (Nat.succ_pos m), Nat.add_assoc]

/-! ## Words -/

/-- A signed word of that many bits can hold the number. -/
def FitsIn (bits : Nat) (x : Int) : Prop :=
  -2 ^ (bits - 1) ≤ x ∧ x < 2 ^ (bits - 1)

theorem LocalTime.InRange.since_bounds {a b : LocalTime} (ha : a.InRange) (hb : b.InRange) :
    -2 ^ 54 * 1000000 < a.since b ∧ a.since b < 2 ^ 54 * 1000000 := by
  have := a.nanos_lt
  have := b.nanos_lt
  unfold InRange firstSecond lastSecond at ha hb
  unfold since nanosPerSecond
  dsimp only
  split
  · omega
  · split <;> omega

namespace Segment

variable {β : Type} (g : Segment β) {n k : Nat}

/-- Whatever the bounds are, 55 bits are enough for the milliseconds between them. -/
theorem millis_bounds : -2 ^ 54 < g.millis ∧ g.millis < 2 ^ 54 := by
  have hsince := g.stop.inRange.since_bounds g.start.inRange
  unfold millis
  rcases Int.le_total 0 (g.stop.since g.start) with hnonneg | hneg
  · rw [Int.tdiv_eq_ediv_of_nonneg hnonneg]
    unfold Instant.since at *
    omega
  · rw [← Int.neg_neg (g.stop.since g.start), Int.neg_tdiv,
      Int.tdiv_eq_ediv_of_nonneg (by omega)]
    unfold Instant.since at *
    omega

/-- The milliseconds times the number of a part keep to 128 bits. -/
theorem fitsIn_product (hk : k < 2 ^ 64) : FitsIn 128 (g.millis * k) := by
  obtain ⟨hlow, hhigh⟩ := g.millis_bounds
  have hmillis : |g.millis| ≤ 2 ^ 54 := abs_le.2 ⟨hlow.le, hhigh.le⟩
  have hcount : (k : Int) ≤ 2 ^ 64 := by exact_mod_cast hk.le
  have hproduct : |g.millis * k| < 2 ^ 127 :=
    calc |g.millis * k| = |g.millis| * k := by rw [abs_mul, Nat.abs_cast]
      _ ≤ 2 ^ 54 * 2 ^ 64 := Int.mul_le_mul hmillis hcount (by omega) (by decide)
      _ < 2 ^ 127 := by decide
  obtain ⟨hlow, hhigh⟩ := abs_lt.1 hproduct
  exact ⟨hlow.le, hhigh⟩

/-- A cut keeps to 64 bits. -/
theorem fitsIn_cut (hn : 0 < n) (hk : k ≤ n) : FitsIn 64 (g.cut n k) := by
  have hmillis := g.millis_bounds
  unfold FitsIn
  rcases Int.le_total 0 g.millis with hnonneg | hneg
  · have hfirst : 0 ≤ g.cut n k := g.cut_nonneg hnonneg hn
    have hlast := g.cut_le_millis hnonneg hn hk
    omega
  · have hfirst := g.cut_le_cut_of_nonpos hneg hn (Nat.zero_le k)
    have hlast := g.cut_le_cut_of_nonpos hneg hn hk
    rw [cut_zero] at hfirst
    rw [g.cut_self hn] at hlast
    omega

/-! ## Shares -/

/-- What is measured between the bounds beyond whole milliseconds, in nanoseconds. -/
def rest : Int :=
  g.stop.since g.start - g.millis * 1000000

/-- The segment `part` is part `k` of `n` equal parts: it begins and ends at its cuts, within the
segment. Its length is a share of the milliseconds, rounded down or up; that of the last part is
rounded up, and it has the rest as well. -/
structure IsShare (n k : Nat) (part : Segment β) : Prop where
  series_eq : part.series = g.series
  start_eq : g.start.add? (g.millis * k / n * 1000000) = some part.start
  stop_eq : k + 1 < n → g.start.add? (g.millis * (k + 1 : Nat) / n * 1000000) = some part.stop
  stop_eq_of_last : k + 1 = n → part.stop = g.stop
  le_start : g.start ≤ part.start
  start_le_stop : part.start ≤ part.stop
  stop_le : part.stop ≤ g.stop
  length : k + 1 < n → part.stop.since part.start = g.millis / n * 1000000 ∨
    part.stop.since part.start = (g.millis + n - 1) / n * 1000000
  length_of_last : k + 1 = n →
    part.stop.since part.start = (g.millis + n - 1) / n * 1000000 + g.rest

theorem rest_bounds (h : 0 ≤ g.stop.since g.start) : 0 ≤ g.rest ∧ g.rest < 1000000 := by
  unfold rest millis
  rw [Int.tdiv_eq_ediv_of_nonneg h]
  omega

theorem cut_eq (h : 0 ≤ g.millis) : g.cut n k = g.millis * k / n :=
  Int.tdiv_eq_ediv_of_nonneg (Int.mul_nonneg h (by omega))

/-- From one cut to the next it is a share of the milliseconds, rounded down or up. -/
theorem cut_succ (h : 0 ≤ g.millis) (hn : 0 < n) :
    g.cut n (k + 1) - g.cut n k = g.millis / n ∨
      g.cut n (k + 1) - g.cut n k = (g.millis + n - 1) / n := by
  obtain ⟨s, hs⟩ := Int.eq_ofNat_of_zero_le h
  have hcut (j : Nat) : g.cut n j = (s * j / n : Nat) := by
    rw [g.cut_eq h, hs]
    norm_cast
  have hceil : (g.millis + n - 1) / n = ((s + n - 1) / n : Nat) := by
    rw [hs, Int.natCast_div, Nat.cast_sub (by omega)]
    norm_cast
  have hfloor : g.millis / n = (s / n : Nat) := by
    rw [hs]
    norm_cast
  rw [hcut, hcut, hceil, hfloor]
  rcases next_quotient s k hn with hnext | hnext
  · left
    omega
  · right
    omega

/-- From the last cut to the end of the milliseconds it is a share, rounded up. -/
theorem millis_sub_cut (h : 0 ≤ g.millis) :
    g.millis - g.cut (k + 1) k = (g.millis + (k + 1 : Nat) - 1) / (k + 1 : Nat) := by
  obtain ⟨s, hs⟩ := Int.eq_ofNat_of_zero_le h
  have hcut : g.cut (k + 1) k = (s * k / (k + 1) : Nat) := by
    rw [g.cut_eq h, hs]
    norm_cast
  have hceil : (g.millis + (k + 1 : Nat) - 1) / (k + 1 : Nat) =
      ((s + (k + 1) - 1) / (k + 1) : Nat) := by
    rw [hs, Int.natCast_div, Nat.cast_sub (by omega)]
    norm_cast
  have hlast := last_quotient s k
  omega

/-! ## Where the cuts are -/

namespace CutAt

variable {g} {cuts : Nat → Instant} (hcuts : g.CutAt n cuts)

include hcuts

/-- If the last cut lies within the segment, each part does. -/
theorem within (hforward : g.Forward n) (hk : k < n) :
    g.start ≤ cuts k ∧ cuts k ≤ cuts (k + 1) ∧ cuts (k + 1) ≤ g.stop := by
  have hparts : g.split n = .ok ((List.range n).map fun k => ⟨g.series, cuts k, cuts (k + 1)⟩) :=
    g.split_eq_ok_iff.2 ⟨Nat.zero_lt_of_lt hk, cuts, hcuts, rfl⟩
  refine ((g.tiles_split_iff hparts).2 hforward).within ⟨cuts k, cuts (k + 1)⟩ ?_
  exact List.mem_map_of_mem (List.mem_map_of_mem (List.mem_range.2 hk))

variable (hle : g.start ≤ g.stop) (hstart : ¬ g.start.utc.IsLeap) (hstop : ¬ g.stop.utc.IsLeap)

include hstart

/-- Where a cut is, in nanoseconds; it shows no leap second. -/
theorem toNanos (hk : k < n) :
    (cuts k).utc.toNanos = g.start.utc.toNanos + g.cut n k * 1000000 ∧ ¬ (cuts k).utc.IsLeap := by
  rw [hcuts.utc hk, LocalTime.add_of_not_isLeap hstart]
  exact ⟨LocalTime.toNanos_ofNanos _, LocalTime.not_isLeap_ofNanos _⟩

/-- A part but the last one is as long as its two cuts are apart. -/
theorem since_cut (hk : k + 1 < n) :
    (cuts (k + 1)).since (cuts k) = (g.cut n (k + 1) - g.cut n k) * 1000000 := by
  obtain ⟨hnanos, hleap⟩ := hcuts.toNanos hstart (show k < n by omega)
  obtain ⟨hnanos', hleap'⟩ := hcuts.toNanos hstart hk
  have hsince : (cuts (k + 1)).since (cuts k) =
      (cuts (k + 1)).utc.toNanos - (cuts k).utc.toNanos :=
    LocalTime.since_of_not_isLeap hleap' hleap
  omega

include hstop

/-- The last part takes what is left. -/
theorem since_last_cut (hk : k < n) :
    g.stop.since (cuts k) = (g.millis - g.cut n k) * 1000000 + g.rest := by
  obtain ⟨hnanos, hleap⟩ := hcuts.toNanos hstart hk
  have hpart : g.stop.since (cuts k) = g.stop.utc.toNanos - (cuts k).utc.toNanos :=
    LocalTime.since_of_not_isLeap hstop hleap
  have hwhole : g.stop.since g.start = g.stop.utc.toNanos - g.start.utc.toNanos :=
    LocalTime.since_of_not_isLeap hstop hstart
  unfold rest
  omega

include hle

/-- Without a leap second at a bound, each part has its share. -/
theorem isShare (hk : k < n) : g.IsShare n k ⟨g.series, cuts k, cuts (k + 1)⟩ := by
  have hn : 0 < n := Nat.zero_lt_of_lt hk
  have hmillis := (g.millis_of_nonneg (g.since_nonneg hle hstart hstop)).1
  have hforward := g.forward_of_not_isLeap hle hstart hstop hn
  have hcut (j : Nat) : g.cut n j = g.millis * j / n := g.cut_eq hmillis
  obtain ⟨hfirst, hbetween, hlast⟩ := hcuts.within hforward hk
  refine ⟨rfl, ?_, ?_, ?_, hfirst, hbetween, hlast, ?_, ?_⟩
  · rw [← hcut]
    exact hcuts.add_cut hk
  · intro hnext
    rw [← hcut]
    exact hcuts.add_cut hnext
  · rintro rfl
    exact hcuts.stop
  · intro hnext
    show (cuts (k + 1)).since (cuts k) = _ ∨ _
    rw [hcuts.since_cut hstart hnext]
    rcases g.cut_succ hmillis hn (k := k) with hfloor | hceil
    · left
      rw [hfloor]
    · right
      rw [hceil]
  · rintro rfl
    show (cuts (k + 1)).since (cuts k) = _
    rw [hcuts.stop, hcuts.since_last_cut hstart hstop hk, g.millis_sub_cut hmillis]

end CutAt

end Segment

/-! ## The lengths -/

namespace Window

variable {β : Type} {n : Nat}

/-- **The lengths of equal parts.** A window is cut into as many parts as asked for, if it is cut at
all: that is so exactly if the calendar covers the last cut, and whenever the window does not stop in
a leap second at the very end of the calendar. No number on the way to a cut is too large for its
word. Without a leap second at a bound the window is cut, no cut passes the stop, and each part has
its share of the time between the bounds. -/
theorem split_lengths (w : Window β) (hn : 0 < n) :
    ((∃ parts, w.split n = .ok parts) ↔ ∃ cut, w.extent.boundary n (n - 1) = .ok cut) ∧
      (w.extent.start ≤ w.extent.stop →
        (w.extent.stop.utc.IsLeap → w.extent.stop.utc.seconds < LocalTime.lastSecond) →
          ∃ parts, w.split n = .ok parts) ∧
      (∀ parts, w.split n = .ok parts → parts.length = n) ∧
      (n < 2 ^ 64 →
        ∀ k ≤ n, FitsIn 128 (w.extent.millis * k) ∧ FitsIn 64 (w.extent.cut n k)) ∧
      (w.extent.start ≤ w.extent.stop → ¬ w.extent.start.utc.IsLeap →
        ¬ w.extent.stop.utc.IsLeap →
          0 ≤ w.extent.millis ∧ 0 ≤ w.extent.rest ∧ w.extent.rest < 1000000 ∧
            ∃ parts, w.split n = .ok parts ∧
              ∀ k part, parts[k]? = some part → w.extent.IsShare n k part) := by
  have hcovered (hle : w.extent.start ≤ w.extent.stop)
      (hstop : w.extent.stop.utc.IsLeap → w.extent.stop.utc.seconds < LocalTime.lastSecond) :
      ∃ parts, w.split n = .ok parts :=
    (w.extent.exists_split_iff hn).2 (w.extent.exists_boundary_of_stop hle hstop (by omega))
  refine ⟨w.extent.exists_split_iff hn, hcovered, ?_, ?_, ?_⟩
  · intro parts h
    obtain ⟨-, cuts, -, rfl⟩ := w.extent.split_eq_ok_iff.1 h
    simp
  · intro hword k hk
    exact ⟨w.extent.fitsIn_product (Nat.lt_of_le_of_lt hk hword), w.extent.fitsIn_cut hn hk⟩
  · intro hle hstart hstop
    have hsince := w.extent.since_nonneg hle hstart hstop
    obtain ⟨hrest, hlt⟩ := w.extent.rest_bounds hsince
    obtain ⟨parts, h⟩ := hcovered hle fun hleap => absurd hleap hstop
    obtain ⟨-, cuts, hcuts, rfl⟩ := w.extent.split_eq_ok_iff.1 h
    refine ⟨(w.extent.millis_of_nonneg hsince).1, hrest, hlt, _, h, ?_⟩
    intro k part hpart
    obtain ⟨j, hj, rfl⟩ : ∃ j, (List.range n)[k]? = some j ∧
        (⟨w.extent.series, cuts j, cuts (j + 1)⟩ : Segment β) = part := by
      simpa using hpart
    obtain ⟨hk, rfl⟩ : k < n ∧ k = j := by
      simpa [List.getElem?_eq_some_iff] using hj
    exact hcuts.isShare hle hstart hstop hk

/-- Ten milliseconds and 300 nanoseconds in three parts. -/
theorem split_lengths_tenMillis :
    ∃ w : Window String, 0 < 3 ∧ w.extent.start ≤ w.extent.stop ∧ ¬ w.extent.start.utc.IsLeap ∧
      ¬ w.extent.stop.utc.IsLeap ∧ w.extent.millis = 10 ∧ w.extent.rest = 300 ∧
      FitsIn 128 (w.extent.millis * (3 : Nat)) ∧ FitsIn 64 (w.extent.cut 3 3) ∧
      ∃ parts, w.split 3 = .ok parts ∧ parts.length = 3 ∧
        parts.map (fun part => part.stop.since part.start) = [3000000, 3000000, 4000300] ∧
        ∀ k part, parts[k]? = some part → w.extent.IsShare 3 k part := by
  let s : Series String :=
    { start := ⟨⟨0, 0, by omega⟩, by decide⟩
      stop := ⟨⟨0, 10000300, by omega⟩, by decide⟩
      readings := #[]
      start_le := by decide
      inOrder := List.Pairwise.nil }
  obtain ⟨-, -, hlength, hword, hshare⟩ := split_lengths (.series s) (show 0 < 3 by decide)
  obtain ⟨-, -, -, parts, hsplit, hparts⟩ := hshare s.start_le (by decide) (by decide)
  obtain ⟨hproduct, hcut⟩ := hword (by decide) 3 (by decide)
  have hlengths : ((Window.series s).split 3).map
      (fun parts => parts.map fun part => part.stop.since part.start) =
        .ok [3000000, 3000000, 4000300] := by decide
  rw [hsplit] at hlengths
  exact ⟨.series s, by decide, s.start_le, by decide, by decide, by decide, by decide, hproduct, hcut,
    parts, hsplit, hlength parts hsplit, Except.ok.inj hlengths, hparts⟩

/-- A leap second at the stop, cut in two with the half second before it: the cut is not within the
leap second but in the second after it, where the window is over. -/
theorem split_beyond_leap_second :
    ∃ (w : Window String) (parts : List (Segment String)) (last : Segment String),
      w.start ≤ w.stop ∧ w.extent.millis = 1400 ∧ w.split 2 = .ok parts ∧ parts[1]? = some last ∧
        w.stop < last.start ∧ ¬ w.extent.IsShare 2 1 last := by
  let s : Series String :=
    { start := ⟨⟨1483228799, 500000000, by omega⟩, by decide⟩
      stop := ⟨⟨1483228799, 1900000000, by omega⟩, by decide⟩
      readings := #[]
      start_le := by decide
      inOrder := List.Pairwise.nil }
  obtain ⟨parts, hparts⟩ : ∃ parts, (Window.series s).split 2 = .ok parts :=
    (s.withinBounds.exists_split_iff (by decide)).2
      (s.withinBounds.exists_boundary_of_stop s.start_le (fun _ => by decide) (by decide))
  obtain ⟨-, cuts, hcuts, rfl⟩ := s.withinBounds.split_eq_ok_iff.1 hparts
  have hbeyond : s.stop < cuts 1 := by
    show s.stop.utc < (cuts 1).utc
    rw [hcuts.utc (by decide)]
    decide
  refine ⟨.series s, _, ⟨s, cuts 1, cuts 2⟩, s.start_le, by decide, hparts, rfl, hbeyond, ?_⟩
  intro hshare
  have hle : cuts 1 ≤ cuts 2 := hshare.start_le_stop
  rw [hcuts.stop] at hle
  exact absurd hle (Int.not_le.2 hbeyond)

end Window

end Logbook
