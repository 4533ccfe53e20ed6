import Logbook.Proofs.Series.Places

/-!
# Quantiles in exact arithmetic

The quantile of a share is a value in the centroid that its rank falls into. The value lies
between the means of the neighbours of that centroid, so also between the least and the greatest of
the numbers.

* `Sketch.valueIn` — the value in a centroid when a part of its weight lies below.
* `Sketch.Regular.estimate_number` — the estimate of a share is the value in the place of its rank.
* `Sketch.Regular.quantile_number` — so is the quantile, and `quantile_zero` and `quantile_one` are
  the least and the greatest number.
* `Sketch.Regular.exists_quantile_number` — every quantile lies between these two.
-/

namespace Logbook

open Arithmetic

variable {K : Type} [Field K]

namespace Sketch

/-! ## The value in a place -/

/-- The difference between the mean of a centroid and the next one. -/
def step (s : Sketch K) (i : Nat) : K :=
  s.mean (i + 1) - s.mean i

/-- How much the estimate rises over the weight of a centroid: the mean of the steps to it and from
it, where the first and the last centroid have the same step on both sides. -/
def rise (s : Sketch K) (i : Nat) : K :=
  if s.centroids.size ≤ 1 then 0
  else (s.step (i - 1) + s.step (min i (s.centroids.size - 2))) / 2

/-- The mean of the centroid before a place, which no estimate there falls below. -/
def floor (s : Sketch K) (i : Nat) : K :=
  if i = 0 then s.least else s.mean (i - 1)

/-- The mean of the centroid after a place, which no estimate there exceeds. -/
def ceiling (s : Sketch K) (i : Nat) : K :=
  if i + 1 = s.centroids.size then s.greatest else s.mean (i + 1)

variable [LinearOrder K]

/-- The value estimated in a centroid when a part `t` of its weight lies below. -/
def valueIn (s : Sketch K) (i : Nat) (t : K) : K :=
  max (s.floor i) (min (s.ceiling i) (s.mean i + (t - 1 / 2) * s.rise i))

variable {s : Sketch K} {i j : Nat} {q t u : K}

theorem Regular.floor_le_mean (hs : s.Regular) (hi : i < s.centroids.size) :
    s.floor i ≤ s.mean i := by
  unfold floor
  split
  · exact hs.least_le_mean hi
  · exact hs.mean_le (Nat.sub_le i 1) hi

theorem Regular.mean_le_ceiling (hs : s.Regular) (hi : i < s.centroids.size) :
    s.mean i ≤ s.ceiling i := by
  unfold ceiling
  split
  · exact hs.mean_le_greatest hi
  · exact hs.mean_le (Nat.le_succ i) (by omega)

theorem Regular.least_le_valueIn (hs : s.Regular) (hi : i < s.centroids.size) (t : K) :
    s.least ≤ s.valueIn i t := by
  refine le_max_of_le_left ?_
  unfold floor
  split
  · exact le_rfl
  · exact hs.least_le_mean (by omega)

theorem Regular.valueIn_le_greatest (hs : s.Regular) (hi : i < s.centroids.size) (t : K) :
    s.valueIn i t ≤ s.greatest := by
  refine max_le ((hs.floor_le_mean hi).trans (hs.mean_le_greatest hi)) (min_le_of_left_le ?_)
  unfold ceiling
  split
  · exact le_rfl
  · exact hs.mean_le_greatest (by omega)

/-! ## The estimate -/

section Estimates

variable [ElementaryFunctions K]

theorem meanAt_number (hi : i < s.centroids.size) : s.number.meanAt i = .number (s.mean i) := by
  simp [meanAt, mean, number, Centroid.number, hi]

theorem weightAt_number (hi : i < s.centroids.size) :
    s.number.weightAt i = .number (s.weight i) := by
  simp [weightAt, weight, number, Centroid.number, hi]

theorem within_number {low high x : K} (hle : low ≤ high) :
    within (.number low) (.number high) (.number x) = Exact.number (max low (min high x)) := by
  simp only [within, Exact.lt_number, decide_eq_true_eq]
  rcases lt_or_ge high x with h | h
  · rw [if_pos h, min_eq_left h.le, max_eq_right hle]
  · rw [if_neg (not_lt_of_ge h), min_eq_right h]
    rcases lt_or_ge x low with h' | h'
    · rw [if_pos h', max_eq_left h'.le]
    · rw [if_neg (not_lt_of_ge h'), max_eq_right h']

variable [IsStrictOrderedRing K]

theorem slope_number (hi : i < s.centroids.size) :
    s.number.slope i = (.number (s.rise i), .number (s.floor i), .number (s.ceiling i)) := by
  unfold slope rise floor ceiling step
  rw [size_number]
  by_cases hone : s.centroids.size ≤ 1
  · obtain rfl : i = 0 := by omega
    rw [if_pos hone, if_pos hone, if_pos rfl, if_pos (by omega)]
    simp
  rw [if_neg hone, if_neg hone]
  by_cases hfirst : i = 0
  · subst hfirst
    rw [if_pos rfl, if_pos rfl, if_neg (by omega), meanAt_number hi,
      meanAt_number (by omega : 1 < s.centroids.size), Nat.zero_min, Exact.number_sub,
      add_self_div_two]
    rfl
  rw [if_neg hfirst, if_neg hfirst, Nat.sub_add_cancel (by omega),
    meanAt_number (by omega : i - 1 < s.centroids.size)]
  by_cases hlast : i + 1 = s.centroids.size
  · rw [if_pos (by omega), if_pos hlast, meanAt_number hi,
      (by omega : min i (s.centroids.size - 2) = i - 1), Nat.sub_add_cancel (by omega),
      Exact.number_sub, add_self_div_two]
    rfl
  · rw [if_neg (by omega), if_neg hlast, meanAt_number (by omega : i + 1 < s.centroids.size),
      Nat.min_eq_left (by omega), Exact.number_sub, Exact.ofNat_eq, Exact.number_div (by simp),
      Nat.cast_ofNat, sub_add_sub_cancel']

theorem half_number : (ofNat 1 / ofNat 2 : Exact K) = .number (1 / 2) := by
  rw [Exact.ofNat_div_ofNat 1 two_ne_zero, Nat.cast_one, Nat.cast_ofNat]

/-- The estimate of a share is the value in the place of its rank. -/
theorem Regular.estimate_number (hs : s.Regular) (hq : 0 ≤ q) (hq' : q < 1) :
    ∃ i, s.InPlace (q * s.count) i ∧ s.number.estimate (.number q) =
      .number (s.valueIn i ((q * s.count - s.before i) / s.weight i)) := by
  obtain ⟨i, hfound, hplace⟩ := hs.exists_search_number
    (lt (Exact.number (1 / 2)) (Exact.number q)) (s.number.centroids.size - 1)
    (mul_nonneg hq hs.count_pos.le) (mul_lt_of_lt_one_left hs.count_pos hq')
  have hi := hplace.lt_size
  have hweight : s.weight i ≠ 0 := (hs.weight_pos_of_lt hi).ne'
  have hrank : Exact.number q * ofNat s.number.count = .number (q * s.count) := rfl
  refine ⟨i, hplace, ?_⟩
  simp only [estimate, hrank, hfound, slope_number hi, meanAt_number hi, weightAt_number hi,
    half_number, Exact.number_sub, Exact.number_div hweight, Exact.number_mul, Exact.number_add]
  exact within_number ((hs.floor_le_mean hi).trans (hs.mean_le_ceiling hi))

theorem Regular.quantile_zero (hs : s.Regular) :
    s.number.quantile (.number 0) = .number s.least := by
  simp [quantile, hs.isEmpty_number]

theorem Regular.quantile_one (hs : s.Regular) :
    s.number.quantile (.number 1) = .number s.greatest := by
  simp [quantile, hs.isEmpty_number]

/-- The quantile of a share between 0 and 1 is the value in the place of its rank. -/
theorem Regular.quantile_number (hs : s.Regular) (hq : 0 < q) (hq' : q < 1) :
    ∃ i, s.InPlace (q * s.count) i ∧ s.number.quantile (.number q) =
      .number (s.valueIn i ((q * s.count - s.before i) / s.weight i)) := by
  obtain ⟨i, hplace, hestimate⟩ := hs.estimate_number hq.le hq'
  refine ⟨i, hplace, ?_⟩
  have hleast := not_lt_of_ge (hs.least_le_valueIn hplace.lt_size
    ((q * s.count - s.before i) / s.weight i))
  have hgreatest := not_lt_of_ge (hs.valueIn_le_greatest hplace.lt_size
    ((q * s.count - s.before i) / s.weight i))
  simp [quantile, hs.isEmpty_number, hq.le, hq'.le, hq.ne', hq'.ne, hestimate, hleast, hgreatest]

/-- The quantile of a share lies between the least and the greatest number. -/
theorem Regular.exists_quantile_number (hs : s.Regular) (hq : 0 ≤ q) (hq' : q ≤ 1) :
    ∃ x, s.number.quantile (.number q) = .number x ∧ s.least ≤ x ∧ x ≤ s.greatest := by
  rcases hq.eq_or_lt with rfl | hq
  · exact ⟨_, hs.quantile_zero, le_rfl, hs.least_le_greatest⟩
  rcases hq'.eq_or_lt with rfl | hq'
  · exact ⟨_, hs.quantile_one, hs.least_le_greatest, le_rfl⟩
  obtain ⟨i, hplace, hquantile⟩ := hs.quantile_number hq hq'
  exact ⟨_, hquantile, hs.least_le_valueIn hplace.lt_size _,
    hs.valueIn_le_greatest hplace.lt_size _⟩

end Estimates

end Sketch

end Logbook
