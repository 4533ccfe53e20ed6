import Mathlib.Algebra.Order.Group.MinMax
import Mathlib.Tactic.Ring
import Logbook.Proofs.Series.Quantiles

/-!
# The order of quantiles

Quantiles rise with the share inside of one centroid. From one centroid to the next they rise only
if the means around them are evenly spaced, since the estimates approach a step between two means
with slopes that come from the steps beside it.

* `Sketch.EvenlySpaced` — no step between neighbouring means is shorter than the mean of the steps
  beside it, except where neighbours have the same mean.
* `Sketch.Regular.joins_iff` — the values of two neighbouring centroids are in order exactly if this
  holds of the step between them.
* `Sketch.Regular.quantile_le_quantile`, `Sketch.Regular.even_of_quantile_le` — all quantiles are in
  order exactly if it holds of every step.
-/

namespace Logbook

open Arithmetic

/-! ## Even spacing -/

namespace Sketch

section Spacing

variable {α : Type} [Arithmetic α]

/-- The step from the mean of a centroid to the next one. -/
def gap (s : Sketch α) (i : Nat) : α :=
  s.meanAt (i + 1) - s.meanAt i

/-- Each step between neighbouring means is 0 or at least the mean of the steps before and after it,
where the first step stands for the one before it and the last one for the one after it. -/
def EvenlySpaced (s : Sketch α) : Prop :=
  ∀ i < s.centroids.size - 1, eq (s.gap i) (ofNat 0) = true ∨
    le (s.gap (i - 1) + s.gap (min (i + 1) (s.centroids.size - 2))) (ofNat 2 * s.gap i) = true

instance (s : Sketch α) : Decidable s.EvenlySpaced :=
  inferInstanceAs (Decidable (∀ i < _, _))

end Spacing

variable {K : Type} [Field K]

/-- Even spacing of a sketch of numbers. -/
def Even [LinearOrder K] (s : Sketch K) : Prop :=
  ∀ i < s.centroids.size - 1,
    s.step i = 0 ∨
      s.step (i - 1) + s.step (min (i + 1) (s.centroids.size - 2)) ≤ s.step i + s.step i

variable {s : Sketch K} {i j : Nat} {p q t u : K}

theorem rise_of_succ_lt (hi : i + 1 < s.centroids.size) :
    s.rise i = (s.step (i - 1) + s.step i) / 2 := by
  rw [rise, if_neg (by omega), Nat.min_eq_left (by omega)]

theorem rise_succ (hi : i + 1 < s.centroids.size) :
    s.rise (i + 1) = (s.step i + s.step (min (i + 1) (s.centroids.size - 2))) / 2 := by
  rw [rise, if_neg (by omega), Nat.add_sub_cancel]

variable [LinearOrder K]

theorem gap_number [ElementaryFunctions K] (hi : i + 1 < s.centroids.size) :
    s.number.gap i = .number (s.step i) := by
  rw [gap, meanAt_number hi, meanAt_number (Nat.lt_of_succ_lt hi), Exact.number_sub, step]

theorem evenlySpaced_number_iff [ElementaryFunctions K] : s.number.EvenlySpaced ↔ s.Even := by
  unfold EvenlySpaced Even
  rw [size_number]
  refine forall₂_congr fun i hi => ?_
  rw [gap_number (by omega), gap_number (by omega), gap_number (by omega)]
  simp [two_mul]

variable [IsStrictOrderedRing K]

/-! ## From one value to the next -/

theorem Regular.step_nonneg (hs : s.Regular) (hi : i + 1 < s.centroids.size) : 0 ≤ s.step i :=
  sub_nonneg.2 (hs.mean_le (Nat.le_succ i) hi)

theorem Regular.rise_nonneg (hs : s.Regular) (hi : i < s.centroids.size) : 0 ≤ s.rise i := by
  unfold rise
  split
  · exact le_rfl
  · have hbefore : 0 ≤ s.step (i - 1) := hs.step_nonneg (by omega)
    have hafter : 0 ≤ s.step (min i (s.centroids.size - 2)) := hs.step_nonneg (by omega)
    linarith

/-- Inside of one centroid values rise with the part of its weight that lies below. -/
theorem Regular.valueIn_mono (hs : s.Regular) (hi : i < s.centroids.size) (htu : t ≤ u) :
    s.valueIn i t ≤ s.valueIn i u := by
  have hrise := mul_le_mul_of_nonneg_right (sub_le_sub_right htu (1 / 2)) (hs.rise_nonneg hi)
  exact max_le_max_left _ (min_le_min_left _ (add_le_add_right hrise _))

/-- The value that is approached at the end of a centroid. -/
theorem Regular.valueIn_one (hs : s.Regular) (hi : i + 1 < s.centroids.size) :
    s.valueIn i 1 = s.mean i + min (s.step i) ((s.step (i - 1) + s.step i) / 4) := by
  have hstep := hs.step_nonneg hi
  have hbefore : 0 ≤ s.step (i - 1) := hs.step_nonneg (by omega)
  have hceiling : s.ceiling i = s.mean i + s.step i := by
    rw [ceiling, if_neg hi.ne, step]
    ring
  have hhalf : (1 - 1 / 2 : K) * ((s.step (i - 1) + s.step i) / 2) =
      (s.step (i - 1) + s.step i) / 4 := by
    ring
  rw [valueIn, hceiling, rise_of_succ_lt hi, hhalf, min_add_add_left, max_eq_right]
  exact (hs.floor_le_mean (by omega)).trans
    (le_add_of_nonneg_right (le_min hstep (by linarith)))

/-- The value at the start of a centroid. -/
theorem Regular.valueIn_zero (hs : s.Regular) (hi : i + 1 < s.centroids.size) :
    s.valueIn (i + 1) 0 = s.mean (i + 1) -
      min (s.step i) ((s.step i + s.step (min (i + 1) (s.centroids.size - 2))) / 4) := by
  have hstep := hs.step_nonneg hi
  have hafter : 0 ≤ s.step (min (i + 1) (s.centroids.size - 2)) := hs.step_nonneg (by omega)
  have hfloor : s.floor (i + 1) = s.mean (i + 1) - s.step i := by
    rw [floor, if_neg (Nat.succ_ne_zero i), Nat.add_sub_cancel, step]
    ring
  have hhalf : s.mean (i + 1) + (0 - 1 / 2 : K) *
        ((s.step i + s.step (min (i + 1) (s.centroids.size - 2))) / 2) =
      s.mean (i + 1) - (s.step i + s.step (min (i + 1) (s.centroids.size - 2))) / 4 := by
    ring
  rw [valueIn, hfloor, rise_succ hi, hhalf, min_eq_right, max_sub_sub_left]
  exact (sub_le_self _ (by linarith)).trans (hs.mean_le_ceiling hi)

/-- Half the rises at the two ends of a step fit into it exactly if it is 0 or at least the mean of
the steps beside it. -/
theorem min_add_min_le_iff {a b c : K} (ha : 0 ≤ a) (hb : 0 ≤ b) (hc : 0 ≤ c) :
    min b ((a + b) / 4) + min b ((b + c) / 4) ≤ b ↔ b = 0 ∨ a + c ≤ b + b := by
  constructor
  · intro h
    by_contra hnot
    obtain ⟨hb', hsteep⟩ := not_or.1 hnot
    have hpos : 0 < b := lt_of_le_of_ne hb (Ne.symm hb')
    rcases le_total b ((a + b) / 4) with h1 | h1 <;> rcases le_total b ((b + c) / 4) with h2 | h2
    · rw [min_eq_left h1, min_eq_left h2] at h
      linarith
    · rw [min_eq_left h1, min_eq_right h2] at h
      linarith
    · rw [min_eq_right h1, min_eq_left h2] at h
      linarith
    · rw [min_eq_right h1, min_eq_right h2] at h
      exact hsteep (by linarith)
  · rintro (rfl | hflat)
    · exact add_nonpos (min_le_left _ _) (min_le_left _ _)
    · linarith [min_le_right b ((a + b) / 4), min_le_right b ((b + c) / 4)]

/-- The values of two neighbouring centroids are in order exactly if the step between their means is
0 or at least the mean of the steps beside it. -/
theorem Regular.joins_iff (hs : s.Regular) (hi : i + 1 < s.centroids.size) :
    s.valueIn i 1 ≤ s.valueIn (i + 1) 0 ↔ s.step i = 0 ∨
      s.step (i - 1) + s.step (min (i + 1) (s.centroids.size - 2)) ≤ s.step i + s.step i := by
  rw [hs.valueIn_one hi, hs.valueIn_zero hi, ← min_add_min_le_iff (hs.step_nonneg (by omega))
    (hs.step_nonneg hi) (hs.step_nonneg (by omega)), le_sub_iff_add_le, add_assoc,
    ← le_sub_iff_add_le', step]

/-- In an evenly spaced sketch the end of a centroid is not above the start of a later one. -/
theorem Regular.valueIn_one_le (hs : s.Regular) (heven : s.Even) (hij : i < j)
    (hj : j < s.centroids.size) : s.valueIn i 1 ≤ s.valueIn j 0 := by
  induction j, hij using Nat.le_induction with
  | base => exact (hs.joins_iff hj).2 (heven i (by omega))
  | succ j hij ih =>
    calc s.valueIn i 1 ≤ s.valueIn j 0 := ih (by omega)
      _ ≤ s.valueIn j 1 := hs.valueIn_mono (by omega) zero_le_one
      _ ≤ s.valueIn (j + 1) 0 := (hs.joins_iff hj).2 (heven j (by omega))

/-- The values before the end of a centroid come as close to the value at its end as one likes. -/
theorem Regular.exists_lt_valueIn (hs : s.Regular) (hi : i < s.centroids.size) {y : K}
    (hy : y < s.valueIn i 1) : ∃ t, 0 < t ∧ t < 1 ∧ y < s.valueIn i t := by
  rcases lt_max_iff.1 hy with hfloor | hy
  · exact ⟨1 / 2, by norm_num, by norm_num, lt_max_of_lt_left hfloor⟩
  · obtain ⟨hceiling, hmean⟩ := lt_min_iff.1 hy
    obtain ⟨e, he, hsmall⟩ := exists_pos_mul_lt (sub_pos.2 hmean) (s.rise i)
    refine ⟨1 - min e (1 / 2), ?_, ?_, lt_max_of_lt_right (lt_min hceiling ?_)⟩
    · linarith [min_le_right e (1 / 2 : K)]
    · linarith [lt_min he (by norm_num : (0 : K) < 1 / 2)]
    · have hle := mul_le_mul_of_nonneg_left (min_le_left e (1 / 2)) (hs.rise_nonneg hi)
      have hsplit : (1 - min e (1 / 2) - 1 / 2) * s.rise i =
          (1 - 1 / 2) * s.rise i - s.rise i * min e (1 / 2) := by
        ring
      rw [hsplit]
      linarith

/-! ## Quantiles in order -/

variable [ElementaryFunctions K]

/-- Values in place are quantiles of shares. -/
theorem Regular.quantile_share (hs : s.Regular) (hi : i < s.centroids.size) (ht : 0 ≤ t)
    (ht' : t < 1) (hpos : 0 < s.before i + t * s.weight i) :
    s.number.quantile (.number ((s.before i + t * s.weight i) / s.count)) =
      .number (s.valueIn i t) := by
  have hcount := hs.count_pos
  have hweight := hs.weight_pos_of_lt hi
  have hplace : s.InPlace (s.before i + t * s.weight i) i := by
    refine ⟨le_add_of_nonneg_right (mul_nonneg ht hweight.le), ?_⟩
    rw [before_succ]
    exact add_lt_add_right (mul_lt_of_lt_one_left hweight ht') _
  have hlt : s.before i + t * s.weight i < s.count := by
    rw [← hs.weights]
    exact hplace.2.trans_le (hs.before_le hi)
  obtain ⟨j, hplace', hquantile⟩ :=
    hs.quantile_number (div_pos hpos hcount) ((div_lt_one hcount).2 hlt)
  rw [div_mul_cancel₀ _ hcount.ne'] at hplace' hquantile
  obtain rfl : j = i :=
    le_antisymm (hs.place_le hplace' hplace le_rfl) (hs.place_le hplace hplace' le_rfl)
  rw [hquantile, add_sub_cancel_left, mul_div_cancel_right₀ _ hweight.ne']

/-- In an evenly spaced sketch quantiles rise with the share. -/
theorem Regular.quantile_le_quantile (hs : s.Regular) (heven : s.Even) (hp : 0 ≤ p) (hpq : p ≤ q)
    (hq : q ≤ 1) : le (s.number.quantile (.number p)) (s.number.quantile (.number q)) = true := by
  rcases hp.eq_or_lt with rfl | hp
  · obtain ⟨y, hy, hle, -⟩ := hs.exists_quantile_number hpq hq
    simpa [hs.quantile_zero, hy] using hle
  rcases hq.eq_or_lt with rfl | hq
  · obtain ⟨x, hx, -, hle⟩ := hs.exists_quantile_number hp.le hpq
    simpa [hs.quantile_one, hx] using hle
  obtain ⟨i, hplace, hi⟩ := hs.quantile_number hp (hpq.trans_lt hq)
  obtain ⟨j, hplace', hj⟩ := hs.quantile_number (hp.trans_le hpq) hq
  have hrank : p * s.count ≤ q * s.count := mul_le_mul_of_nonneg_right hpq hs.count_pos.le
  have hweight := hs.weight_pos_of_lt hplace.lt_size
  rw [hi, hj, Exact.le_number, decide_eq_true_eq]
  rcases (hs.place_le hplace hplace' hrank).eq_or_lt with rfl | hij
  · exact hs.valueIn_mono hplace.lt_size
      (div_le_div_of_nonneg_right (sub_le_sub_right hrank _) hweight.le)
  · have hend : (p * s.count - s.before i) / s.weight i ≤ 1 := by
      rw [div_le_one hweight]
      linarith [hplace.2, before_succ s i]
    have hstart : 0 ≤ (q * s.count - s.before j) / s.weight j :=
      div_nonneg (sub_nonneg.2 hplace'.1) (hs.weight_pos_of_lt hplace'.lt_size).le
    calc s.valueIn i ((p * s.count - s.before i) / s.weight i)
        ≤ s.valueIn i 1 := hs.valueIn_mono hplace.lt_size hend
      _ ≤ s.valueIn j 0 := hs.valueIn_one_le heven hij hplace'.lt_size
      _ ≤ s.valueIn j ((q * s.count - s.before j) / s.weight j) :=
        hs.valueIn_mono hplace'.lt_size hstart

/-- If quantiles rise with the share, the sketch is evenly spaced: where two centroids are out of
order, so are a share just before the later one and the share at its start. -/
theorem Regular.even_of_quantile_le (hs : s.Regular)
    (hmono : ∀ p q : K, 0 ≤ p → p ≤ q → q ≤ 1 →
      le (s.number.quantile (.number p)) (s.number.quantile (.number q)) = true) : s.Even := by
  intro i hi
  have hi' : i + 1 < s.centroids.size := by omega
  rw [← hs.joins_iff hi']
  by_contra hnot
  obtain ⟨t, ht, ht', hlt⟩ := hs.exists_lt_valueIn (Nat.lt_of_succ_lt hi') (lt_of_not_ge hnot)
  have hcount := hs.count_pos
  have hweight := hs.weight_pos_of_lt (Nat.lt_of_succ_lt hi')
  have hbefore : 0 ≤ s.before i := before_zero s ▸ hs.before_le (Nat.zero_le i)
  have hpart : 0 < t * s.weight i := mul_pos ht hweight
  have hrank : s.before i + t * s.weight i ≤ s.before (i + 1) := by
    rw [before_succ]
    linarith [mul_lt_of_lt_one_left hweight ht']
  have htotal : s.before (i + 1) ≤ s.count := hs.weights ▸ hs.before_le hi'.le
  have hearly := hs.quantile_share (Nat.lt_of_succ_lt hi') ht.le ht' (by linarith)
  have hlate : s.number.quantile (.number (s.before (i + 1) / s.count)) =
      .number (s.valueIn (i + 1) 0) := by
    simpa using hs.quantile_share (t := 0) hi' le_rfl zero_lt_one (by linarith)
  have hle := hmono ((s.before i + t * s.weight i) / s.count) (s.before (i + 1) / s.count)
    (div_nonneg (by linarith) hcount.le) (div_le_div_of_nonneg_right hrank hcount.le)
    ((div_le_one hcount).2 htotal)
  rw [hearly, hlate, Exact.le_number, decide_eq_true_eq] at hle
  exact absurd hle (not_le_of_gt hlt)

end Sketch

end Logbook
