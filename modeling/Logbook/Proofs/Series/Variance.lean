import Mathlib.Algebra.Order.Ring.Rat
import Mathlib.Tactic.LinearCombination
import Logbook.Proofs.Filter.Statistics
import Logbook.Series.NumericSummary

/-!
# Mean and variance in one pass

A summary moves its mean with every reading and adds to its sum of squares a product of two
deviations, one from the mean before the move and one from that after it. Without rounding this comes
to the statistics by definition, which filters find in two passes.

* `Statistics.squaresAbout_mean_concat` — what one more number adds to the squares.
* `NumericSummary.Totals` — the summary holds the count, the sum, the mean and the squares of some
  numbers; `Totals.observe` and `totals_ofReadings` carry it through one step and through a run.
* `NumericSummary.variance_eq_sampleVariance` — both ways lead to the same variance.
-/

namespace Logbook

open Arithmetic

namespace Statistics

variable {K : Type} [Field K] [CharZero K]

/-! ## One more number -/

/-- The mean moves by the deviation of the new number over the new count. -/
theorem mean_concat (xs : List K) (x : K) :
    mean (xs ++ [x]) = mean xs + (x - mean xs) / (xs.length + 1 : Nat) := by
  have hlength : ((xs.length + 1 : Nat) : K) ≠ 0 := Nat.cast_ne_zero.2 (by omega)
  have hsum := mean_mul_length xs
  rw [mean, List.sum_append, List.sum_singleton, List.length_append, List.length_singleton]
  field_simp
  push_cast
  linear_combination -hsum

/-- The squares grow by the product of the deviations of the new number from the mean before it moves
and after that. -/
theorem squaresAbout_mean_concat (xs : List K) (x : K) :
    squaresAbout (mean (xs ++ [x])) (xs ++ [x]) =
      squaresAbout (mean xs) xs + (x - mean xs) * (x - mean (xs ++ [x])) := by
  have hlength : ((xs.length + 1 : Nat) : K) ≠ 0 := Nat.cast_ne_zero.2 (by omega)
  rw [squaresAbout_concat, squaresAbout_eq (mean (xs ++ [x])) xs, mean_concat]
  generalize mean xs = m
  push_cast at hlength ⊢
  field_simp
  ring

end Statistics

namespace NumericSummary

variable {K : Type} [Field K] [LinearOrder K] [ElementaryFunctions K]

/-! ## What a summary holds -/

/-- The summary holds the count, the sum, the mean and the squares about the mean of the numbers. -/
structure Totals (s : NumericSummary (Exact K)) (xs : List K) : Prop where
  count : s.count = xs.length
  sum : s.sum = .number xs.sum
  runningMean : s.runningMean = .number (Statistics.mean xs)
  squares : s.squares = .number (Statistics.squaresAbout (Statistics.mean xs) xs)

theorem totals_empty : Totals (empty : NumericSummary (Exact K)) [] := by
  have hzero : (Arithmetic.ofNat 0 : Exact K) = .number 0 := congrArg Exact.number Nat.cast_zero
  exact ⟨rfl, hzero, hzero.trans (by simp [Statistics.mean]), hzero⟩

variable {s : NumericSummary (Exact K)} {readings : List (Reading (Exact K))} {xs ys : List K}

theorem Totals.mean_eq (h : s.Totals xs) (hne : xs ≠ []) :
    s.mean = .number (Statistics.mean xs) := by
  have hcount : s.count ≠ 0 := h.count ▸ mt List.length_eq_zero_iff.1 hne
  rw [mean, if_neg hcount, h.runningMean]

theorem Totals.variance_of_lt (h : s.Totals xs) (hlt : xs.length < 2) : s.variance = nan :=
  if_neg (by rw [h.count]; omega)

variable [IsStrictOrderedRing K]

theorem Totals.variance_eq (h : s.Totals xs) (hle : 2 ≤ xs.length) :
    s.variance = .number (Statistics.variance xs) := by
  have hn : ((xs.length : K) - 1) ≠ 0 := (Statistics.length_sub_one_pos hle).ne'
  have hcast : ((xs.length - 1 : Nat) : K) = xs.length - 1 := Nat.cast_pred (by omega)
  rw [variance, if_pos (by rw [h.count]; omega), h.squares, h.count, Exact.ofNat_eq, hcast,
    Exact.number_div hn]
  rfl

/-! ## Steps and runs -/

/-- One more reading of a number is taken into all of them. -/
theorem Totals.observe (h : s.Totals xs) {r : Reading (Exact K)} {x : K} (hr : r.value = .number x) :
    (s.observe r).Totals (xs ++ [x]) := by
  have hlength : ((xs.length + 1 : Nat) : K) ≠ 0 := Nat.cast_ne_zero.2 (by omega)
  have hmean : (s.observe r).runningMean = .number (Statistics.mean (xs ++ [x])) := by
    show s.runningMean + (r.value - s.runningMean) / Arithmetic.ofNat (s.count + 1) = _
    rw [h.runningMean, h.count, hr, Exact.number_sub, Exact.ofNat_eq, Exact.number_div hlength,
      Exact.number_add, Statistics.mean_concat]
  refine ⟨?_, ?_, hmean, ?_⟩
  · show s.count + 1 = _
    rw [h.count, List.length_append, List.length_singleton]
  · show s.sum + r.value = _
    rw [h.sum, hr, Exact.number_add, List.sum_append, List.sum_singleton]
  · show s.squares + (r.value - s.runningMean) * (r.value - (s.observe r).runningMean) = _
    rw [h.squares, h.runningMean, hmean, hr, Exact.number_sub, Exact.number_sub, Exact.number_mul,
      Exact.number_add, Statistics.squaresAbout_mean_concat]

theorem Totals.foldl_observe (h : s.Totals ys) (hxs : readings.map (·.value) = xs.map .number) :
    (readings.foldl NumericSummary.observe s).Totals (ys ++ xs) := by
  induction readings generalizing s xs ys with
  | nil =>
    obtain rfl : xs = [] := List.map_eq_nil_iff.1 hxs.symm
    rwa [List.append_nil]
  | cons r readings ih =>
    obtain ⟨x, xs, rfl⟩ := List.exists_cons_of_ne_nil (l := xs) (by rintro rfl; cases hxs)
    obtain ⟨hx, hxs⟩ := List.cons.inj hxs
    rw [List.foldl_cons, List.append_cons]
    exact ih (h.observe hx) hxs

theorem totals_ofReadings (hxs : readings.map (·.value) = xs.map .number) :
    (ofReadings readings).Totals xs :=
  totals_empty.foldl_observe hxs

/-! ## Both ways -/

/-- **One pass comes to the statistics of two passes.** A summary of finite readings holds their sum,
their mean, and the sum of the squares of their deviations from it. So the variance of two or more of
them is the sample variance, which is not negative, and zero exactly if all readings are equal; it is
what filters find in two passes over the same values and take the root of. Of fewer than two readings
there is no variance in either way. -/
theorem variance_eq_sampleVariance (hne : readings ≠ [])
    (hfin : ∀ r ∈ readings, isFinite r.value = true) :
    ∃ xs : List K, readings.map (·.value) = xs.map .number ∧
      (ofReadings readings).sum = .number xs.sum ∧
      (ofReadings readings).mean = .number (xs.sum / xs.length) ∧
      (ofReadings readings).squares =
        .number (xs.map fun x => (x - xs.sum / xs.length) ^ 2).sum ∧
      (2 ≤ xs.length → ∃ v : K,
        (ofReadings readings).variance = .number v ∧
        v = (xs.map fun x => (x - xs.sum / xs.length) ^ 2).sum / (xs.length - 1) ∧
        0 ≤ v ∧ (v = 0 ↔ ∀ x ∈ xs, ∀ y ∈ xs, x = y)) ∧
      (xs.length < 2 →
        (ofReadings readings).variance = nan ∧ sampleDeviation (readings.map (·.value)) = nan) ∧
      sampleVariance (readings.map (·.value)) = (ofReadings readings).variance ∧
      sampleDeviation (readings.map (·.value)) = sqrt (ofReadings readings).variance := by
  have hvalues : ∀ v ∈ readings.map (·.value), isFinite v = true := by simpa using hfin
  obtain ⟨xs, hxs⟩ := Exact.exists_map_number hvalues
  have hne : xs ≠ [] := by
    rintro rfl
    exact hne (List.map_eq_nil_iff.1 hxs)
  have htotals := totals_ofReadings hxs
  have hsame : sampleVariance (readings.map (·.value)) = (ofReadings readings).variance := by
    rw [hxs]
    by_cases hlt : xs.length < 2
    · rw [htotals.variance_of_lt hlt, sampleVariance_of_lt (by rwa [List.length_map])]
    · rw [htotals.variance_eq (by omega), sampleVariance_number (by omega)]
  have hroot : sampleDeviation (readings.map (·.value)) = sqrt (ofReadings readings).variance :=
    congrArg sqrt hsame
  refine ⟨xs, hxs, htotals.sum, htotals.mean_eq hne, htotals.squares, ?_, ?_, hsame, hroot⟩
  · intro hle
    exact ⟨Statistics.variance xs, htotals.variance_eq hle, rfl, Statistics.variance_nonneg hle,
      Statistics.variance_eq_zero_iff hle⟩
  · intro hlt
    refine ⟨htotals.variance_of_lt hlt, ?_⟩
    rw [hroot, htotals.variance_of_lt hlt]
    rfl

/-- Eight readings with the mean 5 and squares of deviations that add up to 32. -/
theorem variance_eq_sampleVariance_eight :
    ∃ readings : List (Reading (Exact ℚ)),
      readings.map (·.value) = ([2, 4, 4, 4, 5, 5, 7, 9] : List ℚ).map .number ∧
      readings ≠ [] ∧ (∀ r ∈ readings, isFinite r.value = true) ∧
      (ofReadings readings).mean = .number 5 ∧ (ofReadings readings).variance = .number (32 / 7) ∧
      sampleVariance (readings.map (·.value)) = .number (32 / 7) := by
  let readings : List (Reading (Exact ℚ)) := ([2, 4, 4, 4, 5, 5, 7, 9] : List ℚ).map fun x =>
    ⟨1, ⟨⟨0, 0, by omega⟩, by decide⟩, .number x⟩
  have hne : readings ≠ [] := by decide
  have hfin : ∀ r ∈ readings, isFinite r.value = true := by decide
  obtain ⟨xs, hxs, -, hmean, -, hvariance, -, hsame, -⟩ := variance_eq_sampleVariance hne hfin
  obtain rfl : xs = [2, 4, 4, 4, 5, 5, 7, 9] :=
    (List.map_injective_iff.2 (fun _ _ => Exact.number.inj) hxs).symm
  obtain ⟨v, hv, hvalue, -⟩ := hvariance (by decide)
  have hmean' : ([2, 4, 4, 4, 5, 5, 7, 9] : List ℚ).sum /
      (([2, 4, 4, 4, 5, 5, 7, 9] : List ℚ).length : ℚ) = 5 := by norm_num
  have hv' : v = 32 / 7 := by
    rw [hvalue, hmean']
    norm_num
  refine ⟨readings, rfl, hne, hfin, ?_, ?_, ?_⟩
  · rw [hmean, hmean']
  · rw [hv, hv']
  · rw [hsame, hv, hv']

end NumericSummary

end Logbook
