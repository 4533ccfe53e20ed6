import Mathlib.Algebra.BigOperators.Ring.List
import Mathlib.Algebra.Order.BigOperators.Group.List
import Mathlib.Data.List.Induction
import Mathlib.Tactic.FieldSimp
import Mathlib.Tactic.Ring
import Logbook.Filter.Basic
import Logbook.Proofs.Number.Exact

/-!
# Mean and variance of exact numbers

What the statistics of a list come to when nothing is rounded.

* `Statistics.mean`, `Statistics.squaresAbout`, `Statistics.variance` — the statistics of the numbers
  of a field, by their definitions.
* `Statistics.squaresAbout_eq` — deviations from anything but the mean have greater squares.
* `Statistics.variance_eq_zero_iff` — only equal numbers do not vary.
* `Statistics.le_mean`, `Statistics.mean_le` — the mean lies between the bounds of the numbers.
* `Statistics.rescaled` — the numbers moved and scaled; `mean_rescaled` and `squaresAbout_rescaled` say
  what becomes of the statistics, and `isLeast_rescaled` and `isGreatest_rescaled` of the extremes.
* `Statistics.place_between` — where a number stands between the extremes.
* `average_number`, `sampleVariance_number`, `exists_sampleDeviation` — what is computed of numbers are
  these statistics.
* `exists_minimum`, `exists_maximum` — the least and the greatest of numbers are found, and
  `forall_eq_iff_of_extremes` tells by them whether all are equal.
-/

namespace Logbook

open Arithmetic

variable {K : Type} [Field K]

namespace Statistics

/-! ## The definitions -/

/-- The sum of some numbers over their count; 0 for none. -/
def mean (xs : List K) : K :=
  xs.sum / xs.length

/-- The squares of the deviations from `c`, added up. -/
def squaresAbout (c : K) (xs : List K) : K :=
  (xs.map fun x => (x - c) ^ 2).sum

/-- The sample variance: the squares of the deviations from the mean, over one less than the count. -/
def variance (xs : List K) : K :=
  squaresAbout (mean xs) xs / (xs.length - 1)

@[simp] theorem squaresAbout_nil (c : K) : squaresAbout c [] = 0 := rfl

theorem squaresAbout_cons (c x : K) (xs : List K) :
    squaresAbout c (x :: xs) = (x - c) ^ 2 + squaresAbout c xs := rfl

@[simp] theorem squaresAbout_concat (c : K) (xs : List K) (x : K) :
    squaresAbout c (xs ++ [x]) = squaresAbout c xs + (x - c) ^ 2 := by
  simp [squaresAbout]

theorem mean_mul_length [CharZero K] (xs : List K) : mean xs * xs.length = xs.sum := by
  rcases xs.eq_nil_or_concat with rfl | ⟨ys, y, rfl⟩
  · simp
  · exact div_mul_cancel₀ _ (Nat.cast_ne_zero.2 (by simp))

/-! ## Deviations -/

/-- The deviations from the mean cancel out, so all that is left of another reference is its own
deviation, once for each number. -/
theorem squaresAbout_eq [CharZero K] (c : K) (xs : List K) :
    squaresAbout c xs = squaresAbout (mean xs) xs + xs.length * (mean xs - c) ^ 2 := by
  have hexpand : ∀ b : K, squaresAbout b xs =
      (xs.map (· ^ 2)).sum - 2 * b * xs.sum + xs.length * b ^ 2 := by
    intro b
    induction xs using List.reverseRecOn with
    | nil => simp
    | append_singleton xs x ih =>
      rw [squaresAbout_concat, ih]
      simp only [List.map_append, List.map_cons, List.map_nil, List.sum_append, List.sum_cons,
        List.sum_nil, List.length_append, List.length_cons, List.length_nil]
      push_cast
      ring
  rw [hexpand c, hexpand (mean xs), ← mean_mul_length xs]
  ring

/-! ## Moving and scaling -/

/-- The numbers moved and scaled so that `c` becomes 0 and `c + d` becomes 1. -/
def rescaled (c d : K) (xs : List K) : List K :=
  xs.map fun x => (x - c) / d

@[simp] theorem length_rescaled (c d : K) (xs : List K) : (rescaled c d xs).length = xs.length :=
  List.length_map _

theorem sum_rescaled (c d : K) (xs : List K) :
    (rescaled c d xs).sum = (xs.sum - xs.length * c) / d := by
  induction xs with
  | nil => simp [rescaled]
  | cons x xs ih =>
    rw [rescaled, List.map_cons, ← rescaled, List.sum_cons, ih, List.sum_cons, List.length_cons]
    push_cast
    ring

theorem mean_rescaled [CharZero K] {xs : List K} (hne : xs ≠ []) (c d : K) :
    mean (rescaled c d xs) = (mean xs - c) / d := by
  have hlength : (xs.length : K) ≠ 0 := Nat.cast_ne_zero.2 (mt List.length_eq_zero_iff.1 hne)
  rw [mean, sum_rescaled, length_rescaled, mean, div_right_comm, sub_div,
    mul_div_cancel_left₀ c hlength]

theorem squaresAbout_rescaled (b c d : K) (xs : List K) :
    squaresAbout ((b - c) / d) (rescaled c d xs) = squaresAbout b xs / d ^ 2 := by
  induction xs with
  | nil => simp [rescaled]
  | cons x xs ih =>
    rw [rescaled, List.map_cons, ← rescaled, squaresAbout_cons, ih, squaresAbout_cons]
    ring

variable [LinearOrder K] [IsStrictOrderedRing K]

theorem strictMono_rescaled (c : K) {d : K} (hd : 0 < d) : StrictMono fun x => (x - c) / d :=
  fun _ _ hxy => div_lt_div_of_pos_right (sub_lt_sub_right hxy c) hd

theorem monotone_rescaled (c : K) {d : K} (hd : 0 ≤ d) : Monotone fun x => (x - c) / d :=
  fun _ _ hxy => div_le_div_of_nonneg_right (sub_le_sub_right hxy c) hd

theorem isLeast_rescaled (c : K) {d m : K} {xs : List K} (hd : 0 ≤ d) (h : IsLeast {x | x ∈ xs} m) :
    IsLeast {x | x ∈ rescaled c d xs} ((m - c) / d) := by
  simpa [Set.image, rescaled] using (monotone_rescaled c hd).map_isLeast h

theorem isGreatest_rescaled (c : K) {d m : K} {xs : List K} (hd : 0 ≤ d)
    (h : IsGreatest {x | x ∈ xs} m) : IsGreatest {x | x ∈ rescaled c d xs} ((m - c) / d) := by
  simpa [Set.image, rescaled] using (monotone_rescaled c hd).map_isGreatest h

/-- Where a member stands between the extremes, as a number from 0 for the least to 1 for the greatest. -/
theorem place_between {s : Set K} {low high x : K} (hlow : IsLeast s low) (hhigh : IsGreatest s high)
    (hlt : low < high) (hx : x ∈ s) :
    0 ≤ (x - low) / (high - low) ∧ (x - low) / (high - low) ≤ 1 ∧
      ((x - low) / (high - low) = 0 ↔ IsLeast s x) ∧
      ((x - low) / (high - low) = 1 ↔ IsGreatest s x) := by
  have hspan : 0 < high - low := sub_pos.2 hlt
  refine ⟨div_nonneg (sub_nonneg.2 (hlow.2 hx)) hspan.le,
    (div_le_one hspan).2 (sub_le_sub_right (hhigh.2 hx) low), ?_, ?_⟩
  · rw [div_eq_zero_iff, or_iff_left hspan.ne', sub_eq_zero]
    exact ⟨fun h => h ▸ hlow, fun h => h.unique hlow⟩
  · rw [div_eq_one_iff_eq hspan.ne', sub_left_inj]
    exact ⟨fun h => h ▸ hhigh, fun h => h.unique hhigh⟩

theorem squaresAbout_nonneg (c : K) (xs : List K) : 0 ≤ squaresAbout c xs := by
  refine List.sum_nonneg fun y hy => ?_
  obtain ⟨x, -, rfl⟩ := List.mem_map.1 hy
  exact sq_nonneg _

/-- Only numbers that do not deviate have no squares of deviations. -/
theorem squaresAbout_eq_zero_iff (c : K) (xs : List K) : squaresAbout c xs = 0 ↔ ∀ x ∈ xs, x = c := by
  induction xs using List.reverseRecOn with
  | nil => simp
  | append_singleton xs x ih =>
    have hrest := squaresAbout_nonneg c xs
    rw [squaresAbout_concat, add_eq_zero_iff_of_nonneg hrest (sq_nonneg _), ih, sq_eq_zero_iff,
      sub_eq_zero]
    simp [or_imp, forall_and]

/-! ## The variance -/

variable {xs : List K}

theorem length_sub_one_pos (h : 2 ≤ xs.length) : (0 : K) < xs.length - 1 := by
  have : (1 : K) < xs.length := by exact_mod_cast h
  exact sub_pos.2 this

theorem variance_nonneg (h : 2 ≤ xs.length) : 0 ≤ variance xs :=
  div_nonneg (squaresAbout_nonneg _ xs) (length_sub_one_pos h).le

/-- Only equal numbers do not vary. -/
theorem variance_eq_zero_iff (h : 2 ≤ xs.length) :
    variance xs = 0 ↔ ∀ x ∈ xs, ∀ y ∈ xs, x = y := by
  have hn : ((xs.length : K) - 1) ≠ 0 := (length_sub_one_pos h).ne'
  rw [variance, div_eq_zero_iff, or_iff_left hn, squaresAbout_eq_zero_iff]
  constructor
  · intro hall x hx y hy
    rw [hall x hx, hall y hy]
  · intro hall x hx
    have hsum : xs.sum = xs.length * x := by
      rw [List.sum_eq_card_nsmul xs x fun y hy => hall y hy x hx, nsmul_eq_mul]
    have hlength : (xs.length : K) ≠ 0 := Nat.cast_ne_zero.2 (by omega)
    rw [mean, hsum, mul_div_cancel_left₀ x hlength]

/-! ## Numbers with mean 0 and deviation 1 -/

/-- Numbers that are moved by their mean and scaled by their deviation have the mean 0, and their squares
come to one less than their count. -/
theorem standardized (h : 2 ≤ xs.length) {deviation : K} (hpos : 0 < deviation)
    (hsquares : deviation ^ 2 * (xs.length - 1) = squaresAbout (mean xs) xs) :
    mean (rescaled (mean xs) deviation xs) = 0 ∧
      squaresAbout 0 (rescaled (mean xs) deviation xs) = xs.length - 1 := by
  have hne : xs ≠ [] := List.length_pos_iff.1 (by omega)
  have hzero : (mean xs - mean xs) / deviation = 0 := by rw [sub_self, zero_div]
  refine ⟨(mean_rescaled hne _ _).trans hzero, ?_⟩
  rw [← hzero, squaresAbout_rescaled, ← hsquares, mul_div_cancel_left₀ _ (pow_pos hpos 2).ne']

/-! ## Bounds of the mean -/

theorem le_mean (hne : xs ≠ []) {low : K} (h : ∀ x ∈ xs, low ≤ x) : low ≤ mean xs := by
  have hlength : (0 : K) < xs.length := Nat.cast_pos.2 (List.length_pos_iff.2 hne)
  have hsum := List.card_nsmul_le_sum xs low h
  rw [nsmul_eq_mul] at hsum
  rwa [mean, le_div_iff₀ hlength, mul_comm]

theorem mean_le (hne : xs ≠ []) {high : K} (h : ∀ x ∈ xs, x ≤ high) : mean xs ≤ high := by
  have hlength : (0 : K) < xs.length := Nat.cast_pos.2 (List.length_pos_iff.2 hne)
  have hsum := List.sum_le_card_nsmul xs high h
  rw [nsmul_eq_mul] at hsum
  rwa [mean, div_le_iff₀ hlength, mul_comm]

end Statistics

/-! ## What is computed of numbers -/

section Computed

variable [LinearOrder K] [ElementaryFunctions K]

theorem sum_number (xs : List K) : sum (xs.map Exact.number) = .number xs.sum := by
  induction xs using List.reverseRecOn with
  | nil => rfl
  | append_singleton xs x ih =>
    rw [sum, List.map_append, List.foldl_append, ← sum, ih, List.sum_append]
    simp

variable {xs : List K}

theorem average_number [CharZero K] (hne : xs ≠ []) :
    average (xs.map Exact.number) = .number (Statistics.mean xs) := by
  have hlength : (xs.length : K) ≠ 0 := Nat.cast_ne_zero.2 (mt List.length_eq_zero_iff.1 hne)
  rw [average, sum_number, List.length_map, Exact.ofNat_eq, Exact.number_div hlength]
  rfl

theorem sampleVariance_of_lt {values : List (Exact K)} (h : values.length < 2) :
    sampleVariance values = nan :=
  if_pos h

/-- The variance in two passes: first the mean, then the deviations from it. -/
theorem sampleVariance_number [IsStrictOrderedRing K] (h : 2 ≤ xs.length) :
    sampleVariance (xs.map Exact.number) = .number (Statistics.variance xs) := by
  have hne : xs ≠ [] := by
    rintro rfl
    cases h
  have hn : ((xs.length : K) - 1) ≠ 0 := (Statistics.length_sub_one_pos h).ne'
  have hsquares : (xs.map Exact.number).map (fun x =>
      (x - Exact.number (Statistics.mean xs)) * (x - Exact.number (Statistics.mean xs))) =
      (xs.map fun x => (x - Statistics.mean xs) ^ 2).map Exact.number := by
    simp [List.map_map, Function.comp_def, sq]
  rw [sampleVariance, List.length_map, if_neg (by omega), average_number hne]
  dsimp only
  rw [hsquares, sum_number, Exact.ofNat_eq, Exact.ofNat_eq, Exact.number_sub, Nat.cast_one,
    Exact.number_div hn]
  rfl

theorem sampleDeviation_of_lt {values : List (Exact K)} (h : values.length < 2) :
    sampleDeviation values = nan := by
  rw [sampleDeviation, sampleVariance_of_lt h]
  rfl

/-- The sample deviation is the root of the variance, so that it is zero only of equal numbers. -/
theorem exists_sampleDeviation [IsStrictOrderedRing K] [LawfulRoots K] (h : 2 ≤ xs.length) :
    ∃ deviation : K, sampleDeviation (xs.map Exact.number) = .number deviation ∧ 0 ≤ deviation ∧
      deviation ^ 2 * (xs.length - 1) = Statistics.squaresAbout (Statistics.mean xs) xs ∧
      (deviation = 0 ↔ ∀ x ∈ xs, ∀ y ∈ xs, x = y) := by
  obtain ⟨deviation, hroot, hnonneg, hsq⟩ := LawfulRoots.exists_root (Statistics.variance_nonneg h)
  have hn : ((xs.length : K) - 1) ≠ 0 := (Statistics.length_sub_one_pos h).ne'
  refine ⟨deviation, ?_, hnonneg, ?_, ?_⟩
  · rw [sampleDeviation, sampleVariance_number h]
    exact hroot
  · rw [hsq, Statistics.variance, div_mul_cancel₀ _ hn]
  · rw [← Statistics.variance_eq_zero_iff h, ← hsq, sq_eq_zero_iff]

/-! ## Extremes -/

theorem least_eq_min (x y : K) :
    least (Exact.number x) (Exact.number y) = .number (min x y) := by
  rw [least, Exact.lt_number, min_def]
  by_cases h : y < x
  · rw [if_pos (decide_eq_true h), if_neg h.not_ge]
  · rw [if_neg (by simpa using h), if_pos (not_lt.1 h)]

theorem greatest_eq_max (x y : K) :
    greatest (Exact.number x) (Exact.number y) = .number (max x y) := by
  rw [greatest, Exact.lt_number, max_def]
  by_cases h : x < y
  · rw [if_pos (decide_eq_true h), if_pos h.le]
  · rw [if_neg (by simpa using h)]
    rcases (not_lt.1 h).eq_or_lt with rfl | hlt
    · rw [if_pos le_rfl]
    · rw [if_neg hlt.not_ge]

omit [Field K] [LinearOrder K] [ElementaryFunctions K] in
/-- Of numbers that are chosen from one after the other, one is left, which is in relation to all of
them if a choice always is to both that it is made from. -/
theorem exists_chosen (choose : Exact K → Exact K → Exact K) (start : Exact K) {pick : K → K → K}
    (r : K → K → Prop) (hrefl : ∀ x, r x x) (htrans : ∀ {x y z}, r x y → r y z → r x z)
    (hstart : ∀ x, choose start (.number x) = .number x)
    (hchoose : ∀ x y, choose (.number x) (.number y) = .number (pick x y))
    (hpick : ∀ x y, (pick x y = x ∨ pick x y = y) ∧ r (pick x y) x ∧ r (pick x y) y)
    (hne : xs ≠ []) :
    ∃ m ∈ xs, (xs.map Exact.number).foldl choose start = .number m ∧ ∀ x ∈ xs, r m x := by
  induction xs using List.reverseRecOn with
  | nil => exact absurd rfl hne
  | append_singleton xs x ih =>
    rw [List.map_append, List.foldl_append]
    rcases eq_or_ne xs [] with rfl | hxs
    · exact ⟨x, by simp, hstart x, by simpa using hrefl x⟩
    · obtain ⟨m, hm, hfold, hall⟩ := ih hxs
      obtain ⟨hmem, hleft, hright⟩ := hpick m x
      refine ⟨pick m x, ?_, ?_, fun y hy => ?_⟩
      · rcases hmem with h | h
        · rw [h]
          exact List.mem_append_left _ hm
        · rw [h]
          exact List.mem_append_right _ List.mem_cons_self
      · rw [hfold]
        exact hchoose m x
      · rcases List.mem_append.1 hy with hy | hy
        · exact htrans hleft (hall y hy)
        · rwa [List.mem_singleton.1 hy]

/-- The least of some numbers is found. -/
theorem exists_minimum (hne : xs ≠ []) :
    ∃ low, minimum (xs.map Exact.number) = .number low ∧ IsLeast {x | x ∈ xs} low := by
  obtain ⟨low, hlow, hfold, hall⟩ := exists_chosen least infinity (· ≤ ·)
    (fun _ => le_rfl) le_trans (fun _ => rfl) least_eq_min
    (fun x y => ⟨min_choice x y, min_le_left x y, min_le_right x y⟩) hne
  exact ⟨low, hfold, hlow, hall⟩

/-- The greatest of some numbers is found. -/
theorem exists_maximum (hne : xs ≠ []) :
    ∃ high, maximum (xs.map Exact.number) = .number high ∧ IsGreatest {x | x ∈ xs} high := by
  obtain ⟨high, hhigh, hfold, hall⟩ := exists_chosen greatest negInfinity (· ≥ ·)
    (fun _ => le_rfl) (fun hxy hyz => le_trans hyz hxy) (fun _ => rfl) greatest_eq_max
    (fun x y => ⟨max_choice x y, le_max_left x y, le_max_right x y⟩) hne
  exact ⟨high, hfold, hhigh, hall⟩

omit [Field K] [ElementaryFunctions K] in
/-- Numbers are equal iff their extremes are. -/
theorem forall_eq_iff_of_extremes {low high : K} (hlow : IsLeast {x | x ∈ xs} low)
    (hhigh : IsGreatest {x | x ∈ xs} high) : (∀ x ∈ xs, ∀ y ∈ xs, x = y) ↔ low = high := by
  constructor
  · exact fun hall => hall low hlow.1 high hhigh.1
  · intro heq x hx y hy
    have hbounds (z : K) (hz : z ∈ xs) : z = low := le_antisymm (heq ▸ hhigh.2 hz) (hlow.2 hz)
    rw [hbounds x hx, hbounds y hy]

end Computed

end Logbook
