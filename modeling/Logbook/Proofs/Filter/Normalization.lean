import Logbook.Proofs.Filter.Statistics
import Logbook.Proofs.Number.Reals

/-!
# Normalized values

Both normalizations move and scale the numbers of a list, by their extremes or by their mean and
deviation. What is missing stays missing, the order stays as it is, and normalizing the normalized
values again moves and scales by nothing.

* `Exact.map`, `Exact.numbers` — a function applied to those values that are numbers, and the numbers
  in a list; `Exact.FiniteOrMissing` says that all other values are missing.
* `SameOrder` — the values at any two places are in the same order in two lists.
* `minMaxNormalized_eq`, `zScores_eq` — what the two normalizations move and scale by.
* `minMaxNormalized_twice`, `zScores_of_standardized` — nothing is left to do for a second run.
* `Filter.minMaxNormalization_projects` — the first maps onto the numbers from 0 to 1.
* `Filter.zScoreNormalization_standardizes` — the second leads to mean 0 and deviation 1.
-/

namespace Logbook

open Arithmetic

variable {K : Type}

namespace Exact

/-! ## The numbers in a list -/

/-- The number that a value is, if it is one. -/
def number? : Exact K → Option K
  | number x => some x
  | _ => none

/-- The numbers in a list of values. -/
def numbers (xs : List (Exact K)) : List K :=
  xs.filterMap number?

/-- The value with a function applied to it if it is a number. -/
def map (f : K → K) : Exact K → Exact K
  | number x => number (f x)
  | infinity => infinity
  | negInfinity => negInfinity
  | nan => nan

variable {xs : List (Exact K)} {x : K} {f : K → K}

theorem number?_eq_some_iff {v : Exact K} : v.number? = some x ↔ v = number x := by
  cases v <;> simp [number?]

theorem mem_numbers : x ∈ numbers xs ↔ number x ∈ xs := by
  simp [numbers, number?_eq_some_iff]

theorem number?_map (f : K → K) (v : Exact K) : (v.map f).number? = v.number?.map f := by
  cases v <;> rfl

theorem numbers_map (f : K → K) (xs : List (Exact K)) :
    numbers (xs.map (map f)) = (numbers xs).map f := by
  rw [numbers, List.filterMap_map, numbers, List.map_filterMap]
  exact List.filterMap_congr fun v _ => number?_map f v

theorem map_map (f g : K → K) (v : Exact K) : (v.map f).map g = v.map (g ∘ f) := by
  cases v <;> rfl

theorem map_eq_self (hf : ∀ x, f x = x) (v : Exact K) : v.map f = v := by
  cases v with
  | number x => exact congrArg number (hf x)
  | _ => rfl

variable [Field K] [LinearOrder K] [ElementaryFunctions K]

theorem isNaN_map (f : K → K) (v : Exact K) : isNaN (v.map f) = isNaN v := by
  cases v <;> rfl

theorem isFinite_map (f : K → K) (v : Exact K) : isFinite (v.map f) = isFinite v := by
  cases v <;> rfl

theorem lt_map (hf : StrictMono f) (u v : Exact K) : lt (u.map f) (v.map f) = lt u v := by
  cases u with
  | number x =>
    cases v with
    | number y => exact decide_eq_decide.2 hf.lt_iff_lt
    | _ => rfl
  | _ => cases v <;> rfl

/-! ## Finite values and missing ones -/

/-- Whether all values are finite or missing. -/
def FiniteOrMissing (xs : List (Exact K)) : Prop :=
  ∀ v ∈ xs, isFinite v = true ∨ isNaN v = true

theorem FiniteOrMissing.cases (hxs : FiniteOrMissing xs) {v : Exact K} (hv : v ∈ xs) :
    (∃ x, v = number x) ∨ v = nan :=
  (hxs v hv).imp isFinite_iff.1 isNaN_iff.1

/-- Those present are the numbers. -/
theorem FiniteOrMissing.present_eq (hxs : FiniteOrMissing xs) :
    present xs = (numbers xs).map number := by
  induction xs with
  | nil => rfl
  | cons v xs ih =>
    have hrest := ih fun u hu => hxs u (List.mem_cons_of_mem _ hu)
    obtain ⟨x, rfl⟩ | rfl := hxs.cases List.mem_cons_self
    · exact congrArg (number x :: ·) hrest
    · exact hrest

theorem FiniteOrMissing.map (hxs : FiniteOrMissing xs) (f : K → K) :
    FiniteOrMissing (xs.map (Exact.map f)) := by
  intro v hv
  obtain ⟨u, hu, rfl⟩ := List.mem_map.1 hv
  rw [isFinite_map, isNaN_map]
  exact hxs u hu

/-- It matters only what becomes of numbers and of what is missing. -/
theorem FiniteOrMissing.map_eq (hxs : FiniteOrMissing xs) {g : Exact K → Exact K}
    (hnumber : ∀ x, g (number x) = number (f x)) (hnan : g nan = nan) :
    xs.map g = xs.map (Exact.map f) := by
  refine List.map_congr_left fun v hv => ?_
  obtain ⟨x, rfl⟩ | rfl := hxs.cases hv
  · exact hnumber x
  · exact hnan

end Exact

open Exact (FiniteOrMissing numbers mem_numbers numbers_map)

section Computed

variable [Field K] [LinearOrder K] [ElementaryFunctions K] {xs : List (Exact K)}

/-! ## Missing values and order -/

theorem map_isNaN_map (f : K → K) (xs : List (Exact K)) :
    (xs.map (Exact.map f)).map isNaN = xs.map isNaN := by
  rw [List.map_map]
  exact List.map_congr_left fun v _ => Exact.isNaN_map f v

/-- At any two places, the values of both lists are in the same order. -/
def SameOrder (xs ys : List (Exact K)) : Prop :=
  ∀ (i j : Nat) (u v u' v' : Exact K), xs[i]? = some u → xs[j]? = some v →
    ys[i]? = some u' → ys[j]? = some v' → lt u' v' = lt u v

theorem sameOrder_map {f : K → K} (hf : StrictMono f) (xs : List (Exact K)) :
    SameOrder xs (xs.map (Exact.map f)) := by
  intro i j u v u' v' hu hv hu' hv'
  rw [List.getElem?_map, hu, Option.map_some, Option.some.injEq] at hu'
  rw [List.getElem?_map, hv, Option.map_some, Option.some.injEq] at hv'
  rw [← hu', ← hv', Exact.lt_map hf]

/-! ## From the least to the greatest -/

/-- Numbers are moved by the least and scaled by the span up to the greatest of them. If there is no
span, they become 0, which is the quotient by zero in a field too. -/
theorem minMaxNormalized_eq (hxs : FiniteOrMissing xs) {low high : K}
    (hlow : IsLeast {x | x ∈ numbers xs} low) (hhigh : IsGreatest {x | x ∈ numbers xs} high) :
    minMaxNormalized xs = xs.map (Exact.map fun x => (x - low) / (high - low)) := by
  have hne : numbers xs ≠ [] := List.ne_nil_of_mem hlow.1
  obtain ⟨low', hminimum, hlow'⟩ := exists_minimum hne
  obtain ⟨high', hmaximum, hhigh'⟩ := exists_maximum hne
  obtain rfl := hlow.unique hlow'
  obtain rfl := hhigh.unique hhigh'
  rw [minMaxNormalized, hxs.present_eq, hminimum, hmaximum]
  refine hxs.map_eq (fun x => ?_) rfl
  have hpresent : ¬ isNaN (Exact.number x) = true := Bool.false_ne_true
  rw [if_neg hpresent, Exact.number_sub, Exact.number_sub, Exact.ofNat_eq, Nat.cast_zero,
    Exact.eq_number]
  by_cases hspan : high - low = 0
  · rw [if_pos (decide_eq_true hspan), hspan, div_zero]
  · rw [if_neg (by simpa using hspan), Exact.number_div hspan]

/-- Without any numbers, there is nothing to normalize. -/
theorem minMaxNormalized_of_numbers_eq_nil (hxs : FiniteOrMissing xs) (hnone : numbers xs = []) :
    minMaxNormalized xs = xs := by
  refine (List.map_congr_left fun v hv => ?_).trans (List.map_id xs)
  obtain ⟨x, rfl⟩ | rfl := hxs.cases hv
  · have hmem := mem_numbers.2 hv
    rw [hnone] at hmem
    cases hmem
  · rfl

theorem exists_extremes (hne : numbers xs ≠ []) : ∃ low high,
    IsLeast {x | x ∈ numbers xs} low ∧ IsGreatest {x | x ∈ numbers xs} high := by
  obtain ⟨low, -, hlow⟩ := exists_minimum hne
  obtain ⟨high, -, hhigh⟩ := exists_maximum hne
  exact ⟨low, high, hlow, hhigh⟩

theorem map_isNaN_minMaxNormalized (hxs : FiniteOrMissing xs) :
    (minMaxNormalized xs).map isNaN = xs.map isNaN := by
  rcases eq_or_ne (numbers xs) [] with hnone | hne
  · rw [minMaxNormalized_of_numbers_eq_nil hxs hnone]
  · obtain ⟨low, high, hlow, hhigh⟩ := exists_extremes hne
    rw [minMaxNormalized_eq hxs hlow hhigh, map_isNaN_map]

variable [IsStrictOrderedRing K]

/-- The normalized numbers reach from 0 to 1, or they are all 0, so that nothing is left to move or to
scale. -/
theorem minMaxNormalized_twice (hxs : FiniteOrMissing xs) :
    minMaxNormalized (minMaxNormalized xs) = minMaxNormalized xs := by
  rcases eq_or_ne (numbers xs) [] with hnone | hne
  · rw [minMaxNormalized_of_numbers_eq_nil hxs hnone, minMaxNormalized_of_numbers_eq_nil hxs hnone]
  · obtain ⟨low, high, hlow, hhigh⟩ := exists_extremes hne
    have hspan : 0 ≤ high - low := sub_nonneg.2 (hhigh.2 hlow.1)
    have hlow' := Statistics.isLeast_rescaled low hspan hlow
    have hhigh' := Statistics.isGreatest_rescaled low hspan hhigh
    rw [Statistics.rescaled, ← numbers_map] at hlow' hhigh'
    rw [minMaxNormalized_eq hxs hlow hhigh, minMaxNormalized_eq (hxs.map _) hlow' hhigh', List.map_map]
    refine List.map_congr_left fun v _ => ?_
    rw [Function.comp_apply, Exact.map_map, Function.comp_def]
    rcases eq_or_ne (high - low) 0 with heq | hne
    · simp [heq]
    · simp [div_self hne]

/-! ## By mean and deviation -/

omit [IsStrictOrderedRing K] in
theorem zScores_eq [CharZero K] (hxs : FiniteOrMissing xs) {deviation : K}
    (hdeviation : sampleDeviation (present xs) = .number deviation) (hpos : 0 < deviation) :
    zScores xs = xs.map (Exact.map fun x => (x - Statistics.mean (numbers xs)) / deviation) := by
  have hne : numbers xs ≠ [] := by
    intro hnone
    rw [hxs.present_eq, hnone, List.map_nil, sampleDeviation_of_lt (by simp)] at hdeviation
    cases hdeviation
  rw [zScores, hdeviation, hxs.present_eq, average_number hne, Exact.ofNat_eq, Nat.cast_zero,
    Exact.eq_number, decide_eq_false hpos.ne']
  refine hxs.map_eq (fun x => ?_) rfl
  rw [Exact.number_sub, Exact.number_div hpos.ne']

variable [LawfulRoots K]

/-- Too few numbers, or equal ones, have no deviation to scale by. -/
theorem zScores_of_forall_eq (hxs : FiniteOrMissing xs)
    (h : (numbers xs).length < 2 ∨ ∀ x ∈ numbers xs, ∀ y ∈ numbers xs, x = y) :
    zScores xs = List.replicate xs.length nan := by
  rcases Nat.lt_or_ge (numbers xs).length 2 with hfew | hlength
  · rw [zScores, hxs.present_eq, sampleDeviation_of_lt (by rwa [List.length_map])]
    rfl
  · obtain ⟨deviation, hdeviation, -, -, hzero⟩ := exists_sampleDeviation hlength
    rw [zScores, hxs.present_eq, hdeviation, hzero.2 (h.resolve_left (Nat.not_lt.2 hlength)),
      Exact.ofNat_eq, Nat.cast_zero, Exact.eq_number, decide_eq_true rfl, Bool.or_true, if_pos rfl]

/-- Numbers that are not all equal have a deviation to scale by. -/
theorem exists_deviation (h : ∃ x ∈ numbers xs, ∃ y ∈ numbers xs, x ≠ y) :
    ∃ deviation : K, 0 < deviation ∧ 2 ≤ (numbers xs).length ∧
      sampleDeviation ((numbers xs).map Exact.number) = .number deviation ∧
      deviation ^ 2 * ((numbers xs).length - 1) =
        Statistics.squaresAbout (Statistics.mean (numbers xs)) (numbers xs) := by
  obtain ⟨x, hx, y, hy, hxy⟩ := h
  have hlength : 2 ≤ (numbers xs).length := by
    by_contra hfew
    obtain ⟨z, hz⟩ := List.length_eq_one_iff.1
      (Nat.le_antisymm (by omega) (List.length_pos_of_mem hx))
    rw [hz, List.mem_singleton] at hx hy
    exact hxy (hx.trans hy.symm)
  obtain ⟨deviation, hdeviation, hnonneg, hsquares, hzero⟩ := exists_sampleDeviation hlength
  have hpos : 0 < deviation := hnonneg.lt_of_ne' fun hnone => hxy (hzero.1 hnone x hx y hy)
  exact ⟨deviation, hpos, hlength, hdeviation, hsquares⟩

/-- Numbers with mean 0 and deviation 1 stay as they are. -/
theorem zScores_of_standardized (hxs : FiniteOrMissing xs) (hlength : 2 ≤ (numbers xs).length)
    (hmean : Statistics.mean (numbers xs) = 0)
    (hsquares : Statistics.squaresAbout 0 (numbers xs) = (numbers xs).length - 1) :
    zScores xs = xs := by
  obtain ⟨deviation, hdeviation, hnonneg, hsq, -⟩ := exists_sampleDeviation hlength
  have hn : ((numbers xs).length - 1 : K) ≠ 0 := (Statistics.length_sub_one_pos hlength).ne'
  rw [hmean, hsquares, mul_eq_right₀ hn, pow_eq_one_iff_of_nonneg hnonneg two_ne_zero] at hsq
  subst hsq
  rw [zScores_eq hxs (by rwa [hxs.present_eq]) one_pos, hmean]
  exact List.map_id'' (Exact.map_eq_self (by simp)) xs

end Computed

/-! ## The filters -/

namespace Filter

variable [Field K] [LinearOrder K] [IsStrictOrderedRing K] [ElementaryFunctions K]
  {xs : List (Exact K)}

/-- **Normalizing by the extremes maps onto the numbers from 0 to 1 and keeps the order.** What is
missing stays missing. Numbers that are not all equal go to numbers from 0 to 1, the least ones and no
others to 0 and the greatest ones and no others to 1, and any two values are in the order in which they
were. Equal numbers all go to 0. In every case a second run changes nothing. -/
theorem minMaxNormalization_projects (hxs : FiniteOrMissing xs) :
    let ys := minMaxNormalization.apply xs
    ys.map isNaN = xs.map isNaN ∧
    ((∃ x ∈ numbers xs, ∃ y ∈ numbers xs, x ≠ y) →
      (∀ (i : Nat) (x : K), xs[i]? = some (.number x) →
        ∃ y, ys[i]? = some (.number y) ∧ 0 ≤ y ∧ y ≤ 1 ∧
          (y = 0 ↔ IsLeast {x | x ∈ numbers xs} x) ∧ (y = 1 ↔ IsGreatest {x | x ∈ numbers xs} x)) ∧
      SameOrder xs ys) ∧
    ((∀ x ∈ numbers xs, ∀ y ∈ numbers xs, x = y) →
      ∀ (i : Nat) (x : K), xs[i]? = some (.number x) → ys[i]? = some (.number 0)) ∧
    applyChain [minMaxNormalization, minMaxNormalization] xs = ys := by
  intro ys
  refine ⟨map_isNaN_minMaxNormalized hxs, ?_, fun hall i x hx => ?_, minMaxNormalized_twice hxs⟩
  · rintro ⟨x, hx, y, hy, hxy⟩
    obtain ⟨low, high, hlow, hhigh⟩ := exists_extremes (List.ne_nil_of_mem hx)
    have hne : low ≠ high := fun heq =>
      hxy ((forall_eq_iff_of_extremes hlow hhigh).2 heq x hx y hy)
    have hlt : low < high := (hhigh.2 hlow.1).lt_of_ne hne
    have hys : ys = xs.map (Exact.map fun x => (x - low) / (high - low)) :=
      minMaxNormalized_eq hxs hlow hhigh
    constructor
    · intro i x hx
      refine ⟨(x - low) / (high - low), by rw [hys, List.getElem?_map, hx]; rfl, ?_⟩
      exact Statistics.place_between hlow hhigh hlt (mem_numbers.2 (List.mem_of_getElem? hx))
    · rw [hys]
      exact sameOrder_map (Statistics.strictMono_rescaled low (sub_pos.2 hlt)) xs
  · have hne : numbers xs ≠ [] := List.ne_nil_of_mem (mem_numbers.2 (List.mem_of_getElem? hx))
    obtain ⟨low, high, hlow, hhigh⟩ := exists_extremes hne
    have hys : ys = xs.map (Exact.map fun x => (x - low) / (high - low)) :=
      minMaxNormalized_eq hxs hlow hhigh
    obtain rfl := (forall_eq_iff_of_extremes hlow hhigh).1 hall
    rw [hys, List.getElem?_map, hx, Option.map_some, sub_self]
    exact congrArg (some ∘ Exact.number) (div_zero _)

/-- Of three numbers and a missing value, the greatest number becomes 1, the least 0 and the one between
lies between; two equal numbers become 0. -/
theorem minMaxNormalization_projects_three :
    let xs : List (Exact ℚ) := [.number 3, .nan, .number 1, .number 2]
    let ys := minMaxNormalization.apply xs
    let equal : List (Exact ℚ) := [.number 5, .nan, .number 5]
    ys.map isNaN = [false, true, false, false] ∧
    ys[0]? = some (.number 1) ∧ ys[2]? = some (.number 0) ∧
    (∃ y, ys[3]? = some (.number y) ∧ 0 ≤ y ∧ y ≤ 1) ∧
    applyChain [minMaxNormalization, minMaxNormalization] xs = ys ∧
    (minMaxNormalization.apply equal)[2]? = some (.number 0) := by
  intro xs ys equal
  have hxs : FiniteOrMissing xs := by
    simp [FiniteOrMissing, xs, isFinite, isNaN]
  have hequals : FiniteOrMissing equal := by
    simp [FiniteOrMissing, equal, isFinite, isNaN]
  obtain ⟨hmissing, hdifferent, -, htwice⟩ := minMaxNormalization_projects hxs
  obtain ⟨-, -, hequal, -⟩ := minMaxNormalization_projects hequals
  obtain ⟨hplaces, -⟩ := hdifferent ⟨3, by decide, 1, by decide, by decide⟩
  obtain ⟨y, hy, -, -, -, hgreatest⟩ := hplaces 0 3 rfl
  obtain ⟨z, hz, -, -, hleast, -⟩ := hplaces 2 1 rfl
  obtain ⟨w, hw, hnonneg, hle, -⟩ := hplaces 3 2 rfl
  refine ⟨hmissing, ?_, ?_, ⟨w, hw, hnonneg, hle⟩, htwice, ?_⟩
  · rw [hy, hgreatest.2 ⟨by decide, show ∀ x ∈ numbers xs, x ≤ 3 by decide⟩]
  · rw [hz, hleast.2 ⟨by decide, show ∀ x ∈ numbers xs, 1 ≤ x by decide⟩]
  · exact hequal (by decide) 2 5 rfl

/-- **Normalizing by mean and deviation leads to mean 0 and deviation 1 and keeps the order.** Of fewer
than two numbers, and of equal ones, nothing is left. Otherwise what is missing stays missing, the other
values become numbers with the sum 0 whose squares add up to one less than their count, any two values
are in the order in which they were, and a second run changes nothing. -/
theorem zScoreNormalization_standardizes [LawfulRoots K] (hxs : FiniteOrMissing xs) :
    let ys := zScoreNormalization.apply xs
    ((numbers xs).length < 2 ∨ (∀ x ∈ numbers xs, ∀ y ∈ numbers xs, x = y) →
      ys = List.replicate xs.length nan) ∧
    ((∃ x ∈ numbers xs, ∃ y ∈ numbers xs, x ≠ y) →
      ys.map isNaN = xs.map isNaN ∧ present ys = (numbers ys).map .number ∧
      (numbers ys).sum = 0 ∧ ((numbers ys).map (· ^ 2)).sum = ((numbers ys).length - 1 : K) ∧
      SameOrder xs ys ∧ applyChain [zScoreNormalization, zScoreNormalization] xs = ys) := by
  intro ys
  refine ⟨zScores_of_forall_eq hxs, fun hdifferent => ?_⟩
  obtain ⟨deviation, hpos, hlength, hdeviation, hsquares⟩ := exists_deviation hdifferent
  have hys : ys = xs.map (Exact.map fun x => (x - Statistics.mean (numbers xs)) / deviation) :=
    zScores_eq hxs (by rwa [hxs.present_eq]) hpos
  have hfinite : FiniteOrMissing ys := hys ▸ hxs.map _
  have hnumbers : numbers ys =
      Statistics.rescaled (Statistics.mean (numbers xs)) deviation (numbers xs) := by
    rw [hys, numbers_map, Statistics.rescaled]
  have hcount : (numbers ys).length = (numbers xs).length := by
    rw [hnumbers, Statistics.length_rescaled]
  obtain ⟨hmean, hsum⟩ := Statistics.standardized hlength hpos hsquares
  rw [← hnumbers] at hmean hsum
  rw [← hcount] at hsum hlength
  have horder : SameOrder xs ys := hys ▸ sameOrder_map (Statistics.strictMono_rescaled _ hpos) xs
  refine ⟨?_, hfinite.present_eq, ?_, ?_, horder, zScores_of_standardized hfinite hlength hmean hsum⟩
  · rw [hys, map_isNaN_map]
  · rw [← Statistics.mean_mul_length, hmean, zero_mul]
  · simpa [Statistics.squaresAbout] using hsum

/-- Two numbers and a missing value, and one number alone. -/
theorem zScoreNormalization_standardizes_two :
    let xs : List (Exact ℝ) := [.number 1, .nan, .number 3]
    let ys := zScoreNormalization.apply xs
    ys.map isNaN = [false, true, false] ∧ (numbers ys).sum = 0 ∧
    ((numbers ys).map (· ^ 2)).sum = ((numbers ys).length - 1 : ℝ) ∧
    applyChain [zScoreNormalization, zScoreNormalization] xs = ys ∧
    zScoreNormalization.apply [(.number 5 : Exact ℝ)] = [nan] := by
  intro xs ys
  have hxs : FiniteOrMissing xs := by
    simp [FiniteOrMissing, xs, isFinite, isNaN]
  have hone : FiniteOrMissing [(.number 5 : Exact ℝ)] := by
    simp [FiniteOrMissing, isFinite]
  obtain ⟨-, hdifferent⟩ := zScoreNormalization_standardizes hxs
  obtain ⟨hfew, -⟩ := zScoreNormalization_standardizes hone
  obtain ⟨hmissing, -, hsum, hsquares, -, htwice⟩ :=
    hdifferent ⟨1, mem_numbers.2 (by simp [xs]), 3, mem_numbers.2 (by simp [xs]), by norm_num⟩
  exact ⟨hmissing, hsum, hsquares, htwice, hfew (.inl (by decide))⟩

end Filter

end Logbook
