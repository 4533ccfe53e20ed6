import Logbook.Proofs.Filter.Positions
import Logbook.Proofs.Filter.Statistics
import Logbook.Proofs.Number.Reals

/-!
# Rolling filters

A rolling filter computes a statistic of the last values up to each position. It sees these values and
no others.

* `Filter.overWindow?` — the window of a rolling filter and its statistic.
* `getElem?_trailing` — which values stand in the window.
* `rolling_missing`, `rolling_congr` — no result without a full window, and the result depends on the
  values in the window only.
* `exists_trailing_number`, `rolling_number` — the statistics of a window of numbers.
* `Filter.rolling_sees_window` — all of this for the four filters.
-/

namespace Logbook

open Arithmetic

/-! ## The window -/

section Window

variable {β : Type} {size i k : Nat} {xs ys : List β}

theorem getElem?_trailing :
    (trailing size xs i)[k]? = if k < size then xs[i + 1 - size + k]? else none := by
  rw [trailing, List.getElem?_take, List.getElem?_drop]

/-- The window at a position holds the values there and up to `size - 1` positions before. -/
theorem mem_trailing_iff (hsize : size ≤ i + 1) {x : β} :
    x ∈ trailing size xs i ↔ ∃ j, j ≤ i ∧ i < j + size ∧ xs[j]? = some x := by
  simp only [List.mem_iff_getElem?, getElem?_trailing, Option.ite_none_right_eq_some]
  constructor
  · rintro ⟨k, hk, hx⟩
    exact ⟨i + 1 - size + k, by omega, by omega, hx⟩
  · rintro ⟨j, hji, hij, hx⟩
    refine ⟨j - (i + 1 - size), by omega, ?_⟩
    rwa [Nat.add_sub_cancel' (by omega)]

/-- Lists that agree around a position have the same window there. -/
theorem trailing_congr (hsize : size ≤ i + 1)
    (hsame : ∀ j, j ≤ i → i < j + size → ys[j]? = xs[j]?) :
    trailing size ys i = trailing size xs i := by
  refine List.ext_getElem? fun k => ?_
  rw [getElem?_trailing, getElem?_trailing]
  by_cases hk : k < size
  · rw [if_pos hk, if_pos hk]
    exact hsame _ (by omega) (by omega)
  · rw [if_neg hk, if_neg hk]

end Window

/-! ## What a rolling filter sees -/

section Sees

variable {α : Type} [Arithmetic α] {statistic : List α → α} {size i : Nat} {xs ys : List α}

/-- There is no result before the window is full, nor if a value in it is missing. -/
theorem rolling_missing (hi : i < xs.length)
    (h : i + 1 < size ∨ ∃ j x, j ≤ i ∧ i < j + size ∧ xs[j]? = some x ∧ isNaN x = true) :
    (rolling statistic size xs)[i]? = some nan := by
  rw [getElem?_rolling statistic hi]
  rcases Nat.lt_or_ge (i + 1) size with hfew | hsize
  · rw [if_pos (.inl hfew)]
  · obtain ⟨j, x, hji, hij, hx, hnan⟩ := h.resolve_left (Nat.not_lt.2 hsize)
    have hmem : x ∈ trailing size xs i := (mem_trailing_iff hsize).2 ⟨j, hji, hij, hx⟩
    rw [if_pos (.inr (List.any_eq_true.2 ⟨x, hmem, hnan⟩))]

theorem rolling_of_present (hi : i < xs.length) (hsize : size ≤ i + 1)
    (hpresent : ∀ x ∈ trailing size xs i, isNaN x = false) :
    (rolling statistic size xs)[i]? = some (statistic (trailing size xs i)) := by
  have hnone : ¬ (trailing size xs i).any isNaN = true := by simpa using hpresent
  rw [getElem?_rolling statistic hi, if_neg (not_or.2 ⟨Nat.not_lt.2 hsize, hnone⟩)]

/-- In words there is a result at every position, and it is that of the filter. -/
theorem exists_rollingAt? (statistic : List α → α) (size : UInt64) (hlength : xs.length < UInt64.size)
    (hi : i < xs.length) : ∃ y, rollingAt? statistic size xs (.ofNat i) = some y ∧
      (rolling statistic size.toNat xs)[i]? = some y := by
  have hword : (UInt64.ofNat i).toNat = i := UInt64.toNat_ofNat_of_lt' (hi.trans hlength)
  have hsame := rollingAt?_eq statistic size (i := .ofNat i) hlength (by rwa [hword])
  rw [hword] at hsame
  obtain ⟨y, hy⟩ : ∃ y, (rolling statistic size.toNat xs)[i]? = some y :=
    ⟨_, List.getElem?_eq_getElem (by rwa [length_rolling])⟩
  exact ⟨y, hsame.trans hy, hy⟩

/-- The result at a position depends on the values in the window only. -/
theorem rolling_congr (hi : i < xs.length) (hi' : i < ys.length)
    (hsame : ∀ j, j ≤ i → i < j + size → ys[j]? = xs[j]?) :
    (rolling statistic size ys)[i]? = (rolling statistic size xs)[i]? := by
  rw [getElem?_rolling statistic hi, getElem?_rolling statistic hi']
  rcases Nat.lt_or_ge (i + 1) size with hfew | hsize
  · rw [if_pos (.inl hfew), if_pos (.inl hfew)]
  · rw [trailing_congr hsize hsame]

end Sees

/-! ## Statistics of a window of numbers -/

section Numbers

variable {K : Type} [Field K] [LinearOrder K] [ElementaryFunctions K] {size i : Nat}
  {xs : List (Exact K)}

/-- A full window of finite values holds as many numbers. -/
theorem exists_trailing_number (hi : i < xs.length) (hsize : size ≤ i + 1)
    (hfinite : ∀ j x, j ≤ i → i < j + size → xs[j]? = some x → isFinite x = true) :
    ∃ inputs : List K, trailing size xs i = inputs.map .number ∧ inputs.length = size ∧
      ∀ k < size, xs[i + 1 - size + k]? = inputs[k]?.map .number := by
  obtain ⟨inputs, hinputs⟩ : ∃ inputs : List K, trailing size xs i = inputs.map .number := by
    refine Exact.exists_map_number fun x hx => ?_
    obtain ⟨j, hji, hij, hx⟩ := (mem_trailing_iff hsize).1 hx
    exact hfinite j x hji hij hx
  refine ⟨inputs, hinputs, ?_, fun k hk => ?_⟩
  · rw [← length_trailing hsize hi, hinputs, List.length_map]
  · rw [← List.getElem?_map, ← hinputs, getElem?_trailing, if_pos hk]

theorem rolling_number {inputs : List K} (hi : i < xs.length) (hsize : size ≤ i + 1)
    (hinputs : trailing size xs i = inputs.map .number) (statistic : List (Exact K) → Exact K) :
    (rolling statistic size xs)[i]? = some (statistic (inputs.map .number)) := by
  have hpresent : ∀ x ∈ trailing size xs i, isNaN x = false := by
    intro x hx
    rw [hinputs] at hx
    obtain ⟨y, -, rfl⟩ := List.mem_map.1 hx
    rfl
  rw [rolling_of_present hi hsize hpresent, hinputs]

end Numbers

/-! ## The filters -/

namespace Filter

variable {α : Type} [Arithmetic α]

/-- The window of a rolling filter, and what is computed of the values in it. -/
def overWindow? : Filter α → Option (WindowSize × (List α → α))
  | rollingAverage window => some (window, average)
  | rollingMin window => some (window, minimum)
  | rollingMax window => some (window, maximum)
  | rollingDeviation window => some (window, sampleDeviation)
  | _ => none

theorem apply_of_overWindow? {f : Filter α} {window : WindowSize} {statistic : List α → α}
    (h : f.overWindow? = some (window, statistic)) (xs : List α) :
    f.apply xs = rolling statistic window.size.toNat xs := by
  cases f with
  | rollingAverage | rollingMin | rollingMax | rollingDeviation =>
    cases h
    rfl
  | _ => cases h

/-- **Rolling filters see their window and nothing else.** Every rolling filter computes its values
from positions that neither leave the words nor the list. It has no result at a position before the
window is full or while a value in it is missing, and what stands outside of the window does not change
the result. At the other positions the average, the extremes and the deviation of real numbers are those
of the numbers in the window: the average lies between the extremes, and the deviation, squared, comes to
the squares of the deviations from the average over one less than their count, so that it is zero iff the
extremes are equal. -/
theorem rolling_sees_window (window : WindowSize) :
    (∀ {α : Type} [Arithmetic α] (f : Filter α) (statistic : List α → α),
      f.overWindow? = some (window, statistic) → ∀ (xs : List α) (i : Nat), i < xs.length →
        (xs.length < UInt64.size → ∃ y, rollingAt? statistic window.size xs (.ofNat i) = some y ∧
          (f.apply xs)[i]? = some y) ∧
        (i + 1 < window.size.toNat ∨
          (∃ j x, j ≤ i ∧ i < j + window.size.toNat ∧ xs[j]? = some x ∧ isNaN x = true) →
          (f.apply xs)[i]? = some nan) ∧
        ∀ ys : List α, i < ys.length →
          (∀ j, j ≤ i → i < j + window.size.toNat → ys[j]? = xs[j]?) →
          (f.apply ys)[i]? = (f.apply xs)[i]?) ∧
    ∀ (xs : List (Exact ℝ)) (i : Nat), i < xs.length → window.size.toNat ≤ i + 1 →
      (∀ j x, j ≤ i → i < j + window.size.toNat → xs[j]? = some x → isFinite x = true) →
      ∃ (inputs : List ℝ) (low high mean deviation : ℝ),
        inputs.length = window.size.toNat ∧
        (∀ k < window.size.toNat, xs[i + 1 - window.size.toNat + k]? = inputs[k]?.map .number) ∧
        ((rollingMin window).apply xs)[i]? = some (.number low) ∧ IsLeast {x | x ∈ inputs} low ∧
        ((rollingMax window).apply xs)[i]? = some (.number high) ∧ IsGreatest {x | x ∈ inputs} high ∧
        ((rollingAverage window).apply xs)[i]? = some (.number mean) ∧
        mean = inputs.sum / inputs.length ∧ low ≤ mean ∧ mean ≤ high ∧
        ((rollingDeviation window).apply xs)[i]? = some (.number deviation) ∧ 0 ≤ deviation ∧
        deviation ^ 2 * (window.size.toNat - 1) = (inputs.map fun x => (x - mean) ^ 2).sum ∧
        (deviation = 0 ↔ low = high) := by
  constructor
  · intro α _ f statistic hf xs i hi
    rw [apply_of_overWindow? hf xs]
    refine ⟨fun hlength => ?_, rolling_missing hi, fun ys hi' hsame => ?_⟩
    · exact exists_rollingAt? statistic window.size hlength hi
    · rw [apply_of_overWindow? hf ys]
      exact rolling_congr hi hi' hsame
  · intro xs i hi hsize hfinite
    obtain ⟨inputs, hinputs, hlength, hpositions⟩ := exists_trailing_number hi hsize hfinite
    have hcount : 2 ≤ inputs.length := hlength ▸ window.two_le
    have hne : inputs ≠ [] := List.length_pos_iff.1 (by omega)
    have hvalue := rolling_number hi hsize hinputs
    obtain ⟨low, hlow, hleast⟩ := exists_minimum hne
    obtain ⟨high, hhigh, hgreatest⟩ := exists_maximum hne
    obtain ⟨deviation, hdeviation, hnonneg, hsquares, hzero⟩ := exists_sampleDeviation hcount
    refine ⟨inputs, low, high, Statistics.mean inputs, deviation, hlength, hpositions, ?_, hleast, ?_,
      hgreatest, ?_, rfl, Statistics.le_mean hne hleast.2, Statistics.mean_le hne hgreatest.2, ?_,
      hnonneg, ?_, ?_⟩
    · rw [← hlow]
      exact hvalue minimum
    · rw [← hhigh]
      exact hvalue maximum
    · rw [← average_number hne]
      exact hvalue average
    · rw [← hdeviation]
      exact hvalue sampleDeviation
    · rw [← hlength]
      exact hsquares
    · rw [hzero, forall_eq_iff_of_extremes hleast hgreatest]

/-- A window of two over three values: before the missing value is out of it there is no result, and
after that 1 and 3 have the average 2 and a deviation with the square 2. -/
theorem rolling_sees_window_two :
    let xs : List (Exact ℝ) := [.nan, .number 1, .number 3]
    let ys : List (Exact ℝ) := [.infinity, .number 1, .number 3]
    ∃ window : WindowSize, window.size = 2 ∧
      ((rollingMin window).apply xs)[1]? = some nan ∧
      ((rollingMin window).apply ys)[2]? = ((rollingMin window).apply xs)[2]? ∧
      ((rollingAverage window).apply xs)[2]? = some (.number 2) ∧
      ∃ deviation : ℝ, ((rollingDeviation window).apply xs)[2]? = some (.number deviation) ∧
        deviation ^ 2 = 2 := by
  intro xs ys
  let window : WindowSize := ⟨2, by decide⟩
  obtain ⟨hsees, hnumbers⟩ := rolling_sees_window window
  obtain ⟨-, hmissing, -⟩ := hsees (rollingMin window) minimum rfl xs 1 (by simp [xs])
  obtain ⟨-, -, hcongr⟩ := hsees (rollingMin window) minimum rfl xs 2 (by simp [xs])
  obtain ⟨inputs, low, high, mean, deviation, hlength, hpositions, -, -, -, -, hmean, hvalue, -, -,
    hdeviation, -, hsquares, -⟩ := hnumbers xs 2 (by simp [xs]) (by decide) (by
      intro j x hj hij hx
      obtain rfl | rfl : j = 1 ∨ j = 2 := by
        have : window.size.toNat = 2 := rfl
        omega
      all_goals
        cases hx
        rfl)
  have hwindow : window.size.toNat = 2 := rfl
  rw [hwindow] at hlength hpositions hsquares
  obtain ⟨a, b, rfl⟩ := List.length_eq_two.1 hlength
  obtain rfl : a = 1 := by simpa [xs] using (hpositions 0 (by decide)).symm
  obtain rfl : b = 3 := by simpa [xs] using (hpositions 1 (by decide)).symm
  have hmean' : mean = 2 := by
    rw [hvalue]
    norm_num
  refine ⟨window, rfl, hmissing (.inr ⟨0, .nan, by decide, by decide, rfl, rfl⟩), ?_, ?_, deviation,
    hdeviation, ?_⟩
  · refine hcongr ys (by simp [ys]) fun j hj hij => ?_
    obtain rfl | rfl : j = 1 ∨ j = 2 := by omega
    all_goals rfl
  · rw [hmean, hmean']
  · rw [hmean'] at hsquares
    norm_num at hsquares
    exact hsquares

end Filter

end Logbook
