import Logbook.Proofs.Filter.Statistics
import Logbook.Proofs.Number.Doubles

/-!
# Running totals and differences

Differences take away what running totals have added, and running totals add up what differences have
taken away. A missing value is missing in the totals too and adds nothing to those after it.

* `getElem?_runningTotals` — the total at a position is the sum of the values present up to it.
* `differences_runningTotals`, `runningTotals_differences` — both ways round, on numbers.
* `isNaN_runningTotals` — finite values lead to no total that is no number.
* `Exact.isNaN_sum_iff` — only infinities of both signs do, among values that are present.
* `Filter.totals_undo_differences` — all of this for the two filters.
-/

namespace Logbook

open Arithmetic

/-! ## The totals at each position -/

section Totals

variable {α : Type} [Arithmetic α] {xs : List α}

theorem present_cons (x : α) (xs : List α) :
    present (x :: xs) = if isNaN x then present xs else x :: present xs := by
  rw [present, List.filter_cons]
  cases isNaN x <;> rfl

/-- The values present up to a position, that at it included. -/
def presentUpTo (xs : List α) (i : Nat) : List α :=
  present (xs.take (i + 1))

theorem presentUpTo_cons (x : α) (rest : List α) (i : Nat) :
    presentUpTo (x :: rest) i =
      if isNaN x then present (rest.take i) else x :: present (rest.take i) := by
  rw [presentUpTo, List.take_succ_cons, present_cons]

/-- The total at a position is the sum of the values present up to it, from left to right. -/
theorem getElem?_runningTotals (total : α) (xs : List α) (i : Nat) :
    (runningTotals total xs)[i]? = xs[i]?.map fun x =>
      if isNaN x then x else (presentUpTo xs i).foldl (· + ·) total := by
  induction xs generalizing total i with
  | nil => rfl
  | cons x rest ih =>
    rw [runningTotals, presentUpTo_cons]
    -- A missing value leaves the total as it is, and a present one is the first summand.
    by_cases hx : isNaN x = true
    · simp only [if_pos hx]
      cases i with
      | zero => simp [hx]
      | succ i => exact ih total i
    · simp only [if_neg hx]
      cases i with
      | zero => simp [hx, present]
      | succ i => exact ih (total + x) i

/-- If no finite summand leads to what is no number, only the missing values are missing in the
totals. -/
theorem isNaN_runningTotals (hadd : ∀ {a b : α}, isNaN a = false → isFinite b = true →
    isNaN (a + b) = false) {total : α} (htotal : isNaN total = false)
    (hxs : ∀ x ∈ xs, isFinite x = true ∨ isNaN x = true) :
    (runningTotals total xs).map isNaN = xs.map isNaN := by
  induction xs generalizing total with
  | nil => rfl
  | cons x rest ih =>
    have hrest : ∀ y ∈ rest, isFinite y = true ∨ isNaN y = true :=
      fun y hy => hxs y (List.mem_cons_of_mem _ hy)
    rw [runningTotals]
    by_cases hx : isNaN x = true
    · rw [if_pos hx, List.map_cons, List.map_cons, ih htotal hrest]
    · have hsum : isNaN (total + x) = false :=
        hadd htotal ((hxs x List.mem_cons_self).resolve_right hx)
      rw [if_neg hx, List.map_cons, List.map_cons, ih hsum hrest, hsum, Bool.eq_false_iff.2 hx]

end Totals

/-! ## Totals and differences of numbers -/

section Numbers

variable {K : Type} [Field K] [LinearOrder K] [ElementaryFunctions K]

theorem runningTotals_cons_number (total x : K) (rest : List (Exact K)) :
    runningTotals (.number total) (.number x :: rest) =
      .number (total + x) :: runningTotals (.number (total + x)) rest := rfl

/-- The differences of totals, that before the list included, are the numbers added. -/
theorem zipWith_runningTotals (total : K) (xs : List K) :
    List.zipWith (fun before after : Exact K => after - before)
      (.number total :: runningTotals (.number total) (xs.map .number))
      (runningTotals (.number total) (xs.map .number)) = xs.map .number := by
  induction xs generalizing total with
  | nil => rfl
  | cons x rest ih =>
    rw [List.map_cons, runningTotals_cons_number, List.zipWith_cons_cons, ih, Exact.number_sub,
      add_sub_cancel_left]

/-- The totals of differences, begun at `total`, are the numbers themselves, moved from the first of
them to `total`. -/
theorem runningTotals_zipWith (total first : K) (rest : List K) :
    runningTotals (.number total) (List.zipWith (fun before after : Exact K => after - before)
      (.number first :: rest.map .number) (rest.map .number)) =
      rest.map fun x => .number (total + (x - first)) := by
  induction rest generalizing total first with
  | nil => rfl
  | cons x rest ih =>
    rw [List.map_cons, List.zipWith_cons_cons, Exact.number_sub, runningTotals_cons_number, ih,
      List.map_cons]
    simp only [add_assoc, sub_add_sub_cancel']

theorem differences_runningTotals (first : K) (rest : List K) :
    differences (runningTotals (.number 0) (.number first :: rest.map Exact.number)) =
      nan :: rest.map Exact.number := by
  rw [runningTotals_cons_number, zero_add, differences, zipWith_runningTotals]

/-- The first difference is missing, and the totals of the others begin at zero all the same. -/
theorem runningTotals_differences (first : K) (rest : List K) :
    runningTotals (.number 0) (differences (.number first :: rest.map Exact.number)) =
      nan :: rest.map fun x => .number (x - first) := by
  have hnan : isNaN (nan : Exact K) = true := rfl
  rw [differences, runningTotals, hnan, if_pos rfl, runningTotals_zipWith]
  simp only [zero_add]

/-- The totals of exact values are sums in any order, which are no numbers only after infinities of both
signs. -/
theorem exists_total {xs : List (Exact K)} {x : Exact K} {i : Nat} (hx : xs[i]? = some x) :
    ∃ y, (runningTotals (.number 0) xs)[i]? = some y ∧ (isNaN x = true → y = nan) ∧
      (isNaN x = false → y = (presentUpTo xs i).sum ∧
        (isNaN y = true ↔ .infinity ∈ presentUpTo xs i ∧ .negInfinity ∈ presentUpTo xs i)) := by
  have hvalue := getElem?_runningTotals (.number 0) xs i
  rw [hx, Option.map_some] at hvalue
  have hnone : .nan ∉ presentUpTo xs i := by
    intro h
    cases (List.mem_filter.1 h).2
  refine ⟨_, hvalue, fun hnan => ?_, fun hnan => ?_⟩
  · rw [if_pos hnan]
    exact Exact.isNaN_iff.1 hnan
  · have hsum : (presentUpTo xs i).foldl (· + ·) (.number 0) = (presentUpTo xs i).sum :=
      Exact.sum_eq _
    rw [hnan, if_neg Bool.false_ne_true, hsum]
    exact ⟨rfl, by rw [Exact.isNaN_iff, Exact.sum_eq_nan_iff, or_iff_right hnone]⟩

end Numbers

/-! ## The filters -/

namespace Filter

theorem cumulativeSum_apply {K : Type} [Field K] [LinearOrder K] [ElementaryFunctions K]
    (xs : List (Exact K)) : cumulativeSum.apply xs = runningTotals (.number 0) xs := by
  rw [apply, Exact.ofNat_eq, Nat.cast_zero]

/-- **Running totals and differences undo each other.** The differences of the totals of exact finite
values are the values themselves, but for the first, and the totals of their differences are the values
less the first. For any values, a total is missing where the value is, and is elsewhere the sum of the
values present so far. Such a sum of exact values is no number only if infinities of both signs are among
them, so that of finite values and missing ones the same are missing in the totals, for doubles as well. -/
theorem totals_undo_differences :
    (∀ {K : Type} [Field K] [LinearOrder K] [ElementaryFunctions K],
      (∀ (first : Exact K) (rest : List (Exact K)), (∀ x ∈ first :: rest, isFinite x = true) →
        applyChain [cumulativeSum, difference] (first :: rest) = nan :: rest ∧
        applyChain [difference, cumulativeSum] (first :: rest) = nan :: rest.map (· - first)) ∧
      (∀ (xs : List (Exact K)) (i : Nat) (x : Exact K), xs[i]? = some x →
        ∃ y, (cumulativeSum.apply xs)[i]? = some y ∧ (isNaN x = true → y = nan) ∧
          (isNaN x = false → y = (presentUpTo xs i).sum ∧
            (isNaN y = true ↔ .infinity ∈ presentUpTo xs i ∧ .negInfinity ∈ presentUpTo xs i))) ∧
      ∀ xs : List (Exact K), (∀ x ∈ xs, isFinite x = true ∨ isNaN x = true) →
        (cumulativeSum.apply xs).map isNaN = xs.map isNaN) ∧
    (∀ (xs : List Float) (i : Nat) (x : Float), xs[i]? = some x →
      (cumulativeSum.apply xs)[i]? =
        some (if isNaN x then x else (presentUpTo xs i).foldl (· + ·) (ofNat 0))) ∧
    ∀ xs : List Float, (∀ x ∈ xs, isFinite x = true ∨ isNaN x = true) →
      (cumulativeSum.apply xs).map isNaN = xs.map isNaN := by
  refine ⟨fun {K} _ _ _ => ⟨fun first rest hfinite => ?_, fun xs i x hx => ?_, fun xs hxs => ?_⟩,
    fun xs i x hx => ?_, fun xs hxs => ?_⟩
  · obtain ⟨numbers, hnumbers⟩ := Exact.exists_map_number hfinite
    cases numbers with
    | nil => cases hnumbers
    | cons a numbers =>
      obtain ⟨rfl, rfl⟩ := List.cons.inj hnumbers
      have hsums := differences_runningTotals a numbers
      have hdifferences := runningTotals_differences a numbers
      constructor
      · rw [← hsums, ← cumulativeSum_apply]
        rfl
      · rw [List.map_map]
        simpa [Function.comp_def, applyChain, apply, cumulativeSum_apply] using hdifferences
  · rw [cumulativeSum_apply]
    exact exists_total hx
  · exact isNaN_runningTotals Exact.isNaN_add rfl hxs
  · have hvalue := getElem?_runningTotals (ofNat 0) xs i
    rwa [hx] at hvalue
  · exact isNaN_runningTotals Double.isNaN_add rfl hxs

/-- Infinities of both signs leave no number behind where a value is present, in doubles and in exact
arithmetic. -/
theorem isNaN_cumulativeSum_infinities :
    let xs : List Float := [1.0 / 0.0, -1.0 / 0.0, 0.0 / 0.0]
    let ys : List (Exact ℚ) := [.infinity, .negInfinity, .nan]
    xs.map isNaN = [false, false, true] ∧
    (cumulativeSum.apply xs).map isNaN = [false, true, true] ∧
    ys.map isNaN = [false, false, true] ∧
    (cumulativeSum.apply ys).map isNaN = [false, true, true] := by
  decide +kernel

/-- Three numbers there and back again, and a missing value between two others. -/
theorem totals_undo_differences_three :
    let xs : List (Exact ℚ) := [.number 3, .number 5, .number 4]
    let ys : List (Exact ℚ) := [.number 1, .nan, .number 2]
    let zs : List Float := [1, 0.0 / 0.0, 2]
    applyChain [cumulativeSum, difference] xs = [nan, .number 5, .number 4] ∧
    applyChain [difference, cumulativeSum] xs = [nan, .number 2, .number 1] ∧
    (cumulativeSum.apply ys)[2]? = some (.number 3) ∧
    (cumulativeSum.apply zs).map isNaN = zs.map isNaN ∧
    (cumulativeSum.apply zs)[2]? = some ((presentUpTo zs 2).foldl (· + ·) (ofNat 0)) := by
  intro xs ys zs
  obtain ⟨hexact, hvalues, hpattern⟩ := totals_undo_differences
  obtain ⟨hinverse, htotals, -⟩ := hexact (K := ℚ)
  obtain ⟨hback, hforth⟩ := hinverse (.number 3) [.number 5, .number 4] (by decide)
  obtain ⟨y, hy, -, hsum⟩ := htotals ys 2 (.number 2) rfl
  refine ⟨hback, ?_, ?_, hpattern zs (by decide +kernel), hvalues zs 2 2 rfl⟩
  · rw [hforth]
    norm_num
  · have hpresent : presentUpTo ys 2 = [.number 1, .number 2] := rfl
    rw [hy, (hsum rfl).1, hpresent]
    norm_num

end Filter

end Logbook
