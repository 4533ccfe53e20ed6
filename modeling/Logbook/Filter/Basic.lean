import Logbook.Number.Arithmetic

/-!
# Filters

A filter makes a list of numbers out of a list of numbers of the same length. What is no number
stands for a value that is missing.

* `Filter.apply` runs one filter, `applyChain` several from left to right.
* Rolling filters look at the last `size` values up to a position: there is no result before that
  many values, and none where one of them is missing.
* `length_apply` and `length_applyChain` say that filters keep the number of values.

Model of `WindowSize`, of `apply` of `Filter` with `rolling`, `sample_sd`, `min_max` and `z_score`,
and of `apply_chain` of `tr-filter`.
-/

namespace Logbook

open Arithmetic

/-- The number of values that a rolling filter looks at: more than one. -/
structure WindowSize where
  size : UInt64
  two_le : 2 ≤ size.toNat
deriving DecidableEq

/-- The filters, with the numbers that they are given. -/
inductive Filter (α : Type) where
  | rollingAverage (window : WindowSize)
  | rollingMin (window : WindowSize)
  | rollingMax (window : WindowSize)
  /-- The sample standard deviation of the window. -/
  | rollingDeviation (window : WindowSize)
  /-- Each value a number of positions later. -/
  | lag (positions : UInt64)
  /-- Each value a number of positions earlier. -/
  | lead (positions : UInt64)
  /-- The sum of the values up to a position. -/
  | cumulativeSum
  /-- Each value less the one before it. -/
  | difference
  /-- The values moved and scaled so that they reach from 0 to 1. -/
  | minMaxNormalization
  /-- The values moved and scaled so that their mean is 0 and their deviation 1. -/
  | zScoreNormalization
  /-- 1 above the threshold and 0 otherwise. -/
  | binaryThreshold (threshold : α)
  | sin
  | cos

variable {α : Type} [Arithmetic α]

/-! ## Statistics of a list -/

/-- The mean of a list. -/
def average (xs : List α) : α :=
  sum xs / ofNat xs.length

/-- The least number of a list; infinity for an empty one. -/
def minimum (xs : List α) : α :=
  xs.foldl least infinity

/-- The greatest number of a list; minus infinity for an empty one. -/
def maximum (xs : List α) : α :=
  xs.foldl greatest negInfinity

/-- The sample variance of a list; no number for fewer than two. -/
def sampleVariance (xs : List α) : α :=
  if xs.length < 2 then nan
  else
    let mean := average xs
    sum (xs.map fun x => (x - mean) * (x - mean)) / (ofNat xs.length - ofNat 1)

/-- The sample standard deviation of a list; no number for fewer than two. -/
def sampleDeviation (xs : List α) : α :=
  sqrt (sampleVariance xs)

/-- The values that are not missing. -/
def present (xs : List α) : List α :=
  xs.filter fun x => !isNaN x

/-! ## The filters -/

/-- The last `size` values up to position `i`, of a list that has as many. -/
def trailing {β : Type} (size : Nat) (xs : List β) (i : Nat) : List β :=
  (xs.drop (i + 1 - size)).take size

/-- A statistic of the last `size` values up to each position. -/
def rolling (statistic : List α → α) (size : Nat) (xs : List α) : List α :=
  (List.range xs.length).map fun i =>
    if i + 1 < size then nan
    else
      let window := trailing size xs i
      if window.any isNaN then nan else statistic window

@[simp] theorem length_rolling (statistic : List α → α) (size : Nat) (xs : List α) :
    (rolling statistic size xs).length = xs.length := by
  simp [rolling]

/-- From position `size - 1` on, the window has as many values as its size says. -/
theorem length_trailing {β : Type} {size i : Nat} {xs : List β} (hsize : size ≤ i + 1)
    (hi : i < xs.length) : (trailing size xs i).length = size := by
  simp only [trailing, List.length_take, List.length_drop]
  omega

/-- The values `n` positions later. -/
def later (n : Nat) (xs : List α) : List α :=
  List.replicate (min n xs.length) nan ++ xs.take (xs.length - n)

@[simp] theorem length_later (n : Nat) (xs : List α) : (later n xs).length = xs.length := by
  simp only [later, List.length_append, List.length_replicate, List.length_take]
  omega

/-- The values `n` positions earlier. -/
def earlier (n : Nat) (xs : List α) : List α :=
  xs.drop n ++ List.replicate (min n xs.length) nan

@[simp] theorem length_earlier (n : Nat) (xs : List α) : (earlier n xs).length = xs.length := by
  simp only [earlier, List.length_append, List.length_replicate, List.length_drop]
  omega

/-- The sums of the values up to each position, added to `total`; a missing value stays missing and
adds nothing. -/
def runningTotals (total : α) : List α → List α
  | [] => []
  | x :: rest =>
    if isNaN x then x :: runningTotals total rest
    else (total + x) :: runningTotals (total + x) rest

@[simp] theorem length_runningTotals (total : α) (xs : List α) :
    (runningTotals total xs).length = xs.length := by
  induction xs generalizing total with
  | nil => rfl
  | cons x rest ih =>
    rw [runningTotals]
    split <;> simp [ih]

/-- Each value less the one before it; there is none before the first. -/
def differences : List α → List α
  | [] => []
  | x :: rest => nan :: List.zipWith (fun before after => after - before) (x :: rest) rest

@[simp] theorem length_differences (xs : List α) : (differences xs).length = xs.length := by
  cases xs with
  | nil => rfl
  | cons x rest => simp [differences]

/-- The values moved and scaled so that they reach from 0 to 1; all become 0 if they are equal. -/
def minMaxNormalized (xs : List α) : List α :=
  let low := minimum (present xs)
  let span := maximum (present xs) - low
  xs.map fun x =>
    if isNaN x then x else if eq span (ofNat 0) then ofNat 0 else (x - low) / span

@[simp] theorem length_minMaxNormalized (xs : List α) :
    (minMaxNormalized xs).length = xs.length := by
  simp [minMaxNormalized]

/-- The values moved and scaled so that their mean is 0 and their deviation 1; no numbers if they
are equal, or fewer than two. -/
def zScores (xs : List α) : List α :=
  let deviation := sampleDeviation (present xs)
  if isNaN deviation || eq deviation (ofNat 0) then List.replicate xs.length nan
  else
    let mean := average (present xs)
    xs.map fun x => (x - mean) / deviation

@[simp] theorem length_zScores (xs : List α) : (zScores xs).length = xs.length := by
  rw [zScores]
  split <;> simp

/-- 1 for values above the threshold and 0 for others; missing values stay missing. -/
def aboveThreshold (threshold : α) (xs : List α) : List α :=
  xs.map fun x => if isNaN x then x else if lt threshold x then ofNat 1 else ofNat 0

@[simp] theorem length_aboveThreshold (threshold : α) (xs : List α) :
    (aboveThreshold threshold xs).length = xs.length := by
  simp [aboveThreshold]

namespace Filter

/-- The result of a filter on a list of values. -/
def apply (f : Filter α) (xs : List α) : List α :=
  match f with
  | rollingAverage window => rolling average window.size.toNat xs
  | rollingMin window => rolling minimum window.size.toNat xs
  | rollingMax window => rolling maximum window.size.toNat xs
  | rollingDeviation window => rolling sampleDeviation window.size.toNat xs
  | lag positions => later positions.toNat xs
  | lead positions => earlier positions.toNat xs
  | cumulativeSum => runningTotals (ofNat 0) xs
  | difference => differences xs
  | minMaxNormalization => minMaxNormalized xs
  | zScoreNormalization => zScores xs
  | binaryThreshold threshold => aboveThreshold threshold xs
  | sin => xs.map Arithmetic.sin
  | cos => xs.map Arithmetic.cos

@[simp] theorem length_apply (f : Filter α) (xs : List α) : (f.apply xs).length = xs.length := by
  cases f <;> simp [apply]

/-- The result of several filters, from left to right. -/
def applyChain (filters : List (Filter α)) (xs : List α) : List α :=
  filters.foldl (fun xs f => f.apply xs) xs

@[simp] theorem length_applyChain (filters : List (Filter α)) (xs : List α) :
    (applyChain filters xs).length = xs.length := by
  induction filters generalizing xs with
  | nil => rfl
  | cons f rest ih =>
    rw [applyChain, List.foldl_cons]
    exact (ih (f.apply xs)).trans (length_apply f xs)

end Filter

end Logbook
