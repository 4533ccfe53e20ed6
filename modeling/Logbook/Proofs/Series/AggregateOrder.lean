import Logbook.Proofs.Series.QuantileOrder
import Logbook.Proofs.Series.Summaries
import Logbook.Series.Aggregate

/-!
# The order of aggregates

The quantiles among the aggregates of a window are those of the sketch of its values, so they are in
order where that sketch is evenly spaced; between the least and the greatest reading they always are.

* `NumericAggregate.reduce_le_reduce` — the quantiles of rising percentages are in order.
* `NumericAggregate.least_le_reduce`, `reduce_le_greatest` — no quantile leaves the range.
* `quantile_le_quantile_iff` — the quantiles of a list of numbers rise with the share exactly if its
  sketch is evenly spaced.
-/

namespace Logbook

open Arithmetic

namespace NumericAggregate

section Reductions

variable {α : Type} [Arithmetic α]

@[simp] theorem valueOf_some (r : Reading α) : valueOf (some r) = r.value := rfl

theorem reduce_least (w : Window α) :
    least.reduce w = valueOf (NumericSummary.ofReadings w.readings).min := rfl

theorem reduce_greatest (w : Window α) :
    greatest.reduce w = valueOf (NumericSummary.ofReadings w.readings).max := rfl

/-- A quantile among the aggregates is the quantile of its share in percent. -/
theorem ofReadings_of_percent {a : NumericAggregate} {n : Nat} (h : a.percent? = some n)
    (readings : List (Reading α)) : a.ofReadings readings =
      (Sketch.ofValues (readings.map (·.value))).quantile
        (Arithmetic.ofNat n / Arithmetic.ofNat 100) := by
  rw [ofReadings, h]

theorem reduce_of_percent {a : NumericAggregate} {n : Nat} (h : a.percent? = some n)
    (w : Window α) : a.reduce w =
      (Sketch.ofValues w.values).quantile (Arithmetic.ofNat n / Arithmetic.ofNat 100) :=
  ofReadings_of_percent h w.readings

end Reductions

variable {K : Type} [Field K] [LinearOrder K] [IsStrictOrderedRing K] {a b : NumericAggregate}
  {m n : Nat}

theorem percent_le_hundred (h : a.percent? = some n) : n ≤ 100 := by
  cases a <;> simp [percent?] at h <;> omega

theorem percent_mem (h : a.percent? = some n) :
    (0 : K) ≤ n / (100 : Nat) ∧ (n : K) / (100 : Nat) ≤ 1 := by
  have hhundred : (0 : K) < (100 : Nat) := by norm_num
  exact ⟨div_nonneg (Nat.cast_nonneg n) hhundred.le,
    (div_le_one hhundred).2 (Nat.cast_le.2 (percent_le_hundred h))⟩

variable [ElementaryFunctions K] {s : Sketch K} {w : Window (Exact K)} {xs : List K}

/-- The quantiles among the aggregates of numbers. -/
theorem reduce_number (hw : Sketch.ofValues w.values = s.number) (h : a.percent? = some n) :
    a.reduce w = s.number.quantile (.number (n / (100 : Nat))) := by
  rw [reduce_of_percent h, hw, Exact.ofNat_div_ofNat n (by decide)]

/-- Quantiles of rising percentages are in order if the sketch is evenly spaced. -/
theorem reduce_le_reduce (hs : s.Regular) (heven : s.Even)
    (hw : Sketch.ofValues w.values = s.number) (ha : a.percent? = some m)
    (hb : b.percent? = some n) (hmn : m ≤ n) : le (a.reduce w) (b.reduce w) = true := by
  rw [reduce_number hw ha, reduce_number hw hb]
  exact hs.quantile_le_quantile heven (percent_mem ha).1
    (div_le_div_of_nonneg_right (Nat.cast_le.2 hmn) (Nat.cast_nonneg 100)) (percent_mem hb).2

/-- No quantile is below the least reading, evenly spaced or not. -/
theorem least_le_reduce (hs : s.Regular) (hw : Sketch.ofValues w.values = s.number)
    (hxs : w.values = xs.map .number) (hleast : s.least ∈ xs) (ha : a.percent? = some n) :
    le (least.reduce w) (a.reduce w) = true := by
  obtain ⟨x, hx, hle, -⟩ := hs.exists_quantile_number (percent_mem ha).1 (percent_mem ha).2
  obtain ⟨r, y, hmin, hr, hall⟩ := NumericSummary.exists_min (List.ne_nil_of_mem hleast) hxs
  rw [reduce_least, hmin, valueOf_some, hr, reduce_number hw ha, hx, Exact.le_number,
    decide_eq_true_eq]
  exact (hall _ hleast).trans hle

/-- No quantile is above the greatest reading, evenly spaced or not. -/
theorem reduce_le_greatest (hs : s.Regular) (hw : Sketch.ofValues w.values = s.number)
    (hxs : w.values = xs.map .number) (hgreatest : s.greatest ∈ xs) (ha : a.percent? = some n) :
    le (a.reduce w) (greatest.reduce w) = true := by
  obtain ⟨x, hx, -, hle⟩ := hs.exists_quantile_number (percent_mem ha).1 (percent_mem ha).2
  obtain ⟨r, y, hmax, hr, hall⟩ := NumericSummary.exists_max (List.ne_nil_of_mem hgreatest) hxs
  rw [reduce_greatest, hmax, valueOf_some, hr, reduce_number hw ha, hx, Exact.le_number,
    decide_eq_true_eq]
  exact hle.trans (hall _ hgreatest)

end NumericAggregate

/-- **Quantiles rise with the share exactly if the sketch is evenly spaced**, and then the aggregates
of a window are in order from the least to the greatest. -/
theorem quantile_le_quantile_iff {K : Type} [Field K] [LinearOrder K] [IsStrictOrderedRing K]
    [ElementaryFunctions K] {values : List (Exact K)} (hne : values ≠ [])
    (hfin : ∀ v ∈ values, isFinite v = true) :
    ((∀ p q : K, 0 ≤ p → p ≤ q → q ≤ 1 → le ((Sketch.ofValues values).quantile (.number p))
        ((Sketch.ofValues values).quantile (.number q)) = true) ↔
      (Sketch.ofValues values).EvenlySpaced) ∧
    ((Sketch.ofValues values).EvenlySpaced → ∀ w : Window (Exact K), w.values = values →
      (([.least, .p25, .median, .p75, .p90, .p95, .p99, .greatest] : List NumericAggregate).map
        fun a => a.reduce w).IsChain fun x y => le x y = true) := by
  obtain ⟨xs, rfl⟩ := Exact.exists_map_number hfin
  have hxs : xs ≠ [] := fun h => hne (by rw [h]; rfl)
  obtain ⟨s, hs, hregular, hleast, hgreatest⟩ := Sketch.exists_ofValues_number hxs
  rw [hs, Sketch.evenlySpaced_number_iff]
  refine ⟨⟨hregular.even_of_quantile_le, fun heven p q => hregular.quantile_le_quantile heven⟩, ?_⟩
  intro heven w hw
  have hsketch : Sketch.ofValues w.values = s.number := by rw [hw, hs]
  have hpercent : ∀ {a b : NumericAggregate} {m n : Nat}, a.percent? = some m →
      b.percent? = some n → m ≤ n → le (a.reduce w) (b.reduce w) = true :=
    NumericAggregate.reduce_le_reduce hregular heven hsketch
  have hlow : le (NumericAggregate.least.reduce w) (NumericAggregate.p25.reduce w) = true :=
    NumericAggregate.least_le_reduce hregular hsketch hw hleast rfl
  have hhigh : le (NumericAggregate.p99.reduce w) (NumericAggregate.greatest.reduce w) = true :=
    NumericAggregate.reduce_le_greatest hregular hsketch hw hgreatest rfl
  simp only [List.map_cons, List.map_nil, List.isChain_cons_cons]
  exact ⟨hlow, hpercent rfl rfl (by decide), hpercent rfl rfl (by decide),
    hpercent rfl rfl (by decide), hpercent rfl rfl (by decide), hpercent rfl rfl (by decide), hhigh,
    .singleton _⟩

/-- Four readings with the same step from each to the next. -/
theorem quantile_le_quantile_iff_four :
    ∃ w : Window (Exact ℚ), w.values = [.number 1, .number 2, .number 3, .number 4] ∧
      w.values ≠ [] ∧ (∀ v ∈ w.values, isFinite v = true) ∧
      (Sketch.ofValues w.values).EvenlySpaced ∧
      le ((Sketch.ofValues w.values).quantile (.number (1 / 3)))
        ((Sketch.ofValues w.values).quantile (.number (2 / 3))) = true ∧
      (([.least, .p25, .median, .p75, .p90, .p95, .p99, .greatest] : List NumericAggregate).map
        fun a => a.reduce w).IsChain fun x y => le x y = true := by
  let s : Series (Exact ℚ) :=
    { start := ⟨⟨0, 0, by omega⟩, by decide⟩
      stop := ⟨⟨60, 0, by omega⟩, by decide⟩
      readings := #[⟨1, ⟨⟨0, 0, by omega⟩, by decide⟩, .number 1⟩,
        ⟨2, ⟨⟨10, 0, by omega⟩, by decide⟩, .number 2⟩,
        ⟨3, ⟨⟨20, 0, by omega⟩, by decide⟩, .number 3⟩,
        ⟨4, ⟨⟨30, 0, by omega⟩, by decide⟩, .number 4⟩]
      start_le := by decide
      inOrder := by unfold Reading.InOrder; decide }
  let w : Window (Exact ℚ) := .series s
  have hne : w.values ≠ [] := by decide
  have hfin : ∀ v ∈ w.values, isFinite v = true := by decide
  have heven : (Sketch.ofValues w.values).EvenlySpaced := by
    rw [Sketch.ofValues_of_inOrder hfin (by decide +kernel) (by decide +kernel)]
    decide +kernel
  obtain ⟨hquantile, hchain⟩ := quantile_le_quantile_iff hne hfin
  exact ⟨w, by decide, hne, hfin, heven,
    hquantile.2 heven (1 / 3) (2 / 3) (by norm_num) (by norm_num) (by norm_num), hchain heven w rfl⟩

/-- Ten readings of -100, one of 0 and one of 1. The estimate around 0 rises with the long step
before it and is at 1 already for a share of 0.9, while the one around 1 starts below 1. -/
theorem p95_lt_p90 :
    ∃ w : Window (Exact ℚ),
      w.values = (List.replicate 10 (-100) ++ [0, 1]).map Exact.number ∧
      (Sketch.ofValues w.values).quantile (.number (9 / 10)) = .number 1 ∧
      (Sketch.ofValues w.values).quantile (.number (95 / 100)) = .number (9 / 10) ∧
      le (NumericAggregate.p90.reduce w) (NumericAggregate.p95.reduce w) = false := by
  let reading : ℚ → Reading (Exact ℚ) := fun x =>
    ⟨1, ⟨⟨0, 0, by omega⟩, by decide⟩, .number x⟩
  let s : Series (Exact ℚ) :=
    { start := ⟨⟨0, 0, by omega⟩, by decide⟩
      stop := ⟨⟨60, 0, by omega⟩, by decide⟩
      readings := ((List.replicate 10 (-100) ++ [0, 1]).map reading).toArray
      start_le := by decide
      inOrder := by unfold Reading.InOrder; decide }
  let w : Window (Exact ℚ) := .series s
  have hfin : ∀ v ∈ w.values, isFinite v = true := by decide
  have hsketch := Sketch.ofValues_of_inOrder hfin (by decide +kernel) (by decide +kernel)
  refine ⟨w, by decide, ?_⟩
  rw [NumericAggregate.reduce_of_percent rfl, NumericAggregate.reduce_of_percent rfl, hsketch]
  decide +kernel

end Logbook
