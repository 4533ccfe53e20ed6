import Mathlib.Data.List.Perm.Basic
import Logbook.Proofs.Series.AggregateOrder
import Logbook.Proofs.Series.Building
import Logbook.Proofs.Series.Frequencies
import Logbook.Proofs.Series.Variance

/-!
# Readings in another order

Aggregates are computed in one pass, from running means, from extremes held so far, from numbers put
in order, and from a table whose entries stand as they first occurred. Without rounding, none of them
but the first and the last reading depends on the order in which the readings come.

* `Sketch.ofValues_eq_of_perm` — the sketches of the same numbers are equal.
* `NumericSummary.Alike` — two summaries differ at most in what came first and last;
  `NumericSummary.alike_of_perm` says so of the same numbers.
* `FrequencyTable.categories_perm` — the tables of the same categories have the same entries.
* `aggregates_eq_of_perm` — all aggregates together, for lists of readings and for series.
-/

namespace Logbook

open Arithmetic

variable {K : Type} [Field K] [LinearOrder K] [ElementaryFunctions K] {xs ys : List K}

/-! ## Sketches -/

/-- The sketches of the same numbers are equal, as the numbers are put in order first. -/
theorem Sketch.ofValues_eq_of_perm (h : xs.Perm ys) :
    ofValues (xs.map Exact.number) = ofValues (ys.map .number) := by
  have hperm : (xs.mergeSort fun x y => decide (x ≤ y)).Perm
      (ys.mergeSort fun x y => decide (x ≤ y)) :=
    (List.mergeSort_perm xs _).trans (h.trans (List.mergeSort_perm ys _).symm)
  have hsorted : (xs.mergeSort fun x y => decide (x ≤ y)) =
      ys.mergeSort fun x y => decide (x ≤ y) :=
    hperm.eq_of_pairwise' (List.pairwise_mergeSort' (· ≤ ·) xs) (List.pairwise_mergeSort' (· ≤ ·) ys)
  rw [ofValues, ofValues, sorted_number, sorted_number, hsorted]

/-! ## Summaries of numbers -/

namespace Statistics

omit [LinearOrder K] [ElementaryFunctions K] in
theorem mean_eq_of_perm (h : xs.Perm ys) : mean xs = mean ys := by
  rw [mean, mean, h.sum_eq, h.length_eq]

omit [LinearOrder K] [ElementaryFunctions K] in
theorem squaresAbout_eq_of_perm (h : xs.Perm ys) (c : K) : squaresAbout c xs = squaresAbout c ys :=
  (h.map _).sum_eq

end Statistics

namespace NumericSummary

section Alike

variable {α : Type}

/-- Two summaries that hold the same but for the readings that came first and last, and extremes that
have the same values. -/
structure Alike (s t : NumericSummary α) : Prop where
  count : s.count = t.count
  sum : s.sum = t.sum
  runningMean : s.runningMean = t.runningMean
  squares : s.squares = t.squares
  least : s.min.map (·.value) = t.min.map (·.value)
  greatest : s.max.map (·.value) = t.max.map (·.value)

variable [Arithmetic α] {s t : NumericSummary α}

theorem Alike.mean (h : s.Alike t) : s.mean = t.mean := by
  rw [NumericSummary.mean, NumericSummary.mean, h.count, h.runningMean]

theorem Alike.variance (h : s.Alike t) : s.variance = t.variance := by
  rw [NumericSummary.variance, NumericSummary.variance, h.count, h.squares]

/-- The range is read off the values of the extremes. -/
theorem range_eq_map₂ (s : NumericSummary α) :
    s.range = (Option.map₂ (fun least greatest => greatest - least) (s.min.map (·.value))
      (s.max.map (·.value))).getD nan := by
  unfold NumericSummary.range
  cases s.min <;> cases s.max <;> rfl

theorem Alike.range (h : s.Alike t) : s.range = t.range := by
  rw [range_eq_map₂, range_eq_map₂, h.least, h.greatest]

end Alike

variable {readings readings' : List (Reading (Exact K))}

/-- The least reading of numbers has the least of them as its value. -/
theorem exists_least_value (hne : xs ≠ []) (hxs : readings.map (·.value) = xs.map .number) :
    ∃ y ∈ xs, (ofReadings readings).min.map (·.value) = some (.number y) ∧ ∀ x ∈ xs, y ≤ x := by
  obtain ⟨r, y, hmin, hy, hle⟩ := exists_min hne hxs
  have hr : r ∈ readings := mem_of_foldl_keep (by rw [← min_ofReadings]; exact hmin)
  refine ⟨y, ?_, by rw [hmin, Option.map_some, hy], hle⟩
  have hmem : Exact.number y ∈ xs.map Exact.number := hxs ▸ hy ▸ List.mem_map_of_mem hr
  simpa using hmem

/-- The greatest reading of numbers has the greatest of them as its value. -/
theorem exists_greatest_value (hne : xs ≠ []) (hxs : readings.map (·.value) = xs.map .number) :
    ∃ y ∈ xs, (ofReadings readings).max.map (·.value) = some (.number y) ∧ ∀ x ∈ xs, x ≤ y := by
  obtain ⟨r, y, hmax, hy, hle⟩ := exists_max hne hxs
  have hr : r ∈ readings := mem_of_foldl_keep (by rw [← max_ofReadings]; exact hmax)
  refine ⟨y, ?_, by rw [hmax, Option.map_some, hy], hle⟩
  have hmem : Exact.number y ∈ xs.map Exact.number := hxs ▸ hy ▸ List.mem_map_of_mem hr
  simpa using hmem

variable [IsStrictOrderedRing K]

/-- Summaries of the same numbers are alike. -/
theorem alike_of_perm (hxs : readings.map (·.value) = xs.map .number)
    (hys : readings'.map (·.value) = ys.map .number) (h : xs.Perm ys) :
    (ofReadings readings).Alike (ofReadings readings') := by
  have hs := totals_ofReadings hxs
  have ht := totals_ofReadings hys
  have hmean := Statistics.mean_eq_of_perm h
  have hextremes : (ofReadings readings).min.map (·.value) = (ofReadings readings').min.map (·.value) ∧
      (ofReadings readings).max.map (·.value) = (ofReadings readings').max.map (·.value) := by
    rcases eq_or_ne xs [] with rfl | hne
    · obtain rfl := h.nil_eq
      obtain rfl := List.map_eq_nil_iff.1 hxs
      obtain rfl := List.map_eq_nil_iff.1 hys
      exact ⟨rfl, rfl⟩
    · have hne' : ys ≠ [] := by
        rintro rfl
        exact hne h.eq_nil
      obtain ⟨y, hy, hmin, hle⟩ := exists_least_value hne hxs
      obtain ⟨y', hy', hmin', hle'⟩ := exists_least_value hne' hys
      obtain ⟨z, hz, hmax, hge⟩ := exists_greatest_value hne hxs
      obtain ⟨z', hz', hmax', hge'⟩ := exists_greatest_value hne' hys
      have hleast : y = y' := le_antisymm (hle y' (h.mem_iff.2 hy')) (hle' y (h.mem_iff.1 hy))
      have hgreatest : z = z' := le_antisymm (hge' z (h.mem_iff.1 hz)) (hge z' (h.mem_iff.2 hz'))
      exact ⟨by rw [hmin, hmin', hleast], by rw [hmax, hmax', hgreatest]⟩
  refine ⟨?_, ?_, ?_, ?_, hextremes.1, hextremes.2⟩
  · rw [hs.count, ht.count, h.length_eq]
  · rw [hs.sum, ht.sum, h.sum_eq]
  · rw [hs.runningMean, ht.runningMean, hmean]
  · rw [hs.squares, ht.squares, hmean, Statistics.squaresAbout_eq_of_perm h]

end NumericSummary

variable {readings readings' : List (Reading (Exact K))}

/-- Every aggregate but the first and the last reading is the same. -/
theorem NumericAggregate.ofReadings_eq_of_perm [IsStrictOrderedRing K] (h : readings.Perm readings')
    (hfin : ∀ r ∈ readings, isFinite r.value = true) {a : NumericAggregate} (hfirst : a ≠ .first)
    (hlast : a ≠ .last) : a.ofReadings readings = a.ofReadings readings' := by
  have hvalues : ∀ v ∈ readings.map (·.value), isFinite v = true := by simpa using hfin
  have hvalues' : ∀ v ∈ readings'.map (·.value), isFinite v = true := fun v hv =>
    hvalues v ((h.map _).mem_iff.2 hv)
  obtain ⟨xs, hxs⟩ := Exact.exists_map_number hvalues
  obtain ⟨ys, hys⟩ := Exact.exists_map_number hvalues'
  have hperm : xs.Perm ys := by
    refine (List.map_perm_map_iff fun _ _ => Exact.number.inj).1 ?_
    rw [← hxs, ← hys]
    exact h.map _
  have hsketch : Sketch.ofValues (readings.map (·.value)) =
      Sketch.ofValues (readings'.map (·.value)) := by
    rw [hxs, hys, Sketch.ofValues_eq_of_perm hperm]
  have halike := NumericSummary.alike_of_perm hxs hys hperm
  cases a with
  | count => exact congrArg Arithmetic.ofNat halike.count
  | sum => exact halike.sum
  | mean => exact halike.mean
  | deviation => exact congrArg sqrt halike.variance
  | variance => exact halike.variance
  | first => exact absurd rfl hfirst
  | last => exact absurd rfl hlast
  | least => exact congrArg (·.getD nan) halike.least
  | greatest => exact congrArg (·.getD nan) halike.greatest
  | range => exact halike.range
  | median | p25 | p75 | p90 | p95 | p99 =>
    rw [ofReadings_of_percent rfl, ofReadings_of_percent rfl, hsketch]

/-! ## Frequency tables -/

namespace FrequencyTable

variable {cs ds : List String}

/-- The tables of the same categories have the same entries, though maybe in another order. -/
theorem categories_perm (h : cs.Perm ds) :
    (ofValues cs).categories.Perm (ofValues ds).categories := by
  have hdifferent : (firstOccurrences cs).Perm (firstOccurrences ds) :=
    (List.perm_ext_iff_of_nodup (nodup_firstOccurrences cs) (nodup_firstOccurrences ds)).2 fun c => by
      rw [mem_firstOccurrences, mem_firstOccurrences, h.mem_iff]
  have hcounts : (firstOccurrences cs).map (fun c => (c, cs.count c)) =
      (firstOccurrences cs).map fun c => (c, ds.count c) :=
    List.map_congr_left fun c _ => by rw [h.count_eq]
  rw [(counts_ofValues cs).entries, (counts_ofValues ds).entries, hcounts]
  exact hdifferent.map _

theorem count_eq_of_perm (h : cs.Perm ds) : (ofValues cs).count = (ofValues ds).count := by
  rw [(counts_ofValues cs).count, (counts_ofValues ds).count, h.length_eq]

theorem frequency_eq_of_perm (h : cs.Perm ds) (c : String) :
    (ofValues cs).frequency c = (ofValues ds).frequency c := by
  rw [(counts_ofValues cs).frequency, (counts_ofValues ds).frequency, h.count_eq]

theorem entropy_eq_of_perm (h : cs.Perm ds) :
    ((ofValues cs).entropy : Exact K) = (ofValues ds).entropy := by
  rw [entropy, entropy, count_eq_of_perm h]
  split
  · rfl
  · dsimp only
    rw [Exact.sum_eq, Exact.sum_eq, ((categories_perm h).map _).sum_eq]

theorem ofTable_eq_of_perm (h : cs.Perm ds) (a : CategoryAggregate) :
    (a.ofTable (ofValues cs) : Exact K) = a.ofTable (ofValues ds) := by
  cases a with
  | count => exact congrArg Arithmetic.ofNat (count_eq_of_perm h)
  | distinct => exact congrArg Arithmetic.ofNat (categories_perm h).length_eq
  | entropy => exact entropy_eq_of_perm h
  | mode => rfl

end FrequencyTable

/-! ## Series -/

section Series

variable {β : Type} {start stop : Instant} {given : List (Reading β)} {s : Series β}

/-- A series that is built from readings in any order has these readings, whatever its bounds. -/
theorem Series.readings_perm_of_ofUnsorted (hs : ofUnsorted start stop given = .ok s) :
    (Window.series s).readings.Perm given :=
  (Series.ofUnsorted_eq_ok_iff.1 hs).2.2.2.perm

end Series

/-- **Aggregates do not depend on the order of readings.** Of the same finite readings in two orders,
every aggregate but the first and the last reading is the same without rounding, also for the series
that are built from them, between whatever bounds. Of the same categories in two orders, the count,
the number of different ones, the frequency of every text and the entropy are the same, whatever the
logarithm is. -/
theorem aggregates_eq_of_perm [IsStrictOrderedRing K] {categories categories' : List (Reading String)}
    (hfin : ∀ r ∈ readings, isFinite r.value = true) (hreadings : readings.Perm readings')
    (hcategories : categories.Perm categories') :
    (∀ a : NumericAggregate, a ≠ .first → a ≠ .last →
      a.ofReadings readings = a.ofReadings readings') ∧
    (∀ (start stop start' stop' : Instant) (s s' : Series (Exact K)),
      Series.ofUnsorted start stop readings = .ok s →
      Series.ofUnsorted start' stop' readings' = .ok s' →
      ∀ a : NumericAggregate, a ≠ .first → a ≠ .last →
        a.reduce (.series s) = a.reduce (.series s')) ∧
    (FrequencyTable.ofValues (categories.map (·.value))).count =
      (FrequencyTable.ofValues (categories'.map (·.value))).count ∧
    (FrequencyTable.ofValues (categories.map (·.value))).entries.size =
      (FrequencyTable.ofValues (categories'.map (·.value))).entries.size ∧
    (∀ c, (FrequencyTable.ofValues (categories.map (·.value))).frequency c =
      (FrequencyTable.ofValues (categories'.map (·.value))).frequency c) ∧
    ((FrequencyTable.ofValues (categories.map (·.value))).entropy : Exact K) =
      (FrequencyTable.ofValues (categories'.map (·.value))).entropy ∧
    ∀ (start stop start' stop' : Instant) (s s' : Series String),
      Series.ofUnsorted start stop categories = .ok s →
      Series.ofUnsorted start' stop' categories' = .ok s' →
      ∀ a : CategoryAggregate, (a.reduce (.series s) : Exact K) = a.reduce (.series s') := by
  have hvalues : (categories.map (·.value)).Perm (categories'.map (·.value)) := hcategories.map _
  refine ⟨fun a => NumericAggregate.ofReadings_eq_of_perm hreadings hfin, ?_,
    FrequencyTable.count_eq_of_perm hvalues, (FrequencyTable.categories_perm hvalues).length_eq,
    FrequencyTable.frequency_eq_of_perm hvalues, FrequencyTable.entropy_eq_of_perm hvalues, ?_⟩
  · intro start stop start' stop' s s' hs hs' a
    have hgiven := Series.readings_perm_of_ofUnsorted hs
    have hgiven' := Series.readings_perm_of_ofUnsorted hs'
    exact NumericAggregate.ofReadings_eq_of_perm (hgiven.trans (hreadings.trans hgiven'.symm))
      fun r hr => hfin r (hgiven.mem_iff.1 hr)
  · intro start stop start' stop' s s' hs hs' a
    have hgiven := Series.readings_perm_of_ofUnsorted hs
    have hgiven' := Series.readings_perm_of_ofUnsorted hs'
    have hperm := hgiven.trans (hcategories.trans hgiven'.symm)
    rw [CategoryAggregate.reduce, CategoryAggregate.reduce]
    exact FrequencyTable.ofTable_eq_of_perm (hperm.map _) a

/-- Three readings and three categories, each in two orders. -/
theorem aggregates_eq_of_perm_three :
    ∃ (readings readings' : List (Reading (Exact ℚ))) (categories categories' : List (Reading String)),
      readings.map (·.value) = [.number 3, .number 1, .number 2] ∧
      readings'.map (·.value) = [.number 2, .number 3, .number 1] ∧
      categories.map (·.value) = ["sun", "rain", "sun"] ∧
      categories'.map (·.value) = ["rain", "sun", "sun"] ∧
      (∀ r ∈ readings, isFinite r.value = true) ∧ readings.Perm readings' ∧
      categories.Perm categories' ∧
      NumericAggregate.variance.ofReadings readings = NumericAggregate.variance.ofReadings readings' ∧
      NumericAggregate.median.ofReadings readings = NumericAggregate.median.ofReadings readings' ∧
      ((FrequencyTable.ofValues (categories.map (·.value))).entropy : Exact ℚ) =
        (FrequencyTable.ofValues (categories'.map (·.value))).entropy := by
  let number : ℚ → Reading (Exact ℚ) := fun x => ⟨1, ⟨⟨0, 0, by omega⟩, by decide⟩, .number x⟩
  let text : String → Reading String := fun c => ⟨1, ⟨⟨0, 0, by omega⟩, by decide⟩, c⟩
  have hfin : ∀ r ∈ [number 3, number 1, number 2], isFinite r.value = true := by decide
  have hreadings : [number 3, number 1, number 2].Perm [number 2, number 3, number 1] := by decide
  have hcategories : [text "sun", text "rain", text "sun"].Perm
      [text "rain", text "sun", text "sun"] := by decide
  obtain ⟨hnumeric, -, -, -, -, hentropy, -⟩ := aggregates_eq_of_perm hfin hreadings hcategories
  exact ⟨_, _, _, _, rfl, rfl, rfl, rfl, hfin, hreadings, hcategories,
    hnumeric .variance (by decide) (by decide), hnumeric .median (by decide) (by decide), hentropy⟩

end Logbook
