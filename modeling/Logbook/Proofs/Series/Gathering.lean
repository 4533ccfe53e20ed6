import Mathlib.Algebra.BigOperators.Group.List.Basic
import Mathlib.Data.List.Pairwise
import Mathlib.Data.List.Sort
import Mathlib.Tactic.Linarith
import Logbook.Proofs.Number.Exact
import Logbook.Series.Sketch

/-!
# Sketches of numbers

What gathering makes of numbers in exact arithmetic, whatever the scale is by which it opens new
centroids.

* `Sketch.number` — a sketch whose least, greatest, means and weights are numbers.
* `Sketch.Regular` — there are centroids, their weights are positive and add up to the count, and
  their means are in order and lie between the least and the greatest.
* `Gathering.add_number` — one step of gathering keeps what is known of the centroids so far
  (`Gathering.Between`), and `Gathering.foldl_add_number` so does a run.
* `Sketch.exists_ofValues_number` — the sketch of a list of numbers is a regular sketch of numbers.
-/

namespace Logbook

open Arithmetic

variable {K : Type}

/-- The centroid of exact numbers with these two fields. -/
def Centroid.number (c : Centroid K) : Centroid (Exact K) :=
  ⟨.number c.mean, .number c.weight⟩

namespace Sketch

/-- The sketch of exact numbers with these fields. -/
def number (s : Sketch K) : Sketch (Exact K) :=
  ⟨s.count, .number s.least, .number s.greatest, s.centroids.map (·.number)⟩

@[simp] theorem count_number (s : Sketch K) : s.number.count = s.count := rfl

@[simp] theorem least_number (s : Sketch K) : s.number.least = .number s.least := rfl

@[simp] theorem greatest_number (s : Sketch K) : s.number.greatest = .number s.greatest := rfl

@[simp] theorem size_number (s : Sketch K) : s.number.centroids.size = s.centroids.size := by
  simp [number]

/-- The weight of the first `i` centroids. -/
def before [AddCommMonoid K] (s : Sketch K) (i : Nat) : K :=
  ((s.centroids.toList.take i).map (·.weight)).sum

/-- What holds of the sketch of some numbers. -/
structure Regular [Field K] [LinearOrder K] (s : Sketch K) : Prop where
  nonempty : 0 < s.centroids.size
  weight_pos : ∀ c ∈ s.centroids, 0 < c.weight
  weights : s.before s.centroids.size = s.count
  inOrder : s.centroids.toList.Pairwise fun c d => c.mean ≤ d.mean
  least_le : ∀ c ∈ s.centroids, s.least ≤ c.mean
  le_greatest : ∀ c ∈ s.centroids, c.mean ≤ s.greatest

/-! ## Gathering -/

namespace Gathering

/-- The gathering of exact numbers with these fields. -/
def number (g : Gathering K) : Gathering (Exact K) where
  finished := g.finished.map (·.number)
  step := g.step
  limit := .number g.limit
  head := .number g.head
  joined := .number g.joined
  joinedCount := .number g.joinedCount
  seen := .number g.seen

variable [Field K] [LinearOrder K]

/-- What is known while numbers from `low` to `high` are gathered: the finished centroids have
positive weights and means in that range, the current one is made of numbers from it, and together
they weigh as much as numbers have been seen. -/
structure Between (low high : K) (g : Gathering K) : Prop where
  weight_pos : ∀ c ∈ g.finished, 0 < c.weight
  mean_mem : ∀ c ∈ g.finished, low ≤ c.mean ∧ c.mean ≤ high
  head_mem : low ≤ g.head ∧ g.head ≤ high
  joinedCount_nonneg : 0 ≤ g.joinedCount
  le_joined : g.joinedCount * low ≤ g.joined
  joined_le : g.joined ≤ g.joinedCount * high
  weights : (g.finished.map (·.weight)).sum + (1 + g.joinedCount) = g.seen

/-- The current centroid. -/
def centroid (g : Gathering K) : Centroid K :=
  ⟨(g.joined + g.head) / (1 + g.joinedCount), 1 + g.joinedCount⟩

variable [IsStrictOrderedRing K] {low high x : K} {g : Gathering K}

theorem Between.weight_centroid_pos (h : g.Between low high) : 0 < g.centroid.weight :=
  add_pos_of_pos_of_nonneg one_pos h.joinedCount_nonneg

/-- A mean of numbers in a range is in the range. -/
theorem Between.mean_centroid_mem (h : g.Between low high) :
    low ≤ g.centroid.mean ∧ g.centroid.mean ≤ high := by
  have hweight : 0 < 1 + g.joinedCount := h.weight_centroid_pos
  have hle := h.le_joined
  have hge := h.joined_le
  obtain ⟨hlow, hhigh⟩ := h.head_mem
  constructor
  · change low ≤ (g.joined + g.head) / (1 + g.joinedCount)
    rw [le_div_iff₀ hweight]
    linarith
  · change (g.joined + g.head) / (1 + g.joinedCount) ≤ high
    rw [div_le_iff₀ hweight]
    linarith

variable [ElementaryFunctions K]

theorem current_number (h : g.Between low high) : g.number.current = g.centroid.number := by
  have hne : 1 + g.joinedCount ≠ 0 := h.weight_centroid_pos.ne'
  simp [current, number, centroid, Centroid.number, Exact.number_div hne]

/-- The steps of the scale are numbers. -/
theorem exists_scale (k : Nat) : ∃ y : K, (scale k : Exact K) = .number y := by
  have hresolution : ((resolution : Nat) : K) ≠ 0 := by simp [resolution]
  unfold scale
  simp only [Exact.ofNat_eq, Exact.number_div hresolution, Nat.cast_one, Nat.cast_ofNat,
    Exact.number_div (two_ne_zero (α := K)), Exact.number_sub, Exact.number_mul]
  split
  · exact ⟨_, rfl⟩
  · exact ⟨_, rfl⟩

/-- Gathering starts with a centroid that is made of the first number. -/
theorem exists_start (total : K) (hx : low ≤ x ∧ x ≤ high) :
    ∃ g : Gathering K, start (.number total) (.number x) = g.number ∧ g.Between low high ∧
      g.seen = 1 := by
  obtain ⟨limit, hlimit⟩ := exists_scale (K := K) 1
  refine ⟨⟨[], 2, limit * total, x, 0, 0, 1⟩, ?_, ?_, rfl⟩
  · simp [start, number, hlimit]
  · exact ⟨by simp, by simp, hx, le_rfl, by simp, by simp, by simp⟩

/-- One more number from the range keeps what is known, on both ways: it joins the current centroid
or opens a new one. -/
theorem add_number (total : K) (h : g.Between low high) (hx : low ≤ x ∧ x ≤ high) :
    ∃ g' : Gathering K, g.number.add (.number total) (.number x) = g'.number ∧
      g'.Between low high ∧ g'.seen = g.seen + 1 := by
  by_cases hroom : g.seen + 1 ≤ g.limit
  · refine ⟨{ g with joined := g.joined + x, joinedCount := g.joinedCount + 1, seen := g.seen + 1 },
      ?_, ?_, rfl⟩
    · simp [add, number, hroom]
    · have hle := h.le_joined
      have hge := h.joined_le
      have hweights := h.weights
      refine ⟨h.weight_pos, h.mean_mem, h.head_mem, ?_, ?_, ?_, ?_⟩
      · exact add_nonneg h.joinedCount_nonneg zero_le_one
      · change (g.joinedCount + 1) * low ≤ g.joined + x
        linarith [hx.1]
      · change g.joined + x ≤ (g.joinedCount + 1) * high
        linarith [hx.2]
      · change _ + (1 + (g.joinedCount + 1)) = g.seen + 1
        linarith
  · obtain ⟨limit, hlimit⟩ := exists_scale (K := K) g.step
    refine ⟨⟨g.centroid :: g.finished, g.step + 1, limit * total, x, 0, 0, g.seen + 1⟩, ?_, ?_, rfl⟩
    · have hcurrent := current_number h
      simp only [number] at hcurrent
      simp [add, number, hroom, hlimit, hcurrent]
    · refine ⟨?_, ?_, hx, le_rfl, by simp, by simp, ?_⟩
      · exact List.forall_mem_cons.2 ⟨h.weight_centroid_pos, h.weight_pos⟩
      · exact List.forall_mem_cons.2 ⟨h.mean_centroid_mem, h.mean_mem⟩
      · have hweights := h.weights
        simp only [List.map_cons, List.sum_cons, centroid]
        linarith

/-- A run over numbers from the range keeps what is known. -/
theorem foldl_add_number (total : K) {rest : List K} (h : g.Between low high)
    (hrest : ∀ x ∈ rest, low ≤ x ∧ x ≤ high) :
    ∃ g' : Gathering K, (rest.map .number).foldl (add (.number total)) g.number = g'.number ∧
      g'.Between low high ∧ g'.seen = g.seen + rest.length := by
  induction rest generalizing g with
  | nil => exact ⟨g, rfl, h, by simp⟩
  | cons x rest ih =>
    obtain ⟨g₁, hadd, hbetween, hseen⟩ := add_number total h (hrest x List.mem_cons_self)
    obtain ⟨g', hrun, hbetween', hseen'⟩ := ih hbetween fun y hy => hrest y (List.mem_cons_of_mem _ hy)
    refine ⟨g', ?_, hbetween', ?_⟩
    · rw [List.map_cons, List.foldl_cons, hadd, hrun]
    · rw [hseen', hseen, List.length_cons]
      push_cast
      linarith

end Gathering

/-! ## Sketches of values -/

/-- Values that are finite and in order are not rearranged, if their centroids are in order too. -/
theorem ofValues_of_inOrder {α : Type} [Arithmetic α] {values : List α}
    (hfin : ∀ v ∈ values, isFinite v = true) (hvalues : values.Pairwise fun a b => le a b = true)
    (hmeans : (gather values).Pairwise fun c d => le c.mean d.mean = true) :
    ofValues values = ⟨values.length, values.head?.getD nan, values.getLast?.getD nan,
      (gather values).toArray⟩ := by
  rw [ofValues, List.filter_eq_self.2 hfin, List.mergeSort_of_pairwise hvalues,
    List.mergeSort_of_pairwise hmeans]

variable [Field K] [LinearOrder K] [IsStrictOrderedRing K] [ElementaryFunctions K]

/-- Numbers from a range are gathered into centroids with means in the range, which weigh as much as
there are numbers. -/
theorem exists_gather_number {low high : K} {xs : List K} (hxs : xs ≠ [])
    (hrange : ∀ x ∈ xs, low ≤ x ∧ x ≤ high) :
    ∃ cs : List (Centroid K), gather (xs.map Exact.number) = cs.map (·.number) ∧ cs ≠ [] ∧
      (∀ c ∈ cs, 0 < c.weight ∧ low ≤ c.mean ∧ c.mean ≤ high) ∧
      (cs.map (·.weight)).sum = xs.length := by
  obtain ⟨x, rest, rfl⟩ := List.exists_cons_of_ne_nil hxs
  obtain ⟨g₀, hstart, hbetween₀, hseen₀⟩ :=
    Gathering.exists_start ((rest.length + 1 : Nat) : K) (hrange x List.mem_cons_self)
  obtain ⟨g, hrun, hbetween, hseen⟩ :=
    Gathering.foldl_add_number ((rest.length + 1 : Nat) : K) hbetween₀
      fun y hy => hrange y (List.mem_cons_of_mem _ hy)
  refine ⟨(g.centroid :: g.finished).reverse, ?_, by simp, ?_, ?_⟩
  · simp only [List.map_cons, gather, List.length_map, Exact.ofNat_eq, hstart, hrun,
      Gathering.current_number hbetween, List.map_reverse]
    rfl
  · intro c hc
    rcases List.mem_cons.1 (List.mem_reverse.1 hc) with rfl | hc
    · exact ⟨hbetween.weight_centroid_pos, hbetween.mean_centroid_mem⟩
    · exact ⟨hbetween.weight_pos c hc, hbetween.mean_mem c hc⟩
  · rw [List.map_reverse, List.sum_reverse, List.map_cons, List.sum_cons, add_comm,
      Gathering.centroid, hbetween.weights, hseen, hseen₀, List.length_cons, Nat.cast_succ, add_comm]

omit [IsStrictOrderedRing K] in
/-- Numbers are finite, and are put in order as numbers. -/
theorem sorted_number (xs : List K) :
    ((xs.map Exact.number).filter Arithmetic.isFinite).mergeSort (fun a b => le a b) =
      (xs.mergeSort fun x y => decide (x ≤ y)).map .number := by
  have hfilter : (xs.map Exact.number).filter Arithmetic.isFinite = xs.map Exact.number := by
    simp [List.filter_eq_self]
  rw [hfilter]
  exact (List.map_mergeSort fun x _ y _ => Exact.le_number.symm).symm

/-- The sketch of some numbers is a regular sketch of numbers; its least and its greatest are among
them. -/
theorem exists_ofValues_number {xs : List K} (hxs : xs ≠ []) :
    ∃ s : Sketch K, ofValues (xs.map Exact.number) = s.number ∧ s.Regular ∧
      s.least ∈ xs ∧ s.greatest ∈ xs := by
  let inOrder := xs.mergeSort fun x y => decide (x ≤ y)
  have hmem : ∀ {x}, x ∈ inOrder ↔ x ∈ xs := List.mem_mergeSort
  obtain ⟨x, hx⟩ := List.exists_mem_of_ne_nil xs hxs
  have hne : inOrder ≠ [] := List.ne_nil_of_mem (hmem.2 hx)
  have hsorted : inOrder.Pairwise (· ≤ ·) := List.pairwise_mergeSort' (· ≤ ·) xs
  have hrange : ∀ x ∈ inOrder, inOrder.head hne ≤ x ∧ x ≤ inOrder.getLast hne := fun x hx =>
    ⟨hsorted.rel_head hx, hsorted.rel_getLast hx⟩
  obtain ⟨cs, hgather, hcs, hmeans, hweights⟩ := exists_gather_number hne hrange
  let byMean := cs.mergeSort fun c d => decide (c.mean ≤ d.mean)
  have hmem' : ∀ {c}, c ∈ byMean ↔ c ∈ cs := List.mem_mergeSort
  refine ⟨⟨inOrder.length, inOrder.head hne, inOrder.getLast hne, byMean.toArray⟩, ?_, ?_,
    hmem.1 (List.head_mem hne), hmem.1 (List.getLast_mem hne)⟩
  · have hsort : ((xs.map Exact.number).filter Arithmetic.isFinite).mergeSort (fun a b => le a b) =
        inOrder.map .number := sorted_number xs
    have hsort' : (cs.map (·.number)).mergeSort (fun c d => le c.mean d.mean) =
        byMean.map (·.number) :=
      (List.map_mergeSort fun c _ d _ => Exact.le_number.symm).symm
    simp only [ofValues, hsort, hgather, hsort', number]
    simp [List.head?_eq_some_head hne, List.getLast?_eq_some_getLast hne]
  · refine ⟨?_, ?_, ?_, ?_, ?_, ?_⟩
    · simpa [byMean, List.length_pos_iff] using hcs
    · exact fun c hc => (hmeans c (hmem'.1 (by simpa using hc))).1
    · have hperm : byMean.Perm cs := List.mergeSort_perm cs _
      simpa [before, (hperm.map (·.weight)).sum_eq] using hweights
    · exact List.pairwise_mergeSort' (fun c d : Centroid K => c.mean ≤ d.mean) cs
    · exact fun c hc => (hmeans c (hmem'.1 (by simpa using hc))).2.1
    · exact fun c hc => (hmeans c (hmem'.1 (by simpa using hc))).2.2

omit [IsStrictOrderedRing K] in
/-- The least and the greatest of a sketch bound the numbers that it is made of. -/
theorem bounds_of_ofValues {xs : List K} {s : Sketch K} {x : K}
    (hs : ofValues (xs.map Exact.number) = s.number) (hx : x ∈ xs) :
    s.least ≤ x ∧ x ≤ s.greatest := by
  let inOrder := xs.mergeSort fun x y => decide (x ≤ y)
  have hmem : x ∈ inOrder := List.mem_mergeSort.2 hx
  have hne : inOrder ≠ [] := List.ne_nil_of_mem hmem
  have hsorted : inOrder.Pairwise (· ≤ ·) := List.pairwise_mergeSort' (· ≤ ·) xs
  have hleast := congrArg Sketch.least hs
  have hgreatest := congrArg Sketch.greatest hs
  simp only [ofValues, sorted_number, least_number, greatest_number] at hleast hgreatest
  have hhead : s.least = inOrder.head hne := by
    simpa [inOrder, List.head?_eq_some_head hne] using hleast.symm
  have hlast : s.greatest = inOrder.getLast hne := by
    simpa [inOrder, List.getLast?_eq_some_getLast hne] using hgreatest.symm
  rw [hhead, hlast]
  exact ⟨hsorted.rel_head hmem, hsorted.rel_getLast hmem⟩

end Sketch

end Logbook
