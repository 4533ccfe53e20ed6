import Logbook.Proofs.Series.Gathering

/-!
# Where a share falls

The quantile of a share is estimated in the centroid that its rank falls into. Both searches for
this centroid, from below for the lower half of the shares and from above for the upper half, find
the same one.

* `Sketch.InPlace` — a rank falls into a centroid: it is not below the weight of those before it,
  and below the weight up to its end.
* `Sketch.Regular.place_le` — greater ranks fall into later centroids, so a place is unique.
* `Sketch.fromBelow_numbered`, `Sketch.fromAbove_numbered` — the searches find the place of a rank,
  wherever among the centroids they start.
-/

namespace Logbook

open Arithmetic

variable {K : Type}

namespace Sketch

variable {s : Sketch K} {i j : Nat}

theorem length_numbered (s : Sketch K) : s.number.numbered.length = s.centroids.size := by
  simp [numbered, number]

variable [Field K]

/-- The mean of the centroid at a place. -/
def mean (s : Sketch K) (i : Nat) : K :=
  ((s.centroids[i]?).map (·.mean)).getD 0

/-- The weight of the centroid at a place. -/
def weight (s : Sketch K) (i : Nat) : K :=
  ((s.centroids[i]?).map (·.weight)).getD 0

theorem mean_of_lt (hi : i < s.centroids.size) : s.mean i = s.centroids[i].mean := by
  simp [mean, hi]

theorem weight_of_lt (hi : i < s.centroids.size) : s.weight i = s.centroids[i].weight := by
  simp [weight, hi]

theorem weight_of_le (hi : s.centroids.size ≤ i) : s.weight i = 0 := by
  simp [weight, Array.getElem?_eq_none hi]

theorem before_zero (s : Sketch K) : s.before 0 = 0 := by
  simp [before]

theorem before_succ (s : Sketch K) (i : Nat) : s.before (i + 1) = s.before i + s.weight i := by
  simp only [before, weight, List.take_add_one, List.map_append, List.sum_append,
    Array.getElem?_toList]
  cases s.centroids[i]? <;> simp

theorem getElem_numbered (hi : i < s.number.numbered.length) :
    s.number.numbered[i] = (i, ⟨.number (s.mean i), .number (s.weight i)⟩) := by
  have hi' : i < s.centroids.size := by rwa [length_numbered] at hi
  simp [numbered, number, Centroid.number, mean_of_lt hi', weight_of_lt hi']

variable [LinearOrder K]

/-! ## Regular sketches -/

theorem Regular.weight_pos_of_lt (hs : s.Regular) (hi : i < s.centroids.size) :
    0 < s.weight i := by
  rw [weight_of_lt hi]
  exact hs.weight_pos _ (Array.getElem_mem hi)

theorem Regular.mean_le (hs : s.Regular) (hij : i ≤ j) (hj : j < s.centroids.size) :
    s.mean i ≤ s.mean j := by
  rcases Nat.eq_or_lt_of_le hij with rfl | hlt
  · exact le_rfl
  · rw [mean_of_lt (hlt.trans hj), mean_of_lt hj]
    exact List.pairwise_iff_getElem.1 hs.inOrder i j _ _ hlt

theorem Regular.least_le_mean (hs : s.Regular) (hi : i < s.centroids.size) :
    s.least ≤ s.mean i := by
  rw [mean_of_lt hi]
  exact hs.least_le _ (Array.getElem_mem hi)

theorem Regular.mean_le_greatest (hs : s.Regular) (hi : i < s.centroids.size) :
    s.mean i ≤ s.greatest := by
  rw [mean_of_lt hi]
  exact hs.le_greatest _ (Array.getElem_mem hi)

theorem Regular.least_le_greatest (hs : s.Regular) : s.least ≤ s.greatest :=
  (hs.least_le_mean hs.nonempty).trans (hs.mean_le_greatest hs.nonempty)

/-- The rank falls into the centroid at a place. -/
def InPlace (s : Sketch K) (rank : K) (i : Nat) : Prop :=
  s.before i ≤ rank ∧ rank < s.before (i + 1)

theorem InPlace.lt_size {rank : K} (h : s.InPlace rank i) : i < s.centroids.size := by
  by_contra hi
  have hlt := h.1.trans_lt h.2
  rw [before_succ, weight_of_le (Nat.le_of_not_lt hi), add_zero] at hlt
  exact lt_irrefl _ hlt

/-! ## The two searches -/

section Searches

variable [ElementaryFunctions K] {rank : K} {k : Nat}

/-- The search from below, started at any centroid, finds the place of a rank that is not before
that centroid. -/
theorem fromBelow_numbered (last : Nat) (hk : k ≤ s.centroids.size)
    (hle : s.before k ≤ rank) (hlt : rank < s.before s.centroids.size) :
    ∃ i, fromBelow (.number rank) last (s.number.numbered.drop k) (.number (s.before k)) =
      (i, .number (s.before i)) ∧ s.InPlace rank i := by
  induction hk using Nat.decreasingInduction with
  | self => exact absurd hle (not_le_of_gt hlt)
  | of_succ k hk ih =>
    rw [List.drop_eq_getElem_cons (by rwa [length_numbered]), getElem_numbered]
    simp only [fromBelow, Exact.number_add, ← before_succ, Exact.lt_number, decide_eq_true_eq]
    by_cases hhere : rank < s.before (k + 1)
    · rw [if_pos hhere]
      exact ⟨k, rfl, hle, hhere⟩
    · rw [if_neg hhere]
      exact ih (le_of_not_gt hhere)

/-- The search from above, started after any number of centroids, finds the place of a rank that is
not after them. -/
theorem fromAbove_numbered (hk : k ≤ s.centroids.size) (hle : 0 ≤ rank)
    (hlt : rank < s.before k) :
    ∃ i, fromAbove (.number rank) (s.number.numbered.take k).reverse (.number (s.before k)) =
      (i, .number (s.before i)) ∧ s.InPlace rank i := by
  induction k with
  | zero => exact absurd hle (not_le_of_gt (by rwa [before_zero] at hlt))
  | succ k ih =>
    rw [List.take_succ_eq_append_getElem (by rwa [length_numbered]), List.reverse_append,
      getElem_numbered]
    simp only [List.reverse_singleton, List.singleton_append, fromAbove, Exact.number_sub,
      before_succ, add_sub_cancel_right, Exact.le_number, decide_eq_true_eq]
    by_cases hhere : s.before k ≤ rank
    · rw [if_pos hhere]
      exact ⟨k, rfl, hhere, hlt⟩
    · rw [if_neg hhere]
      exact ih (Nat.le_of_succ_le hk) (lt_of_not_ge hhere)

/-- Whichever of the two searches is made among all centroids, it finds the place of a rank. -/
theorem Regular.exists_search_number (hs : s.Regular) (above : Bool) (last : Nat) (hle : 0 ≤ rank)
    (hlt : rank < s.count) :
    ∃ i, (if above = true then
        fromAbove (.number rank) s.number.numbered.reverse (ofNat s.number.count)
      else fromBelow (.number rank) last s.number.numbered (ofNat 0)) =
        (i, Exact.number (s.before i)) ∧ s.InPlace rank i := by
  rw [← hs.weights] at hlt
  split
  · have h := fromAbove_numbered le_rfl hle hlt
    rwa [List.take_of_length_le (length_numbered s).le, hs.weights] at h
  · have h := fromBelow_numbered last (Nat.zero_le _) (by rwa [before_zero]) hlt
    rwa [List.drop_zero, before_zero, ← Nat.cast_zero, ← Exact.ofNat_eq] at h

end Searches

/-! ## The places of greater ranks -/

variable [IsStrictOrderedRing K]

theorem Regular.before_le (hs : s.Regular) (hij : i ≤ j) : s.before i ≤ s.before j := by
  induction j, hij using Nat.le_induction with
  | base => exact le_rfl
  | succ j _ ih =>
    rw [before_succ]
    by_cases hj : j < s.centroids.size
    · linarith [hs.weight_pos_of_lt hj]
    · rwa [weight_of_le (Nat.le_of_not_lt hj), add_zero]

theorem Regular.count_pos (hs : s.Regular) : (0 : K) < s.count := by
  have hle : s.before (0 + 1) ≤ s.before s.centroids.size := hs.before_le hs.nonempty
  rw [hs.weights, before_succ, before_zero, zero_add] at hle
  exact (hs.weight_pos_of_lt hs.nonempty).trans_le hle

theorem Regular.isEmpty_number (hs : s.Regular) : s.number.isEmpty = false := by
  have hcount : s.count ≠ 0 := by
    intro hzero
    simpa [hzero] using hs.count_pos
  simpa [isEmpty] using hcount

/-- A greater rank does not fall into an earlier centroid. -/
theorem Regular.place_le (hs : s.Regular) {rank rank' : K} (h : s.InPlace rank i)
    (h' : s.InPlace rank' j) (hle : rank ≤ rank') : i ≤ j := by
  by_contra hji
  have := hs.before_le (Nat.succ_le_of_lt (Nat.lt_of_not_le hji))
  linarith [h.1, h'.2]

end Sketch

end Logbook
