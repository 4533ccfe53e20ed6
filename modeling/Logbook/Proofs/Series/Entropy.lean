import Logbook.Proofs.Number.Reals
import Logbook.Proofs.Series.Frequencies

/-!
# The entropy of categories

Without rounding, the entropy of a frequency table is the sum over the categories of their share times
the logarithm of its inverse, whatever the logarithm is. Categories that occur equally often have shares
of which there are as many as the inverse share says, so that their logarithm is all that is left.

* `FrequencyTable.share` — how many of all occurrences are of a category.
* `FrequencyTable.entropy_eq_sum` — the entropy by its definition.
* `Exact.nsmul_share_mul` — equal shares of a value, as many as there are, come to the value.
* `FrequencyTable.entropy_uniform` — both together, for categories that occur equally often.
-/

namespace Logbook

open Arithmetic

variable {K : Type} [Field K]

namespace Exact

/-! ## Equal shares of a value -/

theorem nsmul_number (n : Nat) (x : K) : n • (number x : Exact K) = number (n * x) := by
  induction n with
  | zero => rw [zero_nsmul, Nat.cast_zero, zero_mul]; rfl
  | succ n ih => rw [succ_nsmul, ih, number_add, Nat.cast_succ, add_mul, one_mul]

/-- Adding up an infinity, or what is no number, does not change it. -/
theorem nsmul_of_add_self {v : Exact K} (hv : v + v = v) {n : Nat} (hn : 1 ≤ n) : n • v = v := by
  induction n, hn using Nat.le_induction with
  | base => exact one_nsmul v
  | succ n hn ih => rw [succ_nsmul, ih, hv]

/-- `n` shares of an `n`th come to the whole value, also if it is no number. -/
theorem nsmul_share_mul [LinearOrder K] [IsStrictOrderedRing K] {n : Nat} (hn : 1 ≤ n)
    (v : Exact K) : n • (number (n : K)⁻¹ * v) = v := by
  have hpos : (0 : K) < (n : K)⁻¹ := inv_pos.2 (Nat.cast_pos.2 hn)
  have hne : (n : K) ≠ 0 := Nat.cast_ne_zero.2 (by omega)
  cases v with
  | number x => rw [number_mul, nsmul_number, mul_inv_cancel_left₀ hne]
  | infinity =>
    have hshare : (number (n : K)⁻¹ * infinity : Exact K) = infinity := if_pos hpos
    rw [hshare, nsmul_of_add_self rfl hn]
  | negInfinity =>
    have hshare : (number (n : K)⁻¹ * negInfinity : Exact K) = negInfinity := by
      show infinityOf (-(n : K)⁻¹) = negInfinity
      rw [infinityOf, if_neg (neg_neg_of_pos hpos).not_gt, if_pos (neg_neg_of_pos hpos)]
    rw [hshare, nsmul_of_add_self rfl hn]
  | nan => exact nsmul_of_add_self rfl hn

end Exact

namespace FrequencyTable

/-! ## Shares -/

/-- How many of the occurrences of all categories are of one. -/
def share (K : Type) [Field K] (cs : List String) (c : String) : K :=
  cs.count c / cs.length

variable {cs : List String}

theorem share_of_count_eq [CharZero K] {n : Nat} (hn : 1 ≤ n) (hcount : ∀ c ∈ cs, cs.count c = n)
    {c : String} (hc : c ∈ cs) : share K cs c = (cs.toFinset.card : K)⁻¹ := by
  have hlength : cs.length = cs.toFinset.card * n := by
    rw [← List.sum_toFinset_count_eq_length, Finset.sum_const_nat fun c hc =>
      hcount c (List.mem_toFinset.1 hc)]
  have hne : (n : K) ≠ 0 := Nat.cast_ne_zero.2 (by omega)
  rw [share, hcount c hc, hlength, Nat.cast_mul, div_mul_cancel_right₀ hne]

variable [LinearOrder K] [ElementaryFunctions K]

/-- The entropy of a table by its definition. -/
theorem entropy_eq_sum [CharZero K] (cs : List String) : ((ofValues cs).entropy : Exact K) =
    ∑ c ∈ cs.toFinset, .number (share K cs c) * ln (.number (share K cs c)⁻¹) := by
  have hcounts := counts_ofValues cs
  have hset : cs.toFinset = (firstOccurrences cs).toFinset := by
    ext c
    simp
  rw [entropy, hcounts.count, hset, List.sum_toFinset _ (nodup_firstOccurrences cs)]
  split
  · next hnone =>
    obtain rfl := List.length_eq_zero_iff.1 hnone
    rw [Exact.ofNat_eq, Nat.cast_zero]
    rfl
  · next hsome =>
    dsimp only
    rw [Exact.sum_eq, hcounts.entries, List.map_map]
    refine congrArg List.sum (List.map_congr_left fun c hc => ?_)
    have hcount : cs.count c ≠ 0 :=
      (List.count_pos_iff.2 (mem_firstOccurrences.1 hc)).ne'
    rw [Function.comp_apply, Exact.ofNat_div_ofNat _ hsome, Exact.ofNat_div_ofNat _ hcount, share,
      inv_div]

/-- **The entropy of categories that occur equally often is the logarithm of their number.** The entropy
of any categories is the sum over the different ones of their share times the logarithm of its inverse,
which is zero if there are none. If there are `k` different ones that occur `n` times each, in whatever
order, it is the logarithm of `k`. The logarithm may be any function, also one that leads out of the
numbers. -/
theorem entropy_uniform [IsStrictOrderedRing K] :
    (∀ cs : List String, ((ofValues cs).entropy : Exact K) =
      ∑ c ∈ cs.toFinset, .number (share K cs c) * ln (.number (share K cs c)⁻¹)) ∧
    ((ofValues []).entropy : Exact K) = .number 0 ∧
    ∀ (k n : Nat) (cs : List String), 1 ≤ k → 1 ≤ n → cs.toFinset.card = k →
      (∀ c ∈ cs, cs.count c = n) → ((ofValues cs).entropy : Exact K) = ln (.number (k : K)) := by
  refine ⟨entropy_eq_sum, entropy_eq_sum [], fun k n cs hk hn hcard hcount => ?_⟩
  have hterms : ∀ c ∈ cs.toFinset,
      (.number (share K cs c) * ln (.number (share K cs c)⁻¹) : Exact K) =
        .number (k : K)⁻¹ * ln (.number (k : K)) := by
    intro c hc
    rw [share_of_count_eq hn hcount (List.mem_toFinset.1 hc), hcard, inv_inv]
  rw [entropy_eq_sum, Finset.sum_congr rfl hterms, Finset.sum_const, hcard]
  exact Exact.nsmul_share_mul hk _

/-- Three categories twice each, in two orders: the entropy is the natural logarithm of 3. -/
theorem entropy_uniform_three :
    ((ofValues ["a", "b", "c", "a", "b", "c"]).entropy : Exact ℝ) = .number (Real.log 3) ∧
    ((ofValues ["c", "a", "a", "b", "c", "b"]).entropy : Exact ℝ) = .number (Real.log 3) ∧
    ((ofValues []).entropy : Exact ℝ) = .number 0 := by
  obtain ⟨-, hnone, huniform⟩ := entropy_uniform (K := ℝ)
  have hln : (ln (.number ((3 : Nat) : ℝ)) : Exact ℝ) = .number (Real.log 3) := by
    simp [ln, ElementaryFunctions.ln]
  rw [huniform 3 2 ["a", "b", "c", "a", "b", "c"] (by decide) (by decide) (by decide) (by decide),
    huniform 3 2 ["c", "a", "a", "b", "c", "b"] (by decide) (by decide) (by decide) (by decide)]
  exact ⟨hln, hln, hnone⟩

end FrequencyTable

end Logbook
