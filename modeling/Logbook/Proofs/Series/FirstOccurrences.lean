import Mathlib.Data.List.Basic
import Mathlib.Data.List.Induction
import Logbook.Series.Window

/-!
# First occurrences

The members of a list without those that are equal to an earlier one: the categories of a frequency
table, the different values of a window, and the names that a formula reads.

* `mem_firstOccurrences`, `pairwise_firstOccurrences` — the first occurrences are the members of a
  list, each once and in the order in which they first occur.
* `firstOccurrences_filter` — members may be left out before or after.
-/

namespace Logbook

variable {β : Type} [BEq β] [LawfulBEq β] {xs : List β} {x : β}

@[simp] theorem mem_firstOccurrences : x ∈ firstOccurrences xs ↔ x ∈ xs := by
  induction xs using List.reverseRecOn with
  | nil => rfl
  | append_singleton xs y ih =>
    rw [firstOccurrences, List.foldl_append, ← firstOccurrences, List.foldl_cons, List.foldl_nil]
    split
    · next hy =>
      rw [ih, List.mem_append, List.mem_singleton, iff_self_or]
      rintro rfl
      exact ih.1 (List.contains_iff_mem.1 hy)
    · rw [List.mem_append, List.mem_append, ih]

theorem firstOccurrences_concat_of_mem (hx : x ∈ xs) :
    firstOccurrences (xs ++ [x]) = firstOccurrences xs := by
  have hseen : (firstOccurrences xs).contains x = true :=
    List.contains_iff_mem.2 (mem_firstOccurrences.2 hx)
  rw [firstOccurrences, List.foldl_append, ← firstOccurrences, List.foldl_cons, if_pos hseen,
    List.foldl_nil]

theorem firstOccurrences_concat_of_notMem (hx : x ∉ xs) :
    firstOccurrences (xs ++ [x]) = firstOccurrences xs ++ [x] := by
  have hnew : ¬ (firstOccurrences xs).contains x = true := fun hseen =>
    hx (mem_firstOccurrences.1 (List.contains_iff_mem.1 hseen))
  rw [firstOccurrences, List.foldl_append, ← firstOccurrences, List.foldl_cons, if_neg hnew,
    List.foldl_nil]

/-- The first occurrences are listed as they occur. -/
theorem pairwise_firstOccurrences (xs : List β) :
    (firstOccurrences xs).Pairwise fun x y => xs.idxOf x < xs.idxOf y := by
  induction xs using List.reverseRecOn with
  | nil => exact .nil
  | append_singleton xs z ih =>
    have hold : (firstOccurrences xs).Pairwise fun x y =>
        (xs ++ [z]).idxOf x < (xs ++ [z]).idxOf y := by
      refine ih.imp_of_mem fun hx hy hlt => ?_
      rwa [List.idxOf_append_of_mem (mem_firstOccurrences.1 hx),
        List.idxOf_append_of_mem (mem_firstOccurrences.1 hy)]
    by_cases hz : z ∈ xs
    · rwa [firstOccurrences_concat_of_mem hz]
    · rw [firstOccurrences_concat_of_notMem hz, List.pairwise_append]
      refine ⟨hold, List.pairwise_singleton _ z, fun x hx y hy => ?_⟩
      have hx := mem_firstOccurrences.1 hx
      rw [List.mem_singleton.1 hy, List.idxOf_append_of_mem hx, List.idxOf_append_of_notMem hz]
      exact Nat.lt_add_right _ (List.idxOf_lt_length_iff.2 hx)

theorem nodup_firstOccurrences (xs : List β) : (firstOccurrences xs).Nodup :=
  (pairwise_firstOccurrences xs).imp fun hlt => by
    rintro rfl
    exact Nat.lt_irrefl _ hlt

/-- Members can be left out before their first occurrences are sought, or afterwards. -/
theorem firstOccurrences_filter (p : β → Bool) (xs : List β) :
    firstOccurrences (xs.filter p) = (firstOccurrences xs).filter p := by
  induction xs using List.reverseRecOn with
  | nil => rfl
  | append_singleton xs x ih =>
    rw [List.filter_append]
    cases hp : p x with
    | false =>
      have hx : [x].filter p = [] := List.filter_cons_of_neg (by simp [hp])
      rw [hx, List.append_nil, ih]
      by_cases hmem : x ∈ xs
      · rw [firstOccurrences_concat_of_mem hmem]
      · rw [firstOccurrences_concat_of_notMem hmem, List.filter_append, hx, List.append_nil]
    | true =>
      have hx : [x].filter p = [x] := List.filter_cons_of_pos hp
      rw [hx]
      by_cases hmem : x ∈ xs
      · rw [firstOccurrences_concat_of_mem hmem,
          firstOccurrences_concat_of_mem (List.mem_filter.2 ⟨hmem, hp⟩), ih]
      · rw [firstOccurrences_concat_of_notMem hmem, List.filter_append, hx,
          firstOccurrences_concat_of_notMem fun h => hmem (List.mem_of_mem_filter h), ih]

end Logbook
