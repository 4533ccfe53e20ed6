import Mathlib.Algebra.BigOperators.Group.List.Lemmas
import Mathlib.Algebra.GroupWithZero.Nat
import Mathlib.Data.List.Dedup
import Mathlib.Data.List.MinMax
import Logbook.Proofs.Series.FirstOccurrences
import Logbook.Series.FrequencyTable

/-!
# What a frequency table counts

A frequency table keeps its entries in a list and an index from categories to places in that list.
Every observation changes both, and windows find the different values in a way of their own.

* `FrequencyTable.Counts` — the table counts the categories of a list; `Counts.observe` and
  `counts_ofValues` carry this through one observation and through a run.
* `FrequencyTable.mostFrequent_eq_some_iff` — the most frequent entry is the first that no other one
  exceeds.
* `FrequencyTable.ofValues_exact` — what a table says of the categories that it has taken in.
-/

namespace Logbook

/-! ## The first of the greatest -/

/-- The member with the greatest value that comes first is greater than those before it and not
exceeded by those after it. -/
theorem argmax_eq_some_iff_append {α L : Type} [DecidableEq α] [LinearOrder L] {f : α → L}
    {xs : List α} {x : α} :
    xs.argmax f = some x ↔ ∃ before after, xs = before ++ x :: after ∧
      (∀ y ∈ before, f y < f x) ∧ ∀ y ∈ after, f y ≤ f x := by
  rw [List.argmax_eq_some_iff]
  constructor
  · rintro ⟨hmem, hle, hfirst⟩
    obtain ⟨before, after, rfl, hbefore⟩ := List.eq_append_cons_of_mem hmem
    refine ⟨before, after, rfl, fun y hy => ?_, fun y hy => hle y (by simp [hy])⟩
    by_contra hge
    have hplace := hfirst y (by simp [hy]) (not_lt.1 hge)
    rw [List.idxOf_append_of_notMem hbefore, List.idxOf_append_of_mem hy] at hplace
    have := List.idxOf_lt_length_iff.2 hy
    omega
  · rintro ⟨before, after, rfl, hbefore, hafter⟩
    have hx : x ∉ before := fun hx => lt_irrefl _ (hbefore x hx)
    refine ⟨by simp, fun y hy => ?_, fun y _ hge => ?_⟩
    · rcases List.mem_append.1 hy with hy | hy
      · exact (hbefore y hy).le
      · rcases List.mem_cons.1 hy with rfl | hy
        · exact le_rfl
        · exact hafter y hy
    · have hy : y ∉ before := fun hy => not_le_of_gt (hbefore y hy) hge
      rw [List.idxOf_append_of_notMem hx, List.idxOf_append_of_notMem hy, List.idxOf_cons_self]
      omega

namespace FrequencyTable

/-! ## One observation and a run -/

theorem getElem?_append_singleton_eq_some_iff {α : Type} {xs : List α} {x y : α} {i : Nat} :
    (xs ++ [x])[i]? = some y ↔ xs[i]? = some y ∨ i = xs.length ∧ x = y := by
  grind

/-- The table counts the categories: its entries are the first occurrences with their numbers, and
the index has the place of each. -/
structure Counts (t : FrequencyTable) (cs : List String) : Prop where
  count : t.count = cs.length
  entries : t.categories = (firstOccurrences cs).map fun c => (c, cs.count c)
  places : ∀ (c : String) (i : Nat), t.places[c]? = some i ↔ (firstOccurrences cs)[i]? = some c

variable {t : FrequencyTable} {cs : List String} {c : String} {i : Nat}

theorem counts_empty : Counts empty [] := by
  refine ⟨rfl, rfl, fun c i => ?_⟩
  rw [empty, Std.HashMap.getElem?_empty]
  simp [firstOccurrences]

theorem Counts.getElem?_entries (h : t.Counts cs) (i : Nat) :
    t.entries[i]? = (firstOccurrences cs)[i]?.map fun c => (c, cs.count c) := by
  rw [← Array.getElem?_toList, ← categories, h.entries, List.getElem?_map]

theorem Counts.size_entries (h : t.Counts cs) : t.entries.size = (firstOccurrences cs).length := by
  rw [← Array.length_toList, ← categories, h.entries, List.length_map]

/-- A category without a place has not been seen. -/
theorem Counts.notMem (h : t.Counts cs) (hc : t.places[c]? = none) : c ∉ cs := by
  intro hmem
  obtain ⟨i, hi⟩ := List.getElem?_of_mem (mem_firstOccurrences.2 hmem)
  rw [(h.places c i).2 hi] at hc
  cases hc

/-- **One more observation is counted** where the category stands, or at the end of the list. -/
theorem Counts.observe (h : t.Counts cs) (c : String) : (t.observe c).Counts (cs ++ [c]) := by
  have hcount : t.count + 1 = (cs ++ [c]).length := by rw [h.count, List.length_append]; rfl
  cases hplace : t.places[c]? with
  | some i =>
    have hi := (h.places c i).1 hplace
    have hc : c ∈ cs := mem_firstOccurrences.1 (List.mem_of_getElem? hi)
    rw [FrequencyTable.observe, hplace]
    refine ⟨hcount, ?_, fun d j => ?_⟩
    · refine List.ext_getElem? fun j => ?_
      rw [firstOccurrences_concat_of_mem hc, categories, Array.getElem?_toList,
        Array.getElem?_modify, h.getElem?_entries, List.getElem?_map]
      split
      · next hij =>
        rw [← hij, hi]
        simp
      · next hij =>
        -- The categories at other places are other ones, as no category is listed twice.
        cases hj : (firstOccurrences cs)[j]? with
        | none => rfl
        | some d =>
          have hd : d ≠ c := by
            rintro rfl
            have hlt := (List.getElem?_eq_some_iff.1 hi).1
            exact hij ((List.getElem?_inj hlt (nodup_firstOccurrences cs)).1 (hi.trans hj.symm))
          simp [hd.symm]
    · rw [firstOccurrences_concat_of_mem hc]
      exact h.places d j
  | none =>
    have hc := h.notMem hplace
    rw [FrequencyTable.observe, hplace]
    refine ⟨hcount, ?_, fun d j => ?_⟩
    · rw [firstOccurrences_concat_of_notMem hc, categories, Array.toList_push, ← categories,
        h.entries, List.map_append, List.map_singleton]
      congr 1
      · refine List.map_congr_left fun d hd => ?_
        have hd : d ≠ c := by
          rintro rfl
          exact hc (mem_firstOccurrences.1 hd)
        simp [hd.symm]
      · simp [List.count_eq_zero_of_not_mem hc]
    · rw [firstOccurrences_concat_of_notMem hc, Std.HashMap.getElem?_insert, h.size_entries]
      rw [getElem?_append_singleton_eq_some_iff, ← h.places]
      by_cases hd : c = d
      · subst hd
        simp [hplace, eq_comm]
      · simp [hd]

theorem counts_ofValues (cs : List String) : (ofValues cs).Counts cs := by
  induction cs using List.reverseRecOn with
  | nil => exact counts_empty
  | append_singleton cs c ih =>
    rw [ofValues, List.foldl_append]
    exact ih.observe c

/-! ## The most frequent entry -/

theorem mostFrequent_eq_argmax (es : List (String × Nat)) : mostFrequent es = es.argmax (·.2) := by
  cases es with
  | nil => rfl
  | cons e rest =>
    show some (rest.foldl _ e) = rest.foldl _ (some e)
    refine (List.foldl_hom some fun best d => ?_).symm
    show (if best.2 < d.2 then some d else some best) = some (if best.2 < d.2 then d else best)
    split <;> rfl

theorem mostFrequent_eq_some_iff {es : List (String × Nat)} {e : String × Nat} :
    mostFrequent es = some e ↔ ∃ before after, es = before ++ e :: after ∧
      (∀ d ∈ before, d.2 < e.2) ∧ ∀ d ∈ after, d.2 ≤ e.2 := by
  rw [mostFrequent_eq_argmax]
  exact argmax_eq_some_iff_append

theorem mostFrequent_eq_none_iff {es : List (String × Nat)} : mostFrequent es = none ↔ es = [] := by
  rw [mostFrequent_eq_argmax, List.argmax_eq_none]

/-! ## What is read off a table -/

theorem Counts.frequency (h : t.Counts cs) (c : String) : t.frequency c = cs.count c := by
  rw [FrequencyTable.frequency]
  cases hplace : t.places[c]? with
  | some i => simp [h.getElem?_entries, (h.places c i).1 hplace]
  | none => rw [List.count_eq_zero_of_not_mem (h.notMem hplace)]

/-- The numbers of the different categories add up to that of all. -/
theorem Counts.sum_categories (h : t.Counts cs) : (t.categories.map (·.2)).sum = cs.length := by
  have hperm : (firstOccurrences cs).Perm cs.dedup :=
    (List.perm_ext_iff_of_nodup (nodup_firstOccurrences cs) cs.nodup_dedup).2 (by simp)
  have hnumbers : t.categories.map (·.2) = (firstOccurrences cs).map fun c => cs.count c := by
    simp [h.entries]
  rw [hnumbers, (hperm.map _).sum_eq, List.sum_map_count_dedup_eq_length]

theorem Counts.mode?_eq_none_iff (h : t.Counts cs) : t.mode? = none ↔ cs = [] := by
  rw [mode?, Option.map_eq_none_iff, mostFrequent_eq_none_iff, h.entries, List.map_eq_nil_iff]
  simp [List.eq_nil_iff_forall_not_mem]

theorem mode?_eq_some_iff (t : FrequencyTable) (c : String) :
    t.mode? = some c ↔ ∃ before n after, t.categories = before ++ (c, n) :: after ∧
      (∀ e ∈ before, e.2 < n) ∧ ∀ e ∈ after, e.2 ≤ n := by
  rw [mode?, Option.map_eq_some_iff]
  constructor
  · rintro ⟨⟨d, n⟩, hbest, rfl⟩
    obtain ⟨before, after, hentries, hbefore, hafter⟩ := mostFrequent_eq_some_iff.1 hbest
    exact ⟨before, n, after, hentries, hbefore, hafter⟩
  · rintro ⟨before, n, after, hentries, hbefore, hafter⟩
    exact ⟨(c, n), mostFrequent_eq_some_iff.2 ⟨before, after, hentries, hbefore, hafter⟩, rfl⟩

/-- **A frequency table is exact.** Whatever categories have been taken in, the index has a place for a
category exactly if the entry at that place is of that category. The entries are the categories that
occur, each once, in the order in which they first occur and with the number of times that they do;
windows list the same as their different values. These numbers add up to the count, the frequency of
any text is the number of times that it occurs, and the most frequent category is the first listed of
those that no other one exceeds, which exists unless there are no categories. -/
theorem ofValues_exact (cs : List String) :
    (∀ (c : String) (i : Nat), (ofValues cs).places[c]? = some i ↔
      ∃ n, (ofValues cs).entries[i]? = some (c, n)) ∧
    (∃ different : List String,
      (∀ c, c ∈ different ↔ c ∈ cs) ∧
      different.Pairwise (fun c d => cs.idxOf c < cs.idxOf d) ∧
      (ofValues cs).categories = different.map (fun c => (c, cs.count c)) ∧
      ∀ w : Window String, w.values = cs → w.distinct = different) ∧
    (ofValues cs).count = cs.length ∧
    (ofValues cs).count = ((ofValues cs).categories.map (·.2)).sum ∧
    (∀ c, (ofValues cs).frequency c = cs.count c) ∧
    ((ofValues cs).mode? = none ↔ cs = []) ∧
    ∀ c, (ofValues cs).mode? = some c ↔
      ∃ before n after, (ofValues cs).categories = before ++ (c, n) :: after ∧
        (∀ e ∈ before, e.2 < n) ∧ ∀ e ∈ after, e.2 ≤ n := by
  have h := counts_ofValues cs
  refine ⟨fun c i => ?_, ⟨firstOccurrences cs, fun c => mem_firstOccurrences,
    pairwise_firstOccurrences cs, h.entries, ?_⟩, h.count, ?_, h.frequency, h.mode?_eq_none_iff,
    mode?_eq_some_iff _⟩
  · rw [h.places, h.getElem?_entries]
    simp
  · rintro w rfl
    rfl
  · rw [h.count, h.sum_categories]

end FrequencyTable

end Logbook
