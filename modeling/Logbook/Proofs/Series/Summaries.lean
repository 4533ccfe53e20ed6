import Mathlib.Data.List.Induction
import Logbook.Proofs.Number.Exact
import Logbook.Series.NumericSummary

/-!
# Summaries of numbers

What a summary holds of the readings that it has taken in.

* `NumericSummary.min_ofReadings`, `max_ofReadings` — each extreme is found by a run of its own over
  the readings.
* `NumericSummary.exists_min`, `exists_max` — among numbers, these are the least and the greatest.
-/

namespace Logbook

open Arithmetic

namespace NumericSummary

section Runs

variable {α : Type} [Arithmetic α] (readings : List (Reading α))

theorem min_ofReadings : (ofReadings readings).min = readings.foldl (keep lt) none :=
  (List.foldl_hom min fun _ _ => rfl).symm

theorem max_ofReadings :
    (ofReadings readings).max = readings.foldl (keep fun new old => lt old new) none :=
  (List.foldl_hom max fun _ _ => rfl).symm

end Runs

/-- What is kept of some readings is one of them. -/
theorem mem_of_foldl_keep {α : Type} {better : α → α → Bool} {readings : List (Reading α)}
    {r : Reading α} (hr : readings.foldl (keep better) none = some r) : r ∈ readings := by
  induction readings using List.reverseRecOn generalizing r with
  | nil => cases hr
  | append_singleton readings q ih =>
    rw [List.foldl_append, List.foldl_cons, List.foldl_nil] at hr
    cases hheld : readings.foldl (keep better) none with
    | none =>
      rw [hheld] at hr
      simp [Option.some.inj hr]
    | some h =>
      rw [hheld, keep] at hr
      split at hr
      · simp [Option.some.inj hr]
      · exact List.mem_append_left _ (ih (hheld.trans hr))

variable {K : Type} {readings : List (Reading (Exact K))} {xs : List K}

section Keep

-- A new number replaces an old one only if it is related to it, and else the old one is to the new.
variable {better : Exact K → Exact K → Bool} {rel : K → K → Prop} [Std.Refl rel] [IsTrans K rel]
  (hnew : ∀ {x y}, better (.number y) (.number x) = true → rel y x)
  (hold : ∀ {x y}, better (.number y) (.number x) = false → rel x y)

include hnew hold

/-- The reading that is kept of some numbers is related to all of them. -/
theorem exists_foldl_keep {h : Reading (Exact K)} {x : K} (hx : h.value = .number x)
    (hxs : readings.map (·.value) = xs.map .number) :
    ∃ r y, readings.foldl (keep better) (some h) = some r ∧ r.value = .number y ∧
      ∀ z ∈ x :: xs, rel y z := by
  induction readings generalizing xs h x with
  | nil =>
    obtain rfl : xs = [] := List.map_eq_nil_iff.1 hxs.symm
    exact ⟨h, x, rfl, hx, by simpa using Std.Refl.refl x⟩
  | cons r readings ih =>
    obtain ⟨z, zs, rfl⟩ : ∃ z zs, xs = z :: zs :=
      List.exists_cons_of_ne_nil (by rintro rfl; cases hxs)
    obtain ⟨hz, hzs⟩ := List.cons.inj hxs
    cases hbetter : better (.number z) (.number x) with
    | true =>
      obtain ⟨r', y, hrun, hy, hall⟩ := ih hz hzs
      refine ⟨r', y, ?_, hy, ?_⟩
      · simpa [keep, hx, hz, hbetter] using hrun
      · have hyz : rel y z := hall z List.mem_cons_self
        exact List.forall_mem_cons.2 ⟨IsTrans.trans _ _ _ hyz (hnew hbetter), hall⟩
    | false =>
      obtain ⟨r', y, hrun, hy, hall⟩ := ih hx hzs
      obtain ⟨hyx, hrest⟩ := List.forall_mem_cons.1 hall
      refine ⟨r', y, ?_, hy, ?_⟩
      · simpa [keep, hx, hz, hbetter] using hrun
      · exact List.forall_mem_cons.2
          ⟨hyx, List.forall_mem_cons.2 ⟨IsTrans.trans _ _ _ hyx (hold hbetter), hrest⟩⟩

theorem exists_keep (hne : xs ≠ []) (hxs : readings.map (·.value) = xs.map .number) :
    ∃ r y, readings.foldl (keep better) none = some r ∧ r.value = .number y ∧
      ∀ x ∈ xs, rel y x := by
  obtain ⟨x, xs, rfl⟩ := List.exists_cons_of_ne_nil hne
  cases readings with
  | nil => cases hxs
  | cons r readings =>
    obtain ⟨hx, hxs⟩ := List.cons.inj hxs
    exact exists_foldl_keep hnew hold hx hxs

end Keep

variable [Field K] [LinearOrder K] [ElementaryFunctions K]

/-- The least of readings of numbers is not above any of them. -/
theorem exists_min (hne : xs ≠ []) (hxs : readings.map (·.value) = xs.map .number) :
    ∃ r y, (ofReadings readings).min = some r ∧ r.value = .number y ∧ ∀ x ∈ xs, y ≤ x := by
  rw [min_ofReadings]
  exact exists_keep (fun h => le_of_lt (of_decide_eq_true h)) (by simp) hne hxs

/-- The greatest of readings of numbers is not below any of them. -/
theorem exists_max (hne : xs ≠ []) (hxs : readings.map (·.value) = xs.map .number) :
    ∃ r y, (ofReadings readings).max = some r ∧ r.value = .number y ∧ ∀ x ∈ xs, x ≤ y := by
  rw [max_ofReadings]
  exact exists_keep (fun h => le_of_lt (of_decide_eq_true h)) (by simp) hne hxs

end NumericSummary

end Logbook
