import Logbook.Proofs.Filter.Positions

/-!
# Shifts, one after the other

A lag moves the values of a list to later positions and a lead to earlier ones. What is moved over an
end is lost, and no numbers come in at the other end.

* `later_later`, `earlier_earlier` — two shifts in the same direction are one by the sum.
* `earlier_later`, `later_earlier` — there and back again loses the values at one end.
* `Filter.shifts_compose` — both for the filters, with the shifts and positions in words.
-/

namespace Logbook

open Arithmetic

variable {α : Type} [Arithmetic α]

/-! ## The same direction -/

theorem later_of_length_le {n : Nat} {xs : List α} (h : xs.length ≤ n) :
    later n xs = List.replicate xs.length nan := by
  rw [later, Nat.min_eq_right h, Nat.sub_eq_zero_of_le h, List.take_zero, List.append_nil]

theorem earlier_of_length_le {n : Nat} {xs : List α} (h : xs.length ≤ n) :
    earlier n xs = List.replicate xs.length nan := by
  rw [earlier, Nat.min_eq_right h, List.drop_eq_nil_of_le h, List.nil_append]

theorem later_later (a b : Nat) (xs : List α) : later b (later a xs) = later (a + b) xs := by
  refine List.ext_getElem?' fun i hi => ?_
  rw [length_later, length_later, length_later, Nat.max_self] at hi
  have hi' : i < (later a xs).length := by rwa [length_later]
  rw [getElem?_later b hi', getElem?_later (a + b) hi]
  by_cases hb : i < b
  · rw [if_pos hb, if_pos (by omega)]
  · rw [if_neg hb, getElem?_later a (by omega : i - b < xs.length)]
    by_cases ha : i - b < a
    · rw [if_pos ha, if_pos (by omega)]
    · rw [if_neg ha, if_neg (by omega), Nat.sub_sub, Nat.add_comm]

theorem earlier_earlier (a b : Nat) (xs : List α) : earlier b (earlier a xs) = earlier (a + b) xs := by
  refine List.ext_getElem?' fun i hi => ?_
  rw [length_earlier, length_earlier, length_earlier, Nat.max_self] at hi
  have hi' : i < (earlier a xs).length := by rwa [length_earlier]
  rw [getElem?_earlier b hi', getElem?_earlier (a + b) hi, length_earlier]
  by_cases hb : i + b < xs.length
  · rw [if_pos hb, getElem?_earlier a hb, Nat.add_right_comm, Nat.add_assoc]
  · rw [if_neg hb, if_neg (by omega)]

/-! ## There and back again -/

theorem earlier_later (n : Nat) (xs : List α) :
    earlier n (later n xs) = xs.take (xs.length - n) ++ List.replicate (min n xs.length) nan := by
  have hfront : (later n xs).drop n = xs.take (xs.length - n) := by
    rcases Nat.le_total n xs.length with h | h
    · rw [later, Nat.min_eq_left h, List.drop_left' List.length_replicate]
    · rw [later_of_length_le h, List.drop_replicate, Nat.sub_eq_zero_of_le h, List.take_zero,
        List.replicate_zero]
  rw [earlier, hfront, length_later]

theorem later_earlier (n : Nat) (xs : List α) :
    later n (earlier n xs) = List.replicate (min n xs.length) nan ++ xs.drop n := by
  have hback : (earlier n xs).take (xs.length - n) = xs.drop n := by
    rw [earlier, List.take_left' List.length_drop]
  rw [later, length_earlier, hback]

/-! ## The filters -/

namespace Filter

/-- **Shifts add up.** Two lags are the lag by their sum, and two leads the lead by their sum, also
where no word holds it; if it reaches the length of the list, nothing is left. A lag and the lead back
lose the values at the end, a lead and the lag back those at the front. No position that a lag or a
lead is computed from leaves the words, and none at which a lag reads leaves the list. -/
theorem shifts_compose (xs : List α) (a b : UInt64) :
    (applyChain [lag a, lag b] xs = later (a.toNat + b.toNat) xs ∧
      applyChain [lead a, lead b] xs = earlier (a.toNat + b.toNat) xs ∧
      (∀ c : UInt64, c.toNat = a.toNat + b.toNat →
        applyChain [lag a, lag b] xs = (lag c).apply xs ∧
        applyChain [lead a, lead b] xs = (lead c).apply xs) ∧
      (xs.length ≤ a.toNat + b.toNat →
        applyChain [lag a, lag b] xs = List.replicate xs.length nan ∧
        applyChain [lead a, lead b] xs = List.replicate xs.length nan)) ∧
    applyChain [lag a, lead a] xs =
      xs.take (xs.length - a.toNat) ++ List.replicate (min a.toNat xs.length) nan ∧
    applyChain [lead a, lag a] xs =
      List.replicate (min a.toNat xs.length) nan ++ xs.drop a.toNat ∧
    (xs.length < UInt64.size → ∀ i : UInt64, i.toNat < xs.length →
      (∃ y, laterAt? a xs i = some y ∧ ((lag a).apply xs)[i.toNat]? = some y) ∧
      ((lead a).apply xs)[i.toNat]? = some (earlierAt a xs i)) := by
  have hlag : applyChain [lag a, lag b] xs = later (a.toNat + b.toNat) xs :=
    later_later a.toNat b.toNat xs
  have hlead : applyChain [lead a, lead b] xs = earlier (a.toNat + b.toNat) xs :=
    earlier_earlier a.toNat b.toNat xs
  refine ⟨⟨hlag, hlead, fun c hc => ?_, fun hle => ?_⟩, earlier_later a.toNat xs,
    later_earlier a.toNat xs, fun hlength i hi => ⟨?_, ?_⟩⟩
  · rw [hlag, hlead, ← hc]
    exact ⟨rfl, rfl⟩
  · rw [hlag, hlead]
    exact ⟨later_of_length_le hle, earlier_of_length_le hle⟩
  · obtain ⟨y, hy⟩ : ∃ y, (later a.toNat xs)[i.toNat]? = some y :=
      ⟨_, List.getElem?_eq_getElem (by rwa [length_later])⟩
    exact ⟨y, (laterAt?_eq a hi).trans hy, hy⟩
  · exact (earlierAt_eq a hlength hi).symm

/-- Three values, shifts by one and two, and shifts of which no word holds the sum. -/
theorem shifts_compose_three :
    let xs : List Float := [1, 2, 3]
    applyChain [lag 1, lag 1] xs = (lag 2).apply xs ∧
    applyChain [lead 18446744073709551615, lead 1] xs = List.replicate 3 nan ∧
    applyChain [lag 1, lead 1] xs = [1, 2, nan] ∧
    applyChain [lead 1, lag 1] xs = [nan, 2, 3] ∧
    laterAt? 1 xs 2 = some 2 := by
  intro xs
  obtain ⟨⟨-, -, hsum, -⟩, hback, hforth, hwords⟩ := shifts_compose xs 1 1
  obtain ⟨⟨-, -, -, hlost⟩, -⟩ := shifts_compose xs 18446744073709551615 1
  refine ⟨(hsum 2 (by decide)).1, (hlost (by decide)).2, hback, hforth, ?_⟩
  obtain ⟨⟨y, hy, hvalue⟩, -⟩ := hwords (by decide) 2 (by decide)
  rw [hy, ← hvalue]
  rfl

end Filter

end Logbook
