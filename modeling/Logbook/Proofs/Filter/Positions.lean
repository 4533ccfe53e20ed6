import Mathlib.Data.List.Basic
import Logbook.Filter.Basic

/-!
# Filters, one position at a time

A filter that looks around a value finds the others by their positions. Positions are words: sums and
differences of them can leave the words, and positions can leave the list.

* `getElem?_rolling`, `getElem?_later`, `getElem?_earlier` — the value of a filter at a position.
* `Position.plus?`, `Position.minus?` — sums and differences of words that do not wrap.
* `rollingAt?`, `laterAt?`, `earlierAt` — the same values computed with words, where every sum and
  difference is checked; `none` where a computation leaves the words or the list.
* `rollingAt?_eq`, `laterAt?_eq`, `earlierAt_eq` — that does not happen, and the values are the same.
-/

namespace Logbook

open Arithmetic

/-! ## The value at a position -/

section Values

variable {α : Type} [Arithmetic α] {xs : List α} {i : Nat}

/-- A rolling filter has no result before the window is full, nor if a value in it is missing. -/
theorem getElem?_rolling (statistic : List α → α) {size : Nat} (hi : i < xs.length) :
    (rolling statistic size xs)[i]? =
      some (if i + 1 < size ∨ (trailing size xs i).any isNaN = true then nan
        else statistic (trailing size xs i)) := by
  rw [rolling, List.getElem?_map, List.getElem?_range hi, Option.map_some]
  by_cases hsize : i + 1 < size
  · rw [if_pos hsize, if_pos (.inl hsize)]
  · rw [if_neg hsize]
    simp only [hsize, false_or]

theorem getElem?_later (n : Nat) (hi : i < xs.length) :
    (later n xs)[i]? = if i < n then some nan else xs[i - n]? := by
  rw [later, List.getElem?_append, List.length_replicate]
  by_cases hlt : i < n
  · rw [if_pos (by omega), if_pos hlt, List.getElem?_replicate, if_pos (by omega)]
  · rw [if_neg (by omega), if_neg hlt, List.getElem?_take, if_pos (by omega)]
    congr 1
    omega

theorem getElem?_earlier (n : Nat) (hi : i < xs.length) :
    (earlier n xs)[i]? = if i + n < xs.length then xs[i + n]? else some nan := by
  rw [earlier, List.getElem?_append, List.length_drop]
  by_cases hlt : i + n < xs.length
  · rw [if_pos (by omega), if_pos hlt, List.getElem?_drop, Nat.add_comm]
  · rw [if_neg (by omega), if_neg hlt, List.getElem?_replicate, if_pos (by omega)]

end Values

/-! ## Positions in words -/

namespace Position

/-- The sum of two positions, unless the words do not hold it. -/
def plus? (i n : UInt64) : Option UInt64 :=
  if i ≤ i + n then some (i + n) else none

/-- The difference of two positions, unless it is below zero. -/
def minus? (i n : UInt64) : Option UInt64 :=
  if n ≤ i then some (i - n) else none

variable {i j n : UInt64}

/-- A sum has wrapped iff it is less than a summand. -/
theorem plus?_eq_some_iff : plus? i n = some j ↔ j.toNat = i.toNat + n.toNat := by
  have hj := j.toNat_lt
  have hsum := UInt64.toNat_add i n
  have hi := i.toNat_lt
  have hn := n.toNat_lt
  rw [plus?, Option.ite_none_right_eq_some, Option.some.injEq, UInt64.le_iff_toNat_le,
    ← UInt64.toNat_inj, hsum]
  omega

theorem plus?_eq_none_iff : plus? i n = none ↔ UInt64.size ≤ i.toNat + n.toNat := by
  have hsum := UInt64.toNat_add i n
  have hi := i.toNat_lt
  have hn := n.toNat_lt
  have hsize : UInt64.size = 18446744073709551616 := rfl
  rw [plus?, ite_eq_right_iff, UInt64.le_iff_toNat_le, hsum]
  simp only [reduceCtorEq, imp_false]
  omega

theorem minus?_eq_some_iff : minus? i n = some j ↔ i.toNat = j.toNat + n.toNat := by
  have hj := j.toNat_lt
  have hdifference := UInt64.toNat_sub i n
  have hi := i.toNat_lt
  have hn := n.toNat_lt
  rw [minus?, Option.ite_none_right_eq_some, Option.some.injEq, UInt64.le_iff_toNat_le,
    ← UInt64.toNat_inj, hdifference]
  omega

theorem minus?_eq_none_iff : minus? i n = none ↔ i.toNat < n.toNat := by
  rw [minus?, ite_eq_right_iff, UInt64.le_iff_toNat_le]
  simp only [reduceCtorEq, imp_false, Nat.not_le]

/-- The values from a position up to before another one, if all of them are there. -/
def between? {β : Type} (xs : List β) (start stop : UInt64) : Option (List β) :=
  if start ≤ stop ∧ stop.toNat ≤ xs.length then some ((xs.take stop.toNat).drop start.toNat)
  else none

/-- The last `size` values up to a position are there from that position on at which the window is
full. -/
theorem between?_trailing {β : Type} {xs : List β} {start stop size i : UInt64}
    (hstop : stop.toNat = i.toNat + 1) (hstart : stop.toNat = start.toNat + size.toNat)
    (hi : i.toNat < xs.length) :
    between? xs start stop = some (trailing size.toNat xs i.toNat) := by
  have hwindow : start ≤ stop ∧ stop.toNat ≤ xs.length := by
    rw [UInt64.le_iff_toNat_le]
    omega
  have hfirst : i.toNat + 1 - size.toNat = start.toNat := by omega
  have hcount : stop.toNat - start.toNat = size.toNat := by omega
  rw [between?, if_pos hwindow, trailing, List.drop_take, hfirst, hcount]

end Position

/-! ## Filters in words -/

section Words

open Position

variable {α : Type} [Arithmetic α] {xs : List α} {i : UInt64}

/-- A statistic of the last `size` values up to a position. -/
def rollingAt? (statistic : List α → α) (size : UInt64) (xs : List α) (i : UInt64) : Option α := do
  let stop ← plus? i 1
  if stop < size then return nan
  let start ← minus? stop size
  let window ← between? xs start stop
  return if window.any isNaN then nan else statistic window

/-- The value `n` positions before a position; no number if there is no such position. -/
def laterAt? (n : UInt64) (xs : List α) (i : UInt64) : Option α :=
  match minus? i n with
  | some j => xs[j.toNat]?
  | none => some nan

/-- The value `n` positions after a position; no number if there is none. -/
def earlierAt (n : UInt64) (xs : List α) (i : UInt64) : α :=
  match plus? i n with
  | some j => xs[j.toNat]?.getD nan
  | none => nan

/-- In a list as long as words can count, no position of a window leaves the words or the list. -/
theorem rollingAt?_eq (statistic : List α → α) (size : UInt64) (hlength : xs.length < UInt64.size)
    (hi : i.toNat < xs.length) :
    rollingAt? statistic size xs i = (rolling statistic size.toNat xs)[i.toNat]? := by
  obtain ⟨stop, hplus⟩ : ∃ stop, plus? i 1 = some stop := by
    refine Option.ne_none_iff_exists'.1 fun hnone => ?_
    have hwrapped : UInt64.size ≤ i.toNat + 1 := plus?_eq_none_iff.1 hnone
    omega
  have hstop : stop.toNat = i.toNat + 1 := plus?_eq_some_iff.1 hplus
  rw [getElem?_rolling statistic hi]
  by_cases hfull : stop < size
  · have hsize : i.toNat + 1 < size.toNat := hstop ▸ UInt64.lt_iff_toNat_lt.1 hfull
    simp [rollingAt?, hplus, hfull, hsize]
  · have hsize : ¬ i.toNat + 1 < size.toNat := hstop ▸ mt UInt64.lt_iff_toNat_lt.2 hfull
    obtain ⟨start, hminus⟩ : ∃ start, minus? stop size = some start := by
      refine Option.ne_none_iff_exists'.1 fun hnone => ?_
      have := minus?_eq_none_iff.1 hnone
      omega
    have hwindow := between?_trailing hstop (minus?_eq_some_iff.1 hminus) hi
    simp [rollingAt?, hplus, hfull, hsize, hminus, hwindow]

/-- The position before which a value is looked up is one of the list. -/
theorem laterAt?_eq (n : UInt64) (hi : i.toNat < xs.length) :
    laterAt? n xs i = (later n.toNat xs)[i.toNat]? := by
  rw [getElem?_later n.toNat hi, laterAt?]
  cases hminus : minus? i n with
  | none =>
    rw [if_pos (minus?_eq_none_iff.1 hminus)]
  | some j =>
    have hj := minus?_eq_some_iff.1 hminus
    rw [if_neg (by omega)]
    dsimp only
    congr 1
    omega

/-- Where the sum of a position and the shift leaves the words, it leaves the list. -/
theorem earlierAt_eq (n : UInt64) (hlength : xs.length < UInt64.size) (hi : i.toNat < xs.length) :
    some (earlierAt n xs i) = (earlier n.toNat xs)[i.toNat]? := by
  rw [getElem?_earlier n.toNat hi, earlierAt]
  cases hplus : plus? i n with
  | none =>
    have := plus?_eq_none_iff.1 hplus
    rw [if_neg (by omega)]
  | some j =>
    have hj := plus?_eq_some_iff.1 hplus
    rw [← hj]
    dsimp only
    by_cases hlt : j.toNat < xs.length
    · rw [if_pos hlt, List.getElem?_eq_getElem hlt, Option.getD_some]
    · rw [if_neg hlt, List.getElem?_eq_none (Nat.not_lt.1 hlt), Option.getD_none]

end Words

end Logbook
