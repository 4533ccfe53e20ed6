import Mathlib.Data.List.Induction
import Logbook.Proofs.Number.DoubleOrder
import Logbook.Proofs.Series.Summaries

/-!
# Extremes among doubles

A summary keeps its first reading as both extremes and replaces it by strictly better ones. Doubles
have a value that is no number, which is better than nothing and worse than nothing.

* `IsFirstBest` — a reading of a number that is better than those before it and that none after it is
  better than; there is at most one (`IsFirstBest.unique`).
* `IsFirstBest.keep`, `IsFirstBest.foldl_keep` — what is kept of more readings is the first best of
  them all.
* `foldl_keep_of_isNaN` — a value that is no number is never replaced.
* `kept_iff` — what is kept is the first best exactly if the first reading is a number.
* `NumericSummary.extremes_iff` — so the extremes of a summary are right in just that case.
-/

namespace Logbook

open Arithmetic

variable {α : Type} [Arithmetic α]

/-- Among the readings whose values are numbers, `r` is the first of those that no other one is better
than. -/
def IsFirstBest (better : α → α → Bool) (readings : List (Reading α)) (r : Reading α) : Prop :=
  ∃ before after, readings = before ++ r :: after ∧ isNaN r.value = false ∧
    (∀ q ∈ before, isNaN q.value = false → better r.value q.value = true) ∧
    ∀ q ∈ after, isNaN q.value = false → better q.value r.value = false

variable {better : α → α → Bool} {readings seen : List (Reading α)} {r q h : Reading α}

theorem isFirstBest_singleton (hr : isNaN r.value = false) : IsFirstBest better [r] r :=
  ⟨[], [], rfl, hr, by simp, by simp⟩

/-- Two readings cannot both come first. -/
theorem IsFirstBest.unique (hr : IsFirstBest better readings r) (hq : IsFirstBest better readings q) :
    r = q := by
  obtain ⟨before, after, rfl, hnumber, hbefore, hafter⟩ := hr
  obtain ⟨before', after', hsplit, hnumber', hbefore', hafter'⟩ := hq
  obtain ⟨between, rfl, hrest⟩ | ⟨between, rfl, hrest⟩ := List.append_eq_append_iff.1 hsplit
  · cases between with
    | nil => exact (List.cons.inj hrest).1
    | cons b between =>
      -- `r` stands before `q`: the one says that `q` is better, the other that it is not.
      obtain ⟨rfl, rfl⟩ := List.cons.inj hrest
      have hworse := hafter q (by simp) hnumber'
      rw [hbefore' r (by simp) hnumber] at hworse
      cases hworse
  · cases between with
    | nil => exact (List.cons.inj hrest).1.symm
    | cons b between =>
      obtain ⟨rfl, rfl⟩ := List.cons.inj hrest
      have hworse := hafter' r (by simp) hnumber
      rw [hbefore q (by simp) hnumber'] at hworse
      cases hworse

/-! ## What is kept -/

omit [Arithmetic α] in
/-- Something is kept once there is a reading. -/
theorem exists_foldl_keep_eq (better : α → α → Bool) (h : Reading α) (readings : List (Reading α)) :
    ∃ r, readings.foldl (NumericSummary.keep better) (some h) = some r := by
  induction readings generalizing h with
  | nil => exact ⟨h, rfl⟩
  | cons q readings ih =>
    rw [List.foldl_cons, NumericSummary.keep]
    split
    · exact ih q
    · exact ih h

section Keep

-- Numbers have places in a linear order, and one is better than another if its place comes first.
variable {L : Type} [LinearOrder L] {place : α → L}
  (hbetter : ∀ x y, better x y = true ↔ isNaN x = false ∧ isNaN y = false ∧ place x < place y)

include hbetter

theorem better_eq_false_iff {x y : α} (hx : isNaN x = false) (hy : isNaN y = false) :
    better x y = false ↔ place y ≤ place x := by
  rw [← Bool.not_eq_true, hbetter, not_and, not_and, ← not_lt]
  exact ⟨fun hle => hle hx hy, fun hle _ _ => hle⟩

/-- The first best of some readings is kept, or gives way to one more that is better. -/
theorem IsFirstBest.keep (hh : IsFirstBest better seen h) (q : Reading α) :
    ∃ r, NumericSummary.keep better (some h) q = some r ∧ IsFirstBest better (seen ++ [q]) r := by
  obtain ⟨before, after, rfl, hnumber, hbefore, hafter⟩ := hh
  cases hq : better q.value h.value with
  | true =>
    obtain ⟨hqnumber, -, hlt⟩ := (hbetter _ _).1 hq
    refine ⟨q, by simp [NumericSummary.keep, hq], before ++ h :: after, [], rfl, hqnumber, ?_, by simp⟩
    intro p hp hpnumber
    refine (hbetter _ _).2 ⟨hqnumber, hpnumber, ?_⟩
    rcases List.mem_append.1 hp with hp | hp
    · exact hlt.trans ((hbetter _ _).1 (hbefore p hp hpnumber)).2.2
    · rcases List.mem_cons.1 hp with rfl | hp
      · exact hlt
      · exact hlt.trans_le ((better_eq_false_iff hbetter hpnumber hnumber).1 (hafter p hp hpnumber))
  | false =>
    refine ⟨h, by simp [NumericSummary.keep, hq], before, after ++ [q], by simp, hnumber, hbefore, ?_⟩
    intro p hp hpnumber
    rcases List.mem_append.1 hp with hp | hp
    · exact hafter p hp hpnumber
    · rwa [List.mem_singleton.1 hp]

/-- Of more readings the first best of all is kept. -/
theorem IsFirstBest.foldl_keep (hh : IsFirstBest better seen h) (readings : List (Reading α)) :
    ∃ r, readings.foldl (NumericSummary.keep better) (some h) = some r ∧
      IsFirstBest better (seen ++ readings) r := by
  induction readings generalizing seen h with
  | nil => exact ⟨h, rfl, by rwa [List.append_nil]⟩
  | cons q readings ih =>
    obtain ⟨r, hkeep, hr⟩ := hh.keep hbetter q
    rw [List.foldl_cons, hkeep, List.append_cons]
    exact ih hr

/-- A value that is no number is kept for good, as nothing is better than it. -/
theorem foldl_keep_of_isNaN (hh : isNaN h.value = true) (readings : List (Reading α)) :
    readings.foldl (NumericSummary.keep better) (some h) = some h := by
  induction readings with
  | nil => rfl
  | cons q readings ih =>
    have hq : better q.value h.value = false := by
      rw [← Bool.not_eq_true, hbetter, hh]
      simp
    rw [List.foldl_cons, NumericSummary.keep, if_neg (by simp [hq]), ih]

/-- What is kept from the first reading on is the first best exactly if that reading is a number. -/
theorem kept_iff (head : Reading α) (rest : List (Reading α)) :
    (∀ r, (head :: rest).foldl (NumericSummary.keep better) none = some r ↔
      IsFirstBest better (head :: rest) r) ↔ isNaN head.value = false := by
  show (∀ r, rest.foldl (NumericSummary.keep better) (some head) = some r ↔ _) ↔ _
  constructor
  · intro hall
    by_contra hhead
    rw [Bool.not_eq_false] at hhead
    have hkept := foldl_keep_of_isNaN hbetter hhead rest
    obtain ⟨-, -, -, hnumber, -⟩ := (hall head).1 hkept
    rw [hhead] at hnumber
    cases hnumber
  · intro hhead r
    obtain ⟨best, hkept, hbest⟩ := (isFirstBest_singleton hhead).foldl_keep hbetter rest
    rw [hkept, Option.some.injEq]
    exact ⟨fun heq => heq ▸ hbest, fun hr => hbest.unique hr⟩

end Keep

/-! ## Summaries of doubles -/

namespace NumericSummary

theorem first_ofReadings (readings : List (Reading α)) :
    (ofReadings readings).first = readings.head? := by
  have hrun : ∀ (s : NumericSummary α), (readings.foldl observe s).first = s.first.or readings.head? := by
    induction readings with
    | nil => simp
    | cons r readings ih =>
      intro s
      rw [List.foldl_cons, ih]
      show (s.first.or (some r)).or readings.head? = s.first.or (some r)
      cases s.first <;> rfl
  exact hrun empty

theorem last_ofReadings (readings : List (Reading α)) :
    (ofReadings readings).last = readings.getLast? := by
  induction readings using List.reverseRecOn with
  | nil => rfl
  | append_singleton readings r _ =>
    rw [ofReadings, List.foldl_append, List.getLast?_concat]
    rfl

theorem range_eq {s : NumericSummary α} {least greatest : Reading α} (hmin : s.min = some least)
    (hmax : s.max = some greatest) : s.range = greatest.value - least.value := by
  rw [range, hmin, hmax]

/-- **The extremes of doubles.** The first and the last reading are held wherever values stand that are
no numbers, and the range is the difference of the extremes. The extremes themselves, the first of the
least and the first of the greatest among the numbers, are held exactly if the first reading is a
number; if it is not, it is held as both. -/
theorem extremes_iff (head : Reading Float) (rest : List (Reading Float)) :
    (ofReadings (head :: rest)).first = some head ∧
    (ofReadings (head :: rest)).last = (head :: rest).getLast? ∧
    ((∀ r, (ofReadings (head :: rest)).min = some r ↔ IsFirstBest lt (head :: rest) r) ↔
      isNaN head.value = false) ∧
    ((∀ r, (ofReadings (head :: rest)).max = some r ↔
        IsFirstBest (fun x y => lt y x) (head :: rest) r) ↔
      isNaN head.value = false) ∧
    (isNaN head.value = true →
      (ofReadings (head :: rest)).min = some head ∧ (ofReadings (head :: rest)).max = some head) ∧
    ∃ least greatest, (ofReadings (head :: rest)).min = some least ∧
      (ofReadings (head :: rest)).max = some greatest ∧
      (ofReadings (head :: rest)).range = greatest.value - least.value := by
  rw [min_ofReadings, max_ofReadings]
  refine ⟨first_ofReadings _, last_ofReadings _, kept_iff Double.lt_iff head rest,
    kept_iff Double.gt_iff head rest, ?_, ?_⟩
  · intro hhead
    exact ⟨foldl_keep_of_isNaN Double.lt_iff hhead rest,
      foldl_keep_of_isNaN Double.gt_iff hhead rest⟩
  · obtain ⟨least, hleast⟩ := exists_foldl_keep_eq lt head rest
    obtain ⟨greatest, hgreatest⟩ := exists_foldl_keep_eq (fun x y => lt y x) head rest
    refine ⟨least, greatest, hleast, hgreatest, range_eq ?_ ?_⟩
    · rw [min_ofReadings]
      exact hleast
    · rw [max_ofReadings]
      exact hgreatest

/-- A first reading that is no number hides the numbers 1 and 2 after it. -/
theorem extremes_hidden :
    ∃ head lower upper : Reading Float, isNaN head.value = true ∧ lower.value = 1 ∧ upper.value = 2 ∧
      IsFirstBest lt [head, lower, upper] lower ∧
      IsFirstBest (fun x y => lt y x) [head, lower, upper] upper ∧
      (ofReadings [head, lower, upper]).min = some head ∧
      (ofReadings [head, lower, upper]).max = some head := by
  let reading : Float → Reading Float := fun x => ⟨1, ⟨⟨0, 0, by omega⟩, by decide⟩, x⟩
  have hhead : isNaN (reading nan).value = true := by decide +kernel
  refine ⟨reading nan, reading 1, reading 2, hhead, rfl, rfl, ?_, ?_, ?_, ?_⟩
  · refine ⟨[reading nan], [reading 2], rfl, by decide +kernel, ?_, ?_⟩
    · simp [hhead]
    · have hlt : lt (reading 2).value (reading 1).value = false := by decide +kernel
      simp [hlt]
  · refine ⟨[reading nan, reading 1], [], rfl, by decide +kernel, ?_, by simp⟩
    have hlt : lt (reading 1).value (reading 2).value = true := by decide +kernel
    simp [hhead, hlt]
  · rw [min_ofReadings]
    exact foldl_keep_of_isNaN Double.lt_iff hhead _
  · rw [max_ofReadings]
    exact foldl_keep_of_isNaN Double.gt_iff hhead _

end NumericSummary

end Logbook
