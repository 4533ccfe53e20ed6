import Mathlib.Tactic.Linarith
import Mathlib.Tactic.Positivity
import Mathlib.Tactic.Ring
import Logbook.Proofs.Series.Quantiles

/-!
# Shares below a value

The share of the numbers up to a value is sought by halving the range of shares, as though quantiles
rose with the share. They need not, so here nothing is known of the quantiles in between: a share that
is found is the end of some step, not above the value, from which a step of the last width leads above
it. Still the shares of two values come in their order.

* `halve` — the run that halves a range by any test; `halve_mono` compares two runs of which one has
  the weaker test, up to the middle where they part.
* `Sketch.bisectShare_number` — the search for a share is such a run.
* `Sketch.share` — the share up to a value in a sketch of numbers, `Sketch.cdf_number`.
* `Sketch.cdf_brackets` — shares lie between 0 and 1, in order, and between the quantiles beside them.
-/

namespace Logbook

open Arithmetic

variable {K : Type} [Field K]

/-! ## Halving a range by a test -/

/-- The middle of a range. -/
def middle (low high : K) : K :=
  (low + high) / (2 : Nat)

/-- Halves the range from `low` to `high` a number of times, upwards where the middle passes the
test. -/
def halve (passes : K → Bool) : (steps : Nat) → (low high : K) → K
  | 0, low, _ => low
  | steps + 1, low, high =>
    if passes (middle low high) then halve passes steps (middle low high) high
    else halve passes steps low (middle low high)

section Halving

variable [LinearOrder K] [IsStrictOrderedRing K] {passes passes' : K → Bool} {low high : K}

theorem upper_half (low high : K) : high - middle low high = (high - low) / 2 := by
  rw [middle, Nat.cast_ofNat]
  ring

theorem lower_half (low high : K) : middle low high - low = (high - low) / 2 := by
  rw [middle, Nat.cast_ofNat]
  ring

theorem le_middle (h : low ≤ high) : low ≤ middle low high := by
  linarith [lower_half low high]

theorem middle_le (h : low ≤ high) : middle low high ≤ high := by
  linarith [upper_half low high]

/-- What is found is the lower end of a range of the last width. -/
theorem halve_mem (passes : K → Bool) (steps : Nat) (h : low ≤ high) :
    low ≤ halve passes steps low high ∧
      halve passes steps low high + (high - low) / 2 ^ steps ≤ high := by
  induction steps generalizing low high with
  | zero => simp [halve]
  | succ steps ih =>
    rw [halve, pow_succ', ← div_div]
    split
    · obtain ⟨hle, hadd⟩ := ih (middle_le h)
      rw [upper_half] at hadd
      exact ⟨(le_middle h).trans hle, hadd⟩
    · obtain ⟨hle, hadd⟩ := ih (le_middle h)
      rw [lower_half] at hadd
      exact ⟨hle, hadd.trans (middle_le h)⟩

/-- The lower end passes the test and the upper end does not, as the ends of the whole range do. -/
theorem halve_brackets (steps : Nat) (hlow : passes low = true) (hhigh : passes high = false) :
    passes (halve passes steps low high) = true ∧
      passes (halve passes steps low high + (high - low) / 2 ^ steps) = false := by
  induction steps generalizing low high with
  | zero => simpa [halve] using ⟨hlow, hhigh⟩
  | succ steps ih =>
    rw [halve, pow_succ', ← div_div]
    split
    · rename_i hmiddle
      rw [← upper_half]
      exact ih hmiddle hhigh
    · rename_i hmiddle
      rw [← lower_half]
      exact ih hlow (Bool.eq_false_of_not_eq_true hmiddle)

/-- With a weaker test the run ends no lower. Both runs are the same up to a middle that passes only
the weaker test; from there on one stays below it and the other above. -/
theorem halve_mono (himp : ∀ q, passes q = true → passes' q = true) (steps : Nat) (h : low ≤ high) :
    halve passes steps low high ≤ halve passes' steps low high := by
  induction steps generalizing low high with
  | zero => exact le_rfl
  | succ steps ih =>
    rw [halve, halve]
    rcases hstrong : passes (middle low high) with _ | _
    · rcases hweak : passes' (middle low high) with _ | _
      · exact ih (le_middle h)
      · have hwidth : 0 ≤ (middle low high - low) / 2 ^ steps :=
          div_nonneg (sub_nonneg.2 (le_middle h)) (by positivity)
        calc halve passes steps low (middle low high)
            ≤ middle low high := by linarith [(halve_mem passes steps (le_middle h)).2]
          _ ≤ halve passes' steps (middle low high) high := (halve_mem passes' steps (middle_le h)).1
    · rw [himp _ hstrong]
      exact ih (middle_le h)

end Halving

namespace Sketch

variable [LinearOrder K] [ElementaryFunctions K]

/-! ## The share up to a value -/

/-- Whether the quantile of a share is not above a value. -/
def quantileUpTo (s : Sketch K) (x : Exact K) (q : K) : Bool :=
  le (s.number.quantile (.number q)) x

/-- The share of the numbers that are not above a value. -/
def share (s : Sketch K) (x : Exact K) : K :=
  if lt x (.number s.least) then 0
  else if le (.number s.greatest) x then 1
  else halve (s.quantileUpTo x) halvings 0 1

variable [IsStrictOrderedRing K] {s : Sketch K} {x y : Exact K}

theorem bisectShare_number (s : Sketch K) (x : Exact K) (steps : Nat) (low high : K) :
    s.number.bisectShare x steps (.number low) (.number high) =
      .number (halve (s.quantileUpTo x) steps low high) := by
  induction steps generalizing low high with
  | zero => rfl
  | succ steps ih =>
    have hmiddle : (Exact.number low + Exact.number high) / ofNat 2 =
        Exact.number (middle low high) := by
      rw [Exact.number_add, Exact.ofNat_eq, Exact.number_div (Nat.cast_ne_zero.2 two_ne_zero), middle]
    rw [bisectShare, hmiddle, ih, ih, halve]
    exact (apply_ite Exact.number _ _ _).symm

theorem Regular.cdf_number (hs : s.Regular) (hx : isNaN x = false) :
    s.number.cdf x = .number (s.share x) := by
  have hzero : (ofNat 0 : Exact K) = .number 0 := by rw [Exact.ofNat_eq, Nat.cast_zero]
  have hone : (ofNat 1 : Exact K) = .number 1 := by rw [Exact.ofNat_eq, Nat.cast_one]
  simp only [cdf, share, hs.isEmpty_number, hx, Bool.false_or, least_number, greatest_number, hzero,
    hone, bisectShare_number, apply_ite Exact.number]

/-- Every share is a number, that of what is no number too. -/
theorem Regular.exists_cdf_number (hs : s.Regular) (x : Exact K) :
    ∃ c : K, s.number.cdf x = .number c := by
  cases hx : isNaN x with
  | false => exact ⟨_, hs.cdf_number hx⟩
  | true => exact ⟨0, by simp [cdf, hx]⟩

theorem share_mem (s : Sketch K) (x : Exact K) : 0 ≤ s.share x ∧ s.share x ≤ 1 := by
  unfold share
  split
  · exact ⟨le_rfl, zero_le_one⟩
  split
  · exact ⟨zero_le_one, le_rfl⟩
  · obtain ⟨hle, hadd⟩ := halve_mem (s.quantileUpTo x) halvings zero_le_one
    have hwidth : (0 : K) ≤ (1 - 0) / 2 ^ halvings := by rw [sub_zero]; positivity
    exact ⟨hle, by linarith⟩

/-- The share up to a greater value is not less, whatever the quantiles are. -/
theorem share_mono (s : Sketch K) (hxy : le x y = true) : s.share x ≤ s.share y := by
  by_cases hleast : lt x (.number s.least) = true
  · rw [share, if_pos hleast]
    exact (s.share_mem y).1
  by_cases hgreatest : le (.number s.greatest) y = true
  · have hleast' : ¬lt y (.number s.least) = true := fun h => hleast (Exact.lt_of_le_of_lt hxy h)
    rw [share.eq_1 s y, if_neg hleast', if_pos hgreatest]
    exact (s.share_mem x).2
  · have hleast' : ¬lt y (.number s.least) = true := fun h => hleast (Exact.lt_of_le_of_lt hxy h)
    have hgreatest' : ¬le (.number s.greatest) x = true := fun h => hgreatest (Exact.le_trans h hxy)
    rw [share, share, if_neg hleast, if_neg hleast', if_neg hgreatest, if_neg hgreatest']
    exact halve_mono (fun q hq => Exact.le_trans hq hxy) halvings zero_le_one

/-- From the least number up to below the greatest, the share is not above the value as a quantile, and
one step further the quantile is above it. -/
theorem Regular.share_brackets (hs : s.Regular) {a : K} (hleast : s.least ≤ a)
    (hgreatest : a < s.greatest) :
    le (s.number.quantile (.number (s.share (.number a)))) (.number a) = true ∧
      lt (.number a) (s.number.quantile (.number (s.share (.number a) + 1 / 2 ^ halvings))) = true := by
  have hshare : s.share (.number a) = halve (s.quantileUpTo (.number a)) halvings 0 1 := by
    simp [share, not_lt_of_ge hleast, not_le_of_gt hgreatest]
  have hlow : s.quantileUpTo (.number a) 0 = true := by
    simp [quantileUpTo, hs.quantile_zero, hleast]
  have hhigh : s.quantileUpTo (.number a) 1 = false := by
    simp [quantileUpTo, hs.quantile_one, hgreatest]
  obtain ⟨hbelow, habove⟩ := halve_brackets halvings hlow hhigh
  obtain ⟨hnonneg, hle⟩ := halve_mem (s.quantileUpTo (.number a)) halvings zero_le_one
  rw [sub_zero] at habove hle
  rw [hshare]
  refine ⟨hbelow, ?_⟩
  obtain ⟨b, hb, -, -⟩ := hs.exists_quantile_number (add_nonneg hnonneg (by positivity)) hle
  rw [quantileUpTo, hb, Exact.le_number, decide_eq_false_iff_not, not_le] at habove
  rw [hb, Exact.lt_number, decide_eq_true_iff]
  exact habove

/-! ## Shares of lists of values -/

/-- **The share up to a value.** Of numbers read exactly, the share up to a value lies between 0 and 1
and does not fall when the value rises; it is 0 below all numbers and 1 where none is above, and the
two tails add up to 1. From the least number up to below the greatest, the quantile of the share is not
above the value, and the quantile of the share and `2 ^ -64` is, whether or not quantiles rise in
between. -/
theorem cdf_brackets {values : List (Exact K)} (hne : values ≠ [])
    (hfin : ∀ v ∈ values, isFinite v = true) :
    (∀ x y : Exact K, le x y = true →
      le (ofNat 0) ((ofValues values).cdf x) = true ∧
      le ((ofValues values).cdf x) ((ofValues values).cdf y) = true ∧
      le ((ofValues values).cdf y) (ofNat 1) = true) ∧
    (∀ x, (∀ v ∈ values, lt x v = true) → (ofValues values).cdf x = ofNat 0) ∧
    (∀ x, (∀ v ∈ values, le v x = true) → (ofValues values).cdf x = ofNat 1) ∧
    (∀ x, (ofValues values).leftTail x + (ofValues values).rightTail x = ofNat 1) ∧
    ∀ x, (∃ v ∈ values, le v x = true) → (∃ v ∈ values, lt x v = true) →
      ∃ c : K, (ofValues values).cdf x = .number c ∧
        le ((ofValues values).quantile (.number c)) x = true ∧
        lt x ((ofValues values).quantile (.number (c + 1 / 2 ^ 64))) = true := by
  obtain ⟨xs, rfl⟩ := Exact.exists_map_number hfin
  obtain ⟨s, hs, hregular, hleast, hgreatest⟩ := exists_ofValues_number (by simpa using hne)
  have hmem : s.number.least ∈ xs.map .number := List.mem_map_of_mem hleast
  have hmem' : s.number.greatest ∈ xs.map .number := List.mem_map_of_mem hgreatest
  rw [hs]
  refine ⟨fun x y hxy => ?_, fun x hx => ?_, fun x hx => ?_, fun x => ?_, ?_⟩
  · obtain ⟨hx, hy⟩ := Exact.isNaN_eq_false_of_le hxy
    rw [hregular.cdf_number hx, hregular.cdf_number hy]
    simpa using ⟨(s.share_mem x).1, s.share_mono hxy, (s.share_mem y).2⟩
  · have hlt : lt x (.number s.least) = true := hx _ hmem
    rw [hregular.cdf_number (Exact.isNaN_eq_false_of_le (Exact.le_of_lt hlt)).1, share, if_pos hlt]
    simp
  · have hle : le (.number s.least) x = true := hx _ hmem
    have hle' : le (.number s.greatest) x = true := hx _ hmem'
    rw [hregular.cdf_number (Exact.isNaN_eq_false_of_le hle).2, share,
      if_neg (Bool.eq_false_iff.1 (Exact.lt_eq_false_of_le hle)), if_pos hle']
    simp
  · obtain ⟨c, hc⟩ := hregular.exists_cdf_number x
    rw [leftTail, rightTail, hregular.isEmpty_number, hc]
    simp
  · rintro x ⟨v, hv, hvx⟩ ⟨w, hw, hxw⟩
    obtain ⟨b, hb, rfl⟩ := List.mem_map.1 hv
    obtain ⟨d, hd, rfl⟩ := List.mem_map.1 hw
    obtain ⟨a, rfl, hba, had⟩ := Exact.exists_number_of_between hvx hxw
    obtain ⟨hbelow, habove⟩ := hregular.share_brackets ((bounds_of_ofValues hs hb).1.trans hba)
      (had.trans_le (bounds_of_ofValues hs hd).2)
    exact ⟨_, hregular.cdf_number rfl, hbelow, habove⟩

/-- Ten numbers of -100, one of 0 and one of 1, of which the quantile goes back from a share of 0.9 to
one of 0.95. -/
theorem cdf_brackets_twelve :
    ∃ values : List (Exact ℚ), values = (List.replicate 10 (-100) ++ [0, 1]).map .number ∧
      values ≠ [] ∧ (∀ v ∈ values, isFinite v = true) ∧
      lt ((ofValues values).quantile (.number (95 / 100)))
        ((ofValues values).quantile (.number (9 / 10))) = true ∧
      le ((ofValues values).cdf (.number (-50))) ((ofValues values).cdf (.number (1 / 2))) = true ∧
      (ofValues values).cdf .infinity = ofNat 1 ∧
      (ofValues values).leftTail (.number (1 / 2)) + (ofValues values).rightTail (.number (1 / 2)) =
        ofNat 1 ∧
      ∃ c : ℚ, (ofValues values).cdf (.number (1 / 2)) = .number c ∧
        le ((ofValues values).quantile (.number c)) (.number (1 / 2)) = true ∧
        lt (.number (1 / 2)) ((ofValues values).quantile (.number (c + 1 / 2 ^ 64))) = true := by
  let values : List (Exact ℚ) := (List.replicate 10 (-100) ++ [0, 1]).map .number
  have hne : values ≠ [] := by decide
  have hfin : ∀ v ∈ values, isFinite v = true := by decide
  have hback : lt ((ofValues values).quantile (.number (95 / 100)))
      ((ofValues values).quantile (.number (9 / 10))) = true := by
    rw [ofValues_of_inOrder hfin (by decide +kernel) (by decide +kernel)]
    decide +kernel
  obtain ⟨hmono, -, hone, htails, hbracket⟩ := cdf_brackets hne hfin
  exact ⟨values, rfl, hne, hfin, hback, (hmono _ _ (by decide +kernel)).2.1, hone _ (by decide), htails _,
    hbracket _ ⟨.number 0, by decide, by decide +kernel⟩ ⟨.number 1, by decide, by decide +kernel⟩⟩

end Sketch

end Logbook
