import Logbook.Proofs.Number.Doubles

/-!
# Rounding

Products and quotients of doubles are rounded by what the bits behind the mantissa tell. No number
with as many bits is nearer to the exact result than what they are rounded to.

* `Double.StandsFor` — a mantissa and the two bits behind it, as a number; dropping bits halves it
  (`StandsFor.shiftRight`), and a whole number at most half a unit away is what it is rounded to
  (`StandsFor.abs_sub_le`).
* `Double.IsNearest` — no number that has the bits of a double is nearer.
* `Double.exists_round`, `Double.exists_mul`, `Double.exists_div` — rounding goes to the nearest
  number, and so do products and quotients.
* `Double.Rounds` — the numbers that a double is the rounding of, those beyond the greatest double
  included; `Rounds.exact` says that a number that a double has is not changed.
-/

namespace Logbook

open Float.Model Float.Model.UnpackedFloat

namespace Double

variable {m m' m₁ m₂ r : Nat} {e e' e₁ e₂ : Int} {t v : ℚ} {x : Float}

/-! ## Canonical form -/

/-- The form in which a word holds a mantissa and a power of two, unless the power is too large. -/
structure Canonical (m : Nat) (e : Int) : Prop where
  lt : m < 2 ^ 53
  low : -1074 ≤ e
  full : 2 ^ 52 ≤ m ∨ e = -1074

/-- A mantissa and a power of two without a sign. -/
def unsigned (m : Nat) (e : Int) : UnpackedFloat :=
  if h : m = 0 then .zero .positive else .finite .positive m e (Nat.pos_of_ne_zero h)

theorem Fits.canonical (h : Fits m e) : Canonical m e :=
  ⟨h.lt, h.low, h.full⟩

/-- A number has one canonical form. -/
theorem Canonical.eq_of_value_eq (h : Canonical m e) (h' : Canonical m' e')
    (hv : value m e = value m' e') : m = m' ∧ e = e' := by
  wlog hle : e' ≤ e generalizing m e m' e'
  · obtain ⟨rfl, rfl⟩ := this h' h hv.symm (by omega)
    exact ⟨rfl, rfl⟩
  have hm := eq_mul_pow hv.symm hle
  rcases hle.eq_or_lt with rfl | hlt
  · rw [sub_self, Int.toNat_zero, pow_zero, mul_one] at hm
    exact ⟨hm.symm, rfl⟩
  · -- A greater power of two than the least has a full mantissa, so the other one has too many bits.
    have hfull : 2 ^ 52 ≤ m := h.full.resolve_right (by have := h'.low; omega)
    have htwo : 2 ^ 1 ≤ 2 ^ (e - e').toNat := Nat.pow_le_pow_right two_pos (by omega)
    have hmany : 2 ^ 52 * 2 ^ 1 ≤ m' := hm ▸ Nat.mul_le_mul hfull htwo
    have := h'.lt
    omega

theorem canonical_of_ofFloat? {negative : Bool} (h : Binary.ofFloat? x = some ⟨negative, m, e⟩) :
    Canonical m e ∧ e ≤ 971 := by
  rcases Nat.eq_zero_or_pos m with rfl | hm
  · have he : e = -1074 := exponent_of_zero h rfl
    exact ⟨⟨by norm_num, he.ge, .inr he⟩, by omega⟩
  · have hfits := fits_of_ofFloat? h hm
    exact ⟨hfits.canonical, hfits.high⟩

/-! ## Mantissas and the bits behind them -/

/-- A mantissa with its round bit and its sticky bit stands for a number: the round bit is a half, and
the sticky bit tells whether less than a half is left over. -/
def StandsFor (x : ExtendedMantissa) (t : ℚ) : Prop :=
  ∃ rest : ℚ, 0 ≤ rest ∧ rest < 1 / 2 ∧ (x.stickyBit = true ↔ 0 < rest) ∧
    t = x.mantissa + (if x.roundBit then 1 / 2 else 0) + rest

theorem standsFor_mantissa (m : Nat) : StandsFor ⟨m, false, false⟩ m :=
  ⟨0, le_rfl, by norm_num, by simp, by simp⟩

theorem StandsFor.shiftRightOne {x : ExtendedMantissa} (h : StandsFor x t) :
    StandsFor x.shiftRightOne (t / 2) := by
  obtain ⟨rest, hle, hlt, hsticky, rfl⟩ := h
  obtain ⟨m, half, sticky⟩ := x
  have hm : (m : ℚ) = 2 * (m / 2 : Nat) + (m % 2 : Nat) := by exact_mod_cast (Nat.div_add_mod m 2).symm
  refine ⟨(if half then 1 / 4 else 0) + rest / 2, ?_, ?_, ?_, ?_⟩
  · split <;> linarith
  · split <;> linarith
  · simp only at hsticky
    cases half <;> cases sticky <;> simp [ExtendedMantissa.shiftRightOne] at hsticky ⊢ <;> linarith
  · rcases Nat.mod_two_eq_zero_or_one m with hmod | hmod <;>
      simp only [ExtendedMantissa.shiftRightOne, hmod] at hm ⊢ <;> rw [hm] <;> cases half <;>
      norm_num <;> ring

theorem StandsFor.shiftRight {x : ExtendedMantissa} (h : StandsFor x t) (k : Nat) :
    StandsFor (x >>> k) (t / 2 ^ k) := by
  show StandsFor (Nat.repeat ExtendedMantissa.shiftRightOne k x) _
  induction k with
  | zero => simpa [Nat.repeat] using h
  | succ k ih =>
    rw [Nat.repeat, pow_succ, ← div_div]
    exact ih.shiftRightOne

theorem StandsFor.mantissa_le {x : ExtendedMantissa} (h : StandsFor x t) : (x.mantissa : ℚ) ≤ t := by
  obtain ⟨rest, hle, -, -, rfl⟩ := h
  split <;> linarith

theorem StandsFor.lt_mantissa {x : ExtendedMantissa} (h : StandsFor x t) :
    t < x.mantissa + 1 := by
  obtain ⟨rest, -, hlt, -, rfl⟩ := h
  split <;> linarith

/-- Rounding goes to a whole number that is at most half a unit away. -/
theorem StandsFor.abs_sub_le {x : ExtendedMantissa} (h : StandsFor x t) :
    |(x.roundedMantissa : ℚ) - t| ≤ 1 / 2 := by
  obtain ⟨rest, hle, hlt, hsticky, rfl⟩ := h
  obtain ⟨m, half, sticky⟩ := x
  rw [abs_le]
  cases half <;> cases sticky <;>
    simp only [ExtendedMantissa.roundedMantissa, ExtendedMantissa.accuracy,
      Accuracy.roundToNearestEven, Bool.false_eq_true, false_iff, true_iff, not_lt, if_false,
      if_true] at hsticky ⊢
  · constructor <;> linarith
  · constructor <;> linarith
  · have : (m % 2 : Nat) ≤ 1 := by omega
    have : ((m % 2 : Nat) : ℚ) ≤ 1 := by exact_mod_cast this
    have : (0 : ℚ) ≤ ((m % 2 : Nat) : ℚ) := Nat.cast_nonneg _
    push_cast
    constructor <;> linarith
  · push_cast
    constructor <;> linarith

theorem roundedMantissa_bounds (x : ExtendedMantissa) :
    x.mantissa ≤ x.roundedMantissa ∧ x.roundedMantissa ≤ x.mantissa + 1 := by
  obtain ⟨m, half, sticky⟩ := x
  cases half <;> cases sticky <;>
    simp [ExtendedMantissa.roundedMantissa, ExtendedMantissa.accuracy, Accuracy.roundToNearestEven]
  omega

/-- A quotient with the place of its remainder. -/
theorem standsFor_quotient (a : Nat) {b : Nat} (hb : 0 < b) :
    StandsFor (.ofMantissaAndAccuracy (a / b) (accuracyOfFraction (a % b) b)) (a / b) := by
  have hb' : (0 : ℚ) < b := by exact_mod_cast hb
  have hmod : a % b < b := Nat.mod_lt a hb
  have hsplit : (a / b : ℚ) = (a / b : Nat) + ((a % b : Nat) : ℚ) / b := by
    have : (a : ℚ) = b * (a / b : Nat) + (a % b : Nat) := by exact_mod_cast (Nat.div_add_mod a b).symm
    rw [this]
    field_simp
  rw [hsplit, accuracyOfFraction]
  split
  · rename_i hzero
    rw [hzero, Nat.cast_zero, zero_div, add_zero]
    exact standsFor_mantissa _
  · rename_i hne
    have hpos : (0 : ℚ) < (a % b : Nat) / b := div_pos (by exact_mod_cast Nat.pos_of_ne_zero hne) hb'
    have hone : ((a % b : Nat) : ℚ) / b < 1 := (div_lt_one hb').2 (by exact_mod_cast hmod)
    rcases hcompare : compare (2 * (a % b)) b with _ | _ | _
    · have hhalf : ((a % b : Nat) : ℚ) / b < 1 / 2 := by
        rw [div_lt_div_iff₀ hb' two_pos]
        exact_mod_cast (by have := Nat.compare_eq_lt.1 hcompare; omega)
      exact ⟨_, hpos.le, hhalf, by simpa [ExtendedMantissa.ofMantissaAndAccuracy] using hpos,
        by simp [ExtendedMantissa.ofMantissaAndAccuracy]⟩
    · have hhalf : ((a % b : Nat) : ℚ) / b = 1 / 2 := by
        rw [div_eq_div_iff hb'.ne' two_ne_zero]
        exact_mod_cast (by have := Nat.compare_eq_eq.1 hcompare; omega)
      exact ⟨0, le_rfl, by norm_num, by simp [ExtendedMantissa.ofMantissaAndAccuracy],
        by simp [ExtendedMantissa.ofMantissaAndAccuracy, hhalf]⟩
    · have hhalf : 1 / 2 < ((a % b : Nat) : ℚ) / b := by
        rw [div_lt_div_iff₀ two_pos hb']
        exact_mod_cast (by have := Nat.compare_eq_gt.1 hcompare; omega)
      exact ⟨(a % b : Nat) / b - 1 / 2, by linarith, by linarith,
        by simpa [ExtendedMantissa.ofMantissaAndAccuracy] using hhalf,
        by simp [ExtendedMantissa.ofMantissaAndAccuracy]⟩

/-! ## The nearest number -/

/-- No number with a mantissa and a power of two that doubles can have is nearer to `v` than `u` is,
however large the power of two. -/
def IsNearest (u v : ℚ) : Prop :=
  ∀ (m : Nat) (e : Int), m < 2 ^ 53 → -1074 ≤ e → |u - v| ≤ |value m e - v|

/-- Of whole numbers none is nearer than one that is at most half a unit away. -/
theorem abs_sub_le_of_half (h : |(r : ℚ) - t| ≤ 1 / 2) (n : Nat) : |(r : ℚ) - t| ≤ |(n : ℚ) - t| := by
  rcases eq_or_ne n r with rfl | hne
  · exact le_rfl
  · have hone : (1 : ℚ) ≤ |(n : ℚ) - r| := by
      have : (1 : Int) ≤ |(n : Int) - r| := Int.one_le_abs (sub_ne_zero.2 (by exact_mod_cast hne))
      exact_mod_cast this
    have htriangle : |(n : ℚ) - r| ≤ |(n : ℚ) - t| + |(r : ℚ) - t| := by
      rw [abs_sub_comm (r : ℚ) t]
      exact abs_sub_le _ _ _
    linarith

/-- What is rounded to a whole number of units is rounded to the nearest number, if it fills the
mantissa or the unit is the least one. -/
theorem isNearest_of_half (h : |(r : ℚ) - t| ≤ 1 / 2) (hfull : 2 ^ 52 ≤ t ∨ e = -1074) :
    IsNearest (value r e) (t * 2 ^ e) := by
  intro m e' hm he'
  have hpow : (0 : ℚ) < 2 ^ e := by positivity
  have hleft : |value r e - t * 2 ^ e| = |(r : ℚ) - t| * 2 ^ e := by
    rw [value, ← sub_mul, abs_mul, abs_of_pos hpow]
  have hright : |value m e' - t * 2 ^ e| = |value m (e' - e) - t| * 2 ^ e := by
    have hsplit : value m e' = value m (e' - e) * 2 ^ e := by
      rw [value, value, mul_assoc, ← zpow_add₀ two_ne_zero, sub_add_cancel]
    rw [hsplit, ← sub_mul, abs_mul, abs_of_pos hpow]
  rw [hleft, hright]
  refine mul_le_mul_of_nonneg_right ?_ hpow.le
  rcases le_or_gt e e' with hle | hlt
  · have hwhole : value m (e' - e) = (m * 2 ^ (e' - e).toNat : Nat) := by
      rw [← value_zero, value_mul_pow]
      congr 1
      omega
    rw [hwhole]
    exact abs_sub_le_of_half h _
  · -- Finer numbers do not reach beyond the first whole number that fills the mantissa.
    have hfull : 2 ^ 52 ≤ t := hfull.resolve_right (by omega)
    have hsmall : value m (e' - e) ≤ 2 ^ 52 := by
      have hm' : (m : ℚ) ≤ 2 ^ 53 := by exact_mod_cast hm.le
      calc value m (e' - e) ≤ 2 ^ 53 * 2 ^ (-1 : Int) := by
            unfold value
            gcongr
            · norm_num
            · omega
        _ = 2 ^ 52 := by norm_num
    calc |(r : ℚ) - t| ≤ |((2 ^ 52 : Nat) : ℚ) - t| := abs_sub_le_of_half h _
      _ = t - 2 ^ 52 := by
        rw [abs_sub_comm, abs_of_nonneg (by push_cast; linarith)]
        push_cast
        rfl
      _ ≤ t - value m (e' - e) := by linarith
      _ ≤ |value m (e' - e) - t| := by
        rw [abs_sub_comm]
        exact le_abs_self _

/-- Nothing is nearer than zero to what is at most half of the least double. -/
theorem isNearest_zero (hv : 0 ≤ v) (htiny : v ≤ 2 ^ (-1075 : Int)) :
    IsNearest (value 0 (-1074)) v := by
  have hpow : (2 : ℚ) ^ (-1075 : Int) = 1 / 2 * 2 ^ (-1074 : Int) := by
    rw [one_div, ← zpow_neg_one, ← zpow_add₀ two_ne_zero]
    rfl
  have hpos : (0 : ℚ) < 2 ^ (-1074 : Int) := by positivity
  have hhalf : |((0 : Nat) : ℚ) - v / 2 ^ (-1074 : Int)| ≤ 1 / 2 := by
    rw [Nat.cast_zero, zero_sub, abs_neg, abs_of_nonneg (div_nonneg hv hpos.le), div_le_iff₀ hpos,
      ← hpow]
    exact htiny
  have hnearest := isNearest_of_half (e := -1074) hhalf (.inr rfl)
  rwa [div_mul_cancel₀ v hpos.ne'] at hnearest

/-! ## Rounding -/

theorem targetExponent_eq (t : Int) : Format.binary64.targetExponent t = max (t - 53) (-1074) := rfl

/-- No bits are dropped of a mantissa that a double can have. -/
theorem shift_self (hlt : m < 2 ^ 53) (hlow : -1074 ≤ e) :
    shiftToTargetExponent .binary64 m e .exact = (⟨m, false, false⟩, e) := by
  have hlog : m.log2 ≤ 52 := by
    rcases Nat.eq_zero_or_pos m with rfl | hm
    · decide
    · exact Nat.lt_succ_iff.1 ((Nat.log2_lt hm.ne').2 hlt)
  have hnone : (Format.binary64.targetExponent (totalExponent m e) - e).toNat = 0 := by
    rw [targetExponent_eq, totalExponent]
    omega
  unfold shiftToTargetExponent shiftToExponent
  simp only [hnone]
  exact congrArg (Prod.mk _) (Int.add_zero e)

/-- A value that a double can have is not changed by rounding. -/
theorem Fits.round_exact (h : Fits m e) (s : Sign) :
    roundWithAccuracy .binary64 s m e .exact = .finite s m e h.pos := by
  have hshift := shift_self h.lt h.low
  unfold roundWithAccuracy
  rw [hshift]
  simp only [ExtendedMantissa.roundedMantissa, ExtendedMantissa.accuracy,
    Accuracy.roundToNearestEven, hshift]
  rw [dif_neg h.pos.ne']

/-- The number that a mantissa, rounded to units of a power of two, goes to. -/
theorem round_eq (em : ExtendedMantissa) (a : Accuracy)
    (hshift : shiftToTargetExponent .binary64 m e a = (em, e₁)) (hlow : -1074 ≤ e₁)
    (hlt : em.mantissa < 2 ^ 53) (hfull : 2 ^ 52 ≤ em.mantissa ∨ e₁ = -1074) :
    ∃ m' e', Canonical m' e' ∧ value m' e' = value em.roundedMantissa e₁ ∧
      roundWithAccuracy .binary64 .positive m e a = unsigned m' e' := by
  obtain ⟨hle, hle'⟩ := roundedMantissa_bounds em
  unfold roundWithAccuracy
  rw [hshift]
  simp only
  rcases (by omega : em.roundedMantissa ≤ 2 ^ 53).eq_or_lt with hover | hfits
  · have hpow : 2 ^ 53 = 2 ^ 52 * 2 ^ 1 := by norm_num
    have htarget : Format.binary64.targetExponent (totalExponent (2 ^ 53) e₁) = e₁ + 1 := by
      rw [targetExponent_eq, totalExponent, Nat.log2_two_pow]
      omega
    have hone : (e₁ + 1 - e₁).toNat = 1 := by omega
    have hagain : shiftToTargetExponent .binary64 (2 ^ 53) e₁ .exact =
        (⟨2 ^ 52, false, false⟩, e₁ + 1) := by
      unfold shiftToTargetExponent shiftToExponent
      rw [htarget]
      simp only [hone]
      rfl
    refine ⟨2 ^ 52, e₁ + 1, ⟨by norm_num, by omega, .inl le_rfl⟩, ?_, ?_⟩
    · rw [hover, hpow, value_mul_pow]
      rfl
    · rw [hover, hagain]
      rfl
  · have hagain := shift_self hfits hlow
    refine ⟨em.roundedMantissa, e₁, ⟨hfits, hlow, hfull.imp_left (·.trans hle)⟩, rfl, ?_⟩
    rw [hagain]
    rfl

/-- Rounding what a mantissa and its bits stand for goes to the nearest number, if bits are only
dropped. -/
theorem exists_round {a : Accuracy} (hstands : StandsFor (.ofMantissaAndAccuracy m a) t)
    (hdrop : e ≤ Format.binary64.targetExponent (totalExponent m e)) :
    ∃ m' e', Canonical m' e' ∧ IsNearest (value m' e') (t * 2 ^ e) ∧
      roundWithAccuracy .binary64 .positive m e a = unsigned m' e' := by
  obtain ⟨k, hk⟩ : ∃ k, k = (Format.binary64.targetExponent (totalExponent m e) - e).toNat := ⟨_, rfl⟩
  have hshift : shiftToTargetExponent .binary64 m e a =
      (ExtendedMantissa.ofMantissaAndAccuracy m a >>> k, e + k) := by
    unfold shiftToTargetExponent shiftToExponent
    rw [hk]
  have hplaces := hstands.shiftRight k
  rw [targetExponent_eq, totalExponent] at hk hdrop
  have hmantissa : (ExtendedMantissa.ofMantissaAndAccuracy m a).mantissa = m := by
    rcases a with _ | (_ | _ | _) <;> rfl
  have hlow := hmantissa ▸ hstands.mantissa_le
  have hhigh := hmantissa ▸ hstands.lt_mantissa
  have hpow : (0 : ℚ) < 2 ^ k := by positivity
  have hlt : t / 2 ^ k < 2 ^ 53 := by
    have hlog : (m : ℚ) + 1 ≤ 2 ^ (m.log2 + 1) := by exact_mod_cast Nat.lt_log2_self
    rw [div_lt_iff₀ hpow, ← pow_add]
    calc t < 2 ^ (m.log2 + 1) := hhigh.trans_le hlog
      _ ≤ 2 ^ (53 + k) := pow_le_pow_right₀ one_le_two (by omega)
  have hfull : 2 ^ 52 ≤ t / 2 ^ k ∨ e + k = -1074 := by
    rcases (by omega : m.log2 = 52 + k ∨ e + k = -1074) with hlog | hleast
    · left
      have hm : m ≠ 0 := by
        rintro rfl
        have : (0 : Nat).log2 = 0 := rfl
        omega
      have hself : (2 ^ m.log2 : ℚ) ≤ m := by exact_mod_cast Nat.log2_self_le hm
      rw [le_div_iff₀ hpow, ← pow_add, ← hlog]
      exact hself.trans hlow
    · exact .inr hleast
  obtain ⟨m', e', hcanonical, hvalue, hround⟩ := round_eq _ a hshift (by omega) (by
    have := hplaces.mantissa_le.trans_lt hlt
    exact_mod_cast this) (hfull.imp_left fun h => by
    have := h.trans_lt hplaces.lt_mantissa
    exact Nat.lt_succ_iff.1 (by exact_mod_cast this))
  refine ⟨m', e', hcanonical, ?_, hround⟩
  have hsplit : t * 2 ^ e = t / 2 ^ k * 2 ^ (e + k) := by
    rw [zpow_add₀ two_ne_zero, zpow_natCast]
    field_simp
  rw [hvalue, hsplit]
  exact isNearest_of_half hplaces.abs_sub_le hfull

/-- A product of which the mantissas have enough bits is rounded to the nearest number. -/
theorem exists_mul (h₁ : 0 < m₁) (h₂ : 0 < m₂) (e₁ e₂ : Int) (hfull : 2 ^ 52 ≤ m₁ * m₂) :
    ∃ m e, Canonical m e ∧ IsNearest (value m e) (value m₁ e₁ * value m₂ e₂) ∧
      UnpackedFloat.mul .binary64 (.finite .positive m₁ e₁ h₁) (.finite .positive m₂ e₂ h₂) =
        unsigned m e := by
  have hlog := (Nat.le_log2 (Nat.mul_pos h₁ h₂).ne').2 hfull
  rw [← value_mul]
  refine exists_round (e := e₁ + e₂) (standsFor_mantissa (m₁ * m₂)) ?_
  rw [targetExponent_eq, totalExponent]
  omega

/-- A quotient of mantissas, with the power of two it is worked out at. -/
theorem exists_divCore (m₁ : Nat) (h₂ : 0 < m₂) (e₁ e₂ : Int) :
    ∃ (a : Nat) (target : Int),
      divCore .binary64 m₁ e₁ m₂ e₂ = (a / m₂, target, accuracyOfFraction (a % m₂) m₂) ∧
      value m₁ e₁ / value m₂ e₂ = (a / m₂ : ℚ) * 2 ^ target ∧
      target ≤ Format.binary64.targetExponent (totalExponent m₁ e₁ - totalExponent m₂ e₂) := by
  obtain ⟨target, htarget⟩ : ∃ target, target = min (e₁ - e₂)
    (Format.binary64.targetExponent (totalExponent m₁ e₁ - totalExponent m₂ e₂)) := ⟨_, rfl⟩
  obtain ⟨a, ha⟩ : ∃ a, a = m₁ <<< (e₁ - e₂ - target).toNat := ⟨_, rfl⟩
  refine ⟨a, target, ?_, ?_, htarget ▸ min_le_right _ _⟩
  · unfold divCore
    rw [← htarget, ha]
  · have hshift : value a target = value m₁ (e₁ - e₂) := by
      rw [ha, Nat.shiftLeft_eq, value_mul_pow]
      congr 1
      omega
    have hpos : (0 : ℚ) < m₂ := by exact_mod_cast h₂
    unfold value at hshift ⊢
    rw [div_mul_eq_mul_div, hshift, zpow_sub₀ two_ne_zero]
    field_simp

/-- Above the least power of two a quotient fills the mantissa, so that bits are only dropped. -/
theorem le_targetExponent_quotient {a : Nat} {target : Int} (h₁ : 0 < m₁) (h₂ : 0 < m₂)
    (hvalue : value m₁ e₁ / value m₂ e₂ = (a / m₂ : ℚ) * 2 ^ target)
    (htarget : target ≤
      Format.binary64.targetExponent (totalExponent m₁ e₁ - totalExponent m₂ e₂)) :
    target ≤ Format.binary64.targetExponent (totalExponent (a / m₂) target) := by
  rw [targetExponent_eq] at htarget ⊢
  rcases le_or_gt target (-1074) with hleast | hgreater
  · exact hleast.trans (le_max_right _ _)
  have hpos : (0 : ℚ) < m₂ := by exact_mod_cast h₂
  have hbits : (2 : ℚ) ^ 52 * 2 ^ target ≤ (a / m₂ : ℚ) * 2 ^ target :=
    calc (2 : ℚ) ^ 52 * 2 ^ target
        ≤ 2 ^ (totalExponent m₁ e₁ - 1) / 2 ^ totalExponent m₂ e₂ := by
          rw [← zpow_natCast, ← zpow_add₀ two_ne_zero, ← zpow_sub₀ two_ne_zero]
          refine zpow_le_zpow_right₀ one_le_two ?_
          push_cast
          omega
      _ ≤ value m₁ e₁ / value m₂ e₂ :=
          div_le_div₀ (value_nonneg m₁ e₁) (two_zpow_le_value h₁ e₁) (value_pos h₂ e₂)
            (value_lt_two_zpow m₂ e₂).le
      _ = (a / m₂ : ℚ) * 2 ^ target := hvalue
  have hquotient : 2 ^ 52 ≤ a / m₂ := by
    have := le_of_mul_le_mul_right hbits (by positivity)
    rw [le_div_iff₀ hpos] at this
    exact (Nat.le_div_iff_mul_le h₂).2 (by exact_mod_cast this)
  have hlog := (Nat.le_log2 (by omega)).2 hquotient
  rw [totalExponent]
  omega

/-- A quotient is rounded to the nearest number. -/
theorem exists_div (h₁ : 0 < m₁) (h₂ : 0 < m₂) (e₁ e₂ : Int) :
    ∃ m e, Canonical m e ∧ IsNearest (value m e) (value m₁ e₁ / value m₂ e₂) ∧
      UnpackedFloat.div .binary64 (.finite .positive m₁ e₁ h₁) (.finite .positive m₂ e₂ h₂) =
        unsigned m e := by
  obtain ⟨a, target, hcore, hvalue, htarget⟩ := exists_divCore m₁ h₂ e₁ e₂
  obtain ⟨m, e, hcanonical, hnearest, hround⟩ :=
    exists_round (standsFor_quotient a h₂) (le_targetExponent_quotient h₁ h₂ hvalue htarget)
  refine ⟨m, e, hcanonical, hvalue ▸ hnearest, ?_⟩
  show roundWithAccuracy .binary64 .positive (divCore .binary64 m₁ e₁ m₂ e₂).1
    (divCore .binary64 m₁ e₁ m₂ e₂).2.1 (divCore .binary64 m₁ e₁ m₂ e₂).2.2 = _
  rw [hcore]
  exact hround

/-! ## Doubles -/

/-- The number that a double is the rounding of: no number with as many bits is nearer, and an
infinity stands for those from half way between the greatest double and the next power of two. -/
def Rounds (x : Float) (v : ℚ) : Prop :=
  (∃ m e, Binary.ofFloat? x = some ⟨false, m, e⟩ ∧ IsNearest (value m e) v) ∨
    x = 1.0 / 0.0 ∧ 2 ^ 1024 - 2 ^ 970 ≤ v

theorem eq_infinity_of_unpack {x : Float} (h : x.toModel.unpack = .infinity .positive) :
    x = 1.0 / 0.0 := by
  refine eq_of_toBits ?_
  rw [infinity_toBits_and_sign.1, toBits_eq_pack, h]

theorem value_greatest : value (2 ^ 53 - 1) 971 = 2 ^ 1024 - 2 * 2 ^ 970 := by
  have hpow : (2 : ℚ) ^ (971 : Int) = 2 * 2 ^ 970 := by
    rw [← pow_succ']
    rfl
  have htop : (2 : ℚ) ^ 1024 = 2 ^ 53 * (2 * 2 ^ 970) := by
    rw [← pow_succ', ← pow_add]
  have hcast : ((2 ^ 53 - 1 : Nat) : ℚ) = 2 ^ 53 - 1 := by norm_num
  rw [value, hpow, htop, hcast, sub_mul, one_mul]

/-- What goes beyond the greatest double is at least half way to the next power of two. -/
theorem le_of_isNearest_overflow (h : IsNearest (value m e) v) (hfull : 2 ^ 52 ≤ m) (he : 971 < e) :
    2 ^ 1024 - 2 ^ 970 ≤ v := by
  have hbeyond : 2 ^ 1024 ≤ value m e := by
    have hm : (2 : ℚ) ^ 52 ≤ m := by exact_mod_cast hfull
    have hpow : (2 : ℚ) ^ (972 : Int) ≤ 2 ^ e := zpow_le_zpow_right₀ one_le_two (by omega)
    calc (2 : ℚ) ^ 1024 = 2 ^ 52 * 2 ^ (972 : Int) := by
          rw [← zpow_natCast, ← zpow_natCast, ← zpow_add₀ two_ne_zero]
          rfl
      _ ≤ value m e := mul_le_mul hm hpow (by positivity) (by positivity)
  have hnear := h (2 ^ 53 - 1) 971 (by norm_num) (by norm_num)
  rw [value_greatest] at hnear
  have hpos : (0 : ℚ) < 2 ^ 970 := by positivity
  generalize (2 : ℚ) ^ 1024 = top at *
  generalize (2 : ℚ) ^ 970 = unit at *
  by_contra! hlt
  have hself := (le_abs_self (value m e - v)).trans hnear
  rcases abs_cases (top - 2 * unit - v) with ⟨habs, -⟩ | ⟨habs, -⟩
  · rw [habs] at hself
    linarith
  · rw [habs] at hself
    linarith

/-- A word holds a number that was rounded, or an infinity if it is too large. -/
theorem rounds_of_unpack {x : Float} (hx : x.toModel.unpack = reread (unsigned m e))
    (h : Canonical m e) (hv : IsNearest (value m e) v) : Rounds x v := by
  rcases Nat.eq_zero_or_pos m with rfl | hm
  · have he : e = -1074 := h.full.resolve_left (by norm_num)
    refine .inl ⟨0, e, ?_, hv⟩
    rw [ofFloat?_eq, hx, he]
    exact congrArg parts (reread_zero .positive)
  have hfinite : unsigned m e = .finite .positive m e hm := dif_neg hm.ne'
  rw [hfinite] at hx
  rcases le_or_gt e 971 with hle | hgt
  · have hfits : Fits m e := ⟨hm, h.lt, h.low, hle, h.full⟩
    refine .inl ⟨m, e, ?_, hv⟩
    rw [ofFloat?_eq, hx, hfits.reread_finite]
    rfl
  · have hfull : 2 ^ 52 ≤ m := h.full.resolve_right (by omega)
    refine .inr ⟨eq_infinity_of_unpack ?_, le_of_isNearest_overflow hv hfull hgt⟩
    rw [hx, reread_of_large hgt]

/-- A number that a double has is not changed by rounding. -/
theorem Rounds.exact (h : Rounds x v) (hcanonical : Canonical m e) (he : e ≤ 971)
    (hv : v = value m e) : Binary.ofFloat? x = some ⟨false, m, e⟩ := by
  rcases h with ⟨m', e', hx, hnearest⟩ | ⟨-, hle⟩
  · have hzero := hnearest m e hcanonical.lt hcanonical.low
    rw [hv, sub_self, abs_zero, abs_nonpos_iff, sub_eq_zero] at hzero
    obtain ⟨rfl, rfl⟩ := (canonical_of_ofFloat? hx).1.eq_of_value_eq hcanonical hzero
    exact hx
  · have hbelow : value m e ≤ value (2 ^ 53 - 1) 971 := by
      have hm : m ≤ 2 ^ 53 - 1 := Nat.le_sub_one_of_lt hcanonical.lt
      unfold value
      gcongr
      exact one_le_two
    have hgap : (2 : ℚ) ^ 1024 - 2 * 2 ^ 970 < 2 ^ 1024 - 2 ^ 970 :=
      sub_lt_sub_left (lt_mul_of_one_lt_left (by positivity) one_lt_two) _
    rw [value_greatest] at hbelow
    exact absurd (hle.trans (hv.trans_le hbelow)) (not_le_of_gt hgap)

/-- What a number is rounded to is a number or an infinity. -/
theorem Rounds.isNaN {x : Float} (h : Rounds x v) : x.isNaN = false := by
  rcases h with ⟨m, e, hx, -⟩ | ⟨rfl, -⟩
  · show x.toModel.unpack.isNaN = false
    rw [ofFloat?_eq] at hx
    revert hx
    cases x.toModel.unpack with
    | notANumber => intro hx; cases hx
    | infinity | zero | finite => intro _; rfl
  · decide +kernel

end Double

end Logbook
