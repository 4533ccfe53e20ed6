import Logbook.Proofs.Number.Rounding

/-!
# The double next to a decimal

A decimal is turned into a double by one product or quotient: of two doubles if its digits and its power
of ten are small, and of whole numbers of any size if not. Both round once.

* `Double.exists_power`, `Double.exists_toFloat` — small powers of ten and small whole numbers are
  doubles with full mantissas.
* `Double.exists_ofScientific` — what a decimal with more digits or a greater power is rounded to.
* `Double.rounds_nearest` — the double next to a decimal is the rounding of the decimal.
-/

namespace Logbook

open Float.Model Float.Model.UnpackedFloat

namespace Double

/-! ## Small powers and small numbers -/

theorem value_eq_natCast {p : Nat} {q : Int} {a : Nat} (hlow : -52 ≤ q)
    (h : p * 2 ^ (q + 52).toNat = a * 2 ^ 52) : value p q = a := by
  have h1 : value (p * 2 ^ (q + 52).toNat) (-52) = value p q := by
    rw [value_mul_pow]
    congr 1
    omega
  rw [← h1, h, value_mul_pow, ← value_zero]
  rfl

/-- Whether a double is the given power of ten. -/
def isPower (x : Float) (n : Nat) : Bool :=
  (Binary.ofFloat? x).any fun c =>
    !c.negative && 2 ^ 52 ≤ c.mantissa && -52 ≤ c.exponent &&
      c.mantissa * 2 ^ (c.exponent + 52).toNat == 10 ^ n * 2 ^ 52

theorem isPower_exactlyRepresentablePowersOfTen :
    ∀ k : Fin Float.exactlyRepresentablePowersOfTen.size,
      isPower Float.exactlyRepresentablePowersOfTen[k] k = true := by
  decide +kernel

theorem unpack_of_parts {u : UnpackedFloat} {m : Nat} {e : Int} (hm : 0 < m)
    (h : parts u = some ⟨false, m, e⟩) : u = .finite .positive m e hm :=
  parts_inj h rfl

/-- The powers of ten up to the twenty-second fill the mantissa of a double. -/
theorem exists_power (n : Nat) (hn : n < Float.exactlyRepresentablePowersOfTen.size) :
    ∃ (p : Nat) (q : Int) (hp : 0 < p),
      Float.exactlyRepresentablePowersOfTen[n].toModel.unpack = .finite .positive p q hp ∧
        2 ^ 52 ≤ p ∧ value p q = 10 ^ n := by
  have h := isPower_exactlyRepresentablePowersOfTen ⟨n, hn⟩
  rw [isPower, Option.any_eq_true] at h
  obtain ⟨⟨negative, p, q⟩, hc, h⟩ := h
  simp only [Bool.and_eq_true, decide_eq_true_eq, beq_iff_eq, Bool.not_eq_true'] at h
  obtain ⟨⟨⟨rfl, hfull⟩, hlow⟩, hpow⟩ := h
  have hp : 0 < p := by omega
  rw [ofFloat?_eq] at hc
  refine ⟨p, q, hp, unpack_of_parts hp hc, hfull, ?_⟩
  rw [value_eq_natCast hlow hpow]
  push_cast
  rfl

/-- The mantissa and the power of two of a whole number below `2 ^ 53`: its bits are filled up with
zeros. -/
theorem fits_whole {d : Nat} (hd : 0 < d) (hlt : d < 2 ^ 53) :
    Fits (d * 2 ^ (52 - d.log2)) (d.log2 - 52) := by
  have hlog : d.log2 < 53 := (Nat.log2_lt hd.ne').2 hlt
  refine ⟨by positivity, ?_, by omega, by omega, .inl ?_⟩
  · calc d * 2 ^ (52 - d.log2)
      _ < 2 ^ (d.log2 + 1) * 2 ^ (52 - d.log2) := by
        gcongr
        exact Nat.lt_log2_self
      _ = 2 ^ 53 := by
        rw [← pow_add]
        congr 1
        omega
  · calc 2 ^ 52
      _ = 2 ^ d.log2 * 2 ^ (52 - d.log2) := by
        rw [← pow_add]
        congr 1
        omega
      _ ≤ d * 2 ^ (52 - d.log2) := by
        gcongr
        exact Nat.log2_self_le hd.ne'

theorem ofUInt64_whole {d : Nat} (hd : 0 < d) (hlt : d < 2 ^ 53) :
    UnpackedFloat.ofUInt64 .binary64 d.toUInt64 =
      .finite .positive (d * 2 ^ (52 - d.log2)) (d.log2 - 52) (fits_whole hd hlt).pos := by
  have hlog : d.log2 < 53 := (Nat.log2_lt hd.ne').2 hlt
  have hnat : d.toUInt64.toNat = d := by
    show d % 2 ^ 64 = d
    omega
  have htarget : Format.binary64.targetExponent (totalExponent d 0) = d.log2 - 52 := by
    rw [targetExponent_eq, totalExponent]
    omega
  have hshift : (0 - ((d.log2 : Int) - 52)).toNat = 52 - d.log2 := by omega
  have hexp : (0 : Int) - ((52 - d.log2 : Nat) : Int) = d.log2 - 52 := by omega
  have hcmp : compare (d : Int) 0 = .gt := by
    rw [Int.compare_eq_gt]
    omega
  have hround := (fits_whole hd hlt).round_exact .positive
  rw [UnpackedFloat.ofUInt64, UnpackedFloat.ofNat, UnpackedFloat.ofInt, UnpackedFloat.normalize,
    hnat, hcmp]
  simp only [UnpackedFloat.round, Int.toNat_natCast, htarget, decreaseExponent, hshift, hexp,
    Nat.shiftLeft_eq]
  exact hround

/-- A whole number below `2 ^ 53` as a double. -/
theorem exists_toFloat {d : Nat} (hd : 0 < d) (hlt : d < 2 ^ 53) :
    ∃ (p : Nat) (q : Int) (hp : 0 < p),
      d.toUInt64.toFloat.toModel.unpack = .finite .positive p q hp ∧
        2 ^ 52 ≤ p ∧ value p q = d := by
  have hfits := fits_whole hd hlt
  have hlog : d.log2 < 53 := (Nat.log2_lt hd.ne').2 hlt
  have hfull := hfits.full.resolve_right (by omega)
  refine ⟨d * 2 ^ (52 - d.log2), d.log2 - 52, hfits.pos, ?_, hfull, ?_⟩
  · show reread (UnpackedFloat.ofUInt64 .binary64 d.toUInt64) = _
    rw [ofUInt64_whole hd hlt, hfits.reread_finite .positive]
  · have hexp : (d.log2 : Int) - 52 + ((52 - d.log2 : Nat) : Int) = 0 := by omega
    rw [value_mul_pow, hexp, value_zero]

theorem unpack_mul (x y : Float) : (x * y).toModel.unpack =
    reread (UnpackedFloat.mul .binary64 x.toModel.unpack y.toModel.unpack) :=
  rfl

theorem unpack_div (x y : Float) : (x / y).toModel.unpack =
    reread (UnpackedFloat.div .binary64 x.toModel.unpack y.toModel.unpack) :=
  rfl

theorem toFloat_zero : (0 : Nat).toUInt64.toFloat.toModel.unpack = .zero .positive := by
  have hnat : (0 : Nat).toUInt64.toNat = 0 := rfl
  have hof : UnpackedFloat.ofUInt64 .binary64 (0 : Nat).toUInt64 = .zero .positive := by
    rw [UnpackedFloat.ofUInt64, hnat]
    rfl
  show reread (UnpackedFloat.ofUInt64 .binary64 _) = _
  rw [hof, reread_zero]

/-- Zero stays zero, whatever the power of ten beside it. -/
theorem ofFloat?_nearest_zero (n : Int) :
    Binary.ofFloat? (Decimal.nearest 0 n) = some ⟨false, 0, -1074⟩ := by
  rw [ofFloat?_eq]
  have hzero : (Decimal.nearest 0 n).toModel.unpack = .zero .positive := by
    unfold Decimal.nearest Float.ofScientific
    by_cases hfast : 0 < 2 ^ 53 ∧ n.natAbs ≤ 22
    · have hsize : n.natAbs < Float.exactlyRepresentablePowersOfTen.size := by
        show n.natAbs < 23
        omega
      obtain ⟨p, q, hp, hpow, -, -⟩ := exists_power n.natAbs hsize
      rw [dif_pos hfast]
      split
      · rw [unpack_div, toFloat_zero, hpow]
        exact reread_zero .positive
      · rw [unpack_mul, toFloat_zero, hpow]
        exact reread_zero .positive
    · rw [dif_neg hfast]
      exact reread_zero .positive
  exact congrArg parts hzero

/-! ## Decimals -/

/-- A power of ten beyond all doubles is rounded to an infinity, one far below the least to zero, and
those between are multiplied or divided with. -/
theorem exists_ofScientific {d : Nat} (hd : 0 < d) (n : Int) :
    (∃ m e, Canonical m e ∧ IsNearest (value m e) (d * 10 ^ n) ∧
      UnpackedFloat.ofScientific .binary64 d n = unsigned m e) ∨
    UnpackedFloat.ofScientific .binary64 d n = .infinity .positive ∧
      (2 : ℚ) ^ 1024 - 2 ^ 970 ≤ d * 10 ^ n := by
  have hd1 : (1 : ℚ) ≤ d := by exact_mod_cast hd
  have hexponents : (2 : Int) ^ Format.binary64.exponentBits = 2048 := rfl
  unfold UnpackedFloat.ofScientific
  rw [dif_neg hd.ne', hexponents]
  split
  · rename_i hlarge
    refine .inr ⟨rfl, ?_⟩
    calc (2 : ℚ) ^ 1024 - 2 ^ 970 ≤ 2 ^ 1024 := sub_le_self _ (by positivity)
      _ = 2 ^ (1024 : Int) := (zpow_natCast 2 1024).symm
      _ ≤ 2 ^ n := zpow_le_zpow_right₀ one_le_two (by omega)
      _ ≤ 10 ^ n := zpow_le_zpow_left₀ (by omega) two_pos.le (by norm_num)
      _ ≤ d * 10 ^ n := le_mul_of_one_le_left (by positivity) hd1
  split
  · rename_i hsmall
    have hlog : (d : ℚ) ≤ 2 ^ ((d.log2 + 1 : Nat) : Int) := by
      rw [zpow_natCast]
      exact_mod_cast Nat.lt_log2_self.le
    have hpow : (10 : ℚ) ^ n ≤ 2 ^ n := by
      have hinv := zpow_le_zpow_left₀ (by omega : 0 ≤ -n) two_pos.le (by norm_num : (2 : ℚ) ≤ 10)
      rwa [zpow_neg, zpow_neg, inv_le_inv₀ (by positivity) (by positivity)] at hinv
    have htiny : (d : ℚ) * 10 ^ n ≤ 2 ^ (-1075 : Int) := by
      calc (d : ℚ) * 10 ^ n ≤ 2 ^ ((d.log2 + 1 : Nat) : Int) * 2 ^ n := by gcongr
        _ = 2 ^ (((d.log2 + 1 : Nat) : Int) + n) := (zpow_add₀ two_ne_zero _ _).symm
        _ ≤ 2 ^ (-1075 : Int) := zpow_le_zpow_right₀ one_le_two (by push_cast; omega)
    exact .inl ⟨0, -1074, ⟨by norm_num, le_rfl, .inr rfl⟩,
      isNearest_zero (by positivity) htiny, rfl⟩
  split
  · rename_i hwhole
    have hvalue : value (d <<< 53) (-53) * value (10 ^ n.toNat) 0 = d * 10 ^ n := by
      have hpow : (10 : ℚ) ^ n = 10 ^ n.toNat := by
        rw [← zpow_natCast]
        congr 1
        omega
      rw [hpow, value_zero, Nat.shiftLeft_eq, value_mul_pow]
      simp [value]
    rw [← hvalue]
    refine .inl (exists_mul _ _ _ _ ?_)
    rw [Nat.shiftLeft_eq]
    calc 2 ^ 52 ≤ 1 * 2 ^ 53 * 1 := by norm_num
      _ ≤ d * 2 ^ 53 * 10 ^ n.toNat :=
        Nat.mul_le_mul (Nat.mul_le_mul_right _ hd) (Nat.pow_pos (by norm_num))
  · rename_i hfraction
    have hvalue : value d 0 / value (10 ^ (-n).toNat) 0 = d * 10 ^ n := by
      have hpow : (10 : ℚ) ^ n = (10 ^ (-n).toNat)⁻¹ := by
        rw [← zpow_natCast, ← zpow_neg]
        congr 1
        omega
      rw [hpow, value_zero, value_zero, div_eq_mul_inv]
      push_cast
      rfl
    rw [← hvalue]
    exact .inl (exists_div _ _ _ _)

theorem ten_zpow_of_neg {n : Int} (h : n < 0) : (10 : ℚ) ^ n = (10 ^ n.natAbs)⁻¹ := by
  rw [← zpow_natCast, ← zpow_neg]
  congr 1
  omega

theorem ten_zpow_of_not_neg {n : Int} (h : ¬n < 0) : (10 : ℚ) ^ n = 10 ^ n.natAbs := by
  rw [← zpow_natCast]
  congr 1
  omega

/-- A small number and a small power of ten are doubles, so their product or quotient is all that is
rounded. -/
theorem rounds_nearest_of_small {d : Nat} {n : Int} (hd : 0 < d)
    (hfast : d < 2 ^ 53 ∧ n.natAbs ≤ 22) : Rounds (Decimal.nearest d n) (d * 10 ^ n) := by
  have hsize : n.natAbs < Float.exactlyRepresentablePowersOfTen.size := by
    show n.natAbs < 23
    omega
  obtain ⟨p, q, hp, hten, hpfull, hpv⟩ := exists_power n.natAbs hsize
  obtain ⟨r, t, hr, hdigits, hrfull, hrv⟩ := exists_toFloat hd hfast.1
  unfold Decimal.nearest Float.ofScientific
  rw [dif_pos hfast]
  by_cases hneg : n < 0
  · obtain ⟨m, e, hcanonical, hnearest, hdiv⟩ := exists_div hr hp t q
    rw [hrv, hpv, div_eq_mul_inv, ← ten_zpow_of_neg hneg] at hnearest
    rw [decide_eq_true hneg]
    refine rounds_of_unpack ?_ hcanonical hnearest
    rw [if_pos rfl, unpack_div, hdigits, hten, hdiv]
  · have hfull : 2 ^ 52 ≤ r * p := hrfull.trans (Nat.le_mul_of_pos_right r hp)
    obtain ⟨m, e, hcanonical, hnearest, hmul⟩ := exists_mul hr hp t q hfull
    rw [hrv, hpv, ← ten_zpow_of_not_neg hneg] at hnearest
    rw [decide_eq_false hneg]
    refine rounds_of_unpack ?_ hcanonical hnearest
    rw [if_neg Bool.false_ne_true, unpack_mul, hdigits, hten, hmul]

/-- Other numbers are worked out in whole numbers of any size and rounded at the end. -/
theorem rounds_nearest_of_large {d : Nat} {n : Int} (hd : 0 < d)
    (hslow : ¬(d < 2 ^ 53 ∧ n.natAbs ≤ 22)) : Rounds (Decimal.nearest d n) (d * 10 ^ n) := by
  have hexp : (if decide (n < 0) = true then Int.negOfNat n.natAbs else Int.ofNat n.natAbs) = n := by
    by_cases hneg : n < 0
    · have hminus : Int.negOfNat n.natAbs = -(n.natAbs : Int) := by cases n.natAbs <;> rfl
      rw [decide_eq_true hneg, if_pos rfl, hminus]
      omega
    · rw [decide_eq_false hneg, if_neg Bool.false_ne_true]
      exact Int.natAbs_of_nonneg (Int.not_lt.1 hneg)
  unfold Decimal.nearest Float.ofScientific
  rw [dif_neg hslow]
  simp only [hexp]
  rcases exists_ofScientific hd n with ⟨m, e, hcanonical, hnearest, hround⟩ | ⟨hinfinity, hle⟩
  · refine rounds_of_unpack ?_ hcanonical hnearest
    show reread (UnpackedFloat.ofScientific .binary64 d n) = _
    rw [hround]
  · refine .inr ⟨eq_infinity_of_unpack ?_, hle⟩
    show reread (UnpackedFloat.ofScientific .binary64 d n) = _
    rw [hinfinity, reread_infinity]

/-- The double next to a decimal is the rounding of the decimal. -/
theorem rounds_nearest (d : Nat) (n : Int) : Rounds (Decimal.nearest d n) (d * 10 ^ n) := by
  rcases Nat.eq_zero_or_pos d with rfl | hd
  · have hzero : value 0 (-1074) = 0 := by simp [value]
    refine .inl ⟨0, -1074, ofFloat?_nearest_zero n, fun m e _ _ => ?_⟩
    rw [Nat.cast_zero, zero_mul, hzero, sub_zero, abs_zero]
    exact abs_nonneg _
  · by_cases hfast : d < 2 ^ 53 ∧ n.natAbs ≤ 22
    · exact rounds_nearest_of_small hd hfast
    · exact rounds_nearest_of_large hd hfast

end Double

end Logbook
