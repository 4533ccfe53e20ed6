import Mathlib
import Logbook.Number.FloatText

/-!
# Doubles and their words

What a word of a double holds, as a mantissa and a power of two.

* `Double.Fits` — the mantissas and powers of two of doubles, `Double.value` their values.
* `Fits.reread_finite` — such a number comes out of its word again, and `reread_of_large` says what
  comes out if the power of two is too large.
* `Binary.ofFloat?` takes a double apart as its word unpacks (`Double.ofFloat?_eq`), and a finite
  double is determined by its parts (`Double.eq_of_ofFloat?`).
* `Double.eq_infinity` — what is neither finite nor no number is an infinity.
* `Double.isNaN_add` — a finite summand never leads to what is no number.

The lemmas about packing and unpacking words come with Mathlib as a whole, and with no module of it.
-/

namespace Logbook

open Float.Model Float.Model.UnpackedFloat

namespace Double

/-- A mantissa and a power of two that a double can have: 53 bits, or fewer at the lowest power. -/
structure Fits (m : Nat) (e : Int) : Prop where
  pos : 0 < m
  lt : m < 2 ^ 53
  low : -1074 ≤ e
  high : e ≤ 971
  full : 2 ^ 52 ≤ m ∨ e = -1074

variable {m : Nat} {e : Int}

theorem Fits.log2_lt (h : Fits m e) : m.log2 < 53 :=
  (Nat.log2_lt h.pos.ne').2 h.lt

/-! ## Values -/

/-- The number `m · 2 ^ e`. -/
def value (m : Nat) (e : Int) : ℚ :=
  m * 2 ^ e

theorem value_nonneg (m : Nat) (e : Int) : 0 ≤ value m e := by
  unfold value
  positivity

theorem value_pos (hm : 0 < m) (e : Int) : 0 < value m e := by
  unfold value
  positivity

theorem value_mul (m₁ m₂ : Nat) (e₁ e₂ : Int) :
    value (m₁ * m₂) (e₁ + e₂) = value m₁ e₁ * value m₂ e₂ := by
  unfold value
  rw [zpow_add₀ two_ne_zero]
  push_cast
  ring

theorem value_mul_pow (m k : Nat) (e : Int) : value (m * 2 ^ k) e = value m (e + k) := by
  unfold value
  rw [zpow_add₀ two_ne_zero, zpow_natCast]
  push_cast
  ring

theorem value_inj_left {m m' : Nat} {e : Int} (h : value m e = value m' e) : m = m' := by
  unfold value at h
  have h := mul_right_cancel₀ (by positivity) h
  exact_mod_cast h

/-- Of two mantissas of one number, that with the lower power of two is the greater. -/
theorem eq_mul_pow {m m' : Nat} {e e' : Int} (h : value m' e' = value m e) (hle : e' ≤ e) :
    m' = m * 2 ^ (e - e').toNat := by
  refine value_inj_left (e := e') ?_
  rw [h, value_mul_pow]
  congr 1
  omega

theorem two_zpow_le_value (hm : 0 < m) (e : Int) :
    (2 : ℚ) ^ (totalExponent m e - 1) ≤ value m e := by
  have hlog : ((2 ^ m.log2 : Nat) : ℚ) ≤ m := by exact_mod_cast Nat.log2_self_le hm.ne'
  have hexp : totalExponent m e - 1 = (m.log2 : Int) + e := by
    rw [totalExponent]
    ring
  rw [hexp, zpow_add₀ two_ne_zero, value, zpow_natCast]
  push_cast at hlog
  gcongr

theorem value_lt_two_zpow (m : Nat) (e : Int) : value m e < (2 : ℚ) ^ totalExponent m e := by
  have hlog : (m : ℚ) < ((2 ^ (m.log2 + 1) : Nat) : ℚ) := by exact_mod_cast Nat.lt_log2_self
  have hexp : totalExponent m e = ((m.log2 + 1 : Nat) : Int) + e := by
    rw [totalExponent]
    push_cast
    ring
  rw [hexp, zpow_add₀ two_ne_zero, value, zpow_natCast]
  push_cast at hlog
  gcongr

theorem value_zero (m : Nat) : value m 0 = m := by
  simp [value]

/-! ## Words -/

theorem toNat_append (f : Nat) (v : BitVec f) : (1#1 ++ v).toNat = 2 ^ f + v.toNat := by
  rw [BitVec.toNat_append, ← Nat.shiftLeft_add_eq_or_of_lt v.isLt]
  simp [Nat.shiftLeft_eq]

/-- The fields of the word of a number that a double can have. -/
theorem Fits.pack (h : Fits m e) (s : Sign) :
    UnpackedFloat.pack .binary64 (.finite s m e h.pos) =
      packComponents .binary64 s (BitVec.ofNat 11 (if 2 ^ 52 ≤ m then (e + 1075).toNat else 0))
        (BitVec.ofNat 52 m) := by
  have hlow := h.low
  have hhigh := h.high
  have hlog := h.log2_lt
  have hbits : Format.binary64.mantissaBits = 53 := rfl
  have hbias : (e + Format.binary64.exponentBias +
      Format.binary64.mantissaBitsWithoutImplicit).toNat = (e + 1075).toNat := by
    have h1 : (Format.binary64.exponentBias : Int) = 1023 := rfl
    have h2 : (Format.binary64.mantissaBitsWithoutImplicit : Int) = 52 := rfl
    omega
  unfold UnpackedFloat.pack
  simp only [hbias]
  rw [if_neg (by show ¬ 2 ^ 11 ≤ _; omega)]
  by_cases hfull : 2 ^ 52 ≤ m
  · have := (Nat.le_log2 h.pos.ne').2 hfull
    rw [if_pos (by omega), if_pos hfull]
  · have := (Nat.log2_lt h.pos.ne').2 (Nat.not_le.1 hfull)
    rw [if_neg (by omega), if_neg hfull]

/-- What comes out of the word that a number is packed into. -/
def reread (u : UnpackedFloat) : UnpackedFloat :=
  UnpackedFloat.unpack .binary64 (UnpackedFloat.pack .binary64 u)

theorem reread_zero (s : Sign) : reread (.zero s) = .zero s :=
  unpack_packedZero

/-- A number that a double can have comes out again. -/
theorem Fits.reread_finite (h : Fits m e) (s : Sign) :
    reread (.finite s m e h.pos) = .finite s m e h.pos := by
  have hlow := h.low
  have hhigh := h.high
  have hlt := h.lt
  have hpos := h.pos
  have hbias : (Format.binary64.exponentBias : Int) = 1023 := rfl
  rw [reread, h.pack s, UnpackedFloat.unpack]
  simp only [unpackMantissa_packComponents, unpackExponent_packComponents,
    unpackSign_packComponents, Sign.ofBitVec_toBitVec]
  by_cases hfull : 2 ^ 52 ≤ m
  · have hexp : (BitVec.ofNat 11 (e + 1075).toNat).toNat = (e + 1075).toNat := by
      rw [BitVec.toNat_ofNat]
      omega
    have hone : BitVec.ofNat 11 (e + 1075).toNat ≠ -1#11 := by
      rw [BitVec.toNat_ne, hexp]
      simp
      omega
    have hzero : BitVec.ofNat 11 (e + 1075).toNat ≠ 0#11 := by
      rw [BitVec.toNat_ne, hexp]
      simp
      omega
    have hmant : (1#1 ++ BitVec.ofNat 52 m).toNat = m := by
      rw [toNat_append, BitVec.toNat_ofNat]
      omega
    simp only [if_pos hfull, if_neg hone, if_neg hzero, hmant, hexp]
    congr 1
    omega
  · have he : e = -1074 := h.full.resolve_left hfull
    have hmant : (BitVec.ofNat 52 m).toNat = m := by
      rw [BitVec.toNat_ofNat]
      omega
    have hne : BitVec.ofNat 52 m ≠ 0#52 := by
      rw [BitVec.toNat_ne, hmant]
      exact hpos.ne'
    have hzero : BitVec.ofNat 11 0 ≠ -1#11 := by decide
    subst he
    simp only [if_neg hfull]
    rw [if_neg hzero, if_pos trivial, dif_neg hne]
    simp only [hmant]
    rfl

theorem reread_infinity (s : Sign) : reread (.infinity s) = .infinity s := by
  rw [reread, UnpackedFloat.pack, packedInfinity, UnpackedFloat.unpack]
  simp only [unpackMantissa_packComponents, unpackExponent_packComponents,
    unpackSign_packComponents, Sign.ofBitVec_toBitVec]
  rfl

theorem reread_of_large {s : Sign} {hm : 0 < m} (he : 971 < e) :
    reread (.finite s m e hm) = .infinity s := by
  have hpack : UnpackedFloat.pack .binary64 (.finite s m e hm) =
      UnpackedFloat.pack .binary64 (.infinity s) := by
    have hexponents : 2 ^ Format.binary64.exponentBits = 2048 := rfl
    have hbias : (Format.binary64.exponentBias : Int) = 1023 := rfl
    have hwidth : (Format.binary64.mantissaBitsWithoutImplicit : Int) = 52 := rfl
    unfold UnpackedFloat.pack
    simp only
    rw [if_pos (by omega)]
  rw [reread, hpack]
  exact reread_infinity s

/-! ## Doubles and their parts -/

/-- A double is determined by what its word unpacks to. -/
theorem eq_of_unpack {x y : Float} (h : x.toModel.unpack = y.toModel.unpack) : x = y := by
  obtain ⟨⟨xbits, xvalid⟩⟩ := x
  obtain ⟨⟨ybits, yvalid⟩⟩ := y
  have := (unpack_inj_of_valid xvalid yvalid).1 h
  have hbits : xbits = ybits := UInt64.toBitVec_inj.1 this
  subst hbits
  rfl

/-- Whether a sign is a minus. -/
def isNegative : Sign → Bool
  | .negative => true
  | .positive => false

/-- The sign, mantissa and power of two of what a word unpacks to. -/
def parts : UnpackedFloat → Option Binary
  | .notANumber | .infinity _ => none
  | .zero s => some ⟨isNegative s, 0, -1074⟩
  | .finite s m e _ => some ⟨isNegative s, m, e⟩

variable (b : BitVec 64)

theorem isNegative_unpackSign :
    isNegative (Sign.ofBitVec (@unpackSign .binary64 b)) = decide (Binary.signBit ≤ b.toNat) := by
  have hval : (@unpackSign .binary64 b).toNat = b.toNat / 2 ^ 63 % 2 := by
    rw [unpackSign_def, BitVec.extractLsb'_toNat, Nat.shiftRight_eq_div_pow]
    rfl
  have hlt := b.isLt
  by_cases h : @unpackSign .binary64 b = 0#1
  · have hsmall : ¬ Binary.signBit ≤ b.toNat := by
      rw [h] at hval
      show ¬ 0x8000000000000000 ≤ b.toNat
      simp at hval
      omega
    rw [h, decide_eq_false hsmall]
    rfl
  · have hone : @unpackSign .binary64 b = 1#1 := by
      rcases BitVec.eq_zero_or_eq_one (@unpackSign .binary64 b) with h0 | h1
      · exact absurd h0 h
      · exact h1
    have hlarge : Binary.signBit ≤ b.toNat := by
      rw [hone] at hval
      show 0x8000000000000000 ≤ b.toNat
      simp at hval
      omega
    rw [hone, decide_eq_true hlarge]
    rfl

theorem toNat_unpackExponent :
    (@unpackExponent .binary64 b).toNat = b.toNat / Binary.leadingBit % 0x800 := by
  rw [unpackExponent_def, BitVec.extractLsb'_toNat, Nat.shiftRight_eq_div_pow]
  rfl

theorem toNat_unpackMantissa :
    (@unpackMantissa .binary64 b).toNat = b.toNat % Binary.leadingBit := by
  rw [unpackMantissa_def, BitVec.extractLsb'_toNat, Nat.shiftRight_eq_div_pow]
  simp
  rfl

theorem unpackExponent_eq_iff (n : Nat) (hn : n < 2048) :
    @unpackExponent .binary64 b = BitVec.ofNat 11 n ↔ b.toNat / Binary.leadingBit % 0x800 = n := by
  have hmod : n % 2 ^ 11 = n := Nat.mod_eq_of_lt (by omega)
  rw [← BitVec.toNat_inj, toNat_unpackExponent, BitVec.toNat_ofNat]
  exact iff_of_eq (congrArg _ hmod)

theorem unpackMantissa_eq_zero_iff :
    @unpackMantissa .binary64 b = 0#52 ↔ b.toNat % Binary.leadingBit = 0 := by
  rw [← BitVec.toNat_inj, toNat_unpackMantissa]
  rfl

theorem toNat_leading :
    (1#1 ++ @unpackMantissa .binary64 b).toNat =
      Binary.leadingBit + b.toNat % Binary.leadingBit := by
  rw [← toNat_unpackMantissa]
  exact toNat_append 52 _

/-- The parts of a double, read off its word, are those that the word unpacks to. -/
theorem parts_unpack : parts (UnpackedFloat.unpack .binary64 b) =
    if b.toNat / Binary.leadingBit % 0x800 = 0x7ff then none
    else if b.toNat / Binary.leadingBit % 0x800 = 0 then
      some ⟨Binary.signBit ≤ b.toNat, b.toNat % Binary.leadingBit, -1074⟩
    else some ⟨Binary.signBit ≤ b.toNat, Binary.leadingBit + b.toNat % Binary.leadingBit,
      ((b.toNat / Binary.leadingBit % 0x800 : Nat) : Int) - 1075⟩ := by
  have hones := unpackExponent_eq_iff b 0x7ff (by omega)
  have hzero := unpackExponent_eq_iff b 0 (by omega)
  have hbias : (Format.binary64.exponentBias : Int) = 1023 := rfl
  have hwidth : (Format.binary64.mantissaBitsWithoutImplicit : Int) = 52 := rfl
  have hsub : -1#11 = BitVec.ofNat 11 0x7ff := by decide
  rw [UnpackedFloat.unpack]
  simp only [hbias, hwidth]
  by_cases hx : b.toNat / Binary.leadingBit % 0x800 = 0x7ff
  · rw [if_pos hx, if_pos ((hones.2 hx).trans hsub.symm)]
    split <;> rfl
  · rw [if_neg hx, if_neg fun h => hx (hones.1 (h.trans hsub))]
    by_cases h0 : b.toNat / Binary.leadingBit % 0x800 = 0
    · rw [if_pos h0, if_pos (hzero.2 h0)]
      split
      · next hm =>
        rw [(unpackMantissa_eq_zero_iff b).1 hm, ← isNegative_unpackSign]
        rfl
      · rw [← isNegative_unpackSign, ← toNat_unpackMantissa, hzero.2 h0]
        rfl
    · rw [if_neg h0, if_neg fun h => h0 (hzero.1 h), ← isNegative_unpackSign, ← toNat_leading,
        ← toNat_unpackExponent]
      rfl

theorem ofFloat?_eq (x : Float) : Binary.ofFloat? x = parts x.toModel.unpack :=
  (parts_unpack x.toModel.toBits.toBitVec).symm

/-- What a word unpacks to is a number that a double can have. -/
theorem fits_of_parts {negative : Bool} {m : Nat} {e : Int}
    (h : parts (UnpackedFloat.unpack .binary64 b) = some ⟨negative, m, e⟩) (hm : 0 < m) :
    Fits m e := by
  have hfrac : b.toNat % Binary.leadingBit < 0x10000000000000 := Nat.mod_lt _ (by decide)
  have hexp : b.toNat / Binary.leadingBit % 0x800 < 0x800 := Nat.mod_lt _ (by decide)
  have hlead : Binary.leadingBit = 0x10000000000000 := rfl
  rw [parts_unpack] at h
  refine ⟨hm, ?_, ?_, ?_, ?_⟩
  all_goals
    split at h
    · cases h
    · split at h
      all_goals
        simp only [Option.some.injEq, Binary.mk.injEq] at h
        omega

omit b

theorem fits_of_ofFloat? {x : Float} {negative : Bool} {m : Nat} {e : Int}
    (h : Binary.ofFloat? x = some ⟨negative, m, e⟩) (hm : 0 < m) : Fits m e := by
  rw [ofFloat?_eq] at h
  exact fits_of_parts _ h hm

theorem isNegative_inj {s t : Sign} (h : isNegative s = isNegative t) : s = t := by
  cases s <;> cases t <;> first | rfl | cases h

/-- A finite number is determined by its parts: a zero has no mantissa, and every other has. -/
theorem parts_inj {u v : UnpackedFloat} {c : Binary} (hu : parts u = some c)
    (hv : parts v = some c) : u = v := by
  have h : parts v = parts u := hv.trans hu.symm
  cases u with
  | notANumber => cases hu
  | infinity s => cases hu
  | zero s =>
    cases v with
    | notANumber => cases hv
    | infinity t => cases hv
    | zero t =>
      simp only [parts, Option.some.injEq, Binary.mk.injEq, and_true] at h
      rw [isNegative_inj h]
    | finite t m e hm =>
      simp only [parts, Option.some.injEq, Binary.mk.injEq] at h
      omega
  | finite s m e hm =>
    cases v with
    | notANumber => cases hv
    | infinity t => cases hv
    | zero t =>
      simp only [parts, Option.some.injEq, Binary.mk.injEq] at h
      omega
    | finite t m' e' hm' =>
      simp only [parts, Option.some.injEq, Binary.mk.injEq] at h
      obtain ⟨hs, rfl, rfl⟩ := h
      rw [isNegative_inj hs]

/-- A finite double is determined by its parts. -/
theorem eq_of_ofFloat? {x y : Float} {c : Binary} (hx : Binary.ofFloat? x = some c)
    (hy : Binary.ofFloat? y = some c) : x = y := by
  rw [ofFloat?_eq] at hx hy
  exact eq_of_unpack (parts_inj hx hy)

theorem eq_of_toBits {x y : Float} (h : x.toBits = y.toBits) : x = y := by
  obtain ⟨⟨xbits, xvalid⟩⟩ := x
  obtain ⟨⟨ybits, yvalid⟩⟩ := y
  have hbits : xbits = ybits := h
  subst hbits
  rfl

/-- A zero has the lowest power of two. -/
theorem exponent_of_zero {x : Float} {c : Binary} (h : Binary.ofFloat? x = some c)
    (hc : c.mantissa = 0) : c.exponent = -1074 := by
  rw [ofFloat?_eq] at h
  revert h
  cases x.toModel.unpack with
  | notANumber => intro h; cases h
  | infinity s => intro h; cases h
  | zero s =>
    intro h
    cases h
    rfl
  | finite s m e hm =>
    intro h
    cases h
    exact absurd hc hm.ne'

/-- The other sign. -/
theorem ofFloat?_neg {x : Float} {negative : Bool} {m : Nat} {e : Int}
    (h : Binary.ofFloat? x = some ⟨negative, m, e⟩) :
    Binary.ofFloat? (-x) = some ⟨!negative, m, e⟩ := by
  have hfits := fits_of_ofFloat? h
  have hneg : (-x).toModel.unpack = reread x.toModel.unpack.neg := rfl
  rw [ofFloat?_eq] at h ⊢
  rw [hneg]
  revert h
  cases x.toModel.unpack with
  | notANumber => intro h; cases h
  | infinity s => intro h; cases h
  | zero s =>
    intro h
    show parts (reread (.zero (-s))) = _
    rw [reread_zero]
    cases h
    cases s <;> rfl
  | finite s m' e' hm =>
    intro h
    cases h
    show parts (reread (.finite (-s) m e hm)) = _
    rw [(hfits hm).reread_finite (-s)]
    cases s <;> rfl

/-! ## Infinities -/

theorem infinity_toBits_and_sign :
    (1.0 / 0.0 : Float).toBits = (Float.Model.pack (.infinity .positive)).toBits ∧
      ¬ (1.0 / 0.0 : Float) < 0 := by
  decide +kernel

theorem negInfinity_toBits_and_sign :
    (-1.0 / 0.0 : Float).toBits = (Float.Model.pack (.infinity .negative)).toBits ∧
      (-1.0 / 0.0 : Float) < 0 := by
  decide +kernel

theorem toBits_eq_pack (x : Float) : x.toBits = (Float.Model.pack x.toModel.unpack).toBits := by
  obtain ⟨⟨⟨bits⟩, valid⟩⟩ := x
  have h : UnpackedFloat.pack .binary64 (UnpackedFloat.unpack .binary64 bits) = bits :=
    pack_unpack_of_valid valid
  exact congrArg UInt64.ofBitVec h.symm

/-- What is neither finite nor no number is one of the two infinities. -/
theorem eq_infinity {x : Float} (hnan : x.isNaN = false) (h : Binary.ofFloat? x = none) :
    x = 1.0 / 0.0 ∨ x = -1.0 / 0.0 := by
  have hbits := toBits_eq_pack x
  have hunpacked : x.toModel.unpack.isNaN = false := hnan
  rw [ofFloat?_eq] at h
  obtain ⟨u, hu⟩ : ∃ u, x.toModel.unpack = u := ⟨_, rfl⟩
  rw [hu] at h hbits hunpacked
  cases u with
  | notANumber => cases hunpacked
  | infinity s =>
    cases s with
    | positive => exact .inl (eq_of_toBits (hbits.trans infinity_toBits_and_sign.1.symm))
    | negative => exact .inr (eq_of_toBits (hbits.trans negInfinity_toBits_and_sign.1.symm))
  | zero s => cases h
  | finite s m e hm => cases h

/-! ## Sums -/

/-- A word whose exponent is not full holds a number. -/
theorem isNaN_unpack_packComponents (s : Sign) {e : BitVec 11} (he : e ≠ -1#11) (m : BitVec 52) :
    (UnpackedFloat.unpack .binary64 (packComponents .binary64 s e m)).isNaN = false := by
  rw [UnpackedFloat.unpack]
  simp only [unpackMantissa_packComponents, unpackExponent_packComponents,
    unpackSign_packComponents, Sign.ofBitVec_toBitVec]
  rw [if_neg he]
  split
  · split <;> rfl
  · rfl

/-- Packing turns no number into one that is none, however many bits its mantissa has. -/
theorem isNaN_reread (u : UnpackedFloat) : (reread u).isNaN = u.isNaN := by
  cases u with
  | notANumber => decide
  | infinity s => rw [reread_infinity]
  | zero s => rw [reread_zero]
  | finite s m e hm =>
    show _ = false
    rcases Int.lt_or_le 971 e with hlarge | hle
    · rw [reread_of_large hlarge]
      rfl
    · have hbias : (e + Format.binary64.exponentBias +
          Format.binary64.mantissaBitsWithoutImplicit).toNat = (e + 1075).toNat := by
        have h1 : (Format.binary64.exponentBias : Int) = 1023 := rfl
        have h2 : (Format.binary64.mantissaBitsWithoutImplicit : Int) = 52 := rfl
        omega
      have hexponent : BitVec.ofNat 11 (e + 1075).toNat ≠ -1#11 := by
        rw [BitVec.toNat_ne, BitVec.toNat_ofNat]
        simp
        omega
      rw [reread, UnpackedFloat.pack]
      simp only [hbias]
      rw [if_neg (by show ¬ 2 ^ 11 ≤ _; omega)]
      split
      · exact isNaN_unpack_packComponents s hexponent _
      · exact isNaN_unpack_packComponents s (by decide) _

theorem isNaN_round (s : Sign) (m : Nat) (e : Int) :
    (UnpackedFloat.round .binary64 s m e).isNaN = false := by
  rw [UnpackedFloat.round]
  simp only [UnpackedFloat.roundWithAccuracy]
  split <;> rfl

theorem isNaN_normalize (n : Int) (e : Int) (s : Sign) :
    (UnpackedFloat.normalize .binary64 n e s).isNaN = false := by
  rw [UnpackedFloat.normalize]
  split
  · exact isNaN_round ..
  · rfl
  · exact isNaN_round ..

theorem unpack_add (x y : Float) : (x + y).toModel.unpack =
    reread (UnpackedFloat.add .binary64 x.toModel.unpack y.toModel.unpack) := rfl

/-- A finite double added to a number or an infinity never leads to what is no number; a sum that is
too large is an infinity. -/
theorem isNaN_add {x y : Float} (hx : x.isNaN = false) (hy : y.isFinite = true) :
    (x + y).isNaN = false := by
  have hx : x.toModel.unpack.isNaN = false := hx
  have hy : y.toModel.unpack.isFinite = true := hy
  show (x + y).toModel.unpack.isNaN = false
  rw [unpack_add, isNaN_reread]
  generalize x.toModel.unpack = u at hx
  generalize y.toModel.unpack = v at hy
  cases u with
  | notANumber => cases hx
  | infinity s => cases v <;> first | rfl | cases hy
  | zero s =>
    cases v with
    | notANumber | infinity => cases hy
    | zero t => cases s <;> cases t <;> rfl
    | finite => rfl
  | finite s m e hm =>
    cases v with
    | notANumber | infinity => cases hy
    | zero => rfl
    | finite t n f hn => exact isNaN_normalize ..

end Double
end Logbook
