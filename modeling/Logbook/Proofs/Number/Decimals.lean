import Logbook.Proofs.Number.Nearest
import Logbook.Number.Parameter

/-!
# Numbers that are written are read back

* `Decimal.rounds_toFloat` — a decimal is rounded to the nearest number, so that one with the sign
  and the value of a double is that double (`Decimal.toFloat_eq`).
* `FloatStyle.toFloat_decimal` — the decimal that a style writes for a double is rounded to it: either
  it was tried, or it is the whole expansion, and the layout keeps its value
  (`FloatStyle.layout_magnitude`).
* `Decimal.readDecimal?_unsigned`, `Decimal.exponent?_exponentChars` — the digits of a decimal, its
  point and its exponent are found again in its text.
* `FloatStyle.readFloat?_text` — the text of a double is read back as that double, and
  `FloatStyle.isNumberChar_of_mem_text` says what characters it has.
-/

namespace Logbook

/-! ## Values of decimals -/

namespace Decimal

/-- The magnitude of a decimal, without rounding. -/
def magnitude (d : Decimal) : ℚ :=
  d.digits * 10 ^ (d.exponent.getD 0 - d.places)

variable {d : Decimal} {x : Float} {b : Binary}

/-- A decimal without a minus is read as its rounding. -/
theorem rounds_toFloat (h : d.negative = false) : Double.Rounds d.toFloat d.magnitude := by
  rw [toFloat, h]
  exact Double.rounds_nearest _ _

theorem ofFloat?_nearest (hx : Binary.ofFloat? x = some b)
    (hv : d.magnitude = Double.value b.mantissa b.exponent) :
    Binary.ofFloat? (nearest d.digits (d.exponent.getD 0 - d.places)) =
      some ⟨false, b.mantissa, b.exponent⟩ := by
  obtain ⟨hcanonical, he⟩ := Double.canonical_of_ofFloat? hx
  exact (Double.rounds_nearest _ _).exact hcanonical he hv

/-- The double next to a decimal that has its sign and its value is the double. -/
theorem toFloat_eq (hx : Binary.ofFloat? x = some b) (hs : d.negative = b.negative)
    (hv : d.magnitude = Double.value b.mantissa b.exponent) : d.toFloat = x := by
  have hnear := ofFloat?_nearest hx hv
  rw [toFloat, hs]
  split
  · next hneg =>
    refine Double.eq_of_ofFloat? (Double.ofFloat?_neg hnear) ?_
    rw [hx]
    obtain ⟨negative, m, e⟩ := b
    cases hneg
    rfl
  · next hneg =>
    refine Double.eq_of_ofFloat? hnear ?_
    rw [hx]
    obtain ⟨negative, m, e⟩ := b
    rw [Bool.not_eq_true] at hneg
    cases hneg
    rfl

end Decimal

/-! ## Layouts -/

theorem dropZeros_value (fuel d : Nat) (e : Int) :
    ((dropZeros fuel d e).1 : ℚ) * 10 ^ (dropZeros fuel d e).2 = d * 10 ^ e := by
  induction fuel generalizing d e with
  | zero => rfl
  | succ fuel ih =>
    rw [dropZeros]
    split
    · next h =>
      have hd : d = d / 10 * 10 := by omega
      rw [ih, zpow_add_one₀ (by norm_num)]
      conv_rhs => rw [hd]
      push_cast
      ring
    · rfl

namespace FloatStyle

variable (style : FloatStyle) {x : Float} {b : Binary}

theorem layout_negative (negative : Bool) (digits : Nat) (exponent : Int) :
    (style.layout negative digits exponent).negative = negative := by
  unfold layout
  simp only
  split
  · split
    · split <;> rfl
    · rfl
  · rfl

/-- However a decimal is laid out, its value stays. -/
theorem layout_magnitude (negative : Bool) (digits : Nat) (exponent : Int) :
    (style.layout negative digits exponent).magnitude = digits * 10 ^ exponent := by
  rw [← dropZeros_value (Digits.digits digits).length digits exponent]
  unfold layout
  obtain ⟨d, e⟩ := dropZeros (Digits.digits digits).length digits exponent
  have hten : (10 : ℚ) ≠ 0 := by norm_num
  have hpos : 0 < (Digits.digits d).length := List.length_pos_of_ne_nil (Digits.digits_ne_nil d)
  simp only
  split
  · split
    · next he =>
      have hnat : ((e.toNat : Nat) : Int) = e := by omega
      split
      · have hexp : e = (e.toNat + 1 : Nat) + ((0 : Int) - (1 : Nat)) := by omega
        simp only [Decimal.magnitude, Option.getD_none]
        conv_rhs => rw [hexp, zpow_add₀ hten, zpow_natCast, ← mul_assoc]
        rw [Nat.pow_eq]
        push_cast
        rfl
      · simp only [Decimal.magnitude, Option.getD_none]
        conv_rhs => rw [← hnat, zpow_natCast]
        simp
    · simp only [Decimal.magnitude, Option.getD_none]
      congr 2
      omega
  · simp only [Decimal.magnitude, Option.getD_some]
    congr 2
    omega

/-- The expansion of a double has its value. -/
theorem expansion_value (b : Binary) :
    (b.expansion.1 : ℚ) * 10 ^ b.expansion.2 = Double.value b.mantissa b.exponent := by
  unfold Binary.expansion Double.value
  split
  · next h =>
    have hexp : ((b.exponent.toNat : Nat) : Int) = b.exponent := by omega
    conv_rhs => rw [← hexp, zpow_natCast]
    rw [Nat.shiftLeft_eq]
    push_cast
    simp
  · next h =>
    have hexp : b.exponent = -(((-b.exponent).toNat : Nat) : Int) := by omega
    have hten : (10 : ℚ) ^ b.exponent = 2 ^ b.exponent * 5 ^ b.exponent := by
      rw [← mul_zpow]
      norm_num
    have hfive : (5 : ℚ) ^ (-b.exponent).toNat * 5 ^ b.exponent = 1 := by
      obtain ⟨k, hk⟩ : ∃ k, k = (-b.exponent).toNat := ⟨_, rfl⟩
      rw [hexp, ← hk, neg_neg, Int.toNat_natCast, zpow_neg, zpow_natCast]
      exact mul_inv_cancel₀ (by positivity)
    calc ((b.mantissa * Nat.pow 5 (-b.exponent).toNat : Nat) : ℚ) * 10 ^ b.exponent
      _ = b.mantissa * 2 ^ b.exponent * (5 ^ (-b.exponent).toNat * 5 ^ b.exponent) := by
        rw [hten, Nat.pow_eq]
        push_cast
        ring
      _ = b.mantissa * 2 ^ b.exponent := by rw [hfive, mul_one]

/-- A double that is written is read again as itself. -/
theorem toFloat_decimal (hx : Binary.ofFloat? x = some b) : (style.decimal x b).toFloat = x := by
  unfold decimal
  split
  · next hm =>
    refine Decimal.toFloat_eq hx (layout_negative _ _ _ _) ?_
    rw [layout_magnitude, hm, Double.value, Nat.cast_zero, zero_mul, zero_mul]
  · split
    · next d hd =>
      have := List.find?_some hd
      exact Double.eq_of_toBits (by simpa using this)
    · refine Decimal.toFloat_eq hx (layout_negative _ _ _ _) ?_
      rw [layout_magnitude, expansion_value]

end FloatStyle

/-! ## Reading what was written -/

namespace Digits

theorem exists_digits_eq_cons (n : Nat) : ∃ c cs, digits n = c :: cs ∧ c.isDigit = true := by
  cases h : digits n with
  | nil => exact absurd h (digits_ne_nil n)
  | cons c cs => exact ⟨c, cs, rfl, isDigit_of_mem_digits (h ▸ List.mem_cons_self)⟩

end Digits

namespace Decimal

/-- What may follow a number: nothing that could be part of it. -/
def Ends (rest : List Char) : Prop :=
  ∀ c, rest.head? = some c → c.isDigit = false ∧ c ≠ '.' ∧ c ≠ 'e' ∧ c ≠ 'E'

theorem ends_nil : Ends [] :=
  fun _ h => nomatch h

/-- The digits after the point. -/
def fractionRun (d : Decimal) : List Char :=
  if d.places = 0 then [] else Digits.padded d.places (d.digits % Nat.pow 10 d.places)

/-- The digits before the point. -/
def wholeRun (d : Decimal) : List Char :=
  Digits.digits (d.digits / Nat.pow 10 d.places)

/-- The number without its sign. -/
def unsigned (d : Decimal) : List Char :=
  d.wholeRun ++ (fractionChars d.places d.digits ++ exponentChars d.exponent)

variable (d : Decimal)

theorem chars_eq : d.chars = (if d.negative then ['-'] else []) ++ d.unsigned := by
  simp only [chars, unsigned, wholeRun, List.append_assoc]

theorem length_fractionRun : d.fractionRun.length = d.places := by
  unfold fractionRun
  split
  · next h => exact h.symm
  · next h =>
    exact Digits.length_padded (Nat.pos_of_ne_zero h) (Nat.mod_lt _ (Nat.pow_pos (by omega)))

theorem isDigit_of_mem_fractionRun {c : Char} (h : c ∈ d.fractionRun) : c.isDigit = true := by
  unfold fractionRun at h
  split at h
  · cases h
  · exact Digits.isDigit_of_mem_padded h

theorem fractionRun_eq_nil_iff : d.fractionRun = [] ↔ d.places = 0 := by
  rw [← List.length_eq_zero_iff, length_fractionRun]

theorem fractionChars_eq :
    fractionChars d.places d.digits = if d.places = 0 then [] else '.' :: d.fractionRun := by
  unfold fractionChars fractionRun
  split <;> rfl

/-- The digits before and after the point make up the number. -/
theorem ofParts_runs : ofParts d.negative d.wholeRun d.fractionRun d.exponent = d := by
  have hvalue : Digits.value (d.wholeRun ++ d.fractionRun) = d.digits := by
    have hfrac : Nat.ofDigitChars 10 d.fractionRun 0 = d.digits % 10 ^ d.places := by
      unfold fractionRun
      split
      · next h => simp [h, Nat.mod_one]
      · exact Digits.value_padded _ _
    rw [Digits.value_append, wholeRun, Digits.value_digits, Nat.ofDigitChars_eq_ofDigitChars_zero,
      length_fractionRun, hfrac]
    exact Nat.div_add_mod d.digits (10 ^ d.places)
  rw [ofParts, hvalue, length_fractionRun]

/-- An exponent is read back. -/
theorem exponent?_exponentChars (e : Option Int) {rest : List Char} (hrest : Ends rest) :
    exponent? (exponentChars e ++ rest) = some (e, rest) := by
  cases e with
  | none =>
    cases rest with
    | nil => rfl
    | cons c rest =>
      obtain ⟨-, -, he, hE⟩ := hrest c rfl
      simp [exponentChars, exponent?, he, hE]
  | some e =>
    obtain ⟨c, cs, hdigits, hc⟩ := Digits.exists_digits_eq_cons e.natAbs
    have hsplit : Digits.splitDigits (Digits.digits e.natAbs ++ rest) =
        (Digits.digits e.natAbs, rest) :=
      Digits.splitDigits_of_digits (fun c hc => Digits.isDigit_of_mem_digits hc)
        fun c hc => (hrest c hc).1
    rw [hdigits] at hsplit
    have hvalue : Digits.value (c :: cs) = e.natAbs := by rw [← hdigits, Digits.value_digits]
    by_cases hneg : e < 0
    · simp only [List.cons_append] at hsplit
      simp [exponentChars, exponent?, hneg, hdigits, hsplit, hvalue, abs_of_neg hneg]
    · have hminus : c ≠ '-' := by rintro rfl; cases hc
      have hplus : c ≠ '+' := by rintro rfl; cases hc
      simp only [List.cons_append] at hsplit
      simp [exponentChars, exponent?, hneg, hdigits, hminus, hplus, hsplit, hvalue,
        abs_of_nonneg (Int.not_lt.1 hneg)]

theorem head?_exponentChars (e : Option Int) {rest : List Char} (hrest : Ends rest) {c : Char}
    (h : (exponentChars e ++ rest).head? = some c) : c.isDigit = false ∧ c ≠ '.' := by
  cases e with
  | none =>
    have := hrest c h
    exact ⟨this.1, this.2.1⟩
  | some e =>
    cases h
    exact ⟨rfl, by decide⟩

/-- The digits before the point end at the point or at what follows the number. -/
theorem splitDigits_unsigned {rest : List Char} (hrest : Ends rest) :
    Digits.splitDigits (d.unsigned ++ rest) =
      (d.wholeRun, fractionChars d.places d.digits ++ (exponentChars d.exponent ++ rest)) := by
  have hhead : ∀ c, (fractionChars d.places d.digits ++ (exponentChars d.exponent ++ rest)).head? =
      some c → c.isDigit = false := by
    intro c hc
    rw [fractionChars_eq] at hc
    split at hc
    · exact (head?_exponentChars d.exponent hrest hc).1
    · cases hc
      rfl
  have hrun : ∀ c ∈ d.wholeRun, c.isDigit = true := fun c hc => Digits.isDigit_of_mem_digits hc
  rw [unsigned, List.append_assoc, List.append_assoc, Digits.splitDigits_of_digits hrun hhead]

/-- The digits after the point end at the exponent or at what follows the number. -/
theorem splitDigits_fractionRun {rest : List Char} (hrest : Ends rest) :
    Digits.splitDigits (d.fractionRun ++ (exponentChars d.exponent ++ rest)) =
      (d.fractionRun, exponentChars d.exponent ++ rest) :=
  Digits.splitDigits_of_digits (fun _ hc => d.isDigit_of_mem_fractionRun hc)
    fun _ hc => (head?_exponentChars d.exponent hrest hc).1

theorem wholeRun_ne_nil : d.wholeRun ≠ [] :=
  Digits.digits_ne_nil _

/-- A decimal without its sign is read back. -/
theorem readDecimal?_unsigned : readDecimal? d.negative d.unsigned = some d := by
  have hsplit := d.splitDigits_unsigned ends_nil
  have hfrac := d.splitDigits_fractionRun ends_nil
  have hexp := exponent?_exponentChars d.exponent ends_nil
  have hparts := d.ofParts_runs
  rw [List.append_nil] at hsplit hfrac hexp
  unfold readDecimal?
  rw [hsplit, fractionChars_eq]
  by_cases hp : d.places = 0
  · have hrun := d.fractionRun_eq_nil_iff.2 hp
    rw [hrun] at hparts
    rw [if_pos hp]
    cases he : d.exponent with
    | none =>
      rw [he] at hparts
      simp [exponentChars, exponent?, d.wholeRun_ne_nil, hparts]
    | some e =>
      rw [he] at hexp hparts
      simp only [exponentChars, List.cons_append] at hexp
      simp [exponentChars, d.wholeRun_ne_nil, hexp, hparts]
  · simp only [if_neg hp, List.append_nil, List.cons_append, hfrac, d.wholeRun_ne_nil, false_and,
      if_false, hexp, hparts]

/-- A number without its sign starts with a digit. -/
theorem exists_unsigned_eq_cons : ∃ c cs, d.unsigned = c :: cs ∧ c.isDigit = true := by
  obtain ⟨c, cs, hdigits, hc⟩ := Digits.exists_digits_eq_cons (d.digits / Nat.pow 10 d.places)
  refine ⟨c, cs ++ (fractionChars d.places d.digits ++ exponentChars d.exponent), ?_, hc⟩
  rw [unsigned, wholeRun, hdigits]
  rfl

/-- A text that starts with a digit, perhaps after a sign, is no name: a name starts with a letter. -/
theorem readFloat?_of_isDigit {cs tail : List Char} {negative : Bool} {c : Char}
    (hsign : splitSign cs = (negative, c :: tail)) (hc : c.isDigit = true) :
    readFloat? cs = (readDecimal? negative (c :: tail)).map toFloat := by
  have hname (name : String) (a : Char) (as : List Char) (h : name.toList = a :: as)
      (ha : a.isDigit = false) : String.ofList ((c :: tail).map Char.toLower) ≠ name := by
    intro heq
    have hlist := congrArg String.toList heq
    rw [String.toList_ofList, h, List.map_cons] at hlist
    have hlower : c.toLower = c := by
      refine Char.toLower_eq_of_not_isUpper ?_
      simp only [Char.isDigit, Char.isUpper, Bool.and_eq_true, decide_eq_true_eq,
        UInt32.le_iff_toNat_le, ge_iff_le] at hc ⊢
      have h9 : ('9' : Char).val.toNat = 57 := rfl
      have hA : ('A' : Char).val.toNat = 65 := rfl
      omega
    rw [hlower] at hlist
    rw [(List.cons.inj hlist).1, ha] at hc
    cases hc
  have hinf := hname "inf" 'i' ['n', 'f'] rfl rfl
  have hinfinity := hname "infinity" 'i' ['n', 'f', 'i', 'n', 'i', 't', 'y'] rfl rfl
  have hnan := hname "nan" 'n' ['a', 'n'] rfl rfl
  simp only [readFloat?, hsign, hinf, hinfinity, hnan, or_self, if_false]

theorem splitSign_of_isDigit {c : Char} (hc : c.isDigit = true) (tail : List Char) :
    splitSign (c :: tail) = (false, c :: tail) := by
  have hminus : c ≠ '-' := by rintro rfl; cases hc
  have hplus : c ≠ '+' := by rintro rfl; cases hc
  simp [splitSign, hminus, hplus]

/-- A decimal is read back as the double next to it. -/
theorem readFloat?_chars : readFloat? d.chars = some d.toFloat := by
  obtain ⟨c, tail, htail, hc⟩ := d.exists_unsigned_eq_cons
  have hsign : splitSign d.chars = (d.negative, c :: tail) := by
    rw [chars_eq, htail]
    cases d.negative with
    | true => rfl
    | false => exact splitSign_of_isDigit hc tail
  rw [readFloat?_of_isDigit hsign hc, ← htail, readDecimal?_unsigned, Option.map_some]

/-- Digits, and maybe a point with digits behind it, are read as what they are. -/
theorem readFloat?_runs {whole fraction : List Char} (hne : whole ≠ [])
    (hwhole : ∀ c ∈ whole, c.isDigit = true) (hfraction : ∀ c ∈ fraction, c.isDigit = true) :
    readFloat? (whole ++ if fraction = [] then [] else '.' :: fraction) =
      some (ofParts false whole fraction none).toFloat := by
  obtain ⟨c, tail, rfl⟩ := List.exists_cons_of_ne_nil hne
  have hc := hwhole c List.mem_cons_self
  rw [List.cons_append, readFloat?_of_isDigit (splitSign_of_isDigit hc _) hc, ← List.cons_append]
  by_cases hnil : fraction = []
  · have hsplit : Digits.splitDigits (c :: tail ++ []) = (c :: tail, []) :=
      Digits.splitDigits_of_digits hwhole fun _ h => nomatch h
    rw [if_pos hnil, readDecimal?, hsplit]
    simp [exponent?, hnil]
  · have hpoint : ∀ c, ('.' :: fraction).head? = some c → c.isDigit = false := by
      rintro _ ⟨⟩
      rfl
    have hsplit : Digits.splitDigits (c :: tail ++ '.' :: fraction) = (c :: tail, '.' :: fraction) :=
      Digits.splitDigits_of_digits hwhole hpoint
    have hsplit' : Digits.splitDigits fraction = (fraction, []) := by
      simpa using Digits.splitDigits_of_digits hfraction fun _ (h : [].head? = _) => nomatch h
    rw [if_neg hnil, readDecimal?, hsplit]
    simp [exponent?, hsplit']

end Decimal

theorem readFloat?_inf : readFloat? "inf".toList = some (1.0 / 0.0) := by
  simp [readFloat?, splitSign]

theorem readFloat?_neg_inf : readFloat? "-inf".toList = some (-1.0 / 0.0) := by
  simp [readFloat?, splitSign]

/-- The text of a number is read back as the number. -/
theorem FloatStyle.readFloat?_text (style : FloatStyle) {x : Float} (hx : x.isNaN = false) :
    readFloat? (style.text x).toList = some x := by
  unfold FloatStyle.text
  cases h : Binary.ofFloat? x with
  | some b =>
    simp only
    rw [Decimal.text, String.toList_ofList, Decimal.readFloat?_chars, toFloat_decimal style h]
  | none =>
    simp only [hx, Bool.false_eq_true, if_false]
    rcases Double.eq_infinity hx h with rfl | rfl
    · rw [if_neg Double.infinity_toBits_and_sign.2, readFloat?_inf]
    · rw [if_pos Double.negInfinity_toBits_and_sign.2, readFloat?_neg_inf]

/-! ## The characters of numbers -/

/-- The characters that numbers are written with: digits, signs, a point, the mark of an exponent,
and the letters of `inf` and `NaN`. -/
def isNumberChar (c : Char) : Bool :=
  c.isDigit || ['-', '+', '.', 'e', 'i', 'n', 'f', 'N', 'a'].contains c

theorem isNumberChar_of_isDigit {c : Char} (h : c.isDigit = true) : isNumberChar c = true := by
  rw [isNumberChar, h, Bool.true_or]

theorem Decimal.isNumberChar_of_mem_exponentChars {e : Option Int} {c : Char}
    (h : c ∈ exponentChars e) : isNumberChar c = true := by
  cases e with
  | none => cases h
  | some e =>
    rw [exponentChars, List.cons_append, List.mem_cons, List.mem_append] at h
    rcases h with rfl | h | h
    · decide
    · split at h
      · rw [List.mem_singleton.1 h]
        decide
      · cases h
    · exact isNumberChar_of_isDigit (Digits.isDigit_of_mem_digits h)

theorem Decimal.isNumberChar_of_mem_chars {d : Decimal} {c : Char} (h : c ∈ d.chars) :
    isNumberChar c = true := by
  rw [chars_eq, unsigned, fractionChars_eq, List.mem_append, List.mem_append, List.mem_append] at h
  rcases h with h | h | h | h
  · split at h
    · rw [List.mem_singleton.1 h]
      decide
    · cases h
  · exact isNumberChar_of_isDigit (Digits.isDigit_of_mem_digits h)
  · split at h
    · cases h
    · rcases List.mem_cons.1 h with rfl | h
      · decide
      · exact isNumberChar_of_isDigit (d.isDigit_of_mem_fractionRun h)
  · exact isNumberChar_of_mem_exponentChars h

theorem FloatStyle.isNumberChar_of_mem_text {style : FloatStyle} {x : Float} {c : Char}
    (h : c ∈ (style.text x).toList) : isNumberChar c = true := by
  unfold FloatStyle.text at h
  cases hx : Binary.ofFloat? x with
  | some b =>
    simp only [hx, Decimal.text, String.toList_ofList] at h
    exact Decimal.isNumberChar_of_mem_chars h
  | none =>
    have hnames : ∀ name ∈ [['N', 'a', 'N'], ['-', 'i', 'n', 'f'], ['i', 'n', 'f']],
        ∀ c ∈ name, isNumberChar c = true := by
      simp [isNumberChar]
    simp only [hx] at h
    split at h
    · exact hnames ['N', 'a', 'N'] (by decide) c h
    · split at h
      · exact hnames ['-', 'i', 'n', 'f'] (by decide) c h
      · exact hnames ['i', 'n', 'f'] (by decide) c h

/-- The characters of numbers are visible ones of ASCII. -/
theorem isNumberChar_bounds {c : Char} (h : isNumberChar c = true) :
    0x20 < c.toNat ∧ c.toNat < 0x7f := by
  rw [isNumberChar, Bool.or_eq_true, List.contains_iff_mem] at h
  rcases h with h | h
  · obtain ⟨hlow, hhigh⟩ := Char.isDigit_iff_toNat.1 h
    have h0 : ('0' : Char).toNat = 48 := rfl
    have h9 : ('9' : Char).toNat = 57 := rfl
    omega
  · have hall : ∀ c ∈ ['-', '+', '.', 'e', 'i', 'n', 'f', 'N', 'a'],
        0x20 < c.toNat ∧ c.toNat < 0x7f := by simp
    exact hall c h

/-- No text of a number has a blank, a tab or the end of a line in it. -/
theorem FloatStyle.blank_lt_of_mem_text {style : FloatStyle} {x : Float} {c : Char}
    (h : c ∈ (style.text x).toList) : 0x20 < c.toNat :=
  (isNumberChar_bounds (isNumberChar_of_mem_text h)).1

/-- No text of a number is empty. -/
theorem FloatStyle.text_ne_empty (style : FloatStyle) {x : Float} (hx : x.isNaN = false) :
    style.text x ≠ "" := by
  intro h
  have hread := style.readFloat?_text hx
  rw [h] at hread
  have hnone : readFloat? "".toList = none := by
    simp [readFloat?, splitSign, readDecimal?, Digits.splitDigits]
  rw [hnone] at hread
  cases hread

end Logbook
