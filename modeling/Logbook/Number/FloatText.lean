import Logbook.Number.Binary
import Logbook.Number.Decimal

/-!
# Doubles in decimal

* `Binary.below` is the greatest decimal of a given number of digits that is not above the double;
  `roundSignificant` takes the nearer of it and its successor.
* `FloatStyle.decimal` writes a double with the fewest digits that read back, in a layout that the
  style lays down: it tries one digit, two digits and so on, and takes the first decimal that does.
-/

namespace Logbook

/-! ## Decimals next to a double -/

namespace Binary

/-- The quotient of the magnitude and `10 ^ e`, as a fraction of natural numbers. -/
def quotient (b : Binary) (e : Int) : Nat × Nat :=
  ((b.mantissa * Nat.pow 10 (-e).toNat) <<< b.exponent.toNat,
    Nat.pow 10 e.toNat <<< (-b.exponent).toNat)

/-- The position of the first decimal digit of a magnitude that is not zero: `10 ^ k` is not above
it and `10 ^ (k + 1)` is. The estimate from the binary logarithm is at most one too small. -/
def firstDigit (b : Binary) : Int :=
  let estimate := ((Nat.log2 b.mantissa : Int) + b.exponent) * 30103 / 100000
  let (num, den) := b.quotient (estimate + 1)
  if den ≤ num then estimate + 1 else estimate

/-- A decimal `digits · 10 ^ exponent` that is not above a double, and the position of the double
between it and the next one, as a fraction. -/
structure Floor where
  digits : Nat
  exponent : Int
  rest : Nat
  unit : Nat

/-- The greatest decimal of `count` digits that is not above the magnitude. -/
def below (b : Binary) (count : Nat) : Floor :=
  let e := b.firstDigit - count + 1
  let (num, den) := b.quotient e
  ⟨num / den, e, num % den, den⟩

/-- The decimal expansion of the magnitude, without rounding. -/
def expansion (b : Binary) : Nat × Int :=
  if 0 ≤ b.exponent then (b.mantissa <<< b.exponent.toNat, 0)
  else (b.mantissa * Nat.pow 5 (-b.exponent).toNat, b.exponent)

end Binary

/-- The double next to the decimal of `count` digits that is next to `x`; a decimal half way between
two goes to the even digit. -/
def roundSignificant (count : Nat) (x : Float) : Float :=
  match Binary.ofFloat? x with
  | none => x
  | some b =>
    if b.mantissa = 0 then x
    else
      let f := b.below count
      let up := f.unit < 2 * f.rest ∨ (f.unit = 2 * f.rest ∧ f.digits % 2 = 1)
      let y := Decimal.nearest (if up then f.digits + 1 else f.digits) f.exponent
      if b.negative then -y else y

/-! ## Styles -/

/-- How a double is laid out. Numbers whose point stands after digit `p`, for `low ≤ p ≤ high`, are
written without an exponent, and whole numbers end in `.0` if `wholePoint` says so. -/
structure FloatStyle where
  low : Option Int
  high : Option Int
  wholePoint : Bool

namespace FloatStyle

/-- Formulas in canonical form: positional from 0.0001 to below 10^16, always with a point. -/
def canonical : FloatStyle := ⟨some (-3), some 16, true⟩

/-- Cells of a table and parameters of filters: positional always, and without a needless point. -/
def plain : FloatStyle := ⟨none, none, false⟩

/-- Documents: positional from 0.00001 to below 10^16, always with a point. -/
def document : FloatStyle := ⟨some (-4), some 16, true⟩

end FloatStyle

/-- The same number without trailing zeros among its digits; `fuel` bounds their number. -/
def dropZeros : (fuel digits : Nat) → Int → Nat × Int
  | 0, d, e => (d, e)
  | fuel + 1, d, e => if d ≠ 0 ∧ d % 10 = 0 then dropZeros fuel (d / 10) (e + 1) else (d, e)

namespace FloatStyle

/-- The layout of `± digits · 10 ^ exponent`. -/
def layout (style : FloatStyle) (negative : Bool) (digits : Nat) (exponent : Int) : Decimal :=
  let (d, e) := dropZeros (Digits.digits digits).length digits exponent
  let count := (Digits.digits d).length
  let point : Int := count + e
  if style.low.all (· ≤ point) ∧ style.high.all (point ≤ ·) then
    if 0 ≤ e then
      if style.wholePoint then ⟨negative, d * Nat.pow 10 (e.toNat + 1), 1, none⟩
      else ⟨negative, d * Nat.pow 10 e.toNat, 0, none⟩
    else ⟨negative, d, (-e).toNat, none⟩
  else ⟨negative, d, count - 1, some (point - 1)⟩

/-- The two decimals of `count` digits around the double, the nearer one first. -/
def candidates (style : FloatStyle) (b : Binary) (count : Nat) : List Decimal :=
  let f := b.below count
  let low := style.layout b.negative f.digits f.exponent
  let high := style.layout b.negative (f.digits + 1) f.exponent
  if 2 * f.rest < f.unit then [low, high] else [high, low]

/-- The decimals that a double can be written as, in the order in which they are tried. -/
def attempts (style : FloatStyle) (b : Binary) : List Decimal :=
  (List.range 17).flatMap fun i => style.candidates b (i + 1)

/-- A finite double in the fewest digits that read back to it. -/
def decimal (style : FloatStyle) (x : Float) (b : Binary) : Decimal :=
  if b.mantissa = 0 then style.layout b.negative 0 0
  else
    match (style.attempts b).find? fun d => d.toFloat.toBits == x.toBits with
    | some d => d
    | none => style.layout b.negative b.expansion.1 b.expansion.2

/-- A double as text; `inf`, `-inf` and `NaN` stand for those that are not finite. -/
def text (style : FloatStyle) (x : Float) : String :=
  match Binary.ofFloat? x with
  | some b => (style.decimal x b).text
  | none => if x.isNaN then "NaN" else if x < 0 then "-inf" else "inf"

end FloatStyle

end Logbook
