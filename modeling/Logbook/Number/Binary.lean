/-!
# Doubles in binary

* `Binary.ofFloat?` takes a finite double apart into a sign, a mantissa and a power of two, and
  `Binary.toFloat` puts one together.
* `remainder` is what is left of a double after division by another: it is computed on the
  mantissas, brought to one power of two, and therefore without rounding.
-/

namespace Logbook

/-- The number `± mantissa · 2 ^ exponent`. -/
structure Binary where
  negative : Bool
  mantissa : Nat
  exponent : Int
deriving DecidableEq, Repr

namespace Binary

/-- The leading bit of a mantissa, which the bits of a double leave out. -/
def leadingBit : Nat := 0x10000000000000

/-- The bit that stands for the sign. -/
def signBit : Nat := 0x8000000000000000

/-- The parts of a finite double. -/
def ofFloat? (x : Float) : Option Binary :=
  let bits := x.toBits.toNat
  let biased : Nat := bits / leadingBit % 0x800
  let fraction := bits % leadingBit
  if biased = 0x7ff then none
  else if biased = 0 then some ⟨signBit ≤ bits, fraction, -1074⟩
  else some ⟨signBit ≤ bits, leadingBit + fraction, (biased : Int) - 1075⟩

/-- The bits of the magnitude of a number that a double can hold: the lowest exponent has no leading
bit of its own, the others have. -/
def magnitudeBits (b : Binary) : Nat :=
  let top := Nat.log2 b.mantissa
  let biased : Int := top + b.exponent + 1023
  if b.mantissa = 0 then 0
  else if biased < 1 then b.mantissa <<< (b.exponent + 1074).toNat
  else biased.toNat * leadingBit + (b.mantissa <<< (52 - top) - leadingBit)

/-- The double with the value of a number that a double can hold. -/
def toFloat (b : Binary) : Float :=
  Float.ofBits (UInt64.ofNat ((if b.negative then signBit else 0) + b.magnitudeBits))

/-- What is left of `a` after division by `b`, with the sign of `a`; it is smaller than both, and a
multiple of the lower power of two, so a double can hold it. -/
def remainder (a b : Binary) : Binary :=
  let exponent := min a.exponent b.exponent
  let dividend := a.mantissa <<< (a.exponent - exponent).toNat
  let divisor := b.mantissa <<< (b.exponent - exponent).toNat
  ⟨a.negative, dividend % divisor, exponent⟩

end Binary

/-- What is left of `x` after division by `y`, with the sign of `x`. Division by an infinity leaves
`x`, and there is no remainder of an infinity or of a division by zero. -/
def remainder (x y : Float) : Float :=
  match Binary.ofFloat? x, Binary.ofFloat? y with
  | some a, some b => if b.mantissa = 0 then 0.0 / 0.0 else (a.remainder b).toFloat
  | some _, none => if y.isNaN then y else x
  | none, _ => 0.0 / 0.0

end Logbook
