import Logbook.Number.Decimal

/-!
# Numbers in parameters

The parameters of filters are written as numbers, and a whole text has to be the number.

* `readWord?` reads a natural number below `2 ^ 64`.
* `readFloat?` reads a double: digits with a point anywhere among them, perhaps an exponent, or the
  name of an infinity or of what is no number.

Model of the numbers that `count_arg` and `from_str` of `Filter` of `tr-filter` read.
-/

namespace Logbook

/-- A text without its sign, and whether that is a minus. -/
def splitSign : List Char → Bool × List Char
  | '-' :: cs => (true, cs)
  | '+' :: cs => (false, cs)
  | cs => (false, cs)

/-- Reads a natural number below `2 ^ 64`: digits, perhaps after a plus. -/
def readWord? (cs : List Char) : Option UInt64 :=
  let run := match cs with
    | '+' :: cs => cs
    | cs => cs
  match Digits.read? run with
  | some n => if n < UInt64.size then some (UInt64.ofNat n) else none
  | none => none

/-- Reads a decimal without a sign: digits with a point before, among or after them, and perhaps an
exponent. -/
def readDecimal? (negative : Bool) (cs : List Char) : Option Decimal :=
  let (whole, rest) := Digits.splitDigits cs
  let (fraction, rest) := match rest with
    | '.' :: rest => Digits.splitDigits rest
    | rest => ([], rest)
  if whole = [] ∧ fraction = [] then none
  else
    match Decimal.exponent? rest with
    | some (exponent, []) => some (Decimal.ofParts negative whole fraction exponent)
    | _ => none

/-- Reads a double. Case does not matter in the names of infinity and of what is no number. -/
def readFloat? (cs : List Char) : Option Float :=
  let (negative, magnitude) := splitSign cs
  let name := String.ofList (magnitude.map Char.toLower)
  if name = "inf" ∨ name = "infinity" then some (if negative then -1.0 / 0.0 else 1.0 / 0.0)
  else if name = "nan" then some (0.0 / 0.0)
  else (readDecimal? negative magnitude).map Decimal.toFloat

end Logbook
