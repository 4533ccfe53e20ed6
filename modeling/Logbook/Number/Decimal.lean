import Logbook.Text.Digits

/-!
# Decimals

A `Decimal` is a number as it is written: a sign, digits with a point among them, and perhaps an
exponent.

* `Decimal.chars` writes it, and `Decimal.toFloat` is the double next to its value.
* `Decimal.split?` cuts digits and a fraction off a text, `Decimal.exponent?` an exponent; the
  notations for numbers (documents, filters, formulas) differ only in which of these they allow.
-/

namespace Logbook

open Digits

/-- The number `± digits · 10 ^ (exponent - places)`, written with `places` digits after a point. -/
structure Decimal where
  negative : Bool
  digits : Nat
  places : Nat
  exponent : Option Int
deriving DecidableEq, Repr

namespace Decimal

/-! ## Writing -/

/-- The exponent with its mark. -/
def exponentChars : Option Int → List Char
  | none => []
  | some e => 'e' :: (if e < 0 then ['-'] else []) ++ Digits.digits e.natAbs

/-- The point and the digits after it; nothing if there are none. -/
def fractionChars (places digits : Nat) : List Char :=
  if places = 0 then [] else '.' :: padded places (digits % Nat.pow 10 places)

/-- The number as it is written. -/
def chars (d : Decimal) : List Char :=
  (if d.negative then ['-'] else []) ++ Digits.digits (d.digits / Nat.pow 10 d.places) ++
    fractionChars d.places d.digits ++ exponentChars d.exponent

/-- The number as a string. -/
def text (d : Decimal) : String :=
  String.ofList d.chars

/-! ## Values -/

/-- The double next to `digits · 10 ^ exponent`, a tie going to the even one. -/
def nearest (digits : Nat) (exponent : Int) : Float :=
  Float.ofScientific digits (exponent < 0) exponent.natAbs

/-- The double next to the number. -/
def toFloat (d : Decimal) : Float :=
  let x := nearest d.digits (d.exponent.getD 0 - d.places)
  if d.negative then -x else x

/-- The integer that is written without point and exponent; `-0` is not one. -/
def toInt? (d : Decimal) : Option Int :=
  if d.places = 0 ∧ d.exponent = none then
    if d.negative then (if d.digits = 0 then none else some (-d.digits)) else some d.digits
  else none

/-! ## Reading -/

/-- The number with the given digits before and after the point. -/
def ofParts (negative : Bool) (whole fraction : List Char) (exponent : Option Int) : Decimal :=
  ⟨negative, value (whole ++ fraction), fraction.length, exponent⟩

/-- Reads an exponent: a mark, perhaps a sign, and digits. Without a mark there is none, and a mark
without digits is a fault. -/
def exponent? : List Char → Option (Option Int × List Char)
  | c :: rest =>
    if c = 'e' ∨ c = 'E' then
      let (negative, rest) := match rest with
        | '-' :: rest => (true, rest)
        | '+' :: rest => (false, rest)
        | rest => (false, rest)
      let (run, rest) := splitDigits rest
      if run.isEmpty then none
      else some (some (if negative then -(value run : Int) else value run), rest)
    else some (none, c :: rest)
  | [] => some (none, [])

end Decimal

end Logbook
