/-!
# Arithmetic

The operations in which statistics, quantiles and filters are computed. The program runs on doubles
(the instance below); an exact reading of the same computations takes another type with the same
operations, so the class asks for no laws.
-/

namespace Logbook

/-- Numbers with a value that is no number, two infinities, comparisons that such a value fails, and
the functions that statistics and filters need. -/
class Arithmetic (α : Type) extends Add α, Sub α, Mul α, Div α where
  /-- The number `n`, rounded if it has to be. -/
  ofNat : Nat → α
  /-- The zero that leaves every summand as it is, a negative zero included. -/
  emptySum : α
  nan : α
  infinity : α
  negInfinity : α
  isNaN : α → Bool
  isFinite : α → Bool
  lt : α → α → Bool
  le : α → α → Bool
  eq : α → α → Bool
  sqrt : α → α
  ln : α → α
  sin : α → α
  cos : α → α

instance : Arithmetic Float where
  ofNat := Float.ofNat
  emptySum := -0.0
  nan := 0.0 / 0.0
  infinity := 1.0 / 0.0
  negInfinity := -1.0 / 0.0
  isNaN := Float.isNaN
  isFinite := Float.isFinite
  lt a b := a < b
  le a b := a ≤ b
  eq a b := a == b
  sqrt := Float.sqrt
  ln := Float.log
  sin := Float.sin
  cos := Float.cos

namespace Arithmetic

variable {α : Type} [Arithmetic α]

/-- The sum of a list, from left to right. -/
def sum (xs : List α) : α :=
  xs.foldl (· + ·) emptySum

/-- The smaller of two numbers. -/
def least (a b : α) : α := if lt b a then b else a

/-- The greater of two numbers. -/
def greatest (a b : α) : α := if lt a b then b else a

end Arithmetic

end Logbook
