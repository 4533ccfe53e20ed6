/-!
# Sets of characters as ranges of code points

A property of characters is kept as the list of the closed ranges of code points that have it.
-/

namespace Logbook

/-- Closed ranges of code points, each given by its first and last member. -/
abbrev CodeRanges := List (Nat × Nat)

/-- Whether one of the ranges holds the code point of the character. -/
def CodeRanges.holds (ranges : CodeRanges) (c : Char) : Bool :=
  ranges.any fun r => r.1 ≤ c.toNat && c.toNat ≤ r.2

end Logbook
