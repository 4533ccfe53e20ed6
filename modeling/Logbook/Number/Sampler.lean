/-!
# Random numbers

A sampler draws numbers from 0 up to, but not including, 1. It steps through the 64-bit words by a
constant distance and scrambles each word it meets, so equal seeds draw equal numbers.

Stands for the generator that `variable` of `Calculator` of `tr-expr` draws from.
-/

namespace Logbook

/-- The word at which the sampler stands. -/
structure Sampler where
  state : UInt64
deriving DecidableEq, Repr

namespace Sampler

/-- The distance between two words: an odd number, so all words are met before one returns. -/
def stride : UInt64 := 0x9e3779b97f4a7c15

/-- Scrambles a word by two rounds of shifts and multiplications. -/
def scramble (w : UInt64) : UInt64 :=
  let w := (w ^^^ (w >>> 30)) * 0xbf58476d1ce4e5b9
  let w := (w ^^^ (w >>> 27)) * 0x94d049bb133111eb
  w ^^^ (w >>> 31)

/-- The next number and the sampler after it; the number has the upper 53 bits of a scrambled word
as its binary places. -/
def next (s : Sampler) : Float × Sampler :=
  let state := s.state + stride
  (Float.ofNat (scramble state >>> 11).toNat / 9007199254740992.0, ⟨state⟩)

/-- The next `count` numbers. -/
def take : (count : Nat) → Sampler → List Float × Sampler
  | 0, s => ([], s)
  | count + 1, s =>
    let (x, s) := s.next
    let (rest, s) := take count s
    (x :: rest, s)

@[simp] theorem length_take (count : Nat) (s : Sampler) : (take count s).1.length = count := by
  induction count generalizing s with
  | zero => rfl
  | succ count ih => simp [take, ih]

end Sampler

end Logbook
