/-!
# Decimal digits

Natural numbers written in ASCII digits.

* `digits` writes a number without leading zeros, `padded` fills it up with zeros to a width.
* `value` reads a run of digits; `value_digits` and `value_padded` say that it undoes both.
* `read?` reads a text that has to be a number as a whole; `read?_digits` says that it undoes
  `digits`.
* `splitDigits` cuts off the longest run of digits at the front of a text.
-/

namespace Logbook.Digits

/-- The decimal digits of a number, without leading zeros. -/
def digits (n : Nat) : List Char :=
  Nat.toDigits 10 n

/-- The decimal digits of a number, filled up with leading zeros to at least `width` digits. -/
def padded (width n : Nat) : List Char :=
  List.leftpad width '0' (digits n)

/-- The number that a run of digits stands for; leading zeros do not matter. -/
def value (cs : List Char) : Nat :=
  Nat.ofDigitChars 10 cs 0

/-- The longest run of digits at the front of a text, and what follows it. -/
def splitDigits (cs : List Char) : List Char × List Char :=
  (cs.takeWhile Char.isDigit, cs.dropWhile Char.isDigit)

/-- The number that a text of digits alone stands for. -/
def read? (cs : List Char) : Option Nat :=
  if cs ≠ [] ∧ cs.all Char.isDigit then some (value cs) else none

/-- A number as a string of decimal digits. -/
def text (n : Nat) : String :=
  String.ofList (digits n)

theorem value_digits (n : Nat) : value (digits n) = n :=
  Nat.ofDigitChars_toDigits (by omega) (by omega)

theorem value_append (a b : List Char) :
    value (a ++ b) = Nat.ofDigitChars 10 b (value a) := by
  simp [value, Nat.ofDigitChars, List.foldl_append]

theorem value_replicate_zero (n : Nat) : value (List.replicate n '0') = 0 := by
  induction n with
  | zero => rfl
  | succ n ih =>
    rw [List.replicate_succ', value_append, ih]
    rfl

theorem value_padded (width n : Nat) : value (padded width n) = n := by
  rw [padded, List.leftpad, value_append, value_replicate_zero]
  exact value_digits n

theorem isDigit_of_mem_digits {n : Nat} {c : Char} (h : c ∈ digits n) : c.isDigit = true :=
  Nat.isDigit_of_mem_toDigits (by omega) (by omega) h

theorem isDigit_of_mem_padded {width n : Nat} {c : Char} (h : c ∈ padded width n) :
    c.isDigit = true := by
  rcases List.mem_append.1 h with h | h
  · rw [(List.mem_replicate.1 h).2]
    rfl
  · exact isDigit_of_mem_digits h

theorem digits_ne_nil (n : Nat) : digits n ≠ [] :=
  Nat.toDigits_ne_nil

@[simp] theorem read?_digits (n : Nat) : read? (digits n) = some n := by
  rw [read?, if_pos, value_digits]
  exact ⟨digits_ne_nil n, by simpa using fun c hc => isDigit_of_mem_digits hc⟩

theorem length_padded {width n : Nat} (hw : 0 < width) (h : n < Nat.pow 10 width) :
    (padded width n).length = width := by
  have : (digits n).length ≤ width := (Nat.length_toDigits_le_iff (by omega) hw).2 h
  rw [padded, List.length_leftpad, Nat.max_eq_left this]

/-- Nothing is lost when the front digits are cut off. -/
theorem splitDigits_append (cs : List Char) : (splitDigits cs).1 ++ (splitDigits cs).2 = cs :=
  List.takeWhile_append_dropWhile

theorem splitDigits_of_digits {run rest : List Char} (hrun : ∀ c ∈ run, c.isDigit = true)
    (hrest : ∀ c, rest.head? = some c → c.isDigit = false) :
    splitDigits (run ++ rest) = (run, rest) := by
  induction run with
  | nil =>
    cases rest with
    | nil => rfl
    | cons c rest =>
      have := hrest c rfl
      simp [splitDigits, this]
  | cons d run ih =>
    have hd := hrun d (by simp)
    have := ih fun c hc => hrun c (by simp [hc])
    simp only [splitDigits, Prod.mk.injEq] at this ⊢
    simp [hd, this]

end Logbook.Digits
