import Logbook.Text.Digits

/-!
# Positions at the end of messages

A message about a document ends with the place of the fault, as in `... at line 2 column 7`.

* `withoutPosition` takes the place away, and nothing else, even if what is left ends with a place of
  its own.

Model of how `serde_json` takes the place of a fault out of the end of a message.
-/

namespace Logbook

open Digits

/-- What follows after a label and a number of 64 bits. -/
def skipCounted? (label cs : List Char) : Option (List Char) :=
  if cs.take label.length = label then
    let (run, rest) := splitDigits (cs.drop label.length)
    if run.isEmpty ∨ 18446744073709551616 ≤ value run then none else some rest
  else none

/-- The words before the number of a line. -/
def lineLabel : List Char := [' ', 'a', 't', ' ', 'l', 'i', 'n', 'e', ' ']

/-- The words before the number of a column. -/
def columnLabel : List Char := [' ', 'c', 'o', 'l', 'u', 'm', 'n', ' ']

/-- Whether a text is a place and nothing else. -/
def isPosition (cs : List Char) : Bool :=
  (skipCounted? lineLabel cs).bind (skipCounted? columnLabel) == some []

/-- The text without the place at its end, if there is one. -/
def withoutPosition : List Char → List Char
  | [] => []
  | c :: rest => if isPosition (c :: rest) then [] else c :: withoutPosition rest

end Logbook
