import Logbook.Text.Ranges

/-!
# Blank characters

The Unicode property White_Space, and the trimming of blank characters from a text.

`trim` drops the blanks at both ends and nothing else.
-/

namespace Logbook

/-- The code points with the property White_Space. -/
def blankRanges : CodeRanges := [
  (0x9, 0xd), (0x20, 0x20), (0x85, 0x85), (0xa0, 0xa0), (0x1680, 0x1680), (0x2000, 0x200a),
  (0x2028, 0x2029), (0x202f, 0x202f), (0x205f, 0x205f), (0x3000, 0x3000)]

/-- Whether a character is blank, that is, has the property White_Space. -/
def isBlank (c : Char) : Bool :=
  blankRanges.holds c

/-- The text without the blanks at its start. -/
def trimStart (cs : List Char) : List Char :=
  cs.dropWhile isBlank

/-- The text without the blanks at its start and its end. -/
def trim (cs : List Char) : List Char :=
  (trimStart (trimStart cs).reverse).reverse

end Logbook
