import Logbook.Text.Digits
import Logbook.Text.Blank
import Logbook.Time.Instant

/-!
# The text of an instant

* `Instant.text` writes `2025-01-10T12:30:00.250Z`: seconds get 0, 3, 6 or 9 places, the fewest that
  are exact, and a year outside 0 to 9999 gets a sign.
* A leap second is written as second 60, `2016-12-31T23:59:60Z`.
* `Instant.inWords` is the form used in messages, `2025-01-10 12:30:00.250 UTC`.
* `Instant.read?` reads a date, a time and an offset; blanks may stand around the numbers, and the
  offset may be `Z`, `UTC`, or a signed number of hours and minutes.

Model of the text of `Timestamp` of `tr-types`, as `chrono` reads and writes it.
-/

namespace Logbook

open Digits

/-! ## Writing -/

/-- A year of four digits, or with a sign and at least four. -/
def yearChars (year : Int) : List Char :=
  if 0 ≤ year ∧ year ≤ 9999 then padded 4 year.toNat
  else (if year < 0 then '-' else '+') :: padded 4 year.natAbs

/-- A date as year, month and day. -/
def Date.chars (d : Date) : List Char :=
  yearChars d.year ++ '-' :: padded 2 d.month ++ '-' :: padded 2 d.day

/-- The places after the point: none, 3, 6 or 9, the fewest that are exact. -/
def subsecondChars (nanos : Nat) : List Char :=
  if nanos = 0 then []
  else if nanos % 1000000 = 0 then '.' :: padded 3 (nanos / 1000000)
  else if nanos % 1000 = 0 then '.' :: padded 6 (nanos / 1000)
  else '.' :: padded 9 nanos

namespace LocalTime

/-- Hours, minutes and seconds. -/
def clockChars (l : LocalTime) : List Char :=
  padded 2 l.hour ++ ':' :: padded 2 l.minute ++ ':' :: padded 2 l.second

/-- Date and time of day with `separator` between them. -/
def chars (l : LocalTime) (separator : Char) : List Char :=
  l.date.chars ++ separator :: l.clockChars ++ subsecondChars l.subsecond

end LocalTime

namespace Instant

/-- The instant in UTC, with `T` before the time and `Z` after it. -/
def chars (t : Instant) : List Char :=
  t.utc.chars 'T' ++ ['Z']

/-- The text of an instant in documents. -/
def text (t : Instant) : String :=
  String.ofList t.chars

/-- The text of an instant in messages. -/
def inWords (t : Instant) : String :=
  String.ofList (t.utc.chars ' ') ++ " UTC"

/-! ## Reading -/

/-- Reads a number of one to `width` digits. -/
def number? (width : Nat) (cs : List Char) : Option (Nat × List Char) :=
  match (cs.takeWhile Char.isDigit).take width with
  | [] => none
  | run => some (value run, cs.drop run.length)

/-- Reads the character `c`. -/
def skip? (c : Char) : List Char → Option (List Char)
  | [] => none
  | d :: rest => if d = c then some rest else none

/-- Reads a year: up to four digits, or a sign and any number of digits. -/
def year? : List Char → Option (Int × List Char)
  | '-' :: rest => (number? rest.length rest).map fun (y, rest) => (-y, rest)
  | '+' :: rest => (number? rest.length rest).map fun (y, rest) => (y, rest)
  | cs => (number? 4 cs).map fun (y, rest) => (y, rest)

/-- Reads year, month and day. -/
def date? (cs : List Char) : Option (Date × List Char) := do
  let (year, cs) ← year? (trimStart cs)
  let cs ← skip? '-' (trimStart cs)
  let (month, cs) ← number? 2 (trimStart cs)
  let cs ← skip? '-' (trimStart cs)
  let (day, cs) ← number? 2 (trimStart cs)
  some (⟨year, month, day⟩, cs)

/-- Reads the fraction of a second in nanoseconds; places after the ninth do not count. -/
def subsecond? : List Char → Option (Nat × List Char)
  | '.' :: rest =>
    let (run, after) := splitDigits rest
    if run.isEmpty then none
    else some (value (List.rightpad 9 '0' (run.take 9)), after)
  | cs => some (0, cs)

/-- Reads hours, minutes, seconds and a fraction: the time that a clock shows on the date. -/
def clock? (date : Date) (cs : List Char) : Option (LocalTime × List Char) := do
  let (hour, cs) ← number? 2 (trimStart cs)
  let cs ← skip? ':' (trimStart cs)
  let (minute, cs) ← number? 2 (trimStart cs)
  let cs ← skip? ':' (trimStart cs)
  let (second, cs) ← number? 2 (trimStart cs)
  let (nanos, cs) ← subsecond? cs
  let wall ← LocalTime.ofClock? date hour minute second nanos
  some (wall, cs)

/-- Reads two digits. -/
def twoDigits? : List Char → Option (Nat × List Char)
  | a :: b :: rest => if a.isDigit ∧ b.isDigit then some (value [a, b], rest) else none
  | _ => none

/-- Reads an offset from UTC in seconds; colons and blanks may part its hours and minutes. -/
def offset? (cs : List Char) : Option (Int × List Char) :=
  if (cs.take 3).map Char.toUpper = ['U', 'T', 'C'] then some (0, cs.drop 3)
  else
    match cs with
    | [] => none
    | sign :: rest =>
      if sign = 'Z' ∨ sign = 'z' then some (0, rest)
      else if sign ≠ '+' ∧ sign ≠ '-' ∧ sign ≠ '\u2212' then none
      else do
        let (hours, rest) ← twoDigits? rest
        let (minutes, rest) ← twoDigits? (rest.dropWhile fun c => c = ':' ∨ isBlank c)
        if minutes < 60 ∧ hours < 24 then
          let seconds : Int := hours * 3600 + minutes * 60
          some (if sign = '+' then seconds else -seconds, rest)
        else none

/-- The years that the calendar covers. -/
def YearInRange (year : Int) : Prop :=
  -262143 ≤ year ∧ year ≤ 262142

instance (year : Int) : Decidable (YearInRange year) :=
  inferInstanceAs (Decidable (_ ∧ _))

/-- Reads an instant; `none` unless the whole text is one that the calendar covers. -/
def read? (s : String) : Option Instant := do
  let (date, cs) ← date? s.toList
  let cs ← match cs with
    | 'T' :: rest | 't' :: rest | ' ' :: rest => some rest
    | _ => none
  let (wall, cs) ← clock? date cs
  let (offset, cs) ← offset? (trimStart cs)
  if date.Valid ∧ YearInRange date.year ∧ trimStart cs = [] then
    ofUtc? (wall.ahead (-offset))
  else none

end Instant

end Logbook
