import Logbook.Text.Lowered
import Logbook.Time.InstantText
import Logbook.Time.Zone

/-!
# Calendar fields and labels of rows

A row of a report starts at an instant. `CalendarField.value` is a number that the clock of the
report's zone shows then, and `RowLabel.text` writes the date and time it shows.

Model of `CalendarField` with `value` and `CompositeFormat` with `render` of `tr-reduce`.
-/

namespace Logbook

/-! ## Fields -/

/-- The numbers that a calendar and a clock show. -/
inductive CalendarField where
  | hour | minute
  /-- Monday is 1 and Sunday 7. -/
  | dayOfWeek
  | dayOfMonth | dayOfYear
  /-- The number of the week whose Thursday lies in the year. -/
  | week
  | month | quarter | year
deriving DecidableEq, Repr

namespace CalendarField

/-- All fields. -/
def all : List CalendarField :=
  [hour, minute, dayOfWeek, dayOfMonth, dayOfYear, week, month, quarter, year]

/-- The names of a field. -/
def names : CalendarField → List String
  | hour => ["hour"]
  | minute => ["minute"]
  | dayOfWeek => ["dayofweek", "weekday"]
  | dayOfMonth => ["day", "dayofmonth"]
  | dayOfYear => ["dayofyear"]
  | week => ["week"]
  | month => ["month"]
  | quarter => ["quarter"]
  | year => ["year"]

/-- The field of a name, in small or capital letters. -/
def ofName? (name : String) : Option CalendarField :=
  all.find? fun f => f.names.contains (lowered name)

/-- What the field shows at a wall time. -/
def number (f : CalendarField) (l : LocalTime) : Int :=
  match f with
  | hour => l.hour
  | minute => l.minute
  | dayOfWeek => l.date.weekday
  | dayOfMonth => l.date.day
  | dayOfYear => l.date.dayOfYear
  | week => l.date.isoWeek
  | month => l.date.month
  | quarter => l.date.quarter
  | year => l.date.year

/-- What the field shows at an instant on the clock of a zone. -/
def value (f : CalendarField) (z : Zone) (t : Instant) : Float :=
  Float.ofInt (f.number (z.wallTime t))

end CalendarField

/-! ## Labels -/

/-- The ways to write the start of a row. -/
inductive RowLabel where
  /-- Year, month and day. -/
  | ymd
  /-- Year and month. -/
  | ym
  /-- The date and the hour. -/
  | ymdh
  /-- The date, the time and the offset of the zone. -/
  | iso
deriving DecidableEq, Repr

namespace RowLabel

/-- All ways. -/
def all : List RowLabel := [ymd, ym, ymdh, iso]

/-- The name of a way. -/
def name : RowLabel → String
  | ymd => "ymd"
  | ym => "ym"
  | ymdh => "ymdh"
  | iso => "iso"

/-- The way of a name, in small or capital letters. -/
def ofName? (name : String) : Option RowLabel :=
  all.find? fun l => l.name == lowered name

/-- An offset in seconds as hours and minutes, to the nearest minute; the sign is that of the offset
before it is rounded. -/
def offsetChars (offset : Int) : List Char :=
  let minutes := (offset.natAbs + 30) / 60
  (if offset < 0 then '-' else '+') :: Digits.padded 2 (minutes / 60) ++
    ':' :: Digits.padded 2 (minutes % 60)

/-- The label of a wall time at an offset from UTC. -/
def chars (label : RowLabel) (l : LocalTime) (offset : Int) : List Char :=
  match label with
  | ymd => l.date.chars
  | ym => yearChars l.date.year ++ '-' :: Digits.padded 2 l.date.month
  | ymdh => l.date.chars ++ ' ' :: Digits.padded 2 l.hour ++ [':', '0', '0']
  | iso => l.date.chars ++ 'T' :: l.clockChars ++ offsetChars offset

/-- The label of an instant on the clock of a zone. -/
def text (label : RowLabel) (z : Zone) (t : Instant) : String :=
  String.ofList (label.chars (z.wallTime t) (z.offsetAt t.utc.seconds))

end RowLabel

end Logbook
