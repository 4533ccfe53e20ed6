import Logbook.Series.Reading
import Logbook.Time.Period

/-!
# Series

A series is the readings of a stretch of time, in order of time.

* `Series.ofReadings` accepts readings that are in order, `Series.ofUnsorted` sorts them first.
* The type of a series keeps its bounds the right way round and its readings in order, so nothing
  that works on a series has to check either.

Model of `Series` with `new` and `from_unsorted`, and of `SeriesError`, of `tr-series`.
-/

namespace Logbook

/-- The readings from `start` to `stop`, in order of time. -/
structure Series (β : Type) where
  start : Instant
  stop : Instant
  readings : Array (Reading β)
  start_le : start ≤ stop
  inOrder : Reading.InOrder readings.toList

/-- Why a series cannot be built or cut. -/
inductive SeriesError where
  /-- The reading at the position is earlier than the one before it. -/
  | unsorted (position : Nat)
  /-- The series would start after it stops. -/
  | invertedBounds (start stop : Instant)
  /-- A series cannot be cut into no parts. -/
  | zeroSegments
  /-- The period cannot be added to the start of a part. -/
  | period (cause : PeriodError)
  /-- A cut into equal parts, counted from `start`, is outside the calendar. -/
  | cutOutOfRange (start : Instant)
deriving DecidableEq

/-- The error in words. -/
def SeriesError.message : SeriesError → String
  | unsorted position =>
    "points must be sorted by instant; position " ++ Digits.text position ++ " goes back in time"
  | invertedBounds start stop =>
    "series bounds are inverted: from=" ++ start.inWords ++ " is after to=" ++ stop.inWords
  | zeroSegments => "cannot split a series into zero segments"
  | period cause => cause.message
  | cutOutOfRange start => "cut out of range from " ++ start.inWords

namespace Series

variable {β : Type}

/-- The series of readings that are in order already. -/
def ofReadings (start stop : Instant) (readings : List (Reading β)) :
    Except SeriesError (Series β) :=
  if start_le : start ≤ stop then
    match h : Reading.firstInversion? readings with
    | some position => .error (.unsorted position)
    | none => .ok ⟨start, stop, readings.toArray, start_le, Reading.firstInversion?_eq_none_iff.1 h⟩
  else .error (.invertedBounds start stop)

/-- The series of readings in any order; readings of one instant keep their order. -/
def ofUnsorted (start stop : Instant) (readings : List (Reading β)) :
    Except SeriesError (Series β) :=
  ofReadings start stop (Reading.sortByInstant readings)

end Series

end Logbook
