import Logbook.Series.Basic

/-!
# Histories

The history of a tag is a series of numbers or a series of categories.

* `History.slice` copies the readings of a stretch of time into a history with exactly those bounds.

Model of `TagSeries` with `kind`, `from`, `to`, `count` and `slice` of `tr-reduce`.
-/

namespace Logbook

/-- The history of a tag. -/
inductive History where
  | numeric (series : Series Float)
  | categorical (series : Series String)

/-- The readings from `start` up to, but not including, `stop`, as a series with these bounds. -/
def Series.slice {β : Type} (s : Series β) (start stop : Instant) : Except SeriesError (Series β) :=
  Series.ofReadings start stop
    (s.readings.toList.filter fun r => start ≤ r.instant && decide (r.instant < stop))

namespace History

/-- The kind of values of a history. -/
def kind : History → ValueKind
  | numeric _ => .numeric
  | categorical _ => .categorical

/-- Where the history starts. -/
def start : History → Instant
  | numeric s => s.start
  | categorical s => s.start

/-- Where the history stops. -/
def stop : History → Instant
  | numeric s => s.stop
  | categorical s => s.stop

/-- The number of readings. -/
def count : History → Nat
  | numeric s => s.readings.size
  | categorical s => s.readings.size

/-- The readings from `start` up to, but not including, `stop`, as a history with these bounds. -/
def slice (h : History) (start stop : Instant) : Except SeriesError History :=
  match h with
  | numeric s => (s.slice start stop).map numeric
  | categorical s => (s.slice start stop).map categorical

end History

end Logbook
