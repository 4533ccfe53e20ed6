import Logbook.Series.Segment

/-!
# Windows

A window is what readings are looked at through: a whole series with all its readings, also those
outside of its bounds, or a segment of one.

* `Window.readings` are the readings, and `Window.distinct` the different values among them.
* `Window.tile` and `Window.split` cut the time of a window into segments.

Model of `Window`, and of `segments` and `split` of `Series` and of `Segment`, of `tr-series`.
-/

namespace Logbook

/-- The members of a list without those that are equal to an earlier one. -/
def firstOccurrences {β : Type} [BEq β] (xs : List β) : List β :=
  xs.foldl (fun seen x => if seen.contains x then seen else seen ++ [x]) []

/-- A series or a segment. -/
inductive Window (β : Type) where
  | series (s : Series β)
  | segment (s : Segment β)

namespace Window

variable {β : Type}

/-- Where the window starts. -/
def start : Window β → Instant
  | series s => s.start
  | segment s => s.start

/-- Where the window stops. -/
def stop : Window β → Instant
  | series s => s.stop
  | segment s => s.stop

/-- The readings seen through the window. -/
def readings : Window β → List (Reading β)
  | series s => s.readings.toList
  | segment s => s.readings

/-- The number of readings. -/
def count (w : Window β) : Nat :=
  w.readings.length

/-- Whether there are no readings. -/
def isEmpty (w : Window β) : Bool :=
  w.readings.isEmpty

/-- The values of the readings. -/
def values (w : Window β) : List β :=
  w.readings.map (·.value)

/-- The different values of the readings, in the order in which they first occur. -/
def distinct [BEq β] (w : Window β) : List β :=
  firstOccurrences w.values

/-- The time of the window as a segment. -/
def extent : Window β → Segment β
  | series s => s.withinBounds
  | segment s => s

/-- The time of the window cut at every period. -/
def tile (w : Window β) (p : Period) (z : Zone) : Except SeriesError (List (Segment β)) :=
  w.extent.tile p z

/-- The time of the window cut into `n` parts of the same length. -/
def split (w : Window β) (n : Nat) : Except SeriesError (List (Segment β)) :=
  w.extent.split n

end Window

end Logbook
