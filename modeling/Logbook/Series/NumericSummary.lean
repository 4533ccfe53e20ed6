import Logbook.Number.Arithmetic
import Logbook.Series.Reading

/-!
# Summaries of numbers

`NumericSummary` takes in readings one by one and keeps their count, sum, running mean and sum of
squared deviations, and the first, last, least and greatest reading.

* The mean moves by the deviation of the new value over the new count, and the sum of squares grows
  by the product of the deviations before and after that move, so one pass is enough.
* Of equal extremes the earliest is kept, because only a strictly smaller or greater value replaces
  one.

Model of `NumericSummary` with `observe`, `mean`, `variance`, `sd` and `range` of `tr-series`.
-/

namespace Logbook

open Arithmetic

/-- What is known of the readings taken in so far. -/
structure NumericSummary (α : Type) where
  count : Nat
  sum : α
  runningMean : α
  squares : α
  first : Option (Reading α)
  last : Option (Reading α)
  min : Option (Reading α)
  max : Option (Reading α)

namespace NumericSummary

variable {α : Type} [Arithmetic α]

/-- The summary of no readings. -/
def empty : NumericSummary α :=
  ⟨0, ofNat 0, ofNat 0, ofNat 0, none, none, none, none⟩

/-- The extreme after one more reading: `better` tells whether a new value replaces an old one. -/
def keep (better : α → α → Bool) (held : Option (Reading α)) (r : Reading α) :
    Option (Reading α) :=
  match held with
  | none => some r
  | some h => if better r.value h.value then some r else some h

/-- The summary after one more reading. -/
def observe (s : NumericSummary α) (r : Reading α) : NumericSummary α :=
  let count := s.count + 1
  let deviation := r.value - s.runningMean
  let mean := s.runningMean + deviation / ofNat count
  { count := count
    sum := s.sum + r.value
    runningMean := mean
    squares := s.squares + deviation * (r.value - mean)
    first := s.first.or (some r)
    last := some r
    min := keep lt s.min r
    max := keep (fun new old => lt old new) s.max r }

/-- The summary of a list of readings. -/
def ofReadings (readings : List (Reading α)) : NumericSummary α :=
  readings.foldl observe empty

/-- The mean; no number if there are no readings. -/
def mean (s : NumericSummary α) : α :=
  if s.count = 0 then nan else s.runningMean

/-- The sample variance; no number for fewer than two readings. -/
def variance (s : NumericSummary α) : α :=
  if 1 < s.count then s.squares / ofNat (s.count - 1) else nan

/-- The sample standard deviation. -/
def deviation (s : NumericSummary α) : α :=
  sqrt s.variance

/-- The greatest value less the least; no number if there are no readings. -/
def range (s : NumericSummary α) : α :=
  match s.min, s.max with
  | some least, some greatest => greatest.value - least.value
  | _, _ => nan

end NumericSummary

end Logbook
