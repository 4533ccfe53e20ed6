import Logbook.Series.FrequencyTable
import Logbook.Series.NumericSummary
import Logbook.Series.Sketch
import Logbook.Series.Window
import Logbook.Text.Lowered

/-!
# Aggregates

An aggregate condenses the readings of a window into one value: a `NumericAggregate` the readings of
numbers, a `CategoryAggregate` those of categories.

* `ofName?` finds an aggregate by one of its names, in small or capital letters.
* `NumericAggregate.reduce` and `CategoryAggregate.reduce` give a number; the most frequent category
  is the only aggregate that is text, and `FrequencyTable.modeText` gives that.

Model of `NumericAggregate` and `CategoricalAggregate` with `reduce`, `mode` and `from_str` of
`tr-reduce`.
-/

namespace Logbook

open Arithmetic

/-! ## Aggregates of numbers -/

/-- The values that readings of numbers can be condensed into. -/
inductive NumericAggregate where
  | count | sum | mean | deviation | variance | first | last | least | greatest | range
  | median | p25 | p75 | p90 | p95 | p99
deriving DecidableEq, Repr

namespace NumericAggregate

/-- All aggregates of numbers. -/
def all : List NumericAggregate :=
  [count, sum, mean, deviation, variance, first, last, least, greatest, range,
    median, p25, p75, p90, p95, p99]

/-- The name under which an aggregate is shown. -/
def name : NumericAggregate → String
  | count => "count"
  | sum => "sum"
  | mean => "mean"
  | deviation => "sd"
  | variance => "variance"
  | first => "first"
  | last => "last"
  | least => "min"
  | greatest => "max"
  | range => "range"
  | median => "median"
  | p25 => "p25"
  | p75 => "p75"
  | p90 => "p90"
  | p95 => "p95"
  | p99 => "p99"

/-- Further names of an aggregate. -/
def aliases : NumericAggregate → List String
  | mean => ["average", "avg"]
  | deviation => ["stddev"]
  | variance => ["var"]
  | median => ["p50"]
  | _ => []

/-- The aggregate of a name, in small or capital letters. -/
def ofName? (name : String) : Option NumericAggregate :=
  all.find? fun a => (a.name :: a.aliases).contains (lowered name)

/-- The share of the readings below the value, in percent, if the aggregate is a quantile. -/
def percent? : NumericAggregate → Option Nat
  | median => some 50
  | p25 => some 25
  | p75 => some 75
  | p90 => some 90
  | p95 => some 95
  | p99 => some 99
  | _ => none

variable {α : Type} [Arithmetic α]

/-- The value of a reading; no number if there is no reading. -/
def valueOf (r : Option (Reading α)) : α :=
  (r.map (·.value)).getD nan

/-- The aggregate of a list of readings. No readings have the count and the sum 0, and otherwise no
number. -/
def ofReadings (a : NumericAggregate) (readings : List (Reading α)) : α :=
  match a.percent? with
  | some percent =>
    (Sketch.ofValues (readings.map (·.value))).quantile
      (Arithmetic.ofNat percent / Arithmetic.ofNat 100)
  | none =>
    let s := NumericSummary.ofReadings readings
    match a with
    | count => Arithmetic.ofNat s.count
    | sum => s.sum
    | mean => s.mean
    | deviation => s.deviation
    | variance => s.variance
    | first => valueOf s.first
    | last => valueOf s.last
    | least => valueOf s.min
    | greatest => valueOf s.max
    | range => s.range
    | _ => nan

/-- The aggregate of the readings of a window. -/
def reduce (a : NumericAggregate) (w : Window α) : α :=
  a.ofReadings w.readings

end NumericAggregate

/-! ## Aggregates of categories -/

/-- The values that readings of categories can be condensed into. -/
inductive CategoryAggregate where
  | count | distinct | entropy
  /-- The most frequent category. -/
  | mode
deriving DecidableEq, Repr

namespace CategoryAggregate

/-- All aggregates of categories. -/
def all : List CategoryAggregate :=
  [count, distinct, entropy, mode]

/-- The name of an aggregate. -/
def name : CategoryAggregate → String
  | count => "count"
  | distinct => "distinct"
  | entropy => "entropy"
  | mode => "mode"

/-- The aggregate of a name, in small or capital letters. -/
def ofName? (name : String) : Option CategoryAggregate :=
  all.find? fun a => a.name == lowered name

/-- Whether the aggregate is text. -/
def isText (a : CategoryAggregate) : Bool :=
  a == mode

/-- The aggregate of a frequency table, as a number; the most frequent category is none. -/
def ofTable {α : Type} [Arithmetic α] (a : CategoryAggregate) (t : FrequencyTable) : α :=
  match a with
  | count => Arithmetic.ofNat t.count
  | distinct => Arithmetic.ofNat t.entries.size
  | entropy => t.entropy
  | mode => nan

/-- The aggregate of the readings of a window, as a number. -/
def reduce {α : Type} [Arithmetic α] (a : CategoryAggregate) (w : Window String) : α :=
  a.ofTable (FrequencyTable.ofValues w.values)

end CategoryAggregate

/-- The most frequent category of a table; the empty text if there is none. -/
def FrequencyTable.modeText (t : FrequencyTable) : String :=
  t.mode?.getD ""

/-- The most frequent category of a window; the empty text if there are no readings. -/
def Window.mode (w : Window String) : String :=
  (FrequencyTable.ofValues w.values).modeText

end Logbook
