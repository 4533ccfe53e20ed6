import Logbook.Report.Reference
import Logbook.Source.Archive

/-!
# Tabulating references

A `Tabulator` turns references into one value for each row of a report.

* `Tabulator.numeric` gives numbers: calendar fields of the starts of the rows, and aggregates of
  the readings of each row.
* `Tabulator.text` gives text: labels of the rows, and the most frequent category of each row.

Model of `Reducer` with `new`, `numeric`, `text`, `query` and `row_segments`, of `mismatch` and of
`ReduceError` of `tr-reduce`.
-/

namespace Logbook

/-! ## Errors -/

/-- Why a name has no values. -/
inductive LookupError where
  | unknownField (name : String)
  /-- The aggregate is one of the other kind of histories. -/
  | notApplicable (tag field : String) (kind : ValueKind)
  | notNumeric (name : String)
  | notText (name : String)
  /-- The query of the source failed. -/
  | source (tag reason : String)
  | period (cause : PeriodError)
  | series (cause : SeriesError)
deriving DecidableEq

/-- The error in words. -/
def LookupError.message : LookupError → String
  | unknownField name => "unknown field: " ++ name
  | notApplicable tag field kind =>
    "aggregate " ++ field ++ " does not apply to " ++ kind.name ++ " series " ++ tag
  | notNumeric name => name ++ " produces text, not numbers"
  | notText name => name ++ " produces numbers, not text"
  | source tag reason => "source query for tag " ++ tag ++ " failed: " ++ reason
  | period cause => cause.message
  | series cause => cause.message

/-! ## Tabulators -/

/-- A source and the rows for which values are wanted. -/
structure Tabulator where
  source : Source
  rows : RowPlan
  zone : Zone
  buckets : List Bucket

namespace Tabulator

/-- The tabulator for the rows of a plan. -/
def ofPlan (source : Source) (rows : RowPlan) (zone : Zone) : Except LookupError Tabulator :=
  match rows.buckets zone with
  | .ok buckets => .ok ⟨source, rows, zone, buckets⟩
  | .error e => .error (.period e)

/-- The number of rows. -/
def rowCount (t : Tabulator) : Nat :=
  t.buckets.length

/-- Where the rows start. -/
def starts (t : Tabulator) : List Instant :=
  t.buckets.map (·.start)

/-- The history of a tag, as the source gives it for the time of all rows. -/
def history (t : Tabulator) (tag : String) : Except LookupError (Option History) :=
  match t.source.query tag t.rows.start t.rows.stop with
  | .ok h => .ok h
  | .error reason => .error (.source tag reason)

/-- The windows of a series, one for each row. -/
def windows {β : Type} (t : Tabulator) (s : Series β) : List (Segment β) :=
  t.buckets.map fun b => s.window b.start b.stop

/-- The segments of a series, one for each row. A series with the bounds of the rows is cut at every
period; any other is looked at through one window for each row. -/
def segments {β : Type} (t : Tabulator) (s : Series β) : Except LookupError (List (Segment β)) :=
  if s.start = t.rows.start ∧ s.stop = t.rows.stop then
    match s.withinBounds.tile t.rows.period t.zone with
    | .error e => .error (.series e)
    | .ok tiles => if tiles.length = t.buckets.length then .ok tiles else .ok (t.windows s)
  else .ok (t.windows s)

/-- The error of a field that a history does not have. -/
def mismatch (name : String) (r : Reference) (kind : ValueKind) : LookupError :=
  if (NumericAggregate.ofName? r.field).isSome || (CategoryAggregate.ofName? r.field).isSome then
    .notApplicable r.tag r.field kind
  else .unknownField name

/-- An aggregate of each row of a series of numbers. -/
def aggregates (t : Tabulator) (a : NumericAggregate) (s : Series Float) :
    Except LookupError (List Float) :=
  (t.segments s).map fun segments => segments.map fun g => a.reduce (.segment g)

/-- An aggregate of each row of a series of categories. -/
def categoryAggregates (t : Tabulator) (a : CategoryAggregate) (s : Series String) :
    Except LookupError (List Float) :=
  (t.segments s).map fun segments => segments.map fun g => a.reduce (.segment g)

/-- The most frequent category of each row. -/
def modes (t : Tabulator) (s : Series String) : Except LookupError (List String) :=
  (t.segments s).map fun segments => segments.map fun g => (Window.segment g).mode

/-- The numbers of a field of a history. -/
def numericField (t : Tabulator) (name : String) (r : Reference) :
    Except LookupError (List Float) :=
  match t.history r.tag with
  | .error e => .error e
  | .ok none => .error (.unknownField name)
  | .ok (some (.numeric s)) =>
    match NumericAggregate.ofName? r.field with
    | some a => t.aggregates a s
    | none => .error (mismatch name r .numeric)
  | .ok (some (.categorical s)) =>
    match CategoryAggregate.ofName? r.field with
    | some a => if a.isText then .error (.notNumeric name) else t.categoryAggregates a s
    | none => .error (mismatch name r .categorical)

/-- The text of a field of a history. -/
def textField (t : Tabulator) (name : String) (r : Reference) : Except LookupError (List String) :=
  match t.history r.tag with
  | .error e => .error e
  | .ok none => .error (.unknownField name)
  | .ok (some (.categorical s)) =>
    match CategoryAggregate.ofName? r.field with
    | some a => if a.isText then t.modes s else .error (.notText name)
    | none => .error (mismatch name r .categorical)
  | .ok (some (.numeric _)) =>
    match NumericAggregate.ofName? r.field with
    | some _ => .error (.notText name)
    | none => .error (mismatch name r .numeric)

/-- The numbers of a name, one for each row. Fields of the calendar come before a history that has
the tag of time. -/
def numeric (t : Tabulator) (name : String) : Except LookupError (List Float) :=
  match Reference.ofName? name with
  | none => .error (.unknownField name)
  | some r =>
    if r.isTime then
      match CalendarField.ofName? r.field, RowLabel.ofName? r.field with
      | some f, _ => .ok (t.starts.map (f.value t.zone))
      | none, some _ => .error (.notNumeric name)
      | none, none => t.numericField name r
    else t.numericField name r

/-- The text of a name, one for each row. Labels of rows come before a history that has the tag of
time. -/
def text (t : Tabulator) (name : String) : Except LookupError (List String) :=
  match Reference.ofName? name with
  | none => .error (.unknownField name)
  | some r =>
    if r.isTime then
      match RowLabel.ofName? r.field, CalendarField.ofName? r.field with
      | some l, _ => .ok (t.starts.map (l.text t.zone))
      | none, some _ => .error (.notText name)
      | none, none => t.textField name r
    else t.textField name r

end Tabulator

end Logbook
