import Logbook.Formula.Calculator
import Logbook.Report.Spec
import Logbook.Report.Tabulator

/-!
# Reports

A report has one line for each row and one column for each formula.

* `Report.build` computes the columns from left to right; a formula can use the names of columns
  before its own. A column whose formula is nothing but the name of text is text, all others are
  numbers.
* `Report.render` writes the lines with tabs between their cells.

Model of `build` of `ViewBuilder` with `compute_column`, `text_column` and `lookup`, of `View` with
`render_tsv`, of `ColumnValues` with `cell`, and of `ViewError` of `tr-view`.
-/

namespace Logbook

/-! ## Errors -/

/-- Why a report cannot be built. -/
inductive ReportError where
  /-- The rows cannot be laid out. -/
  | rows (cause : LookupError)
  | duplicateColumn (name : String)
  | formula (column : String) (cause : FormulaError)
  | lookup (column : String) (cause : LookupError)
  /-- A column of text has filters. -/
  | filtersOnText (column : String)
deriving DecidableEq

namespace ReportError

/-- The error in words. -/
def message : ReportError → String
  | rows cause => "invalid row definition: " ++ cause.message
  | duplicateColumn name => "duplicate column name: " ++ name
  | formula column cause => "column " ++ column ++ ": " ++ cause.message
  | lookup column cause => "column " ++ column ++ ": " ++ cause.message
  | filtersOnText column => "column " ++ column ++ " holds text and cannot take numeric filters"

/-- The column that the error belongs to. -/
def column? : ReportError → Option String
  | rows _ => none
  | duplicateColumn name => some name
  | formula column _ => some column
  | lookup column _ => some column
  | filtersOnText column => some column

end ReportError

/-! ## Columns -/

/-- The values of a column, one for each row. -/
inductive Column where
  | numbers (values : List Float)
  | texts (values : List String)

namespace Column

/-- The number of values. -/
def length : Column → Nat
  | numbers values => values.length
  | texts values => values.length

/-- The numbers of a column of numbers. -/
def numbers? : Column → Option (List Float)
  | numbers values => some values
  | texts _ => none

/-- The texts of a column of text. -/
def texts? : Column → Option (List String)
  | numbers _ => none
  | texts values => some values

/-- A character in a cell: a blank stands for a tab or the end of a line. -/
def cellChar (c : Char) : Char :=
  if c = '\t' ∨ c = '\n' ∨ c = '\r' then ' ' else c

/-- A number in a cell; the cell is empty if it is no number. -/
def numberCell (x : Float) : String :=
  if x.isNaN then "" else FloatStyle.plain.text x

/-- A text in a cell. -/
def textCell (s : String) : String :=
  String.ofList (s.toList.map cellChar)

/-- The cell of a row; it is empty beyond the last row. -/
def cell (c : Column) (row : Nat) : String :=
  match c with
  | numbers values => ((values[row]?).map numberCell).getD ""
  | texts values => ((values[row]?).map textCell).getD ""

end Column

/-- The columns that have been computed, with their names. -/
abbrev Columns := List (String × Column)

/-- The column of a name. -/
def Columns.find? (columns : Columns) (name : String) : Option Column :=
  (List.find? (fun c => c.1 == name) columns).map (·.2)

/-! ## Building a report -/

namespace Report

/-- The name that a formula is made of, if it is nothing else. -/
def soleName? (formula : String) : Option String :=
  match tokens formula with
  | [⟨.identifier name, _⟩] => some name
  | _ => none

/-- The text of a name: of an earlier column, of the labels of the rows, or of a history. There is
none if the name stands for numbers. -/
def textOf? (t : Tabulator) (computed : Columns) (name : String) :
    Except LookupError (Option (List String)) :=
  match computed.find? name with
  | some (.texts values) => .ok (some values)
  | some (.numbers _) => .ok none
  | none =>
    if (Reference.ofName? name).any Reference.isText then (t.text name).map some else .ok none

/-- The numbers of a name in a formula: of an earlier column, or of what the name refers to. -/
def numbersOf (t : Tabulator) (computed : Columns) : Lookup Id := fun name =>
  match computed.find? name with
  | some (.numbers values) => .ok (some values)
  | some (.texts _) => .error ("column " ++ name ++ " holds text")
  | none =>
    match t.numeric name with
    | .ok values => .ok (some values)
    | .error (.unknownField _) => .ok none
    | .error e => .error e.message

/-- The text of a column whose formula is nothing but the name of text. -/
def textColumn? (t : Tabulator) (computed : Columns) (c : ColumnSpec) :
    Except ReportError (Option (List String)) :=
  match soleName? c.formula with
  | none => .ok none
  | some name =>
    match textOf? t computed name with
    | .ok values => .ok values
    | .error e => .error (.lookup c.name e)

/-- The numbers of a column, and the calculator after them. -/
def numericColumn (t : Tabulator) (computed : Columns) (calculator : Calculator) (c : ColumnSpec) :
    Except ReportError (List Float × Calculator) :=
  match Formula.runWith calculator (Formula.evaluateText (numbersOf t computed) c.formula) with
  | (.ok values, calculator) => .ok (Filter.applyChain c.filters values, calculator)
  | (.error e, _) => .error (.formula c.name e)

/-- A column, and the calculator after it. -/
def column (t : Tabulator) (computed : Columns) (calculator : Calculator) (c : ColumnSpec) :
    Except ReportError (Column × Calculator) :=
  match textColumn? t computed c with
  | .error e => .error e
  | .ok (some values) =>
    if c.filters.isEmpty then .ok (.texts values, calculator) else .error (.filtersOnText c.name)
  | .ok none =>
    (numericColumn t computed calculator c).map fun (values, calculator) =>
      (.numbers values, calculator)

/-- The columns after those that have been computed, from left to right. -/
def columnsAfter (t : Tabulator) (computed : Columns) (calculator : Calculator) :
    List ColumnSpec → Except ReportError Columns
  | [] => .ok computed
  | c :: rest =>
    match column t computed calculator c with
    | .error e => .error e
    | .ok (values, calculator) => columnsAfter t (computed ++ [(c.name, values)]) calculator rest

end Report

/-- A finished report: where its rows start, and its columns in order. -/
structure Report where
  starts : List Instant
  columns : Columns

namespace Report

/-- Builds a report. Names of columns have to differ, then the rows are laid out, and then the
columns are computed. -/
def build (source : Source) (sampler : Sampler) (spec : ReportSpec) : Except ReportError Report :=
  match spec.duplicateColumn with
  | some name => .error (.duplicateColumn name)
  | none =>
    match Tabulator.ofPlan source spec.rows spec.zone with
    | .error e => .error (.rows e)
    | .ok t =>
      match columnsAfter t [] (.initial t.rowCount sampler) spec.columns with
      | .error e => .error e
      | .ok columns => .ok ⟨t.starts, columns⟩

/-- The number of rows. -/
def rowCount (r : Report) : Nat :=
  r.starts.length

/-- The column of a name. -/
def column? (r : Report) (name : String) : Option Column :=
  r.columns.find? name

/-- The line of a row. -/
def line (r : Report) (row : Nat) : String :=
  String.intercalate "\t" (r.columns.map fun c => c.2.cell row)

/-- One line for each row, with tabs between the cells; there is no line for the names. -/
def render (r : Report) : String :=
  String.join ((List.range r.rowCount).map fun row => r.line row ++ "\n")

end Report

end Logbook
