import Logbook.Filter.Text
import Logbook.Time.Rows

/-!
# Specifications of reports

A `ReportSpec` says how a report is made: its rows, its columns with their formulas and filters, and
the zone whose clock cuts the rows.

Model of `ViewDefinition` with `duplicate_column`, and of `ColumnDefinition`, of `tr-view`.
-/

namespace Logbook

/-- One column: its name, its formula, and the filters that its values go through. -/
structure ColumnSpec where
  name : String
  formula : String
  filters : List (Filter Float)

/-- The rows and the columns of a report. -/
structure ReportSpec where
  rows : RowPlan
  columns : List ColumnSpec
  zone : Zone

namespace ReportSpec

/-- The first name in a list that occurs before in the list, or in `seen`. -/
def firstRepeated (seen : List String) : List String → Option String
  | [] => none
  | name :: rest => if seen.contains name then some name else firstRepeated (name :: seen) rest

/-- The first name of a column that an earlier column has already. -/
def duplicateColumn (s : ReportSpec) : Option String :=
  firstRepeated [] (s.columns.map (·.name))

end ReportSpec

end Logbook
