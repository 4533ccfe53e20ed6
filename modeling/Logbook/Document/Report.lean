import Logbook.Document.Basic
import Logbook.Json.Writer
import Logbook.Report.Spec

/-!
# Specifications of reports as documents

* `ReportSpec.document` writes a specification and `ReportSpec.ofDocument` reads one, with the zones
  of a table. The zone may be missing and is UTC then, and so may the filters of a column.

Model of `from_json_str` and `to_json_string` of `ViewDefinition` of `tr-view`, and of the JSON
forms of `ColumnDefinition` of `tr-view` and `RowDefinition` of `tr-types`.
-/

namespace Logbook

open Document

/-! ## Rows -/

namespace RowPlan

/-- The rows as a JSON value. -/
def json (r : RowPlan) : Json :=
  .object [field "from" (writeInstant r.start), field "to" (writeInstant r.stop),
    field "period" (.text r.period.text)]

/-- What is known of the rows while their fields are read. -/
structure Draft where
  start : Option Instant
  stop : Option Instant
  period : Option Period

/-- The fields of the rows. -/
def fields : Fields Draft :=
  [("from", fun v d => (once readInstant d.start v).map fun x => { d with start := x }),
    ("to", fun v d => (once readInstant d.stop v).map fun x => { d with stop := x }),
    ("period", fun v d => (once readPeriod d.period v).map fun x => { d with period := x })]

/-- Reads the rows. -/
def read (v : Json) : Except Fault RowPlan :=
  match fields.read ⟨none, none, none⟩ v with
  | .error e => .error e
  | .ok ⟨some start, some stop, some period⟩ => .ok ⟨start, stop, period⟩
  | .ok _ => .error .malformed

end RowPlan

/-! ## Columns -/

namespace ColumnSpec

/-- A column as a JSON value. -/
def json (c : ColumnSpec) : Json :=
  .object [field "name" (.text c.name), field "calc" (.text c.formula),
    field "filters" (.array (c.filters.map fun f => .text f.text))]

/-- What is known of a column while its fields are read. -/
structure Draft where
  name : Option String
  formula : Option String
  filters : Option (List (Filter Float))

/-- The fields of a column. -/
def fields : Fields Draft :=
  [("name", fun v d => (once readText d.name v).map fun x => { d with name := x }),
    ("calc", fun v d => (once readText d.formula v).map fun x => { d with formula := x }),
    ("filters", fun v d =>
      (once (readList readFilter) d.filters v).map fun x => { d with filters := x })]

/-- Reads a column. -/
def read (v : Json) : Except Fault ColumnSpec :=
  match fields.read ⟨none, none, none⟩ v with
  | .error e => .error e
  | .ok ⟨some name, some formula, filters⟩ => .ok ⟨name, formula, filters.getD []⟩
  | .ok _ => .error .malformed

end ColumnSpec

/-! ## Specifications -/

namespace ReportSpec

/-- A specification as a JSON value. -/
def json (s : ReportSpec) : Json :=
  .object [field "rows" s.rows.json, field "columns" (.array (s.columns.map ColumnSpec.json)),
    field "timezone" (.text s.zone.name)]

/-- A specification as a document, with every part on a line of its own. -/
def document (s : ReportSpec) : String :=
  s.json.render .indented

/-- What is known of a specification while its fields are read. -/
structure Draft where
  rows : Option RowPlan
  columns : Option (List ColumnSpec)
  zone : Option Zone

/-- The fields of a specification. -/
def fields (zones : ZoneTable) : Fields Draft :=
  [("rows", fun v d => (once RowPlan.read d.rows v).map fun x => { d with rows := x }),
    ("columns", fun v d =>
      (once (readList ColumnSpec.read) d.columns v).map fun x => { d with columns := x }),
    ("timezone", fun v d => (once (readZone zones) d.zone v).map fun x => { d with zone := x })]

/-- Reads a specification. -/
def read (zones : ZoneTable) (v : Json) : Except Fault ReportSpec :=
  match (fields zones).read ⟨none, none, none⟩ v with
  | .error e => .error e
  | .ok ⟨some rows, some columns, zone⟩ => .ok ⟨rows, columns, zone.getD Zone.utc⟩
  | .ok _ => .error .malformed

/-- Reads a document with a specification. -/
def ofDocument (zones : ZoneTable) (input : String) : Except Fault ReportSpec :=
  Document.parse (read zones) input

end ReportSpec

end Logbook
