import Logbook.Report.Calendar
import Logbook.Series.Aggregate
import Logbook.Text.Pieces

/-!
# References

A name such as `site.temperature.mean` refers to a field of a tag: the field is what follows the
last point. The tag `time` stands for the start of a row, all others for histories.

Model of `ReducerRef` with `parse`, `is_time` and `produces_text` of `tr-reduce`.
-/

namespace Logbook

/-- A tag and one of its fields. -/
structure Reference where
  tag : String
  field : String
deriving DecidableEq, Repr

namespace Reference

/-- The tag that stands for the start of a row. -/
def timeTag : String := "time"

/-- The reference of a name, unless it has no point or nothing on one side of the last. -/
def ofName? (name : String) : Option Reference :=
  match splitLast '.' name.toList with
  | some (tag, field) =>
    if tag.isEmpty || field.isEmpty then none
    else some ⟨String.ofList tag, String.ofList field⟩
  | none => none

/-- Whether it refers to the start of a row. -/
def isTime (r : Reference) : Bool :=
  r.tag == timeTag

/-- Whether the field is the most frequent category of a history. -/
def isMode (r : Reference) : Bool :=
  (CategoryAggregate.ofName? r.field).any CategoryAggregate.isText

/-- Whether it refers to text: a label of a row, or the most frequent category. -/
def isText (r : Reference) : Bool :=
  if r.isTime && (RowLabel.ofName? r.field).isSome then true
  else if r.isTime && (CalendarField.ofName? r.field).isSome then false
  else r.isMode

end Reference

end Logbook
