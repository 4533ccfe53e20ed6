import Std.Data.ExtTreeMap
import Logbook.Source.History

/-!
# Sources

A `Source` answers what the history of a tag is between two instants. An `Archive` keeps histories
by their tags and is a source.

Model of `SeriesSource`, and of `MemorySource` with `insert`, `tags`, `get` and `query`, of
`tr-reduce`.
-/

namespace Logbook

/-- What is asked for histories. A query fails with a reason, knows nothing of the tag, or gives a
history, which should have the bounds asked for. -/
structure Source where
  query : (tag : String) → (start stop : Instant) → Except String (Option History)

/-- Histories by their tags; the order of tags is that of their characters. -/
structure Archive where
  histories : Std.ExtTreeMap String History

namespace Archive

/-- The archive without histories. -/
def empty : Archive := ⟨∅⟩

/-- The history of a tag. -/
def get? (a : Archive) (tag : String) : Option History :=
  a.histories[tag]?

/-- The archive with a history under a tag, in place of the one that was there. -/
def insert (a : Archive) (tag : String) (h : History) : Archive :=
  ⟨a.histories.insert tag h⟩

@[simp] theorem get?_empty (tag : String) : empty.get? tag = none := by
  simp [empty, get?]

@[simp] theorem get?_insert_self (a : Archive) (tag : String) (h : History) :
    (a.insert tag h).get? tag = some h := by
  simp [insert, get?]

theorem get?_insert_of_ne (a : Archive) {tag other : String} (h : History) (hne : tag ≠ other) :
    (a.insert tag h).get? other = a.get? other := by
  simp [insert, get?, Std.ExtTreeMap.getElem?_insert, hne]

/-- The tags in order. -/
def tags (a : Archive) : List String :=
  a.histories.keys

/-- The tags with their histories, in order. -/
def toList (a : Archive) : List (String × History) :=
  a.histories.toList

/-- The readings of a tag between two instants; there are none if these are the wrong way round. -/
def query (a : Archive) (tag : String) (start stop : Instant) : Except String (Option History) :=
  match a.get? tag with
  | none => .ok none
  | some h =>
    match h.slice start (start.later stop) with
    | .ok h => .ok (some h)
    | .error e => .error e.message

/-- The archive as a source. -/
def source (a : Archive) : Source := ⟨a.query⟩

end Archive

end Logbook
