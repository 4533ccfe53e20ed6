import Logbook.Document.Basic
import Logbook.Source.Archive

/-!
# Archives as documents

An archive is written as an object of histories by their tags, a history as its kind and its series,
and a series as its bounds and its readings.

* `Archive.json` writes an archive and `Archive.ofDocument` reads one. What is read is a valid
  series: its bounds are the right way round, and its readings are in order.

Model of the JSON form of `MemorySource` and `TagSeries` of `tr-reduce` and of `Series` of
`tr-series`, whose `try_from` checks what is read as `new` does.
-/

namespace Logbook

open Document

/-! ## Readings -/

namespace Reading

variable {β : Type}

/-- A reading as a JSON value. -/
def json (write : β → Json) (r : Reading β) : Json :=
  .object [field "feed_id" (writeInteger r.feed.toInt), field "instant" (writeInstant r.instant),
    field "value" (write r.value)]

/-- What is known of a reading while its fields are read. -/
structure Draft (β : Type) where
  feed : Option Int64
  instant : Option Instant
  value : Option β

/-- The fields of a reading. -/
def fields (readValue : Json → Except Fault β) : Fields (Draft β) :=
  [("feed_id", fun v d => (once readInteger d.feed v).map fun x => { d with feed := x }),
    ("instant", fun v d => (once readInstant d.instant v).map fun x => { d with instant := x }),
    ("value", fun v d => (once readValue d.value v).map fun x => { d with value := x })]

/-- Reads a reading. -/
def read (readValue : Json → Except Fault β) (v : Json) : Except Fault (Reading β) :=
  match (fields readValue).read ⟨none, none, none⟩ v with
  | .error e => .error e
  | .ok ⟨some feed, some instant, some value⟩ => .ok ⟨feed, instant, value⟩
  | .ok _ => .error .malformed

end Reading

/-! ## Series -/

namespace Series

variable {β : Type}

/-- A series as a JSON value. -/
def json (write : β → Json) (s : Series β) : Json :=
  .object [field "from" (writeInstant s.start), field "to" (writeInstant s.stop),
    field "points" (.array (s.readings.toList.map (Reading.json write)))]

/-- What is known of a series while its fields are read. -/
structure Draft (β : Type) where
  start : Option Instant
  stop : Option Instant
  readings : Option (List (Reading β))

/-- The fields of a series. -/
def fields (readValue : Json → Except Fault β) : Fields (Draft β) :=
  [("from", fun v d => (once readInstant d.start v).map fun x => { d with start := x }),
    ("to", fun v d => (once readInstant d.stop v).map fun x => { d with stop := x }),
    ("points", fun v d =>
      (once (readList (Reading.read readValue)) d.readings v).map
        fun x => { d with readings := x })]

/-- Reads a series, and checks it when it is complete. -/
def read (readValue : Json → Except Fault β) (v : Json) : Except Fault (Series β) :=
  match (fields readValue).read ⟨none, none, none⟩ v with
  | .error e => .error e
  | .ok ⟨some start, some stop, some readings⟩ =>
    match Series.ofReadings start stop readings with
    | .ok s => .ok s
    | .error e => .error (.series e)
  | .ok _ => .error .malformed

end Series

/-! ## Histories -/

/-- The kind of a name. -/
def ValueKind.ofName? (name : String) : Option ValueKind :=
  [numeric, categorical].find? fun k => k.name == name

/-- Reads a kind from its name. -/
def ValueKind.readName : Json → Except Fault ValueKind
  | .text name =>
    match ofName? name with
    | some k => .ok k
    | none => .error .malformed
  | _ => .error .malformed

/-- Reads a kind from its name, or from an object that gives nothing but the name a null. -/
def ValueKind.read : Json → Except Fault ValueKind
  | .object [(some name, .null)] => readName (.text name)
  | v => readName v

namespace History

/-- A history as a JSON value. -/
def json : History → Json
  | numeric s => .object [field "kind" (.text ValueKind.numeric.name),
      field "series" (s.json writeFloat)]
  | categorical s => .object [field "kind" (.text ValueKind.categorical.name),
      field "series" (s.json .text)]

/-- Reads the series of a kind. -/
def readSeries (kind : ValueKind) (v : Json) : Except Fault History :=
  match kind with
  | .numeric => (Series.read readFloat v).map numeric
  | .categorical => (Series.read readText v).map categorical

/-- What is known of a history while its fields are read: a series that comes before its kind is
kept until the kind is known. -/
structure Draft where
  kind : Option ValueKind
  kept : Option Json
  history : Option History

/-- The kind has been given: a series that has been kept is read. -/
def Draft.setKind (readKind : Json → Except Fault ValueKind) (v : Json) (d : Draft) :
    Except Fault Draft :=
  match once readKind d.kind v, d.kept with
  | .error e, _ => .error e
  | .ok (some kind), some series =>
    (readSeries kind series).map fun h => { d with kind := some kind, history := some h }
  | .ok kind, _ => .ok { d with kind := kind }

/-- The series has been given: it is read, or kept if the kind is not known yet and there is room
for it. -/
def Draft.setSeries (room : Nat) (v : Json) (d : Draft) : Except Fault Draft :=
  match d.kept, d.history, d.kind with
  | none, none, some kind => (readSeries kind v).map fun h => { d with history := some h }
  | none, none, none => if v.holds room then .ok { d with kept := some v } else .error .malformed
  | _, _, _ => .error .malformed

/-- The fields of a history whose series has `room` for nested containers. -/
def fields (readKind : Json → Except Fault ValueKind) (room : Nat) : Fields Draft :=
  [("kind", Draft.setKind readKind), ("series", Draft.setSeries room)]

/-- How the kind of a history is given: in an array by its name only. -/
def kindReader : Json → Json → Except Fault ValueKind
  | .array _ => ValueKind.readName
  | _ => ValueKind.read

/-- Reads a history. -/
def read (room : Nat) (v : Json) : Except Fault History :=
  match (fields (kindReader v) room).read ⟨none, none, none⟩ v with
  | .error e => .error e
  | .ok ⟨_, _, some h⟩ => .ok h
  | .ok _ => .error .malformed

end History

/-! ## Archives -/

namespace Archive

/-- An archive as a JSON value. -/
def json (a : Archive) : Json :=
  .object [field "tags" (.object (a.toList.map fun (tag, h) => field tag h.json))]

/-- The containers around a series: the archive, its histories, and the history. -/
def seriesDepth : Nat := 3

/-- Reads histories by their tags into an archive; of several with one tag the last counts. -/
def readHistories (a : Archive) : List (Option String × Json) → Except Fault Archive
  | [] => .ok a
  | (none, _) :: _ => .error .malformed
  | (some tag, v) :: rest =>
    match History.read (Json.maxDepth - seriesDepth) v with
    | .error e => .error e
    | .ok h => readHistories (a.insert tag h) rest

/-- Reads the histories of an archive. -/
def readTags : Json → Except Fault Archive
  | .object members => readHistories empty members
  | _ => .error .malformed

/-- The only field of an archive. -/
def fields : Fields (Option Archive) :=
  [("tags", fun v held => once readTags held v)]

/-- Reads an archive. -/
def read (v : Json) : Except Fault Archive :=
  match fields.read none v with
  | .error e => .error e
  | .ok (some a) => .ok a
  | .ok none => .error .malformed

/-- Reads a document with an archive. -/
def ofDocument (input : String) : Except Fault Archive :=
  Document.parse read input

end Archive

end Logbook
