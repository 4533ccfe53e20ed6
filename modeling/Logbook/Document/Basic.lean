import Logbook.Filter.Text
import Logbook.Json.Reader
import Logbook.Series.Basic
import Logbook.Text.Position
import Logbook.Time.InstantText
import Logbook.Time.Zone

/-!
# Documents

A document is a JSON text that describes something of this library. It is read from left to right,
and the first fault counts, be it one of the text or one of a value.

* `readText`, `readFloat` and so on read the values of single fields.
* `Fields` describes a record: it is read from an object with its fields in any order, or from an
  array of their values in the order in which they are listed.

Model of what all JSON forms of `tr-types`, `tr-series`, `tr-expr`, `tr-reduce` and `tr-view` share:
the records as they are derived there, and `deserialize` of a zone's name in `tr-view`.
-/

namespace Logbook.Document

/-! ## Errors -/

/-- Why a document cannot be read. -/
inductive Fault where
  /-- The text is no JSON, or something is missing, repeated, or of the wrong form. -/
  | malformed
  | period (cause : PeriodError)
  | unknownZone (name : String)
  | filter (cause : FilterError)
  | series (cause : SeriesError)
deriving DecidableEq

/-- What is wrong with a value, if the fault is one of a value. -/
def Fault.cause? : Fault → Option String
  | malformed => none
  | period cause => some cause.message
  | unknownZone name => some ("unknown time zone: " ++ name)
  | filter cause => some cause.message
  | series cause => some cause.message

/-- The fault in words, if it is one of a value, without the place at which it was found. A message
ends with that place; words that end with a place of their own have it already, and lose it here. -/
def Fault.message? (e : Fault) : Option String :=
  e.cause?.map fun words => String.ofList (withoutPosition words.toList)

/-! ## Values -/

/-- A text. -/
def readText : Json → Except Fault String
  | .text s => .ok s
  | _ => .error .malformed

/-- A finite number. -/
def readFloat : Json → Except Fault Float
  | .number n => if n.toFloat.isFinite then .ok n.toFloat else .error .malformed
  | _ => .error .malformed

/-- An integer of 64 bits. -/
def readInteger : Json → Except Fault Int64
  | .number n =>
    match n.toInt? with
    | some i =>
      if Int64.minValue.toInt ≤ i ∧ i ≤ Int64.maxValue.toInt then .ok (Int64.ofInt i)
      else .error .malformed
    | none => .error .malformed
  | _ => .error .malformed

/-- An instant. -/
def readInstant : Json → Except Fault Instant
  | .text s =>
    match Instant.read? s with
    | some t => .ok t
    | none => .error .malformed
  | _ => .error .malformed

/-- A period. -/
def readPeriod : Json → Except Fault Period
  | .text s =>
    match Period.read s with
    | .ok p => .ok p
    | .error e => .error (.period e)
  | _ => .error .malformed

/-- The name of a zone. -/
def readZone (zones : ZoneTable) : Json → Except Fault Zone
  | .text name =>
    match zones.find? name with
    | some z => .ok z
    | none => .error (.unknownZone name)
  | _ => .error .malformed

/-- A filter. -/
def readFilter : Json → Except Fault (Filter Float)
  | .text s =>
    match Filter.read s with
    | .ok f => .ok f
    | .error e => .error (.filter e)
  | _ => .error .malformed

/-- The values of a list, from left to right. -/
def readAll {β : Type} (read : Json → Except Fault β) : List Json → Except Fault (List β)
  | [] => .ok []
  | v :: rest =>
    match read v with
    | .error e => .error e
    | .ok x => (readAll read rest).map (x :: ·)

/-- A list of values. -/
def readList {β : Type} (read : Json → Except Fault β) : Json → Except Fault (List β)
  | .array items => readAll read items
  | _ => .error .malformed

/-! ## Records -/

/-- The fields of a record: the name of each, and how its value is added to what is known so far. -/
abbrev Fields (σ : Type) := List (String × (Json → σ → Except Fault σ))

/-- A value that may be given once: `held` is the one that was given before. -/
def once {β : Type} (read : Json → Except Fault β) (held : Option β) (v : Json) :
    Except Fault (Option β) :=
  match held with
  | some _ => .error .malformed
  | none => (read v).map some

namespace Fields

variable {σ : Type}

/-- Reads the members of an object. Members that are no fields are passed over. -/
def readMembers (fields : Fields σ) : List (Option String × Json) → σ → Except Fault σ
  | [], s => .ok s
  | (none, _) :: _, _ => .error .malformed
  | (some name, v) :: rest, s =>
    match fields.lookup name with
    | none => if v.whole then readMembers fields rest s else .error .malformed
    | some read =>
      match read v s with
      | .error e => .error e
      | .ok s => readMembers fields rest s

/-- Reads the values of the fields in the order in which they are listed; the last fields may be
missing. -/
def readItems : Fields σ → List Json → σ → Except Fault σ
  | _, [], s => .ok s
  | [], _ :: _, _ => .error .malformed
  | (_, read) :: fields, v :: rest, s =>
    match read v s with
    | .error e => .error e
    | .ok s => readItems fields rest s

/-- Reads a record, starting from what is known before its first field. -/
def read (fields : Fields σ) (start : σ) : Json → Except Fault σ
  | .object members => fields.readMembers members start
  | .array items => fields.readItems items start
  | _ => .error .malformed

end Fields

/-- Reads a whole document. -/
def parse {β : Type} (read : Json → Except Fault β) (input : String) : Except Fault β :=
  let scan := Json.scan input
  match read scan.value with
  | .error e => .error e
  | .ok x => if scan.ended then .ok x else .error .malformed

/-! ## Writing -/

/-- A member of an object. -/
def field (name : String) (v : Json) : Option String × Json :=
  (some name, v)

/-- A number; there is no JSON for one that is not finite. -/
def writeFloat (x : Float) : Json :=
  match Binary.ofFloat? x with
  | some b => .number (FloatStyle.document.decimal x b)
  | none => .null

/-- An integer. -/
def writeInteger (i : Int) : Json :=
  .number ⟨i < 0, i.natAbs, 0, none⟩

/-- An instant. -/
def writeInstant (t : Instant) : Json :=
  .text t.text

end Logbook.Document
