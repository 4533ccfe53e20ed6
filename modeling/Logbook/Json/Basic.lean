import Logbook.Number.Decimal

/-!
# JSON values

A value is what a reader got out of a text, and the text may break off: a `cut` stands where it
stops being JSON. Members of objects keep their order, and a name may occur more than once.

* `Json.whole`: the text of the value does not break off, so the value can be passed over.
* `Json.holds`: the value can also be kept, that is, its numbers are finite, its texts are made of
  characters, and its containers are not nested too deeply.

Model of what `serde_json` reads and writes, as the JSON forms of all packages use it.
-/

namespace Logbook

/-- A value as it is written. -/
inductive Json where
  | null
  | bool (value : Bool)
  | number (value : Decimal)
  | text (value : String)
  /-- A text with half of a surrogate pair in it. -/
  | unpaired
  | array (items : List Json)
  /-- Members with their names; a name is missing if it has half of a surrogate pair in it. -/
  | object (members : List (Option String × Json))
  /-- Here the text stops being JSON. -/
  | cut

namespace Json

/-! ## Values that can be passed over -/

mutual

/-- Whether the text of the value does not break off. -/
def whole : Json → Bool
  | cut => false
  | array items => wholeItems items
  | object members => wholeMembers members
  | _ => true

/-- Whether no item breaks off. -/
def wholeItems : List Json → Bool
  | [] => true
  | v :: rest => v.whole && wholeItems rest

/-- Whether no member breaks off. -/
def wholeMembers : List (Option String × Json) → Bool
  | [] => true
  | (_, v) :: rest => v.whole && wholeMembers rest

end

/-! ## Values that can be kept -/

/-- The depth to which containers may be nested in a document. -/
def maxDepth : Nat := 127

mutual

/-- Whether the value can be kept where `room` containers may still be nested. -/
def holds (room : Nat) : Json → Bool
  | null | bool _ | text _ => true
  | number n => n.toFloat.isFinite
  | array items => 0 < room && holdsItems (room - 1) items
  | object members => 0 < room && holdsMembers (room - 1) members
  | unpaired | cut => false

/-- Whether all items can be kept. -/
def holdsItems (room : Nat) : List Json → Bool
  | [] => true
  | v :: rest => v.holds room && holdsItems room rest

/-- Whether all members can be kept. -/
def holdsMembers (room : Nat) : List (Option String × Json) → Bool
  | [] => true
  | (name, v) :: rest => name.isSome && v.holds room && holdsMembers room rest

end

end Json

end Logbook
