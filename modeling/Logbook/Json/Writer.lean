import Logbook.Json.Basic

/-!
# Writing JSON

* `Json.chars` writes a value in a layout: on one line, or with every item and member on a line of
  its own. Where the value breaks off, nothing is written.

Model of how `serde_json` writes a value, plainly and in many lines.
-/

namespace Logbook

/-- How a value is laid out. -/
inductive Layout where
  /-- All on one line, without blanks. -/
  | compact
  /-- One line for each item and member, indented by two blanks for each container around it. -/
  | indented
deriving DecidableEq, Repr

namespace Layout

/-- What stands between the parts of a container `depth` levels deep. -/
def lineBreak : Layout → (depth : Nat) → List Char
  | compact, _ => []
  | indented, depth => '\n' :: List.replicate (2 * depth) ' '

/-- What stands between the name of a member and its value. -/
def colon : Layout → List Char
  | compact => [':']
  | indented => [':', ' ']

end Layout

namespace Json

/-- A character inside a text: quotation marks, backslashes and control characters are escaped. -/
def escapedChar (c : Char) : List Char :=
  match c with
  | '"' => ['\\', '"']
  | '\\' => ['\\', '\\']
  | '\x08' => ['\\', 'b']
  | '\x0c' => ['\\', 'f']
  | '\n' => ['\\', 'n']
  | '\r' => ['\\', 'r']
  | '\t' => ['\\', 't']
  | c =>
    if c.toNat < 0x20 then ['\\', 'u'] ++ List.leftpad 4 '0' (Nat.toDigits 16 c.toNat) else [c]

/-- A text between quotation marks. -/
def textChars (s : String) : List Char :=
  '"' :: s.toList.flatMap escapedChar ++ ['"']

mutual

/-- A value inside `depth` containers. -/
def chars (layout : Layout) (depth : Nat) : Json → List Char
  | null => "null".toList
  | bool true => "true".toList
  | bool false => "false".toList
  | number n => n.chars
  | text s => textChars s
  | array [] => ['[', ']']
  | array (v :: rest) =>
    '[' :: layout.lineBreak (depth + 1) ++ v.chars layout (depth + 1) ++
      itemChars layout (depth + 1) rest ++ layout.lineBreak depth ++ [']']
  | object [] => ['\x7b', '\x7d']
  | object ((name, v) :: rest) =>
    '\x7b' :: layout.lineBreak (depth + 1) ++ textChars (name.getD "") ++ layout.colon ++
      v.chars layout (depth + 1) ++ memberChars layout (depth + 1) rest ++
      layout.lineBreak depth ++ ['\x7d']
  | unpaired => textChars ""
  | cut => []

/-- The items of an array after the first. -/
def itemChars (layout : Layout) (depth : Nat) : List Json → List Char
  | [] => []
  | v :: rest =>
    ',' :: layout.lineBreak depth ++ v.chars layout depth ++ itemChars layout depth rest

/-- The members of an object after the first. -/
def memberChars (layout : Layout) (depth : Nat) : List (Option String × Json) → List Char
  | [] => []
  | (name, v) :: rest =>
    ',' :: layout.lineBreak depth ++ textChars (name.getD "") ++ layout.colon ++
      v.chars layout depth ++ memberChars layout depth rest

end

/-- A value as a string. -/
def render (layout : Layout) (v : Json) : String :=
  String.ofList (v.chars layout 0)

end Json

end Logbook
