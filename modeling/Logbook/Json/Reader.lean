import Logbook.Json.Basic

/-!
# Reading JSON

`Json.scan` reads the value at the front of a text. It always gives a value: where the text stops
being JSON the value has a `cut`, and so has every container that is still open there. What is read
of a document before a fault can so be judged before the fault is.

Model of how `serde_json` reads a text.
-/

namespace Logbook.Json

/-- The text without the blanks at its start; JSON knows four. -/
def skipBlanks (cs : List Char) : List Char :=
  cs.dropWhile fun c => c == ' ' || c == '\n' || c == '\t' || c == '\r'

/-! ## Texts -/

/-- The number of a hexadecimal digit. -/
def hexDigit? (c : Char) : Option Nat :=
  if '0' ≤ c ∧ c ≤ '9' then some (c.toNat - 48)
  else if 'a' ≤ c ∧ c ≤ 'f' then some (c.toNat - 87)
  else if 'A' ≤ c ∧ c ≤ 'F' then some (c.toNat - 55)
  else none

/-- The number of four hexadecimal digits. -/
def hexNumber? (a b c d : Char) : Option Nat :=
  match hexDigit? a, hexDigit? b, hexDigit? c, hexDigit? d with
  | some a, some b, some c, some d => some (((a * 16 + b) * 16 + c) * 16 + d)
  | _, _, _, _ => none

/-- The character that a letter stands for after a backslash. -/
def unescape? : Char → Option Char
  | '"' => some '"'
  | '\\' => some '\\'
  | '/' => some '/'
  | 'b' => some '\x08'
  | 'f' => some '\x0c'
  | 'n' => some '\n'
  | 'r' => some '\r'
  | 't' => some '\t'
  | _ => none

/-- The code points up to the closing quotation mark, and what follows it. Halves of surrogate pairs
are left as they are. -/
def readPoints : List Char → Option (List Nat × List Char)
  | [] => none
  | '"' :: rest => some ([], rest)
  | '\\' :: 'u' :: a :: b :: c :: d :: rest =>
    match hexNumber? a b c d, readPoints rest with
    | some n, some (points, rest) => some (n :: points, rest)
    | _, _ => none
  | '\\' :: e :: rest =>
    match unescape? e, readPoints rest with
    | some c, some (points, rest) => some (c.toNat :: points, rest)
    | _, _ => none
  | c :: rest =>
    if c.toNat < 0x20 then none
    else
      match readPoints rest with
      | some (points, rest) => some (c.toNat :: points, rest)
      | none => none

/-- The characters of code points; two halves of a surrogate pair make one character, and one half
alone makes none. -/
def charsOfPoints? : List Nat → Option (List Char)
  | [] => some []
  | n :: rest =>
    if n < 0xd800 ∨ 0xdfff < n then (charsOfPoints? rest).map (Char.ofNat n :: ·)
    else
      match rest with
      | [] => none
      | k :: rest =>
        if n < 0xdc00 ∧ 0xdc00 ≤ k ∧ k ≤ 0xdfff then
          (charsOfPoints? rest).map
            (Char.ofNat (0x10000 + (n - 0xd800) * 0x400 + (k - 0xdc00)) :: ·)
        else none

/-- The text up to the closing quotation mark, if it is made of characters, and what follows it. -/
def readText (cs : List Char) : Option (Option String × List Char) :=
  (readPoints cs).map fun (points, rest) => ((charsOfPoints? points).map String.ofList, rest)

/-! ## Numbers -/

/-- The digits after a point; without a point there are none. -/
def fraction? : List Char → Option (List Char × List Char)
  | '.' :: rest =>
    let (run, rest) := Digits.splitDigits rest
    if run.isEmpty then none else some (run, rest)
  | rest => some ([], rest)

/-- Reads a number without its sign: digits that do not start with a needless zero, perhaps a point
with digits behind it, and perhaps an exponent. -/
def readMagnitude (negative : Bool) (cs : List Char) : Json × List Char :=
  let (whole, rest) := Digits.splitDigits cs
  if whole.isEmpty || (whole.head? == some '0' && 1 < whole.length) then (cut, [])
  else
    match fraction? rest with
    | none => (cut, [])
    | some (fraction, rest) =>
      match Decimal.exponent? rest with
      | none => (cut, [])
      | some (exponent, rest) => (number (Decimal.ofParts negative whole fraction exponent), rest)

/-- Reads a number. -/
def readNumber : List Char → Json × List Char
  | '-' :: cs => readMagnitude true cs
  | cs => readMagnitude false cs

/-! ## Values -/

mutual

/-- Reads a value. After a cut there is nothing left to read. -/
def readValue : (fuel : Nat) → List Char → Json × List Char
  | 0, _ => (cut, [])
  | fuel + 1, cs =>
    match skipBlanks cs with
    | 'n' :: 'u' :: 'l' :: 'l' :: rest => (null, rest)
    | 't' :: 'r' :: 'u' :: 'e' :: rest => (bool true, rest)
    | 'f' :: 'a' :: 'l' :: 's' :: 'e' :: rest => (bool false, rest)
    | '"' :: rest =>
      match readText rest with
      | none => (cut, [])
      | some (none, rest) => (unpaired, rest)
      | some (some s, rest) => (text s, rest)
    | '[' :: rest =>
      match skipBlanks rest with
      | ']' :: rest => (array [], rest)
      | rest =>
        let (items, rest) := readItems fuel rest
        (array items, rest)
    | '\x7b' :: rest =>
      match skipBlanks rest with
      | '\x7d' :: rest => (object [], rest)
      | rest =>
        let (members, rest) := readMembers fuel rest
        (object members, rest)
    | rest => readNumber rest

/-- Reads the items of an array up to its closing bracket. -/
def readItems : (fuel : Nat) → List Char → List Json × List Char
  | 0, _ => ([cut], [])
  | fuel + 1, cs =>
    let (v, rest) := readValue fuel cs
    match skipBlanks rest with
    | ',' :: rest =>
      let (items, rest) := readItems fuel rest
      (v :: items, rest)
    | ']' :: rest => ([v], rest)
    | _ => ([v, cut], [])

/-- Reads the members of an object up to its closing brace. -/
def readMembers : (fuel : Nat) → List Char → List (Option String × Json) × List Char
  | 0, _ => ([(none, cut)], [])
  | fuel + 1, cs =>
    match skipBlanks cs with
    | '"' :: rest =>
      match readText rest with
      | none => ([(none, cut)], [])
      | some (name, rest) =>
        match skipBlanks rest with
        | ':' :: rest =>
          let (v, rest) := readValue fuel rest
          match skipBlanks rest with
          | ',' :: rest =>
            let (members, rest) := readMembers fuel rest
            ((name, v) :: members, rest)
          | '\x7d' :: rest => ([(name, v)], rest)
          | _ => ([(name, v), (none, cut)], [])
        | _ => ([(name, cut)], [])
    | _ => ([(none, cut)], [])

end

/-- What a text holds: the value at its front, and whether nothing but blanks follows it. -/
structure Scan where
  value : Json
  ended : Bool

/-- Reads the value at the front of a text. No step of the reader can need more fuel than twice the
length of the text. -/
def scan (input : String) : Scan :=
  let cs := input.toList
  let (value, rest) := readValue (2 * cs.length + 2) cs
  ⟨value, (skipBlanks rest).isEmpty⟩

end Logbook.Json
