import Logbook.Number.Decimal
import Logbook.Text.Blank
import Logbook.Text.Letter

/-!
# Tokens of a formula

* `Lexeme.cut` cuts the longest token off the front of a text; a lexeme and what follows it are the
  text that was cut (`Lexeme.chars_append_rest`).
* `tokens` cuts a formula into tokens and drops the blanks between them. Each token keeps the byte
  offset at which it starts.

Model of `tokenize` and of `Tokenizer` with `number`, `take_while` and `next` of `tr-expr`.
-/

namespace Logbook

/-- What a token is. -/
inductive TokenKind where
  | number (value : Float)
  | identifier (name : String)
  /-- Any other character; which of them are operators is decided later. -/
  | operator (symbol : Char)
  | opening
  | closing

/-- A token and the number of bytes before it. -/
structure Token where
  kind : TokenKind
  offset : Nat

/-! ## Characters of identifiers -/

/-- Whether a character can start an identifier. -/
def startsIdentifier (c : Char) : Bool :=
  isLetter c || c == '_'

/-- Whether a character can stand in an identifier after the first; the punctuation keeps the name
of a tag and its field in one token. -/
def continuesIdentifier (c : Char) : Bool :=
  isLetter c || isNumeral c || ['_', '-', '#', '.', ':'].contains c

/-! ## Lexemes -/

/-- A token, the characters it is made of, and those after it. -/
structure Lexeme where
  kind : TokenKind
  chars : List Char
  rest : List Char

namespace Lexeme

/-- A number: digits, and if a point with a digit behind it follows, that point and the digits
behind it. -/
def number (cs : List Char) : Lexeme :=
  let (whole, rest) := Digits.splitDigits cs
  match rest with
  | '.' :: d :: rest =>
    if d.isDigit then
      let (fraction, rest) := Digits.splitDigits (d :: rest)
      ⟨.number (Decimal.ofParts false whole fraction none).toFloat, whole ++ '.' :: fraction, rest⟩
    else ⟨.number (Decimal.ofParts false whole [] none).toFloat, whole, '.' :: d :: rest⟩
  | rest => ⟨.number (Decimal.ofParts false whole [] none).toFloat, whole, rest⟩

/-- An identifier that starts with `c`. -/
def identifier (c : Char) (rest : List Char) : Lexeme :=
  let name := c :: rest.takeWhile continuesIdentifier
  ⟨.identifier (String.ofList name), name, rest.dropWhile continuesIdentifier⟩

/-- A token of one character. -/
def symbol (c : Char) (rest : List Char) : Lexeme :=
  if c = '(' then ⟨.opening, [c], rest⟩
  else if c = ')' then ⟨.closing, [c], rest⟩
  else ⟨.operator c, [c], rest⟩

/-- The longest token at the front of a text whose first character `c` is not blank. -/
def cut (c : Char) (rest : List Char) : Lexeme :=
  if c.isDigit then number (c :: rest)
  else if startsIdentifier c then identifier c rest
  else symbol c rest

theorem number_chars_append_rest (cs : List Char) :
    (number cs).chars ++ (number cs).rest = cs := by
  have h := Digits.splitDigits_append cs
  unfold number
  simp only
  split
  · rename_i d rest heq
    rw [heq] at h
    split
    · have h' := Digits.splitDigits_append (d :: rest)
      simp only [List.append_assoc, List.cons_append]
      rw [h']
      exact h
    · exact h
  · exact h

/-- Nothing is lost when a token is cut off. -/
theorem chars_append_rest (c : Char) (rest : List Char) :
    (cut c rest).chars ++ (cut c rest).rest = c :: rest := by
  unfold cut
  split
  · exact number_chars_append_rest _
  · split
    · simp [identifier]
    · unfold symbol
      split
      · rfl
      · split <;> rfl

theorem number_chars_ne_nil {c : Char} (rest : List Char) (h : c.isDigit = true) :
    (number (c :: rest)).chars ≠ [] := by
  have hs : (Digits.splitDigits (c :: rest)).1 ≠ [] := by simp [Digits.splitDigits, h]
  unfold number
  simp only
  split
  · split
    · simp
    · exact hs
  · exact hs

/-- A token has at least one character. -/
theorem chars_ne_nil (c : Char) (rest : List Char) : (cut c rest).chars ≠ [] := by
  unfold cut
  split
  · rename_i h
    exact number_chars_ne_nil rest h
  · split
    · simp [identifier]
    · unfold symbol
      split
      · simp
      · split <;> simp

theorem length_rest_cut (c : Char) (rest : List Char) : (cut c rest).rest.length ≤ rest.length := by
  have h := congrArg List.length (chars_append_rest c rest)
  have := List.length_pos_iff.2 (chars_ne_nil c rest)
  simp only [List.length_append, List.length_cons] at h
  omega

end Lexeme

/-! ## Formulas -/

/-- The number of bytes of a text in UTF-8. -/
def byteCount : List Char → Nat
  | [] => 0
  | c :: rest => c.utf8Size + byteCount rest

/-- The tokens of a text that starts at a byte offset. -/
def tokensFrom (offset : Nat) : List Char → List Token
  | [] => []
  | c :: rest =>
    if isBlank c then tokensFrom (offset + c.utf8Size) rest
    else
      let l := Lexeme.cut c rest
      ⟨l.kind, offset⟩ :: tokensFrom (offset + byteCount l.chars) l.rest
termination_by cs => cs.length
decreasing_by
  · simp
  · have := Lexeme.length_rest_cut c rest
    simp only [List.length_cons]
    omega

/-- The tokens of a formula, from left to right. -/
def tokens (input : String) : List Token :=
  tokensFrom 0 input.toList

end Logbook
