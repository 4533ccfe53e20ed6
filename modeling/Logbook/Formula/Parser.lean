import Logbook.Formula.Basic
import Logbook.Formula.Token
import Logbook.Text.Digits

/-!
# Reading formulas

Formulas are read by operator precedence, in one pass over the tokens: `+` and `-` bind least, `*`,
`/` and `%` more, the factorial `!` after its operand most, and operators between two operands group
to the left. An identifier before a bracket names a function.

* `Parser` is what is known between two tokens, and `Parser.step` takes in one token.
* `Formula.ofTokens` reads a list of tokens and refuses trees of more than a given number of levels.
* `Formula.parse` reads a whole formula; its trees have `maxHeight` levels at most.

Model of `parse_expr` with `Operator`, `Pending`, `Node`, `reduce` and the limit `MAX_EXPR_DEPTH` of
`tr-expr`.
-/

namespace Logbook

/-! ## Operators -/

/-- The operators of a formula. -/
inductive Operator where
  | binary (operator : BinaryOperator)
  | factorial
deriving DecidableEq, Repr

namespace Operator

/-- The operator that a character stands for. -/
def ofSymbol? : Char → Option Operator
  | '+' => some (binary .sum)
  | '-' => some (binary .subtraction)
  | '*' => some (binary .product)
  | '/' => some (binary .division)
  | '%' => some (binary .modulo)
  | '!' => some factorial
  | _ => none

/-- The character of an operator. -/
def symbol : Operator → Char
  | binary .sum => '+'
  | binary .subtraction => '-'
  | binary .product => '*'
  | binary .division => '/'
  | binary .modulo => '%'
  | factorial => '!'

/-- How tightly an operator binds. -/
def precedence : Operator → Nat
  | binary .sum | binary .subtraction => 1
  | binary .product | binary .division | binary .modulo => 2
  | factorial => 3

theorem ofSymbol?_eq_some_iff {c : Char} {op : Operator} :
    ofSymbol? c = some op ↔ op.symbol = c := by
  constructor
  · intro h
    unfold ofSymbol? at h
    split at h <;> cases h <;> rfl
  · rintro rfl
    rcases op with (_ | _ | _ | _ | _) | _ <;> rfl

end Operator

/-! ## Errors -/

/-- What is wrong with a formula at a place. -/
inductive ParseFault where
  /-- Two operands stand side by side. -/
  | adjacentOperands
  /-- An operator has nothing before it. -/
  | missingLeft (operator : Operator)
  /-- A bracket that opens a call has no name before it. -/
  | namelessCall
  /-- A bracket opens behind an operand that is no name. -/
  | operandBeforeBracket
  /-- A bracket closes where an operand should stand. -/
  | missingExpression
  /-- There is not exactly one expression between brackets. -/
  | crowdedBrackets
  /-- A call has no argument. -/
  | missingArgument (function : String)
  /-- The tree gets more than `limit` levels. -/
  | tooDeep (limit : Nat)
  /-- An operator lacks an operand. -/
  | missingOperand (operator : Operator)
  /-- There is no expression. -/
  | empty
  /-- Some operands have no operator between them. -/
  | looseOperands (count : Nat)
deriving DecidableEq, Repr

/-- Why a text is no formula, with the byte offset of the fault. -/
inductive ParseError where
  | malformed (offset : Nat) (fault : ParseFault)
  /-- The character is no operator. -/
  | unknownOperator (symbol : Char) (offset : Nat)
  /-- The bracket has no partner. -/
  | unbalanced (offset : Nat)
deriving DecidableEq, Repr

/-- The greatest number of levels that the tree of a formula may have. -/
def maxHeight : Nat := 256

/-- The fault in words. -/
def ParseFault.message : ParseFault → String
  | adjacentOperands => "expected an operator between operands"
  | missingLeft operator =>
    "operator '" ++ operator.symbol.toString ++ "' is missing its left operand"
  | namelessCall => "function call without a name"
  | operandBeforeBracket => "expected an operator before '('"
  | missingExpression => "expected an expression before ')'"
  | crowdedBrackets => "expected exactly one expression inside parentheses"
  | missingArgument function => "function " ++ function ++ " has no argument"
  | tooDeep limit => "expression nests deeper than " ++ Digits.text limit ++ " levels"
  | missingOperand operator => "operator '" ++ operator.symbol.toString ++ "' is missing an operand"
  | empty => "empty expression"
  | looseOperands count => Digits.text count ++ " operands are missing an operator"

/-- The error in words. -/
def ParseError.message : ParseError → String
  | malformed offset fault =>
    "parse error at offset " ++ Digits.text offset ++ ": " ++ fault.message
  | unknownOperator symbol offset =>
    "unknown operator '" ++ symbol.toString ++ "' at offset " ++ Digits.text offset
  | unbalanced offset => "unbalanced parenthesis at offset " ++ Digits.text offset

/-! ## Operands -/

/-- A finished part of the tree and the number of its levels. -/
structure Operand where
  formula : Formula
  height : Nat

namespace Operand

/-- A number or a name. -/
def leaf (f : Formula) : Operand :=
  ⟨f, 1⟩

/-- A tree one level higher than the highest of its children, if that is `limit` at most. -/
def above (limit : Nat) (f : Formula) (height offset : Nat) : Except ParseError Operand :=
  if limit < height + 1 then .error (.malformed offset (.tooDeep limit)) else .ok ⟨f, height + 1⟩

end Operand

/-- Applies an operator to the latest operands, which come first in the list. -/
def Operator.apply (limit : Nat) (op : Operator) (offset : Nat) (operands : List Operand) :
    Except ParseError (List Operand) :=
  match op, operands with
  | .factorial, x :: rest =>
    (Operand.above limit (.factorial x.formula) x.height offset).map (· :: rest)
  | .binary b, y :: x :: rest =>
    (Operand.above limit (.binary b x.formula y.formula) (max x.height y.height) offset).map
      (· :: rest)
  | op, _ => .error (.malformed offset (.missingOperand op))

/-! ## The state between two tokens -/

/-- What waits for operands that are still to come. -/
inductive Pending where
  | operator (operator : Operator) (offset : Nat)
  /-- An open bracket, and the number of operands before it. -/
  | bracket (offset before : Nat)
deriving DecidableEq, Repr

/-- Whether it is an open bracket. -/
def Pending.isBracket : Pending → Bool
  | operator _ _ => false
  | bracket _ _ => true

/-- What has been read so far; all lists have the latest entry first. -/
structure Parser where
  operands : List Operand
  pending : List Pending
  /-- For each open bracket the function that it calls, if it opens a call. -/
  calls : List (Option String)
  /-- Whether the last token is an identifier. -/
  afterIdentifier : Bool
  /-- Whether the last token ends an operand. -/
  afterOperand : Bool

namespace Parser

/-- Before the first token. -/
def start : Parser :=
  ⟨[], [], [], false, false⟩

/-- Applies the pending operators that bind at least as tightly as `level`, back to the innermost
open bracket. -/
def applyTighter (limit level : Nat) :
    List Pending → List Operand → Except ParseError (List Pending × List Operand)
  | .operator op offset :: pending, operands =>
    if op.precedence < level then .ok (.operator op offset :: pending, operands)
    else
      match op.apply limit offset operands with
      | .error e => .error e
      | .ok operands => applyTighter limit level pending operands
  | pending, operands => .ok (pending, operands)

/-- Applies the pending operators back to the innermost open bracket and drops that bracket; also
answers the number of operands before it. If none is open, that at `closing` is unbalanced. -/
def applyToBracket (limit closing : Nat) :
    List Pending → List Operand → Except ParseError (Nat × List Pending × List Operand)
  | .operator op offset :: pending, operands =>
    match op.apply limit offset operands with
    | .error e => .error e
    | .ok operands => applyToBracket limit closing pending operands
  | .bracket _ before :: pending, operands => .ok (before, pending, operands)
  | [], _ => .error (.unbalanced closing)

/-- Applies all pending operators; an open bracket has no partner. -/
def applyAll (limit : Nat) : List Pending → List Operand → Except ParseError (List Operand)
  | .operator op offset :: pending, operands =>
    match op.apply limit offset operands with
    | .error e => .error e
    | .ok operands => applyAll limit pending operands
  | .bracket offset _ :: _, _ => .error (.unbalanced offset)
  | [], operands => .ok operands

/-- A number or a name. -/
def operand (p : Parser) (offset : Nat) (f : Formula) (isIdentifier : Bool) :
    Except ParseError Parser :=
  if p.afterOperand then .error (.malformed offset .adjacentOperands)
  else
    .ok { p with
      operands := .leaf f :: p.operands
      afterIdentifier := isIdentifier
      afterOperand := true }

/-- A character that should be an operator. -/
def operator (limit : Nat) (p : Parser) (offset : Nat) (symbol : Char) :
    Except ParseError Parser :=
  match Operator.ofSymbol? symbol with
  | none => .error (.unknownOperator symbol offset)
  | some op =>
    if ¬ p.afterOperand then .error (.malformed offset (.missingLeft op))
    else
      match applyTighter limit op.precedence p.pending p.operands with
      | .error e => .error e
      | .ok (pending, operands) =>
        .ok { p with
          operands := operands
          pending := .operator op offset :: pending
          afterIdentifier := false
          afterOperand := op = .factorial }

/-- A bracket opens, with the function it calls if it opens a call. -/
def push (p : Parser) (offset : Nat) (call : Option String) (operands : List Operand) : Parser :=
  { operands := operands
    pending := .bracket offset operands.length :: p.pending
    calls := call :: p.calls
    afterIdentifier := false
    afterOperand := false }

/-- An opening bracket: it opens a call if it follows an identifier, which is then no operand but
the name of the function. -/
def opening (p : Parser) (offset : Nat) : Except ParseError Parser :=
  if p.afterIdentifier then
    match p.operands with
    | ⟨.named function, _⟩ :: operands => .ok (p.push offset (some function) operands)
    | _ => .error (.malformed offset .namelessCall)
  else if p.afterOperand then .error (.malformed offset .operandBeforeBracket)
  else .ok (p.push offset none p.operands)

/-- The operands after a bracket has been closed: the argument becomes a call if the bracket opened
one. -/
def close (limit offset : Nat) (call : Option String) (operands : List Operand) :
    Except ParseError (List Operand) :=
  match call, operands with
  | none, operands => .ok operands
  | some function, x :: rest =>
    (Operand.above limit (.call function x.formula) x.height offset).map (· :: rest)
  | some function, [] => .error (.malformed offset (.missingArgument function))

/-- A closing bracket. -/
def closing (limit : Nat) (p : Parser) (offset : Nat) : Except ParseError Parser :=
  if ¬ p.afterOperand ∧ p.pending.any Pending.isBracket then
    .error (.malformed offset .missingExpression)
  else
    match applyToBracket limit offset p.pending p.operands with
    | .error e => .error e
    | .ok (before, pending, operands) =>
      if operands.length ≠ before + 1 then .error (.malformed offset .crowdedBrackets)
      else
        match close limit offset (p.calls.head?.getD none) operands with
        | .error e => .error e
        | .ok operands =>
          .ok
            { operands := operands
              pending := pending
              calls := p.calls.tail
              afterIdentifier := false
              afterOperand := true }

/-- Takes in one token. -/
def step (limit : Nat) (p : Parser) (t : Token) : Except ParseError Parser :=
  match t.kind with
  | .number value => p.operand t.offset (.constant value) false
  | .identifier name => p.operand t.offset (.named name) true
  | .operator symbol => p.operator limit t.offset symbol
  | .opening => p.opening t.offset
  | .closing => p.closing limit t.offset

/-- The tree after the last token; `length` is the length of the formula in bytes. -/
def finish (limit : Nat) (p : Parser) (length : Nat) : Except ParseError Formula :=
  match applyAll limit p.pending p.operands with
  | .error e => .error e
  | .ok [] => .error (.malformed length .empty)
  | .ok [root] => .ok root.formula
  | .ok operands => .error (.malformed 0 (.looseOperands operands.length))

end Parser

namespace Formula

/-- Reads the tokens of a formula of `length` bytes. -/
def ofTokens (limit : Nat) (ts : List Token) (length : Nat) : Except ParseError Formula :=
  match ts.foldlM (Parser.step limit) Parser.start with
  | .error e => .error e
  | .ok p => p.finish limit length

/-- Reads a formula. -/
def parse (input : String) : Except ParseError Formula :=
  ofTokens maxHeight (tokens input) (byteCount input.toList)

end Formula

end Logbook
