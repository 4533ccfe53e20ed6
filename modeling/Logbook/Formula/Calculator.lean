import Logbook.Formula.Function
import Logbook.Formula.Parser
import Logbook.Number.Binary
import Logbook.Number.Sampler

/-!
# Evaluating formulas

A formula is evaluated for all rows of a report at once: every name stands for one number per row,
and every operator works row by row.

* `Calculator` is what evaluations share: the number of rows, a table of factorials that grows as it
  is used, and a source of random numbers.
* `Formula.evaluate` evaluates a formula. Names are looked up through a function that may have
  effects of its own, so that a caller can observe what is asked for.

Model of `Calculator` with `new`, `evaluate`, `variable`, `binary` and `factorial`, of `Resolver`,
of `eval_str` and of `ExprError` of `tr-expr`.
-/

namespace Logbook

/-! ## Errors -/

/-- Why a formula has no values. -/
inductive FormulaError where
  | parse (cause : ParseError)
  | unknownFunction (name : String)
  | unknownVariable (name : String)
  /-- A name stands for `actual` numbers, but there are `expected` rows. -/
  | lengthMismatch (name : String) (expected actual : Nat)
  /-- The lookup of a name failed. -/
  | unresolved (name reason : String)
deriving DecidableEq, Repr

/-- The error in words. -/
def FormulaError.message : FormulaError → String
  | parse cause => cause.message
  | unknownFunction name => "unknown function: " ++ name
  | unknownVariable name => "unknown variable: " ++ name
  | lengthMismatch name expected actual =>
    "variable " ++ name ++ " resolved to " ++ Digits.text actual ++ " values, expected " ++
      Digits.text expected
  | unresolved name reason => "failed to resolve variable " ++ name ++ ": " ++ reason

/-! ## The calculator -/

/-- What evaluations share. -/
structure Calculator where
  rows : Nat
  /-- The factorials of 0, 1, 2 and so on, as far as they have been needed. -/
  factorials : Array Float
  sampler : Sampler

namespace Calculator

/-- A calculator for a number of rows. -/
def initial (rows : Nat) (sampler : Sampler) : Calculator :=
  ⟨rows, #[1.0], sampler⟩

/-- The greatest number whose factorial is finite. -/
def maxFactorial : Nat := 170

/-- The table of factorials after `steps` more entries. -/
def extend (table : Array Float) : (steps : Nat) → Array Float
  | 0 => table
  | steps + 1 => extend (table.push (table.back?.getD 1.0 * Float.ofNat table.size)) steps

/-- The factorial of the whole part of `x`. It is no number if `x` is none or negative, and infinite
beyond the greatest finite one. -/
def factorial (c : Calculator) (x : Float) : Float × Calculator :=
  if x.isNaN || x < 0.0 then (0.0 / 0.0, c)
  else
    let n := x.toUInt64.toNat
    if maxFactorial < n then (1.0 / 0.0, c)
    else
      let table := extend c.factorials (n + 1 - c.factorials.size)
      ((table[n]?).getD (0.0 / 0.0), { c with factorials := table })

/-- The factorials of a list of numbers. -/
def factorialsOf : List Float → Calculator → List Float × Calculator
  | [], c => ([], c)
  | x :: rest, c =>
    let (y, c) := c.factorial x
    let (ys, c) := factorialsOf rest c
    (y :: ys, c)

end Calculator

/-! ## Evaluation -/

/-- The operator on two numbers. -/
def BinaryOperator.apply : BinaryOperator → Float → Float → Float
  | sum => (· + ·)
  | subtraction => (· - ·)
  | product => (· * ·)
  | division => (· / ·)
  | modulo => remainder

/-- A lookup of names: it fails with a reason, knows nothing of the name, or gives its numbers. -/
abbrev Lookup (m : Type → Type) := String → m (Except String (Option (List Float)))

/-- A computation that may fail and uses a calculator, on top of the effects of a lookup. What the
calculator has learned is kept when the computation fails. -/
abbrev Evaluation (m : Type → Type) := ExceptT FormulaError (StateT Calculator m)

namespace Formula

variable {m : Type → Type} [Monad m]

/-- The numbers of a constant, one for each row. -/
def constantValues (c : NamedConstant) : Evaluation m (List Float) := do
  let calculator ← get
  match c.value? with
  | some x => return List.replicate calculator.rows x
  | none =>
    let (xs, sampler) := calculator.sampler.take calculator.rows
    set { calculator with sampler := sampler }
    return xs

/-- The numbers of a name. Constants come before what the lookup knows, and the lookup has to give
one number for each row. -/
def namedValues (lookup : Lookup m) (name : String) : Evaluation m (List Float) := do
  match NamedConstant.ofName? name with
  | some c => constantValues c
  | none =>
    let answer ← ExceptT.lift (StateT.lift (lookup name))
    match answer with
    | .error reason => throw (.unresolved name reason)
    | .ok none => throw (.unknownVariable name)
    | .ok (some xs) =>
      let rows := (← get).rows
      if xs.length = rows then return xs else throw (.lengthMismatch name rows xs.length)

/-- The numbers of a formula, one for each row. A function has to be known before its operand is
evaluated, and the left operand comes before the right one. -/
def evaluate (lookup : Lookup m) : Formula → Evaluation m (List Float)
  | constant value => do return List.replicate (← get).rows value
  | named name => namedValues lookup name
  | call function operand => do
    match NamedFunction.ofName? function with
    | none => throw (.unknownFunction function)
    | some f => return (← evaluate lookup operand).map f.apply
  | factorial operand => do
    let xs ← evaluate lookup operand
    modifyGet (Calculator.factorialsOf xs)
  | binary operator left right => do
    let xs ← evaluate lookup left
    let ys ← evaluate lookup right
    return List.zipWith operator.apply xs ys

/-- Reads a formula and evaluates it. -/
def evaluateText (lookup : Lookup m) (input : String) : Evaluation m (List Float) :=
  match parse input with
  | .error e => throw (.parse e)
  | .ok f => f.evaluate lookup

/-- The outcome of an evaluation and the calculator after it. -/
def runWith {α : Type} (c : Calculator) (e : Evaluation m α) :
    m (Except FormulaError α × Calculator) :=
  StateT.run (ExceptT.run e) c

end Formula

end Logbook
