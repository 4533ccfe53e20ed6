import Logbook.Number.FloatText

/-!
# Formulas

A formula is a tree of numbers, names, calls of named functions, factorials and binary operators.

* `Formula.text` is its canonical form, in which every operator is written out with its operands in
  brackets.
* `Formula.names` lists the names that the formula reads.

Model of `Expr` with `variables` and `fmt` of `tr-expr`.
-/

namespace Logbook

/-- The operators between two operands. -/
inductive BinaryOperator where
  | sum | subtraction | product | division | modulo
deriving DecidableEq, Repr

/-- The operator's name in the canonical form. -/
def BinaryOperator.label : BinaryOperator → String
  | sum => "Sum"
  | subtraction => "Sub"
  | product => "Mul"
  | division => "Div"
  | modulo => "Mod"

/-- The tree of a formula. -/
inductive Formula where
  | constant (value : Float)
  | named (name : String)
  /-- The named function of the operand. -/
  | call (function : String) (operand : Formula)
  | factorial (operand : Formula)
  | binary (operator : BinaryOperator) (left right : Formula)

namespace Formula

/-- The number of levels of the tree. -/
def height : Formula → Nat
  | constant _ => 1
  | named _ => 1
  | call _ operand => operand.height + 1
  | factorial operand => operand.height + 1
  | binary _ left right => max left.height right.height + 1

/-- The canonical form, in which the tree can be read off. -/
def chars : Formula → List Char
  | constant value => "Const[".toList ++ (FloatStyle.canonical.text value).toList ++ [']']
  | named name => "Var[".toList ++ name.toList ++ [']']
  | call function operand =>
    "Fn[".toList ++ function.toList ++ [',', ' '] ++ operand.chars ++ [']']
  | factorial operand => "Fact[".toList ++ operand.chars ++ [']']
  | binary operator left right =>
    operator.label.toList ++ '[' :: left.chars ++ [',', ' '] ++ right.chars ++ [']']

/-- The canonical form as a string. -/
def text (f : Formula) : String :=
  String.ofList f.chars

/-- The names in `seen`, and after them those that the formula adds, from left to right. -/
def namesAfter (seen : List String) : Formula → List String
  | constant _ => seen
  | named name => if seen.contains name then seen else seen ++ [name]
  | call _ operand => operand.namesAfter seen
  | factorial operand => operand.namesAfter seen
  | binary _ left right => right.namesAfter (left.namesAfter seen)

/-- The names that the formula reads, each once, in the order in which they first occur. -/
def names (f : Formula) : List String :=
  f.namesAfter []

end Formula

end Logbook
