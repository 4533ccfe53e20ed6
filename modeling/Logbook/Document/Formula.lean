import Logbook.Document.Basic
import Logbook.Formula.Basic

/-!
# Formulas as documents

A formula is written as an object whose member `kind` says which node of the tree it is.

* `Formula.json` writes a formula.
* `Formula.ofDocument` reads one. The kind may stand anywhere in the object, so the whole document
  is kept first; what cannot be kept is refused (`Json.holds`).

Model of the JSON form of `Expr` of `tr-expr`.
-/

namespace Logbook

open Document

/-! ## Kinds of nodes -/

/-- The kinds of nodes, in the order in which they are counted. -/
inductive NodeKind where
  | constant | named | call
  | binary (operator : BinaryOperator)
  | factorial
deriving DecidableEq, Repr

namespace NodeKind

/-- All kinds. -/
def all : List NodeKind :=
  [constant, named, call, binary .sum, binary .subtraction, binary .product, binary .division,
    binary .modulo, factorial]

/-- The name of a kind. -/
def name : NodeKind → String
  | constant => "constant"
  | named => "variable"
  | call => "function"
  | binary .sum => "sum"
  | binary .subtraction => "subtraction"
  | binary .product => "product"
  | binary .division => "division"
  | binary .modulo => "modulo"
  | factorial => "factorial"

/-- The names of the fields of a node, in order. -/
def fields : NodeKind → List String
  | constant => ["value"]
  | named => ["name"]
  | call => ["name", "operand"]
  | binary _ => ["left", "right"]
  | factorial => ["operand"]

/-- The kind that a value names. Inside of another node, a kind may also be given by its number. -/
def ofJson? (nested : Bool) : Json → Option NodeKind
  | .text s => all.find? fun k => k.name == s
  | .number n =>
    if nested then
      match n.toInt? with
      | some i => if 0 ≤ i then all[i.toNat]? else none
      | none => none
    else none
  | _ => none

end NodeKind

/-! ## Writing -/

namespace Formula

/-- A node of a kind with the values of its fields. -/
def node (kind : NodeKind) (values : List Json) : Json :=
  .object (field "kind" (.text kind.name) :: List.zipWith field kind.fields values)

/-- A formula as a JSON value. -/
def json : Formula → Json
  | constant value => node .constant [writeFloat value]
  | named name => node .named [.text name]
  | call function operand => node .call [.text function, operand.json]
  | factorial operand => node .factorial [operand.json]
  | binary operator left right => node (.binary operator) [left.json, right.json]

/-! ## Reading -/

/-- A value of a field, and the formula that it is, if it is one. -/
structure Part where
  value : Json
  formula : Option Formula

/-- The value of a field that is given exactly once. -/
def onlyPart? (name : String) (members : List (Option String × Part)) : Option Part :=
  match members.filter fun m => m.1 == some name with
  | [m] => some m.2
  | _ => none

/-- The values of the fields of a node that is given as an object. -/
def partsOfMembers? (kind : NodeKind) (members : List (Option String × Part)) :
    Option (List Part) :=
  kind.fields.mapM fun name => onlyPart? name members

/-- The values of the fields of a node that is given as an array, without its kind. -/
def partsOfItems? (kind : NodeKind) (items : List Part) : Option (List Part) :=
  if items.length = kind.fields.length then some items else none

/-- The node of a kind with the values of its fields. -/
def ofParts? (kind : NodeKind) (parts : List Part) : Option Formula :=
  match kind, parts with
  | .constant, [⟨.number n, _⟩] => if n.toFloat.isFinite then some (constant n.toFloat) else none
  | .named, [⟨.text name, _⟩] => some (named name)
  | .call, [⟨.text function, _⟩, ⟨_, some operand⟩] => some (call function operand)
  | .factorial, [⟨_, some operand⟩] => some (factorial operand)
  | .binary operator, [⟨_, some left⟩, ⟨_, some right⟩] => some (binary operator left right)
  | _, _ => none

/-- The node given as an object. -/
def ofMembers? (nested : Bool) (members : List (Option String × Part)) : Option Formula := do
  let kind ← NodeKind.ofJson? nested (← onlyPart? "kind" members).value
  ofParts? kind (← partsOfMembers? kind members)

/-- The node given as an array that starts with its kind. -/
def ofItems? (nested : Bool) : List Part → Option Formula
  | [] => none
  | first :: rest => do
    let kind ← NodeKind.ofJson? nested first.value
    ofParts? kind (← partsOfItems? kind rest)

mutual

/-- The formula that a value is. -/
def ofJson? (nested : Bool) : Json → Option Formula
  | .object members => ofMembers? nested (memberParts members)
  | .array items => ofItems? nested (itemParts items)
  | _ => none

/-- The members of an object, each with the formula that it is. -/
def memberParts : List (Option String × Json) → List (Option String × Part)
  | [] => []
  | (name, v) :: rest => (name, ⟨v, ofJson? true v⟩) :: memberParts rest

/-- The items of an array, each with the formula that it is. -/
def itemParts : List Json → List Part
  | [] => []
  | v :: rest => ⟨v, ofJson? true v⟩ :: itemParts rest

end

/-- Reads a formula that can be kept. -/
def readJson (v : Json) : Except Fault Formula :=
  if v.holds Json.maxDepth then
    match ofJson? false v with
    | some f => .ok f
    | none => .error .malformed
  else .error .malformed

/-- Reads a document with a formula. -/
def ofDocument (input : String) : Except Fault Formula :=
  Document.parse readJson input

end Formula

end Logbook
