import Logbook.Text.Lowered

/-!
# Named functions and constants

The functions that a formula can call, each of one number, and the constants that it can name.

* `NamedFunction.ofName?` does not depend on the case of letters, `NamedConstant.ofName?` does.

Model of `UnaryFunction` and `NamedConstant` with `lookup`, `apply` and `value` of `tr-expr`.
-/

namespace Logbook

/-! ## Functions -/

/-- The functions that a formula can call. -/
inductive NamedFunction where
  | abs | round | floor | ceil | sign | exp | log | log10 | square | sqrt | cbrt
  | degrees | radians
  | sin | cos | tan | asin | acos | atan | sinh | cosh | tanh | asinh | acosh | atanh
deriving DecidableEq, Repr

namespace NamedFunction

/-- All functions. -/
def all : List NamedFunction :=
  [abs, round, floor, ceil, sign, exp, log, log10, square, sqrt, cbrt, degrees, radians,
    sin, cos, tan, asin, acos, atan, sinh, cosh, tanh, asinh, acosh, atanh]

/-- The name of a function. -/
def name : NamedFunction → String
  | abs => "abs"
  | round => "round"
  | floor => "floor"
  | ceil => "ceil"
  | sign => "sign"
  | exp => "exp"
  | log => "log"
  | log10 => "log10"
  | square => "square"
  | sqrt => "sqrt"
  | cbrt => "cbrt"
  | degrees => "degrees"
  | radians => "radians"
  | sin => "sin"
  | cos => "cos"
  | tan => "tan"
  | asin => "asin"
  | acos => "acos"
  | atan => "atan"
  | sinh => "sinh"
  | cosh => "cosh"
  | tanh => "tanh"
  | asinh => "asinh"
  | acosh => "acosh"
  | atanh => "atanh"

/-- Further names of a function. -/
def aliases : NamedFunction → List String
  | log => ["ln"]
  | degrees => ["todegrees"]
  | radians => ["toradians"]
  | _ => []

/-- The function of a name, in small or capital letters. -/
def ofName? (name : String) : Option NamedFunction :=
  all.find? fun f => (f.name :: f.aliases).contains (lowered name)

/-- The ratio of the circumference of a circle to its diameter. -/
def pi : Float := 3.141592653589793

/-- The value of a function. A half is rounded away from zero, and the sign of a zero, or of what is
no number, is that itself. -/
def apply (f : NamedFunction) (x : Float) : Float :=
  match f with
  | abs => x.abs
  | round => x.round
  | floor => x.floor
  | ceil => x.ceil
  | sign => if x == 0.0 || x.isNaN then x else if x < 0.0 then -1.0 else 1.0
  | exp => x.exp
  | log => x.log
  | log10 => x.log10
  | square => x * x
  | sqrt => x.sqrt
  | cbrt => x.cbrt
  | degrees => x * (180.0 / pi)
  | radians => x * (pi / 180.0)
  | sin => x.sin
  | cos => x.cos
  | tan => x.tan
  | asin => x.asin
  | acos => x.acos
  | atan => x.atan
  | sinh => x.sinh
  | cosh => x.cosh
  | tanh => x.tanh
  | asinh => x.asinh
  | acosh => x.acosh
  | atanh => x.atanh

end NamedFunction

/-! ## Constants -/

/-- The names that a formula can use without a variable of that name. -/
inductive NamedConstant where
  | pi
  | e
  /-- A number from 0 up to, but not including, 1, drawn anew for each row. -/
  | random
deriving DecidableEq, Repr

namespace NamedConstant

/-- The constant of a name. -/
def ofName? : String → Option NamedConstant
  | "PI" => some pi
  | "E" => some e
  | "RANDOM" => some random
  | _ => none

/-- The value of a constant, if it has a fixed one. -/
def value? : NamedConstant → Option Float
  | pi => some NamedFunction.pi
  | e => some 2.718281828459045
  | random => none

end NamedConstant

end Logbook
