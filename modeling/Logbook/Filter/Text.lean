import Logbook.Filter.Basic
import Logbook.Number.FloatText
import Logbook.Number.Parameter
import Logbook.Text.Blank
import Logbook.Text.Pieces
import Logbook.Text.Quoted

/-!
# Filters as text

The text of a filter is its name, and after a colon the number that it is given.

* `Filter.text` writes a filter and `Filter.read` reads one.
* The constructors that check their argument are `Filter.rolling` and `Filter.threshold`.

Model of `fmt` and `from_str` of `Filter` with `single_arg`, `count_arg` and `no_args`, of the
constructors `rolling_average`, `rolling_min`, `rolling_max`, `rolling_sd` and `binary_threshold`,
and of `FilterError` of `tr-filter`.
-/

namespace Logbook

/-! ## Errors -/

/-- Why a text is no filter. -/
inductive FilterError where
  | unknownFilter (name : String)
  /-- A filter is given too many or too few arguments. -/
  | arity (filter : String) (expected actual : Nat)
  /-- The argument is no natural number below `2 ^ 64`. -/
  | noCount (filter raw : String)
  /-- The argument is no number. -/
  | noNumber (filter raw : String)
  /-- The window of a rolling filter is smaller than two. -/
  | smallWindow (size : UInt64)
  /-- The threshold is a double that is no number. -/
  | missingThreshold
deriving DecidableEq, Repr

namespace FilterError

/-- The message of an argument that does not suit. -/
def invalidMessage (filter reason : String) : String :=
  "invalid parameter for " ++ filter ++ ": " ++ reason

/-- The error in words. -/
def message : FilterError → String
  | unknownFilter name => "unknown filter: " ++ name
  | arity filter expected actual =>
    "filter " ++ filter ++ " expects " ++ Digits.text expected ++ " argument(s), got " ++
      Digits.text actual
  | noCount filter raw =>
    invalidMessage filter ("expected a non-negative integer, got " ++ quoted raw)
  | noNumber filter raw => invalidMessage filter ("expected a number, got " ++ quoted raw)
  | smallWindow size =>
    invalidMessage "Rolling" ("window size must be > 1, got " ++ Digits.text size.toNat)
  | missingThreshold => invalidMessage "BinaryThreshold" "threshold must be a number"

end FilterError

/-! ## Checked construction -/

/-- The window of a size, unless that is smaller than two. -/
def WindowSize.ofSize (size : UInt64) : Except FilterError WindowSize :=
  if h : 2 ≤ size.toNat then .ok ⟨size, h⟩ else .error (.smallWindow size)

namespace Filter

/-- A rolling filter with a window of the size. -/
def rolling {α : Type} (filter : WindowSize → Filter α) (size : UInt64) :
    Except FilterError (Filter α) :=
  (WindowSize.ofSize size).map filter

/-- The threshold filter, unless the threshold is no number. -/
def threshold (x : Float) : Except FilterError (Filter Float) :=
  if x.isNaN then .error .missingThreshold else .ok (binaryThreshold x)

/-! ## Writing -/

/-- The name of a filter. -/
def name {α : Type} : Filter α → String
  | rollingAverage _ => "RollingAverage"
  | rollingMin _ => "RollingMin"
  | rollingMax _ => "RollingMax"
  | rollingDeviation _ => "RollingStandardDeviation"
  | lag _ => "Lag"
  | lead _ => "Lead"
  | cumulativeSum => "CumulativeSum"
  | difference => "Difference"
  | minMaxNormalization => "MinMaxNormalization"
  | zScoreNormalization => "ZScoreNormalization"
  | binaryThreshold _ => "BinaryThreshold"
  | sin => "Sin"
  | cos => "Cos"

/-- The argument of a filter, if it has one. -/
def argument? : Filter Float → Option String
  | rollingAverage window | rollingMin window | rollingMax window | rollingDeviation window =>
    some (Digits.text window.size.toNat)
  | lag positions | lead positions => some (Digits.text positions.toNat)
  | binaryThreshold threshold => some (FloatStyle.plain.text threshold)
  | _ => none

/-- The text of a filter. -/
def text (f : Filter Float) : String :=
  match f.argument? with
  | some argument => f.name ++ ":" ++ argument
  | none => f.name

/-! ## Reading -/

/-- The only argument of a filter. -/
def singleArgument (filter : String) : List (List Char) → Except FilterError (List Char)
  | [argument] => .ok argument
  | arguments => .error (.arity filter 1 arguments.length)

/-- The only argument of a filter as a natural number. -/
def countArgument (filter : String) (arguments : List (List Char)) : Except FilterError UInt64 :=
  match singleArgument filter arguments with
  | .error e => .error e
  | .ok raw =>
    match readWord? raw with
    | some n => .ok n
    | none => .error (.noCount filter (String.ofList raw))

/-- A rolling filter whose window is its only argument. -/
def readRolling (filter : WindowSize → Filter Float) (name : String)
    (arguments : List (List Char)) : Except FilterError (Filter Float) :=
  match countArgument name arguments with
  | .error e => .error e
  | .ok size => rolling filter size

/-- The threshold filter with its only argument. -/
def readThreshold (arguments : List (List Char)) : Except FilterError (Filter Float) :=
  match singleArgument "BinaryThreshold" arguments with
  | .error e => .error e
  | .ok raw =>
    match readFloat? raw with
    | some x => threshold x
    | none => .error (.noNumber "BinaryThreshold" (String.ofList raw))

/-- A filter without arguments. -/
def readPlain (filter : Filter Float) (arguments : List (List Char)) :
    Except FilterError (Filter Float) :=
  if arguments.isEmpty then .ok filter else .error (.arity filter.name 0 arguments.length)

/-- The filter of a name with its arguments. -/
def ofParts (name : String) (arguments : List (List Char)) : Except FilterError (Filter Float) :=
  match name with
  | "RollingAverage" => readRolling rollingAverage "RollingAverage" arguments
  | "RollingMin" => readRolling rollingMin "RollingMin" arguments
  | "RollingMax" => readRolling rollingMax "RollingMax" arguments
  | "RollingStandardDeviation" | "RollingSd" =>
    readRolling rollingDeviation "RollingStandardDeviation" arguments
  | "Lag" => (countArgument "Lag" arguments).map lag
  | "Lead" => (countArgument "Lead" arguments).map lead
  | "CumulativeSum" => readPlain cumulativeSum arguments
  | "Difference" => readPlain difference arguments
  | "MinMaxNormalization" => readPlain minMaxNormalization arguments
  | "ZScoreNormalization" | "ZScore" => readPlain zScoreNormalization arguments
  | "BinaryThreshold" => readThreshold arguments
  | "Sin" => readPlain sin arguments
  | "Cos" => readPlain cos arguments
  | name => .error (.unknownFilter name)

/-- Reads a filter. Blanks may stand around the text and around each argument. -/
def read (input : String) : Except FilterError (Filter Float) :=
  let (name, arguments) := pieces ':' (trim input.toList)
  ofParts (String.ofList name) (arguments.map trim)

end Filter

end Logbook
