import Tabular.Error
import Tabular.Number.Arithmetic
import Tabular.Number.Whole
import Tabular.Table
import Tabular.Text.Case

set_option autoImplicit false

/-! # Numeric formulas

A numeric formula rounds the number of a column or computes with it and a second number, which
comes from another column or from a literal. What stands for no number counts as zero, and
division by zero gives zero.
-/

namespace Tabular

inductive NumericFunction where
  | round
  | ceil
  | floor
  | abs
  | add
  | sub
  | mult
  | div
deriving DecidableEq, Repr

namespace NumericFunction

def all : List NumericFunction := [.round, .ceil, .floor, .abs, .add, .sub, .mult, .div]

def name : NumericFunction → String
  | .round => "ROUND"
  | .ceil => "CEIL"
  | .floor => "FLOOR"
  | .abs => "ABS"
  | .add => "ADD"
  | .sub => "SUB"
  | .mult => "MULT"
  | .div => "DIV"

def ofExact? (name : String) : Option NumericFunction := all.find? fun f => f.name = name

/-- The function of a name or of its long form, in any case. -/
def ofName? (name : String) : Except Error NumericFunction :=
  match Text.uppered (Text.trimmed name) with
  | "CEILING" => .ok .ceil
  | "SUBTRACT" => .ok .sub
  | "MULTIPLY" => .ok .mult
  | "DIVIDE" => .ok .div
  | upper => match ofExact? upper with
    | some f => .ok f
    | none => .error (.unknownFunction name)

def isBinary : NumericFunction → Bool
  | .add | .sub | .mult | .div => true
  | .round | .ceil | .floor | .abs => false

/-- The result for two numbers, of which a function with one operand looks at the first. -/
def apply (f : NumericFunction) (x y : Number) : Number :=
  match f with
  | .round => x.round
  | .ceil => x.ceil
  | .floor => x.floor
  | .abs => x.abs
  | .add => x.add y
  | .sub => x.sub y
  | .mult => x.mul y
  | .div => if y.isZero then .zero else x.div y

theorem ofExact?_name (f : NumericFunction) : ofExact? f.name = some f := by
  cases f <;> rfl

end NumericFunction

structure NumericFormula where
  function : NumericFunction
  column : String
  /-- The column of the second operand, unless it is empty. -/
  secondColumn : Option String
  /-- The second operand when there is no second column. -/
  scalar : Option String
deriving DecidableEq

namespace NumericFormula

def second? (f : NumericFormula) : Option String := f.secondColumn.filter (· ≠ "")

def firstOperand (f : NumericFormula) (r : Record) : Number := (r.get f.column).number?.getD .zero

def secondOperand (f : NumericFormula) (r : Record) : Number :=
  let operand := match f.second? with
    | some column => (r.get column).number?
    | none => f.scalar.bind Number.ofText?
  operand.getD .zero

def evaluate (f : NumericFormula) (r : Record) : Cell :=
  .number (f.function.apply (f.firstOperand r) (f.secondOperand r))

def describe (f : NumericFormula) : String :=
  let operands := if f.function.isBinary then
      [f.column, (f.second?.or f.scalar).getD "0"]
    else [f.column]
  f.function.name ++ "(" ++ ", ".intercalate operands ++ ")"

end NumericFormula

end Tabular
