import Tabular.Error
import Tabular.Table
import Tabular.Text.Case
import Tabular.Text.Quoted

set_option autoImplicit false

/-! # Conditional formulas

A conditional formula tests the text of one column and gives one of two texts. The order tests
hold only between texts that start with numbers.
-/

namespace Tabular

inductive LogicOperator where
  | equal
  | notEqual
  | greater
  | less
  | contains
deriving DecidableEq, Repr

namespace LogicOperator

def all : List LogicOperator := [.equal, .notEqual, .greater, .less, .contains]

def symbol : LogicOperator → String
  | .equal => "=="
  | .notEqual => "!="
  | .greater => ">"
  | .less => "<"
  | .contains => "contains"

def ofExact? (symbol : String) : Option LogicOperator := all.find? fun op => op.symbol = symbol

def ofName? (name : String) : Except Error LogicOperator :=
  match ofExact? (Text.lowered (Text.trimmed name)) with
  | some op => .ok op
  | none => .error (.unknownOperator name)

def compareNumbers (less : Number → Number → Bool) (cell check : String) : Bool :=
  match Number.ofText? cell, Number.ofText? check with
  | some x, some y => less x y
  | _, _ => false

/-- The test holds between the text of a cell and the text it is checked against. -/
def holds (op : LogicOperator) (cell check : String) : Bool :=
  match op with
  | .equal => cell = check
  | .notEqual => cell ≠ check
  | .greater => compareNumbers (fun x y => y.lt x) cell check
  | .less => compareNumbers Number.lt cell check
  | .contains => Text.occursIn check.toList cell.toList

theorem ofExact?_symbol (op : LogicOperator) : ofExact? op.symbol = some op := by
  cases op <;> rfl

end LogicOperator

structure LogicFormula where
  column : String
  operator : LogicOperator
  check : String
  whenTrue : String
  whenFalse : String
deriving DecidableEq

namespace LogicFormula

def evaluate (f : LogicFormula) (r : Record) : Cell :=
  .text (if f.operator.holds (r.text f.column) f.check then f.whenTrue else f.whenFalse)

def describe (f : LogicFormula) : String :=
  "IF(" ++ f.column ++ " " ++ f.operator.symbol ++ " " ++ Text.quoted f.check ++ ", "
    ++ Text.quoted f.whenTrue ++ ", " ++ Text.quoted f.whenFalse ++ ")"

end LogicFormula

end Tabular
