import Tabular.Error
import Tabular.Table
import Tabular.Text.Case

set_option autoImplicit false

/-! # Text formulas

A text formula applies a text function to the text of one column; `CONCAT` joins the texts of
several columns. `LEFT` and `RIGHT` take a count of characters, and a negative count means all
but so many for `RIGHT` and nothing for `LEFT`.
-/

namespace Tabular

inductive TextFunction where
  | trim
  | upper
  | lower
  | len
  | left
  | right
  | concat
deriving DecidableEq, Repr

namespace TextFunction

def all : List TextFunction := [.trim, .upper, .lower, .len, .left, .right, .concat]

def name : TextFunction → String
  | .trim => "TRIM"
  | .upper => "UPPER"
  | .lower => "LOWER"
  | .len => "LEN"
  | .left => "LEFT"
  | .right => "RIGHT"
  | .concat => "CONCAT"

def ofExact? (name : String) : Option TextFunction := all.find? fun f => f.name = name

def ofName? (name : String) : Except Error TextFunction :=
  match ofExact? (Text.uppered (Text.trimmed name)) with
  | some f => .ok f
  | none => .error (.unknownFunction name)

theorem ofExact?_name (f : TextFunction) : ofExact? f.name = some f := by
  cases f <;> rfl

end TextFunction

/-- Why a row has no value. -/
inductive FormulaFault where
  | noColumns
deriving DecidableEq, Repr

def FormulaFault.message : FormulaFault → String
  | .noColumns => "CONCAT needs at least one column"

structure TextFormula where
  function : TextFunction
  /-- The column of every function but `CONCAT`. -/
  column : String
  /-- The columns of `CONCAT`. -/
  columns : List String
  /-- The count of `LEFT` and `RIGHT`, as it is written. -/
  argument : Option String
deriving DecidableEq

/-- The first characters of a text; none for a negative count. -/
def Text.leftmost (count : Int) (s : List Char) : List Char := s.take count.toNat

/-- The last characters of a text; for a negative count all but so many at the start. -/
def Text.rightmost (count : Int) (s : List Char) : List Char :=
  if 0 ≤ count then s.drop (s.length - count.toNat) else s.drop count.natAbs

namespace TextFormula

/-- The count of `LEFT` and `RIGHT`: one, unless the argument is an integer other than zero. -/
def count (f : TextFormula) : Int :=
  match f.argument.bind fun s => integer? s.toList with
  | none => 1
  | some n => if n = 0 then 1 else n

def evaluate (f : TextFormula) (r : Record) : Except FormulaFault Cell :=
  let source := (r.text f.column).toList
  let text (s : List Char) : Except FormulaFault Cell := .ok (.text (String.ofList s))
  match f.function with
  | .trim => text (Text.trim source)
  | .upper => text (Text.upper source)
  | .lower => text (Text.lower source)
  | .len => .ok (.number (.ofNat source.length))
  | .left => text (Text.leftmost f.count source)
  | .right => text (Text.rightmost f.count source)
  | .concat =>
    if f.columns = [] then .error .noColumns
    else .ok (.text (String.join (f.columns.map r.text)))

def describe (f : TextFormula) : String :=
  let operands := match f.function with
    | .concat => f.columns
    | .left | .right => [f.column, f.argument.getD "1"]
    | _ => [f.column]
  f.function.name ++ "(" ++ ", ".intercalate operands ++ ")"

end TextFormula

end Tabular
