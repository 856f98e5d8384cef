import Tabular.Formula.Logic
import Tabular.Formula.Numeric
import Tabular.Formula.Text
import Tabular.Json.Shape

set_option autoImplicit false

/-! # Formulas

A formula gives each row a new cell. It works in one of three modes, and only a text formula can
fail on a row; the row then has `errorMarker` in its new cell and the others are computed all the
same.

A formula is stored as an object with its mode under `mode` and the fields of the mode beside
it. Fields that are empty or absent in the formula are left out where the reader puts the same
back.
-/

namespace Tabular

/-- A formula in one of the three modes. -/
inductive Formula where
  | text (f : TextFormula)
  | numeric (f : NumericFormula)
  | logic (f : LogicFormula)
deriving DecidableEq

namespace Formula

/-- What a row without value has in its new cell. -/
def errorMarker : String := "#ERROR"

def mode : Formula → String
  | .text _ => "text"
  | .numeric _ => "numeric"
  | .logic _ => "logic"

def evaluate (f : Formula) (r : Record) : Except FormulaFault Cell :=
  match f with
  | .text f => f.evaluate r
  | .numeric f => .ok (f.evaluate r)
  | .logic f => .ok (f.evaluate r)

def describe : Formula → String
  | .text f => f.describe
  | .numeric f => f.describe
  | .logic f => f.describe

/-! ## Columns of formulas -/

def cellOf (f : Formula) (r : Record) : Cell :=
  match f.evaluate r with
  | .ok cell => cell
  | .error _ => .text errorMarker

def failsOn (f : Formula) (r : Record) : Bool := !(f.evaluate r).isOk

def faults (f : Formula) (t : Table) : Nat := (t.filter f.failsOn).length

/-- The name of the new column, which has to be more than blanks. -/
def columnName (name : String) : Except Error String :=
  let column := Text.trimmed name
  if column = "" then .error .emptyColumnName else .ok column

/-- A table with the new column on every row. -/
def addColumn (f : Formula) (t : Table) (column : String) : Table :=
  t.map fun r => r.put column (f.cellOf r)

theorem columnName_of_blank {name : String} (h : Text.trimmed name = "") :
    columnName name = .error .emptyColumnName := by
  simp [columnName, h]

theorem columnName_of_not_blank {name : String} (h : Text.trimmed name ≠ "") :
    columnName name = .ok (Text.trimmed name) := by
  simp [columnName, h]

end Formula

/-! ## Storing formulas -/

namespace TextFormula

/-- The members that a formula is stored as, after its mode. -/
def members (f : TextFormula) : List (String × Json) :=
  [("function", .string f.function.name), ("column", .string f.column)]
    ++ (if f.columns = [] then [] else [("columns", .array (f.columns.map .string))])
    ++ (f.argument.map fun s => ("argument", .string s)).toList

def ofJson? (j : Json) : Option TextFormula := do
  match ← j.fields? ["function", "column", "columns", "argument"] with
  | [function, column, columns, argument] =>
    some {
      function := ← Json.required (fun j => j.variant?.bind TextFunction.ofExact?) function
      column := ← Json.orElse Json.string? "" column
      columns := ← Json.orElse Json.strings? [] columns
      argument := ← Json.optional Json.string? argument }
  | _ => none

end TextFormula

namespace NumericFormula

def members (f : NumericFormula) : List (String × Json) :=
  [("function", .string f.function.name), ("column", .string f.column)]
    ++ (f.secondColumn.map fun s => ("second_column", .string s)).toList
    ++ (f.scalar.map fun s => ("scalar", .string s)).toList

def ofJson? (j : Json) : Option NumericFormula := do
  match ← j.fields? ["function", "column", "second_column", "scalar"] with
  | [function, column, secondColumn, scalar] =>
    some {
      function := ← Json.required (fun j => j.variant?.bind NumericFunction.ofExact?) function
      column := ← Json.required Json.string? column
      secondColumn := ← Json.optional Json.string? secondColumn
      scalar := ← Json.optional Json.string? scalar }
  | _ => none

end NumericFormula

namespace LogicFormula

def members (f : LogicFormula) : List (String × Json) :=
  [("column", .string f.column), ("operator", .string f.operator.symbol),
    ("check", .string f.check), ("then", .string f.whenTrue), ("else", .string f.whenFalse)]

def ofJson? (j : Json) : Option LogicFormula := do
  match ← j.fields? ["column", "operator", "check", "then", "else"] with
  | [column, operator, check, whenTrue, whenFalse] =>
    some {
      column := ← Json.required Json.string? column
      operator := ← Json.required (fun j => j.variant?.bind LogicOperator.ofExact?) operator
      check := ← Json.orElse Json.string? "" check
      whenTrue := ← Json.orElse Json.string? "" whenTrue
      whenFalse := ← Json.orElse Json.string? "" whenFalse }
  | _ => none

end LogicFormula

namespace Formula

def toJson (f : Formula) : Json :=
  .object (("mode", .string f.mode) :: match f with
    | .text f => f.members
    | .numeric f => f.members
    | .logic f => f.members)

/-- The formula of a mode and the value that holds its fields. Numeric formulas have a second
name. -/
def ofMode? (mode : String) (content : Json) : Option Formula :=
  match mode with
  | "text" => (TextFormula.ofJson? content).map .text
  | "numeric" | "math" => (NumericFormula.ofJson? content).map .numeric
  | "logic" => (LogicFormula.ofJson? content).map .logic
  | _ => none

def ofJson? (j : Json) : Option Formula := do
  match ← j.tagged? "mode" with
  | (.string mode, content) => ofMode? mode content
  | _ => none

/-- The formula of a value inside another one, where the mode may also be given by its position
among the modes. -/
def ofNested? (j : Json) : Option Formula := do
  match ← j.tagged? "mode" with
  | (.string mode, content) => ofMode? mode content
  | (.number (.whole i), content) => do
    let mode ← ["text", "numeric", "logic"][i.toNat]?
    if 0 ≤ i then ofMode? mode content else none
  | _ => none

end Formula

end Tabular
