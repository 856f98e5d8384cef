import Tabular.Error
import Tabular.Json.Value
import Tabular.Text.Case
import Tabular.Text.CharacterClass

set_option autoImplicit false

/-! # Views and outcomes

A session shows one of two tables: the one that is worked on, or the result of the last
analysis. What an operation of a session reports is its description, the view after it, the
numbers of rows before and after it, and what it added, removed or could not compute.
-/

namespace Tabular

/-! ## Views -/

/-- Which table is shown. -/
inductive View where
  | main
  | analysis
deriving DecidableEq, Repr

namespace View

def all : List View := [.main, .analysis]

def name : View → String
  | .main => "main"
  | .analysis => "analysis"

def ofExact? (name : String) : Option View := all.find? fun v => v.name = name

/-- The view of a name, in any case; the main one has two names. -/
def ofName? (name : String) : Except Error View :=
  match Text.lowered (Text.trimmed name) with
  | "main" | "working" => .ok .main
  | "analysis" => .ok .analysis
  | _ => .error (.unknownView name)

theorem ofExact?_name (v : View) : ofExact? v.name = some v := by
  cases v <;> rfl

end View

/-! ## Outcomes -/

/-- The report of an operation. -/
structure Outcome where
  description : String
  /-- The view after the operation. -/
  view : View
  /-- The number of rows that were read. -/
  rowsBefore : Nat
  /-- The number of rows that were made. -/
  rowsAfter : Nat
  columnsAdded : List String := []
  /-- The number of rows that were removed as duplicates. -/
  removed : Nat := 0
  /-- The number of rows that a formula had no value for. -/
  faults : Nat := 0
deriving DecidableEq

def Outcome.toJson (o : Outcome) : Json :=
  let count (n : Nat) : Json := .number (.whole n)
  .object ([("description", .string o.description), ("view", .string o.view.name),
      ("rows_before", count o.rowsBefore), ("rows_after", count o.rowsAfter)]
    ++ (if o.columnsAdded = [] then []
        else [("columns_added", .array (o.columnsAdded.map .string))])
    ++ [("removed", count o.removed), ("faults", count o.faults)])

end Tabular
