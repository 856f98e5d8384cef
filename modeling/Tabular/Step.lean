import Tabular.Json.Tagged
import Tabular.Session

set_option autoImplicit false

/-! # Steps

A step is an operation of a session that can be written down and repeated. It is stored as an
object with the name of the operation under `op` and the operands beside it.
-/

namespace Tabular

/-- An operation with its operands. -/
inductive Step where
  | filter (column : String) (op : FilterOperator) (value : String)
  | sort (column : String)
  | dedupe
  | hierarchy (columns : List String)
  | formula (name : String) (f : Formula)
  | aggregate (group value : String) (f : AggregateFunction)
  | unique (column : String)
  | transpose
  | reset
  | view (v : View)
deriving DecidableEq

namespace Step

def tag : Step → String
  | .filter .. => "filter"
  | .sort _ => "sort"
  | .dedupe => "dedupe"
  | .hierarchy _ => "hierarchy"
  | .formula .. => "formula"
  | .aggregate .. => "aggregate"
  | .unique _ => "unique"
  | .transpose => "transpose"
  | .reset => "reset"
  | .view _ => "view"

def tags : List String :=
  ["filter", "sort", "dedupe", "hierarchy", "formula", "aggregate", "unique", "transpose",
    "reset", "view"]

def describe : Step → String
  | .filter column op value =>
    "Keep rows where '" ++ column ++ "' " ++ op.name ++ " '" ++ value ++ "'"
  | .sort column => "Sort ascending by '" ++ column ++ "'"
  | .dedupe => "Remove duplicate rows"
  | .hierarchy columns => "Assign hierarchy IDs on " ++ " > ".intercalate columns
  | .formula name f => name ++ " = " ++ f.describe
  | .aggregate group value function =>
    function.name ++ " of '" ++ value ++ "' grouped by '" ++ group ++ "'"
  | .unique column => "Unique values of '" ++ column ++ "'"
  | .transpose => "Transpose the first rows"
  | .reset => "Reset to loaded data"
  | .view v => "Show the " ++ v.name ++ " view"

def apply (step : Step) (s : Session) : Session.Result :=
  match step with
  | .filter column op value => s.filter column op value
  | .sort column => s.sort column
  | .dedupe => s.dedupe
  | .hierarchy columns => s.assignHierarchy columns
  | .formula name f => s.applyFormula f name
  | .aggregate group value function => s.aggregate group value function
  | .unique column => s.unique column
  | .transpose => s.transpose
  | .reset => s.reset
  | .view v => s.setView v

/-! ## Storing steps -/

/-- The members that a step is stored as, after its tag. -/
def members : Step → List (String × Json)
  | .filter column op value =>
    [("column", .string column), ("operator", .string op.name), ("value", .string value)]
  | .sort column | .unique column => [("column", .string column)]
  | .hierarchy columns => [("columns", .array (columns.map .string))]
  | .formula name f => [("name", .string name), ("formula", f.toJson)]
  | .aggregate group value function =>
    [("group", .string group), ("value", .string value), ("function", .string function.name)]
  | .view v => [("view", .string v.name)]
  | .dedupe | .transpose | .reset => []

def toJson (step : Step) : Json := .object (("op", .string step.tag) :: step.members)

/-- A step without operands, which anything but an array with items may stand for. -/
def bare? (step : Step) : Json → Option Step
  | .object _ | .array [] => some step
  | _ => none

/-- The step of a tag and a value that holds its operands. -/
def ofTag? (tag : String) (content : Json) : Option Step :=
  match tag with
  | "filter" => do
    match ← content.fields? ["column", "operator", "value"] with
    | [column, op, value] =>
      some (.filter (← Json.required Json.string? column)
        (.ofName (← Json.required Json.string? op)) (← Json.orElse Json.string? "" value))
    | _ => none
  | "sort" => do
    match ← content.fields? ["column"] with
    | [column] => some (.sort (← Json.required Json.string? column))
    | _ => none
  | "dedupe" => bare? .dedupe content
  | "hierarchy" => do
    match ← content.fields? ["columns"] with
    | [columns] => some (.hierarchy (← Json.required Json.strings? columns))
    | _ => none
  | "formula" => do
    match ← content.fields? ["name", "formula"] with
    | [name, f] =>
      some (.formula (← Json.required Json.string? name) (← Json.required Formula.ofNested? f))
    | _ => none
  | "aggregate" => do
    match ← content.fields? ["group", "value", "function"] with
    | [group, value, function] =>
      some (.aggregate (← Json.required Json.string? group) (← Json.required Json.string? value)
        (← Json.required (fun j => j.variant?.bind AggregateFunction.ofExact?) function))
    | _ => none
  | "unique" => do
    match ← content.fields? ["column"] with
    | [column] => some (.unique (← Json.required Json.string? column))
    | _ => none
  | "transpose" => bare? .transpose content
  | "reset" => bare? .reset content
  | "view" => do
    match ← content.fields? ["view"] with
    | [v] => some (.view (← Json.required (fun j => j.variant?.bind View.ofExact?) v))
    | _ => none
  | _ => none

def ofJson? (j : Json) : Option Step := do
  match ← j.tagged? "op" with
  | (.string tag, content) => ofTag? tag content
  | _ => none

/-- Reads a step. Its operands are decoded when it has been read as a whole. -/
def read (depth : Nat) (s : Json.Input) : Except Json.Fault (Step × Json.Input) := do
  let ((tag, content), rest) ← Json.readTagged "op" tags.contains depth s
  match ofTag? tag content with
  | some step => .ok (step, rest)
  | none => .error .shape

theorem tag_mem_tags (step : Step) : step.tag ∈ tags := by
  cases step <;> simp [tag, tags]

end Step

end Tabular
