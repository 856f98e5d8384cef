import Tabular.Table
import Tabular.Text.Case

set_option autoImplicit false

/-! # Filtering

A filter keeps the rows whose cell holds a text, whatever the case of either. An operator of an
unknown name keeps every row.
-/

namespace Tabular

/-- How a cell has to hold the text. -/
inductive FilterOperator where
  | contains
  | equals
  | startsWith
  | endsWith
  | unrecognized (name : String)
deriving DecidableEq, Repr

namespace FilterOperator

def ofName (name : String) : FilterOperator :=
  match Text.lowered (Text.trimmed name) with
  | "contains" => .contains
  | "equals" => .equals
  | "startswith" | "starts-with" | "starts_with" | "starts" => .startsWith
  | "endswith" | "ends-with" | "ends_with" | "ends" => .endsWith
  | _ => .unrecognized name

def name : FilterOperator → String
  | .contains => "contains"
  | .equals => "equals"
  | .startsWith => "starts-with"
  | .endsWith => "ends-with"
  | .unrecognized name => name

/-- The operator holds between a cell's text and the text it is asked for. -/
def holds (op : FilterOperator) (cell value : List Char) : Bool :=
  match op with
  | .contains => Text.occursIn value cell
  | .equals => cell == value
  | .startsWith => Text.startsWith value cell
  | .endsWith => Text.endsWith value cell
  | .unrecognized _ => true

end FilterOperator

def Record.passes (r : Record) (column : String) (op : FilterOperator) (value : String) : Bool :=
  op.holds (Text.lower (r.text column).toList) (Text.lower value.toList)

/-- The rows that pass a filter. -/
def Table.filterRows (t : Table) (column : String) (op : FilterOperator) (value : String) : Table :=
  t.filter fun r => r.passes column op value

theorem Table.mem_filterRows {t : Table} {column value : String} {op : FilterOperator}
    {r : Record} :
    r ∈ t.filterRows column op value ↔ r ∈ t ∧ r.passes column op value = true := by
  simp [Table.filterRows]

end Tabular
