import Tabular.Json.Table
import Tabular.Load.Source
import Tabular.Report.Preview

set_option autoImplicit false

/-! # Inspections

What is known of a loaded file: where it came from, how many cells of each kind its columns
hold, and its first rows. It is shown as a report or written as JSON.
-/

namespace Tabular

/-- The numbers of cells of each kind in a column. -/
structure ColumnSummary where
  name : String
  numeric : Nat
  text : Nat
  empty : Nat
deriving DecidableEq, Repr

namespace ColumnSummary

def ofColumn (t : Table) (name : String) : ColumnSummary :=
  let cells := t.map fun r => r.get name
  { name
    numeric := cells.countP fun | .number _ => true | _ => false
    text := cells.countP fun | .text _ => true | _ => false
    empty := cells.countP fun | .empty => true | _ => false }

def toJson (c : ColumnSummary) : Json :=
  .object [("name", .string c.name), ("numeric", .number (.whole c.numeric)),
    ("text", .number (.whole c.text)), ("empty", .number (.whole c.empty))]

def line (c : ColumnSummary) : Report.Line :=
  let count (n : Nat) (style : Report.Style) : Report.Span := { text := toString n, style }
  ["  ", { text := c.name, style := { colour := some .white }, width := 24 },
    " ", count c.numeric { colour := some .green }, " numeric, ",
    count c.text { colour := some .blue }, " text, ", count c.empty { dimmed := true }, " empty"]

end ColumnSummary

def Source.toJson (source : Source) (loadedAt : String) : Json :=
  .object [("file", .string source.file), ("path", .string source.path),
    ("hash", .string source.hash), ("size_bytes", .number (.whole source.size)),
    ("format", .string source.format.tag), ("rows", .number (.whole source.rows)),
    ("columns", .number (.whole source.columns)), ("loaded_at", .string loadedAt)]

structure Inspection where
  source : Source
  table : Table
  /-- The number of rows that are shown. -/
  rows : Nat

namespace Inspection

def columns (i : Inspection) : List ColumnSummary :=
  i.table.headers.map (ColumnSummary.ofColumn i.table)

def toJson (i : Inspection) (loadedAt : String) : Json :=
  .object [("source", i.source.toJson loadedAt),
    ("columns", .array (i.columns.map ColumnSummary.toJson)),
    ("preview", Table.toJson (i.table.take i.rows))]

def report (i : Inspection) : List Report.Line :=
  [[Report.activity "Inspecting", " ", Report.named i.source.file],
    ["  Format: " ++ i.source.format.name ++ "  Rows: ", Report.strong (toString i.source.rows),
      "  Columns: ", Report.strong (toString i.source.columns)],
    ["  Hash:   ", Report.faint i.source.hash],
    [],
    [Report.heading "Columns:"]]
  ++ i.columns.map ColumnSummary.line
  ++ [[], [Report.heading "Preview:"]]
  ++ Report.preview i.table i.rows

end Inspection

end Tabular
