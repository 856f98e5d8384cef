import Tabular.Json.Reader
import Tabular.Json.Shape
import Tabular.Json.Writer
import Tabular.Table

set_option autoImplicit false

/-! # Tables in JSON

A table is an array of objects whose members are cells. It is read in two ways. A *stored* table
(`Table.ofStored`) has exactly the three kinds of cells: `null`, numbers and strings. A *foreign*
array of objects (`Table.ofForeign`) may hold anything: empty strings become empty cells, and
booleans and containers the text they are written with.
-/

namespace Tabular

namespace Cell

def toJson : Cell → Json
  | .empty => .null
  | .number x => .number (.decimal x)
  | .text s => .string s

def ofStored? : Json → Option Cell
  | .null => some .empty
  | .number n => some (.number n.toNumber)
  | .string s => some (.text s)
  | _ => none

def ofForeign : Json → Cell
  | .null => .empty
  | .number n => .number n.toNumber
  | .string s => if s = "" then .empty else .text s
  | .bool true => .text "true"
  | .bool false => .text "false"
  | j => .text j.merged.compactText

def readStored (depth : Nat) (s : Json.Input) : Except Json.Fault (Cell × Json.Input) := do
  let (j, rest) ← Json.readValue depth s
  match ofStored? j with
  | some cell => .ok (cell, rest)
  | none => .error .shape

def readForeign (depth : Nat) (s : Json.Input) : Except Json.Fault (Cell × Json.Input) := do
  let (j, rest) ← Json.readValue depth s
  .ok (ofForeign j, rest)

end Cell

namespace Record

def toJson (r : Record) : Json := .object (r.cells.map fun p => (p.1, p.2.toJson))

/-- Reads an object as a record, its values with `cell`. -/
def read (cell : Nat → Json.Input → Except Json.Fault (Cell × Json.Input)) (depth : Nat)
    (s : Json.Input) : Except Json.Fault (Record × Json.Input) :=
  let member := fun depth key (r : Record) s => do
    let rest ← Json.readColon s
    let (c, rest) ← cell depth rest
    .ok (r.put key c, rest)
  Json.readObject depth member Record.empty s

end Record

namespace Table

def toJson (t : Table) : Json := .array (t.map Record.toJson)

def ofStored (s : Json.Input) : Except Json.Fault Table :=
  Json.whole (Json.readArray Json.maxDepth (Record.read Cell.readStored)) s

def ofForeign (s : Json.Input) : Except Json.Fault Table :=
  Json.whole (Json.readArray Json.maxDepth (Record.read Cell.readForeign)) s

end Table

end Tabular
