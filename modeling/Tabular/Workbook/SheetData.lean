import Tabular.Workbook
import Tabular.Workbook.Reference
import Tabular.Workbook.SharedText

set_option autoImplicit false

/-! # Cells of a sheet document

A sheet holds rows, and a row holds cells. A row or a cell may say where it is; without that it
comes after the one before it. The type of a cell says how its value is read, and the last thing
that a cell holds counts. A formula is not evaluated: its value stands beside it.
-/

namespace Tabular.Workbook

open Text Xml

/-! ## Values -/

/-- The values that a cell with an error can have. -/
def errorValues : List String :=
  ["#DIV/0!", "#N/A", "#NAME?", "#NULL!", "#NUM!", "#REF!", "#VALUE!"]

/-- The number of a shared text, which may have a plus sign. -/
def sharedNumber? (s : String) : Option Nat :=
  let digits := match s.toList with
    | '+' :: rest => rest
    | s => s
  if digits ≠ [] ∧ digits.all Char.isDigit then some (Number.digitsValue digits) else none

/-- The number of a text, or the text. -/
def numberOrText (s : String) : SheetCell :=
  match Number.ofNumeral? s.toList with
  | some x => .number x
  | none => .text s

/-- What a value of a type places in a sheet; a type that is not known or a value that does not
belong to it is refused. -/
def typed? (shared : Array String) (type : Option (List Symbol)) (s : String) :
    Option (Option SheetCell) :=
  match type.map textOf? with
  | none | some (some "str") => some (some (numberOrText s))
  | some (some "s") => do some (some (.text (← shared[← sharedNumber? s]?)))
  | some (some "b") => some (some (.bool (s ≠ "0")))
  | some (some "e") => if s ∈ errorValues then some (some (.text s)) else none
  | some (some "d") => some (some (.date s))
  | some (some "n") =>
    -- An empty number places nothing, where an empty text is one.
    if s = "" then some none else (Number.ofNumeral? s.toList).map fun x => some (.number x)
  | _ => none

/-! ## Cells -/

/-- Reads what an element inside a cell places, from behind its opening tag. -/
def readContent? (shared : Array String) (cell name : List Symbol) (events : List Event) :
    Option (Option SheetCell × List Event) := do
  if isLocal "is" name then
    let (s, rest) ← readText? name events
    some (s.map .text, rest)
  else if isLocal "v" name then
    let (s, rest) ← readTextUntil? name events
    some (← typed? shared (← valueOf? "t" (attributes cell)) s, rest)
  else if isLocal "f" name then
    some (none, ← afterElement? name 0 events)
  else none

/-- Reads what a cell places. The loop drops an event of its bound for each part that it reads. -/
def readCellWithin (shared : Array String) (cell : List Symbol) :
    (bound : List Event) → (value : Option SheetCell) → List Event →
      Option (Option SheetCell × List Event)
  | [], _, _ | _, _, [] | _, _, .fault :: _ => none
  | _ :: bound, value, .text _ :: rest => readCellWithin shared cell bound value rest
  | _ :: bound, value, .closing n :: rest =>
    if isLocal "c" n then some (value, rest) else readCellWithin shared cell bound value rest
  | _ :: bound, _, .opening n _ :: rest => do
    let (value, rest) ← readContent? shared cell n rest
    readCellWithin shared cell bound value rest

/-- The text of the reference in a tag, and `some none` when there is none. -/
def reference? (tag : List Symbol) : Option (Option (List Char)) := do
  match ← valueOf? "r" (attributes tag) with
  | some s => some (some (← s.mapM id))
  | none => some none

/-- Reads the cells of a sheet, from the place where the next one is. The loop drops an event of
its bound for each part that it reads. -/
def readCellsWithin (shared : Array String) :
    (bound : List Event) → (row column : Nat) → List Event → Option (List Placed)
  | [], _, _, _ | _, _, _, [] | _, _, _, .fault :: _ => none
  | _ :: bound, row, column, .text _ :: rest => readCellsWithin shared bound row column rest
  | _ :: bound, row, column, .closing n :: rest =>
    if isLocal "row" n then readCellsWithin shared bound (row + 1) 0 rest
    else if isLocal "sheetData" n then some []
    else readCellsWithin shared bound row column rest
  | _ :: bound, row, column, .opening n tag :: rest =>
    if isLocal "row" n then do
      let row ← match ← reference? tag with
        | some s => Reference.row? s
        | none => some row
      readCellsWithin shared bound row column rest
    else if isLocal "c" n then do
      let (cellRow, cellColumn) ← match ← reference? tag with
        | some s => Reference.position? s
        | none => some (row, column)
      let (value, rest) ← readCellWithin shared tag rest none rest
      -- The column of a reference goes on, its row is only that of the cell.
      let more ← readCellsWithin shared bound row (cellColumn + 1) rest
      some ((value.map fun c => ⟨cellRow, cellColumn, c⟩).toList ++ more)
    else readCellsWithin shared bound row column rest

/-! ## Sheets -/

/-- The extent that a sheet gives for itself can be read: one reference, or two with a colon
between them. -/
def isSoundExtent (tag : List Symbol) : Bool :=
  match valueOf? "ref" (attributes tag) with
  | some (some value) =>
    let corners := value.splitOn (some ':')
    decide (corners.length ≤ 2) &&
      corners.all fun corner => ((corner.mapM id).bind Reference.position?).isSome
  | _ => false

/-- Reads the cells of the document of a sheet. A document of elements that has no place for cells
has none; `met` says that an element has been met, the first one with a name that can be read. -/
def placed? (shared : Array String) (met : Bool) : List Event → Option (List Placed)
  | [] => if met then some [] else none
  | .fault :: _ => none
  | .text _ :: rest | .closing _ :: rest => placed? shared met rest
  | .opening n tag :: rest =>
    if isLocal "dimension" n then
      if isSoundExtent tag then placed? shared met rest else none
    else if isLocal "sheetData" n then readCellsWithin shared rest 0 0 rest
    else if met || (textOf? (localName n)).isSome then placed? shared true rest
    else none

end Tabular.Workbook
