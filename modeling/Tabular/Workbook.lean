import Std.Data.HashMap
import Tabular.Cell

set_option autoImplicit false

/-! # Workbooks

A workbook is a list of named sheets, and a sheet is what has been placed at its positions. Rows
and columns are counted from zero. Only what a cell means is kept, not how it looks; a date is a
number.

The cells of a sheet are placed row by row, and a reader sees the smallest rectangle around them
(`Sheet.grid`).
-/

namespace Tabular

/-- What is placed in a sheet. -/
inductive SheetCell where
  | number (x : Number)
  | text (s : String)
  | bool (b : Bool)
  /-- A date that is written as a text. -/
  | date (s : String)
deriving DecidableEq

def SheetCell.toCell : SheetCell → Cell
  | .number x => .number x
  | .text s => if s = "" then .empty else .text s
  | .date s => .text s
  | .bool true => .text "true"
  | .bool false => .text "false"

structure Placed where
  row : Nat
  column : Nat
  cell : SheetCell
deriving DecidableEq

structure Sheet where
  name : String
  placed : List Placed
deriving DecidableEq

structure Workbook where
  sheets : List Sheet
deriving DecidableEq

namespace Sheet

/-- The least and the greatest of some positions. -/
def span? : List Nat → Option (Nat × Nat)
  | [] => none
  | first :: rest => some (rest.foldl Nat.min first, rest.foldl Nat.max first)

/-- The cell of a table at a position; the last one placed there counts. -/
def cellAt (placed : List Placed) (row column : Nat) : Cell :=
  match placed.reverse.find? fun p => p.row = row ∧ p.column = column with
  | some p => p.cell.toCell
  | none => .empty

/-- What has been placed, by its position. -/
def index (placed : List Placed) : Std.HashMap (Nat × Nat) SheetCell :=
  placed.foldl (fun m p => m.insert (p.row, p.column) p.cell) ∅

/-- The rows of the first and of the last placed cell. -/
def ends? (placed : List Placed) : Option (Nat × Nat) :=
  match placed.head?, placed.getLast? with
  | some first, some last => some (first.row, last.row)
  | _, _ => none

/-- The rows from the first placed cell to the last one, with all columns in which something is
placed. -/
def grid (sheet : Sheet) : List (List Cell) :=
  match ends? sheet.placed, span? (sheet.placed.map Placed.column) with
  | some (top, bottom), some (left, right) =>
    let cells := index sheet.placed
    (List.range' top (bottom + 1 - top)).map fun row =>
      (List.range' left (right + 1 - left)).map fun column =>
        (cells[(row, column)]?).elim .empty SheetCell.toCell
  | _, _ => []

/-- The cells of rows that start at a position; `none` places nothing. -/
def placeRows (top left : Nat) (rows : List (List (Option SheetCell))) : List Placed :=
  (rows.zipIdx top).flatMap fun (row, r) =>
    (row.zipIdx left).filterMap fun (cell, c) => cell.map fun cell => ⟨r, c, cell⟩

theorem getElem?_foldl_insert (placed : List Placed) (m : Std.HashMap (Nat × Nat) SheetCell)
    (row column : Nat) :
    (placed.foldl (fun m p => m.insert (p.row, p.column) p.cell) m)[(row, column)]? =
      ((placed.reverse.find? fun p => p.row = row ∧ p.column = column).map Placed.cell).or
        m[(row, column)]? := by
  induction placed generalizing m with
  | nil => simp
  | cons p rest ih =>
    rw [List.foldl_cons, ih, Std.HashMap.getElem?_insert, List.reverse_cons, List.find?_append]
    by_cases h : p.row = row ∧ p.column = column
    · cases hf : rest.reverse.find? fun p => p.row = row ∧ p.column = column <;> simp [h]
    · have hp : ((p.row, p.column) == (row, column)) = false := by simpa using h
      cases hf : rest.reverse.find? fun p => p.row = row ∧ p.column = column <;> simp_all

/-- The index of what has been placed gives the cell at each position. -/
theorem elim_index (placed : List Placed) (row column : Nat) :
    ((index placed)[(row, column)]?).elim .empty SheetCell.toCell = cellAt placed row column := by
  rw [index, getElem?_foldl_insert, cellAt]
  cases placed.reverse.find? fun p => p.row = row ∧ p.column = column <;> simp

end Sheet

/-! ## Limits -/

def maxSheetRows : Nat := 1048576

def maxSheetColumns : Nat := 16384

/-- The number of characters of a text in a sheet. -/
def maxSheetText : Nat := 32767

/-- A placed cell lies on the sheet, and its text is not too long. -/
def Placed.fits (p : Placed) : Bool :=
  decide (p.row < maxSheetRows) && decide (p.column < maxSheetColumns) &&
    match p.cell with
    | .text s => decide (s.length ≤ maxSheetText)
    | _ => true

def Sheet.fits (sheet : Sheet) : Bool := sheet.placed.all Placed.fits

end Tabular
