import Tabular.Table

set_option autoImplicit false

/-! # Duplicates, unique values and transposition

Two rows are duplicates when they have the same identity: the texts of the cells under the
headers, joined by the unit separator. Of duplicates the first one is kept (`Table.dedupe`).

`Table.unique` lists the different values of a column; a number and its text are different, the two
zeros are the same, and NaNs are told apart by their bits. `Table.transpose` turns columns into records.
-/

namespace Tabular

/-! ## Duplicates -/

/-- The items whose key has not been seen before. -/
def firstsBy {α κ : Type} [DecidableEq κ] (key : α → κ) (seen : List κ) : List α → List α
  | [] => []
  | x :: rest =>
    if key x ∈ seen then firstsBy key seen rest
    else x :: firstsBy key (key x :: seen) rest

/-- The unit separator, which joins the texts of an identity. -/
def unitSeparator : String := "\x1f"

/-- What a row is compared by. -/
def Record.identity (r : Record) (headers : List String) : String :=
  unitSeparator.intercalate (headers.map r.text)

/-- The first row of each identity. -/
def Table.dedupe (t : Table) : Table := firstsBy (fun r => r.identity t.headers) [] t

/-- The number of rows that are removed. -/
def Table.duplicates (t : Table) : Nat := t.length - t.dedupe.length

theorem firstsBy_sublist {α κ : Type} [DecidableEq κ] (key : α → κ) (seen : List κ) (xs : List α) :
    (firstsBy key seen xs).Sublist xs := by
  induction xs generalizing seen with
  | nil => simp [firstsBy]
  | cons x rest ih =>
    unfold firstsBy
    split
    · exact (ih seen).cons x
    · exact (ih _).cons_cons x

theorem Table.dedupe_sublist (t : Table) : t.dedupe.Sublist t := firstsBy_sublist _ [] t

/-! ## Unique values and transposition -/

def uniqueColumn : String := "Unique Value"

def fieldColumn : String := "Field"

/-- The number of rows that are transposed when nothing else is asked for. -/
def defaultTransposeLimit : Nat := 50

/-- What the values of a column are told apart by: the bits of a number, or a text. -/
inductive RawKey where
  | empty
  | number (bits : Nat)
  | text (s : String)
deriving DecidableEq

/-- The key of a cell; the two zeros have the bits of the positive one. -/
def Cell.raw : Cell → RawKey
  | .empty => .empty
  | .number x => .number (if x.isZero then Number.zero.bits else x.bits)
  | .text s => .text s

namespace Table

/-- The different values of a column, each as it first appears. -/
def unique (t : Table) (column : String) : Table :=
  (firstsBy Cell.raw [] (t.map fun r => r.get column)).map fun c => Record.empty.put uniqueColumn c

/-- The column of a row in a transposed table; rows are counted from one. -/
def rowColumn (i : Nat) : String := "Row_" ++ toString i

/-- The record of a column: its header, and the cells of the rows. -/
def columnRecord (rows : Table) (header : String) : Record :=
  (rows.zipIdx 1).foldl (fun r (row, i) => r.put (rowColumn i) (row.get header))
    (Record.empty.put fieldColumn (.text header))

/-- One record for each header, with the cells of the first rows. -/
def transpose (t : Table) (headers : List String) (limit : Nat) : Table :=
  headers.map (columnRecord (t.take limit))

end Table

end Tabular
