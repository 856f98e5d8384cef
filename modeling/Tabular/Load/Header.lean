import Tabular.Table
import Tabular.Text.CharacterClass

set_option autoImplicit false

/-! # Column names

The cells of a header row become the keys of every record. They are trimmed; a blank one is
named for its position, and a name that is taken already is followed by the first number that
makes it new. A record has one cell for each name, an empty one where its row is too short.
-/

namespace Tabular.Header

/-- The name of the column at a position, counted from one. -/
def numbered (position : Nat) : String := "column_" ++ toString position

/-- A name, or the name with a number. -/
def variant (base : String) (n : Nat) : String :=
  if n = 0 then base else base ++ "_" ++ toString n

/-- The first variant of a name that is not taken. Among one more variants than there are taken
names, one is new. -/
def fresh (taken : List String) (base : String) : String :=
  match (List.range (taken.length + 1)).find? fun n => !taken.contains (variant base n) with
  | some n => variant base n
  | none => base

/-- The name that a header cell asks for. -/
def wanted (position : Nat) (cell : String) : String :=
  let name := Text.trimmed cell
  if name = "" then numbered position else name

def namesAfter (taken : List String) : List String → List String
  | [] => taken
  | cell :: rest => namesAfter (taken ++ [fresh taken (wanted (taken.length + 1) cell)]) rest

def names (cells : List String) : List String := namesAfter [] cells

/-- The names of columns without header row. -/
def positions (width : Nat) : List String := (List.range width).map fun i => numbered (i + 1)

/-- The cells of a row under the names of the columns. -/
def pair : List String → List Cell → List (String × Cell)
  | [], _ => []
  | name :: names, [] => (name, .empty) :: pair names []
  | name :: names, cell :: cells => (name, cell) :: pair names cells

def record (names : List String) (cells : List Cell) : Record := Record.ofList (pair names cells)

theorem map_fst_pair (names : List String) (cells : List Cell) :
    (pair names cells).map Prod.fst = names := by
  induction names generalizing cells with
  | nil => rfl
  | cons name names ih => cases cells <;> simp [pair, ih]

end Tabular.Header
