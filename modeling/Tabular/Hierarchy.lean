import Tabular.Error
import Tabular.Table

set_option autoImplicit false

/-! # Hierarchy identifiers

The rows are numbered by a composite key: the texts of the chosen columns, joined by a bar. Rows
with the same key have the same number, and numbers are given in the order in which keys first
appear, from one.
-/

namespace Tabular.Hierarchy

def keyColumn : String := "UniqueKey"

def idColumn : String := "ID"

def compositeKey (columns : List String) (r : Record) : String :=
  "|".intercalate (columns.map r.text)

/-- A row with its key and number. -/
def mark (r : Record) (key : String) (id : Nat) : Record :=
  (r.put keyColumn (.text key)).put idColumn (.number (.ofNat id))

/-- The numbers that keys have, in the order in which the keys came. -/
abbrev Ids := List (String × Nat)

/-- The number of a key, and the numbers with it. A key that has none gets the next one. -/
def Ids.entry (ids : Ids) (key : String) (next : Nat) : Nat × Ids :=
  match ids.lookup key with
  | some id => (id, ids)
  | none => (next, ids ++ [(key, next)])

/-- Numbers rows, given the numbers that keys have already. -/
def number (columns : List String) : (ids : Ids) → List Record → List Record
  | _, [] => []
  | ids, r :: rest =>
    let key := compositeKey columns r
    let (id, ids) := ids.entry key (ids.length + 1)
    mark r key id :: number columns ids rest

def assign (columns : List String) (t : Table) : Except Error Table :=
  if columns = [] then .error .noColumnsSelected else .ok (number columns [] t)

theorem assign_of_ne_nil {columns : List String} (h : columns ≠ []) (t : Table) :
    assign columns t = .ok (number columns [] t) := by
  rw [assign, if_neg h]

end Tabular.Hierarchy
