import Tabular.Collation
import Tabular.Table

set_option autoImplicit false

/-! # Sorting

A table is sorted by one column. Two cells that stand for numbers are compared as numbers, and
by their texts otherwise; in a column of both kinds this is no total order. The sort is a merge
sort that splits the rows in the middle and takes from the right half only what is less.

How texts are compared is a parameter of the sort (`Table.sortBy`); `Table.sort` compares them by
`Collation.collate`.
-/

namespace Tabular

structure SortKey where
  number? : Option Number
  text : String
deriving DecidableEq

def Cell.sortKey (c : Cell) : SortKey := ⟨c.number?, c.toText⟩

/-- A way to compare texts. -/
abbrev Collate := List Char → List Char → Ordering

def SortKey.order (collate : Collate) (a b : SortKey) : Ordering :=
  match a.number?, b.number? with
  | some x, some y => x.order y
  | _, _ => collate a.text.toList b.text.toList

namespace Sorting

/-- Merges two lists. From the second one is taken only what is less than the first of the
other. -/
def merge {α : Type} (less : α → α → Bool) : List α → List α → List α
  | [], right => right
  | left, [] => left
  | a :: left, b :: right =>
    if less b a then b :: merge less (a :: left) right
    else a :: merge less left (b :: right)
termination_by left right => left.length + right.length

/-- Sorts by splitting in the middle. -/
def mergeSort {α : Type} (less : α → α → Bool) (items : List α) : List α :=
  if items.length ≤ 1 then items
  else
    let middle := items.length / 2
    merge less (mergeSort less (items.take middle)) (mergeSort less (items.drop middle))
termination_by items.length
decreasing_by all_goals simp only [List.length_take, List.length_drop]; omega

end Sorting

namespace Table

/-- The rows in ascending order of a column, texts compared by a collation. -/
def sortBy (collate : Collate) (t : Table) (column : String) : Table :=
  let keyed := t.map fun r => ((r.get column).sortKey, r)
  (Sorting.mergeSort (fun a b => a.1.order collate b.1 = .lt) keyed).map Prod.snd

def sort (t : Table) (column : String) : Table := t.sortBy Collation.collate column

end Table

end Tabular
