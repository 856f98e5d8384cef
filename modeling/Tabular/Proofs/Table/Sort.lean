import Mathlib.Data.List.Basic
import Tabular.Sort

set_option autoImplicit false

/-! # Sorting keeps the rows

Whatever the comparison says, a merge has the items of both lists and a sort those of its list,
each as often as before. A table is sorted by keys that are worked out once for each row; that
gives the same as sorting the rows by a comparison of their keys (`Table.sortBy_eq_mergeSort`).
-/

namespace Tabular

namespace Sorting

/-! ## Merging and sorting -/

section Perm

variable {α : Type} (less : α → α → Bool)

theorem merge_perm (left right : List α) : (merge less left right).Perm (left ++ right) := by
  fun_induction merge less left right with
  | case1 right => exact .refl _
  | case2 left => simp
  | case3 a left b right h ih =>
      -- The first item of the right half comes in front of the whole left half.
      exact (ih.cons b).trans List.perm_middle.symm
  | case4 a left b right h ih => exact ih.cons a

theorem mergeSort_perm (items : List α) : (mergeSort less items).Perm items := by
  fun_induction mergeSort less items with
  | case1 items h => exact .refl _
  | case2 items h middle left right =>
      have hm := merge_perm less (mergeSort less (items.take middle))
        (mergeSort less (items.drop middle))
      have hh := left.append right
      rw [List.take_append_drop] at hh
      exact hm.trans hh

end Perm

/-! ## Items with keys -/

variable {α β : Type} (less : β → β → Bool) (f : α → β)

theorem map_merge (left right : List α) :
    (merge (fun a b => less (f a) (f b)) left right).map f =
      merge less (left.map f) (right.map f) := by
  fun_induction merge (fun a b => less (f a) (f b)) left right with
  | case1 right => simp [merge]
  | case2 left => cases left <;> simp [merge]
  | case3 a left b right h ih => simp only [List.map_cons, ih, merge, if_pos h]
  | case4 a left b right h ih => simp only [List.map_cons, ih, merge, if_neg h]

theorem map_mergeSort (items : List α) :
    (mergeSort (fun a b => less (f a) (f b)) items).map f = mergeSort less (items.map f) := by
  fun_induction mergeSort (fun a b => less (f a) (f b)) items with
  | case1 items h =>
      rw [mergeSort, if_pos (by simpa using h)]
  | case2 items h middle left right =>
      have hl : ¬ (items.map f).length ≤ 1 := by simpa using h
      rw [map_merge, left, right, mergeSort.eq_def less (items.map f), if_neg hl,
        List.length_map, List.map_take, List.map_drop]

end Sorting

/-! ## Tables -/

namespace Table

/-- What the rows of a table are sorted by. -/
def rowLess (collate : Collate) (column : String) (r r' : Record) : Bool :=
  (r.get column).sortKey.order collate (r'.get column).sortKey = .lt

theorem sortBy_eq_mergeSort (collate : Collate) (t : Table) (column : String) :
    t.sortBy collate column = Sorting.mergeSort (rowLess collate column) t := by
  have h := Sorting.map_mergeSort (fun a b : SortKey × Record => a.1.order collate b.1 = .lt)
    (fun r : Record => ((r.get column).sortKey, r)) t
  rw [sortBy, ← h, List.map_map]
  exact List.map_id _

/-- Rows that keep their cell in the column may be changed before or after the sort, whatever the
order is. -/
theorem sortBy_map (collate : Collate) {column : String} {row : Record → Record}
    (h : ∀ r, (row r).get column = r.get column) (t : Table) :
    sortBy collate (t.map row) column = (t.sortBy collate column).map row := by
  have hless : (fun r s => rowLess collate column (row r) (row s)) = rowLess collate column := by
    funext r s
    rw [rowLess, rowLess, h, h]
  rw [sortBy_eq_mergeSort, sortBy_eq_mergeSort, ← Sorting.map_mergeSort, hless]

theorem sortBy_perm (collate : Collate) (t : Table) (column : String) :
    (t.sortBy collate column).Perm t := by
  rw [sortBy_eq_mergeSort]
  exact Sorting.mergeSort_perm _ t

theorem sort_perm (t : Table) (column : String) : (t.sort column).Perm t :=
  t.sortBy_perm Collation.collate column

end Table

end Tabular
