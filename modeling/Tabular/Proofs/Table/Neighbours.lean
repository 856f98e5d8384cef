import Mathlib.Data.List.Chain
import Tabular.Proofs.Table.Sort

set_option autoImplicit false

/-! # Neighbours in a sorted table

A column of numbers and of other texts has no total order, so a merge of two lists cannot put
every two items in order. It still never leaves an item in front of a neighbour that is less
(`settled_mergeSort`): a merge takes each item where it has just been compared with the item
before it, or where the two were neighbours already. All that is asked of the comparison is that
no two items are less than each other.

For a table this is asked of the collation alone: on the texts of the column, the order of two
texts is the reverse of their order the other way round (`sortBy_perm_and_neighbours`).
-/

namespace Tabular

namespace Sorting

variable {α : Type} {less : α → α → Bool}

/-- No item is less than the one before it. -/
abbrev Settled (less : α → α → Bool) (items : List α) : Prop :=
  items.IsChain fun a b => less b a = false

/-- An item that may stand in front of both lists may stand in front of their merge. -/
theorem settled_cons_merge {first : α} {left right : List α}
    (asymm : ∀ a ∈ left, ∀ b ∈ right, less b a = true → less a b = false)
    (hl : Settled less (first :: left)) (hr : Settled less (first :: right)) :
    Settled less (first :: merge less left right) := by
  fun_induction merge less left right generalizing first with
  | case1 right => exact hr
  | case2 left => exact hl
  | case3 a left b right h ih =>
      -- The item from the right comes next, and `a` waits behind it.
      have hb : less a b = false := asymm a (by simp) b (by simp) h
      have ha : Settled less (b :: a :: left) := .cons_cons hb hl.tail
      have hm := ih (fun x hx y hy => asymm x hx y (by simp [hy])) ha hr.tail
      exact .cons_cons hr.rel hm
  | case4 a left b right h ih =>
      have hb : Settled less (a :: b :: right) := .cons_cons (by simpa using h) hr.tail
      have hm := ih (fun x hx y hy => asymm x (by simp [hx]) y hy) hl.tail hb
      exact .cons_cons hl.rel hm

theorem settled_merge {left right : List α}
    (asymm : ∀ a ∈ left, ∀ b ∈ right, less b a = true → less a b = false)
    (hl : Settled less left) (hr : Settled less right) : Settled less (merge less left right) := by
  fun_cases merge less left right with
  | case1 right => exact hr
  | case2 left => exact hl
  | case3 a left b right h =>
      have hb : less a b = false := asymm a (by simp) b (by simp) h
      exact settled_cons_merge (fun x hx y hy => asymm x hx y (by simp [hy]))
        (.cons_cons hb hl) hr
  | case4 a left b right h =>
      exact settled_cons_merge (fun x hx y hy => asymm x (by simp [hx]) y hy) hl
        (.cons_cons (by simpa using h) hr)

theorem settled_mergeSort {items : List α}
    (asymm : ∀ a ∈ items, ∀ b ∈ items, less b a = true → less a b = false) :
    Settled less (mergeSort less items) := by
  fun_induction mergeSort less items with
  | case1 items h =>
      obtain rfl | ⟨a, rfl⟩ : items = [] ∨ ∃ a, items = [a] := by
        cases items with
        | nil => exact .inl rfl
        | cons a rest => exact .inr ⟨a, by simpa using h⟩
      · exact .nil
      · exact .singleton a
  | case2 items h middle left right =>
      have ht : ∀ a ∈ mergeSort less (items.take middle), a ∈ items := fun a ha =>
        List.mem_of_mem_take ((mergeSort_perm less _).subset ha)
      have hd : ∀ a ∈ mergeSort less (items.drop middle), a ∈ items := fun a ha =>
        List.mem_of_mem_drop ((mergeSort_perm less _).subset ha)
      exact settled_merge (fun a ha b hb => asymm a (ht a ha) b (hd b hb))
        (left fun a ha b hb => asymm a (List.mem_of_mem_take ha) b (List.mem_of_mem_take hb))
        (right fun a ha b hb => asymm a (List.mem_of_mem_drop ha) b (List.mem_of_mem_drop hb))

end Sorting

/-! ## Keys -/

/-- On these texts, the order of two texts is the reverse of their order the other way round. -/
def Collate.AntisymmetricOn (collate : Collate) (texts : List String) : Prop :=
  ∀ s ∈ texts, ∀ s' ∈ texts, collate s.toList s'.toList = (collate s'.toList s.toList).swap

/-- Numbers reverse by themselves; a number and a text are compared as texts. -/
theorem SortKey.order_swap {collate : Collate} {a b : SortKey}
    (h : collate a.text.toList b.text.toList = (collate b.text.toList a.text.toList).swap) :
    a.order collate b = (b.order collate a).swap := by
  obtain ⟨number, text⟩ := a
  obtain ⟨number', text'⟩ := b
  cases number with
  | none => cases number' <;> exact h
  | some x =>
      cases number' with
      | none => exact h
      | some y => exact (Number.order_swap y x).symm

/-! ## Tables -/

namespace Table

theorem rowLess_asymm {collate : Collate} {t : Table} {column : String}
    (h : collate.AntisymmetricOn (t.columnText column)) :
    ∀ r ∈ t, ∀ r' ∈ t, rowLess collate column r' r = true → rowLess collate column r r' = false := by
  intro r hr r' hr' hless
  have hswap : (r.get column).sortKey.order collate (r'.get column).sortKey =
      ((r'.get column).sortKey.order collate (r.get column).sortKey).swap :=
    SortKey.order_swap (h _ (List.mem_map_of_mem hr) _ (List.mem_map_of_mem hr'))
  have hlt : (r'.get column).sortKey.order collate (r.get column).sortKey = .lt := by
    simpa [rowLess] using hless
  simp [rowLess, hswap, hlt]

/-- A sorted table has the rows of the table, each as often as before. No row in it is less than
the row before it, if only the collation reverses on the texts of the column: it need not be
transitive, and neither is the order of the rows in a column of numbers and of other texts. -/
theorem sortBy_perm_and_neighbours (t : Table) (column : String) :
    (t.sort column).Perm t ∧
    ∀ collate : Collate, (t.sortBy collate column).Perm t ∧
      (collate.AntisymmetricOn (t.columnText column) →
        (t.sortBy collate column).IsChain fun r r' =>
          (r'.get column).sortKey.order collate (r.get column).sortKey ≠ .lt) := by
  refine ⟨t.sort_perm column, fun collate => ⟨t.sortBy_perm collate column, fun h => ?_⟩⟩
  rw [sortBy_eq_mergeSort]
  refine (Sorting.settled_mergeSort (rowLess_asymm h)).imp fun r r' hr => ?_
  simpa [rowLess] using hr

/-- The order of the rows goes round: `(4` is less than `9` and `10` is less than `(4` as texts,
and `9` is less than `10` as numbers. -/
theorem neighbours_of_mixed_column :
    let t : Table := ["10", "(4", "", "9", "-1"].map fun s => Record.empty.put "k" (Cell.infer s)
    let less (s s' : String) : Prop :=
      (Cell.infer s).sortKey.order Collation.collate (Cell.infer s').sortKey = .lt
    (less "10" "(4" ∧ less "(4" "9" ∧ less "9" "10") ∧
      Collate.AntisymmetricOn Collation.collate (t.columnText "k") ∧
      (t.sort "k").IsChain fun r r' =>
        (r'.get "k").sortKey.order Collation.collate (r.get "k").sortKey ≠ .lt := by
  intro t less
  have h : Collate.AntisymmetricOn Collation.collate (t.columnText "k") := by
    unfold Collate.AntisymmetricOn
    decide +kernel
  exact ⟨by decide +kernel, h, ((sortBy_perm_and_neighbours t "k").2 Collation.collate).2 h⟩

/-- Not all texts are like that: of `C` and `c-` each is less than the other. -/
example :
    Collation.collate ['C'] ['c', '-'] = .lt ∧ Collation.collate ['c', '-'] ['C'] = .lt := by
  decide +kernel

end Table

end Tabular
