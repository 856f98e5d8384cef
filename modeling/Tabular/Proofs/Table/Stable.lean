import Tabular.Proofs.Table.Ordered

set_option autoImplicit false

/-! # Rows that keep their order

The merge sort takes from the right half only what is less than the first item of the left half.
That keeps an item behind those of its kind as long as all that waits in front of them is not
above the item. In a column of numbers and of other texts this can fail: the order may go round
(`Sorting.OnCycle`), and then an item passes one that stands above it and, with that, an item of
its own kind further back.

Items off every cycle keep their order (`Sorting.filter_mergeSort`), and an item on a cycle loses
it in some list (`Sorting.mergeSort_of_cycle`), so that the cells whose rows keep their order in
every table are the cells off every cycle (`Table.sortBy_keeps_rows_iff`).
-/

namespace Tabular

namespace Sorting

variable {α : Type} {less : α → α → Bool}

/-! ## Cycles -/

/-- The order goes round at `x`: it is less than an item `p`, which is not after an item `q`,
which is not after `x`. -/
def OnCycle (less : α → α → Bool) (items : List α) (x : α) : Prop :=
  ∃ p ∈ items, ∃ q ∈ items, less x p = true ∧ less q p = false ∧ less x q = false

instance (items : List α) (x : α) : Decidable (OnCycle less items x) :=
  inferInstanceAs (Decidable (∃ p ∈ items, ∃ q ∈ items,
    less x p = true ∧ less q p = false ∧ less x q = false))

theorem OnCycle.mono {items more : List α} {x : α} (h : OnCycle less items x)
    (hs : items ⊆ more) : OnCycle less more x := by
  obtain ⟨p, hp, q, hq, hcycle⟩ := h
  exact ⟨p, hs hp, q, hs hq, hcycle⟩

/-- Off every cycle, what is less than the first of a list of settled items is less than all. -/
theorem less_of_settled {x first : α} {rest : List α}
    (hx : ¬ OnCycle less (first :: rest) x) (hs : Settled less (first :: rest))
    (hfirst : less x first = true) : ∀ y ∈ first :: rest, less x y = true := by
  induction rest generalizing first with
  | nil => simpa using hfirst
  | cons next rest ih =>
      have hnext : less x next = true := by
        by_contra h
        exact hx ⟨first, by simp, next, by simp, hfirst, hs.rel, by simpa using h⟩
      intro y hy
      rcases List.mem_cons.mp hy with rfl | hy
      · exact hfirst
      · exact ih (fun h => hx (h.mono (List.subset_cons_self first _))) hs.tail hnext y hy

/-! ## Selected items -/

/-- What lets selected items keep their order: no two items are less than each other, selected
ones are not less than each other at all, and the order goes round at none of them. -/
structure Steady (less : α → α → Bool) (selected : α → Bool) (items : List α) : Prop where
  asymm : ∀ a ∈ items, ∀ b ∈ items, less b a = true → less a b = false
  tied : ∀ a ∈ items, ∀ b ∈ items, selected a = true → selected b = true → less a b = false
  offCycle : ∀ a ∈ items, selected a = true → ¬ OnCycle less items a

theorem Steady.mono {selected : α → Bool} {items part : List α}
    (h : Steady less selected items) (hs : part ⊆ items) : Steady less selected part where
  asymm a ha b hb := h.asymm a (hs ha) b (hs hb)
  tied a ha b hb := h.tied a (hs ha) b (hs hb)
  offCycle a ha hsel hc := h.offCycle a (hs ha) hsel (hc.mono hs)

theorem filter_merge {selected : α → Bool} {left right : List α}
    (h : Steady less selected (left ++ right)) (hl : Settled less left) :
    (merge less left right).filter selected =
      left.filter selected ++ right.filter selected := by
  fun_induction merge less left right with
  | case1 right => simp
  | case2 left => simp
  | case3 a left b right hless ih =>
      have hsub : a :: left ++ right ⊆ a :: left ++ b :: right :=
        ((List.sublist_cons_self b right).append_left (a :: left)).subset
      have ih := ih (h.mono hsub) hl
      -- Only this case can change the order: `b` goes in front of all that is left of the other
      -- half.
      by_cases hb : selected b = true
      · -- `b` passes the whole left half. It is less than all of it, so nothing there is selected.
        have hoff : ¬ OnCycle less (a :: left) b := fun hc =>
          h.offCycle b (by simp) hb (hc.mono (List.subset_append_left _ _))
        have hnone : (a :: left).filter selected = [] := by
          rw [List.filter_eq_nil_iff]
          intro y hy hsel
          have htied := h.tied b (by simp) y (List.mem_append_left _ hy) hb hsel
          rw [less_of_settled hoff hl hless y hy] at htied
          exact absurd htied (by simp)
        rw [List.filter_cons_of_pos hb, List.filter_cons_of_pos hb, ih, hnone]
        rfl
      · rw [List.filter_cons_of_neg hb, List.filter_cons_of_neg hb, ih]
  | case4 a left b right hless ih =>
      have ih := ih (h.mono (by simp)) hl.tail
      rw [List.filter_cons, List.filter_cons, ih]
      split <;> simp

/-- The selected items of a sorted list are those of the list, in the same order. -/
theorem filter_mergeSort {selected : α → Bool} {items : List α}
    (h : Steady less selected items) :
    (mergeSort less items).filter selected = items.filter selected := by
  fun_induction mergeSort less items with
  | case1 items hlen => rfl
  | case2 items hlen middle left right =>
      have ht : items.take middle ⊆ items := List.take_subset _ _
      have hd : items.drop middle ⊆ items := List.drop_subset _ _
      have hs : Settled less (mergeSort less (items.take middle)) :=
        settled_mergeSort (h.mono ht).asymm
      have hparts : mergeSort less (items.take middle) ++ mergeSort less (items.drop middle) ⊆
          items := by
        intro a ha
        rcases List.mem_append.mp ha with ha | ha
        · exact ht ((mergeSort_perm less _).subset ha)
        · exact hd ((mergeSort_perm less _).subset ha)
      rw [filter_merge (h.mono hparts) hs, left (h.mono ht), right (h.mono hd),
        ← List.filter_append, List.take_append_drop]

/-- On a cycle the order is lost: `y`, which is like `x`, is less than `p` and passes it. -/
theorem mergeSort_of_cycle {p q x y : α} (hp : less y p = true) (hq : less q p = false)
    (hx : less x q = false) (hy : less y y = false) :
    mergeSort less [p, q, x, y, y, y] = [y, y, y, p, q, x] := by
  simp [mergeSort, merge, hp, hq, hx, hy]

end Sorting

/-! ## Tables -/

namespace Table

/-- The rows with the cell that `r` has in a column. -/
abbrev rowsLike (t : Table) (column : String) (r : Record) : Table :=
  t.filter fun s => s.get column = r.get column

theorem rowLess_congr {collate : Collate} {column : String} {r r' s s' : Record}
    (hr : r.get column = r'.get column) (hs : s.get column = s'.get column) :
    rowLess collate column r s = rowLess collate column r' s' := by
  rw [rowLess, rowLess, hr, hs]

theorem rowLess_self {collate : Collate} {t : Table} {column : String} {r : Record}
    (h : collate.AntisymmetricOn (t.columnText column)) (hr : r ∈ t) :
    rowLess collate column r r = false := by
  by_contra hless
  have hless : rowLess collate column r r = true := by simpa using hless
  exact absurd (rowLess_asymm h r hr r hr hless) (by simp [hless])

/-- The cells of a column are among those of another table's column. -/
def CellsAmong (column : String) (u t : Table) : Prop :=
  ∀ s ∈ u, ∃ s' ∈ t, s.get column = s'.get column

theorem CellsAmong.antisymmetricOn {collate : Collate} {column : String} {u t : Table}
    (hu : CellsAmong column u t) (h : collate.AntisymmetricOn (t.columnText column)) :
    collate.AntisymmetricOn (u.columnText column) := by
  have hsub : ∀ x ∈ u.columnText column, x ∈ t.columnText column := by
    intro x hx
    obtain ⟨s, hs, rfl⟩ := List.mem_map.mp hx
    obtain ⟨s', hs', hcell⟩ := hu s hs
    exact List.mem_map.mpr ⟨s', hs', congrArg Cell.toText hcell.symm⟩
  exact fun x hx y hy => h x (hsub x hx) y (hsub y hy)

theorem CellsAmong.onCycle {collate : Collate} {column : String} {u t : Table}
    (hu : CellsAmong column u t) {r r' : Record} (hr : r.get column = r'.get column)
    (h : Sorting.OnCycle (rowLess collate column) u r) :
    Sorting.OnCycle (rowLess collate column) t r' := by
  obtain ⟨p, hp, q, hq, hless, hpq, hqr⟩ := h
  obtain ⟨p', hp', hpcell⟩ := hu p hp
  obtain ⟨q', hq', hqcell⟩ := hu q hq
  rw [rowLess_congr hr hpcell] at hless
  rw [rowLess_congr hqcell hpcell] at hpq
  rw [rowLess_congr hr hqcell] at hqr
  exact ⟨p', hp', q', hq', hless, hpq, hqr⟩

theorem rowsLike_sortBy {collate : Collate} {t : Table} {column : String} {r : Record}
    (h : collate.AntisymmetricOn (t.columnText column))
    (hr : ¬ Sorting.OnCycle (rowLess collate column) t r) :
    (t.sortBy collate column).rowsLike column r = t.rowsLike column r := by
  rw [sortBy_eq_mergeSort]
  refine Sorting.filter_mergeSort ⟨rowLess_asymm h, ?_, ?_⟩
  · intro a ha b _ hsa hsb
    have hcells : a.get column = b.get column :=
      (of_decide_eq_true hsa).trans (of_decide_eq_true hsb).symm
    rw [← rowLess_congr rfl hcells]
    exact rowLess_self h ha
  · intro a _ hsa hc
    have hself : CellsAmong column t t := fun s hs => ⟨s, hs, rfl⟩
    exact hr (hself.onCycle (of_decide_eq_true hsa) hc)

/-- Two rows with the same cell. -/
theorem exists_twins (column : String) (c : Cell) :
    ∃ a b : Record, a ≠ b ∧ a.get column = c ∧ b.get column = c := by
  refine ⟨Record.empty.put column c, (Record.empty.put (column ++ "_") .empty).put column c,
    ?_, Record.get_put_self _ _ _, Record.get_put_self _ _ _⟩
  intro h
  have hne : column ≠ column ++ "_" := fun he => by simpa using congrArg String.length he
  have hkeys := congrArg Record.keys h
  simp [Record.keys_put, hne] at hkeys

theorem get_ne_of_rowLess {collate : Collate} {t : Table} {column : String} {r s : Record}
    (h : collate.AntisymmetricOn (t.columnText column)) (hr : r ∈ t)
    (hless : rowLess collate column r s = true) : s.get column ≠ r.get column := by
  intro hcells
  rw [rowLess_congr rfl hcells, rowLess_self h hr] at hless
  cases hless

/-- Where the order goes round at a cell, some table with the cells of the column loses the order
of the rows with that cell. -/
theorem exists_rowsLike_ne {collate : Collate} {t : Table} {column : String} {r : Record}
    (h : collate.AntisymmetricOn (t.columnText column)) (hr : r ∈ t)
    (hc : Sorting.OnCycle (rowLess collate column) t r) :
    ∃ u : Table, CellsAmong column u t ∧
      (u.sortBy collate column).rowsLike column r ≠ u.rowsLike column r := by
  obtain ⟨p, hp, q, hq, hless, hpq, hqr⟩ := hc
  obtain ⟨a, b, hne, ha, hb⟩ := exists_twins column (r.get column)
  refine ⟨[p, q, a, b, b, b], ?_, ?_⟩
  · intro s hs
    simp only [List.mem_cons, List.not_mem_nil, or_false] at hs
    rcases hs with rfl | rfl | rfl | rfl | rfl | rfl
    exacts [⟨_, hp, rfl⟩, ⟨_, hq, rfl⟩, ⟨r, hr, ha⟩, ⟨r, hr, hb⟩, ⟨r, hr, hb⟩, ⟨r, hr, hb⟩]
  · have hsorted : sortBy collate [p, q, a, b, b, b] column = [b, b, b, p, q, a] := by
      rw [sortBy_eq_mergeSort]
      refine Sorting.mergeSort_of_cycle ?_ hpq ?_ ?_
      · rw [rowLess_congr hb rfl, hless]
      · rw [rowLess_congr ha rfl, hqr]
      · rw [rowLess_congr hb hb, rowLess_self h hr]
    -- Neither `p` nor `q` has the cell of `r`, so that only `a` and `b` are looked at.
    have hp' : p.get column ≠ r.get column := get_ne_of_rowLess h hr hless
    have hq' : q.get column ≠ r.get column := by
      intro hcells
      rw [rowLess_congr hcells rfl, hless] at hpq
      cases hpq
    rw [hsorted]
    simp [rowsLike, ha, hb, hp', hq', hne.symm]

/-- The rows with a cell keep their order in every table with the cells of a column exactly if
the order does not go round at the cell. -/
theorem sortBy_keeps_rows_iff (collate : Collate) (t : Table) (column : String)
    (h : collate.AntisymmetricOn (t.columnText column)) (r : Record) (hr : r ∈ t) :
    (∀ u : Table, CellsAmong column u t →
      (u.sortBy collate column).rowsLike column r = u.rowsLike column r) ↔
    ¬ Sorting.OnCycle (rowLess collate column) t r := by
  constructor
  · intro hall hc
    obtain ⟨u, hu, hne⟩ := exists_rowsLike_ne h hr hc
    exact hne (hall u hu)
  · intro hr u hu
    exact rowsLike_sortBy (hu.antisymmetricOn h) fun hc => hr (hu.onCycle rfl hc)

/-- Among `10`, `(4)`, `9` and `x`, the order goes round at `9` and not at `x`. -/
theorem sortBy_keeps_words_not_nines :
    let row (s : String) : Record := Record.empty.put "k" (Cell.infer s)
    let t : Table := ["10", "(4)", "9", "x"].map row
    let Keeps (s : String) : Prop := ∀ u : Table, CellsAmong "k" u t →
      (u.sortBy Collation.collate "k").rowsLike "k" (row s) = u.rowsLike "k" (row s)
    Collate.AntisymmetricOn Collation.collate (t.columnText "k") ∧
      row "x" ∈ t ∧ row "9" ∈ t ∧ Keeps "x" ∧ ¬ Keeps "9" := by
  intro row t Keeps
  have h : Collate.AntisymmetricOn Collation.collate (t.columnText "k") := by
    unfold Collate.AntisymmetricOn
    decide +kernel
  have hx : row "x" ∈ t := by simp [t]
  have hnine : row "9" ∈ t := by simp [t]
  have hoff : ¬ Sorting.OnCycle (rowLess Collation.collate "k") t (row "x") := by decide +kernel
  have hon : Sorting.OnCycle (rowLess Collation.collate "k") t (row "9") := by decide +kernel
  exact ⟨h, hx, hnine, (sortBy_keeps_rows_iff Collation.collate t "k" h _ hx).2 hoff,
    fun hkeeps => (sortBy_keeps_rows_iff Collation.collate t "k" h _ hnine).1 hkeeps hon⟩

/-- Two rows with the cell `9` change places, although the collation is an order on all texts of
the column: `9` is less than `10` as a number, `10` is less than `(4)` and `(4)` is less than `9`
as texts. -/
theorem rows_with_equal_cells_change_places :
    let row (s n : String) : Record :=
      (Record.empty.put "k" (Cell.infer s)).put "n" (Cell.infer n)
    let t : Table :=
      [row "10" "a", row "(4)" "b", row "9" "c", row "9" "d", row "x" "e", row "y" "f"]
    Collate.PreorderOn Collation.collate (t.columnText "k") ∧
      (t.rowsLike "k" (row "9" "c")).columnText "n" = ["c", "d"] ∧
      ((t.sort "k").rowsLike "k" (row "9" "c")).columnText "n" = ["d", "c"] := by
  decide +kernel

end Table

end Tabular
