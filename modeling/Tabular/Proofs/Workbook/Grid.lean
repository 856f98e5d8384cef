import Mathlib.Data.List.Basic
import Tabular.Workbook

set_option autoImplicit false

/-! # What a reader sees of a sheet

A reader sees the rectangle around what has been placed. Its rows are all of one width, and have
at least one cell (`ne_nil_of_mem_grid`). Rows that were placed are seen as they are, an empty
cell where nothing was placed, if the first row is full and something is placed in the last one
(`grid_placeRows`); a row in which nothing is placed is seen only where something follows
(`placeRows_append_of_vacant`).
-/

namespace Tabular.Sheet

/-! ## The rectangle -/

theorem span?_eq_some_iff {ns : List Nat} {low high : Nat} :
    span? ns = some (low, high) ↔
      (low ∈ ns ∧ ∀ n ∈ ns, low ≤ n) ∧ high ∈ ns ∧ ∀ n ∈ ns, n ≤ high := by
  rw [← List.min?_eq_some_iff, ← List.max?_eq_some_iff]
  cases ns with
  | nil => simp [span?]
  | cons n rest =>
      rw [List.min?_cons', List.max?_cons']
      simp [span?]

/-- The rectangle, cell by cell. -/
theorem grid_eq (sheet : Sheet) :
    sheet.grid = match ends? sheet.placed, span? (sheet.placed.map Placed.column) with
      | some (top, bottom), some (left, right) =>
        (List.range' top (bottom + 1 - top)).map fun row =>
          (List.range' left (right + 1 - left)).map fun column => cellAt sheet.placed row column
      | _, _ => [] := by
  unfold grid
  cases ends? sheet.placed with
  | none => rfl
  | some rows =>
      cases span? (sheet.placed.map Placed.column) with
      | none => rfl
      | some columns => simp only [elim_index]

/-- Every row that a reader sees has a cell. -/
theorem ne_nil_of_mem_grid {sheet : Sheet} {row : List Cell} (h : row ∈ sheet.grid) : row ≠ [] := by
  rw [grid_eq] at h
  split at h
  · rename_i top bottom left right hends hspan
    obtain ⟨⟨hmem, -⟩, -, hmax⟩ := span?_eq_some_iff.mp hspan
    have hle : left ≤ right := hmax left hmem
    obtain ⟨r, -, rfl⟩ := List.mem_map.mp h
    simp only [ne_eq, List.map_eq_nil_iff, List.range'_eq_nil_iff]
    omega
  · cases h

/-! ## Placed rows -/

def placeRow (r left : Nat) (row : List (Option SheetCell)) : List Placed :=
  (row.zipIdx left).filterMap fun (cell, c) => cell.map fun cell => ⟨r, c, cell⟩

theorem mem_placeRow {r : Nat} {row : List (Option SheetCell)} {p : Placed} :
    p ∈ placeRow r 0 row ↔ p.row = r ∧ row[p.column]? = some (some p.cell) := by
  simp only [placeRow, List.mem_filterMap, Prod.exists, List.mk_mem_zipIdx_iff_getElem?,
    Option.map_eq_some_iff]
  constructor
  · rintro ⟨cell, c, hc, s, rfl, rfl⟩
    exact ⟨rfl, hc⟩
  · rintro ⟨rfl, hc⟩
    exact ⟨some p.cell, p.column, hc, p.cell, rfl, rfl⟩

theorem mem_placeRows {rows : List (List (Option SheetCell))} {p : Placed} :
    p ∈ placeRows 0 0 rows ↔
      ∃ row, rows[p.row]? = some row ∧ row[p.column]? = some (some p.cell) := by
  have hrow : ∀ row r, (row.zipIdx 0).filterMap
      (fun (cell, c) => cell.map fun cell => (⟨r, c, cell⟩ : Placed)) = placeRow r 0 row :=
    fun _ _ => rfl
  simp only [placeRows, List.mem_flatMap, Prod.exists, List.mk_mem_zipIdx_iff_getElem?, hrow,
    mem_placeRow]
  constructor
  · rintro ⟨row, r, hr, rfl, hc⟩
    exact ⟨row, hr, hc⟩
  · rintro ⟨row, hr, hc⟩
    exact ⟨row, p.row, hr, rfl, hc⟩

theorem placeRows_cons (row : List (Option SheetCell)) (rows : List (List (Option SheetCell)))
    (top left : Nat) :
    placeRows top left (row :: rows) = placeRow top left row ++ placeRows (top + 1) left rows := by
  simp [placeRows, placeRow, List.zipIdx_cons]

theorem placeRows_append (rows more : List (List (Option SheetCell))) (top left : Nat) :
    placeRows top left (rows ++ more) =
      placeRows top left rows ++ placeRows (top + rows.length) left more := by
  simp [placeRows, List.zipIdx_append]

def Vacant (row : List (Option SheetCell)) : Prop := ∀ cell ∈ row, cell = none

theorem placeRow_of_vacant {row : List (Option SheetCell)} (h : Vacant row) (r left : Nat) :
    placeRow r left row = [] := by
  refine List.filterMap_eq_nil_iff.mpr fun (cell, c) hp => ?_
  have hm : cell ∈ row := List.fst_mem_of_mem_zipIdx hp
  simp [h cell hm]

theorem placeRows_of_vacant {rows : List (List (Option SheetCell))}
    (h : ∀ row ∈ rows, Vacant row) (top left : Nat) : placeRows top left rows = [] := by
  induction rows generalizing top with
  | nil => rfl
  | cons row rows ih =>
      rw [placeRows_cons, placeRow_of_vacant (h row (by simp)), ih fun row hr => h row (by simp [hr])]
      rfl

/-- Rows at the end in which nothing is placed leave no trace. -/
theorem placeRows_append_of_vacant (rows : List (List (Option SheetCell)))
    {vacant : List (List (Option SheetCell))} (h : ∀ row ∈ vacant, Vacant row) (top left : Nat) :
    placeRows top left (rows ++ vacant) = placeRows top left rows := by
  rw [placeRows_append, placeRows_of_vacant h, List.append_nil]

/-! ## Reading placed rows -/

/-- The cell of a table that a reader sees for what has been placed. -/
def seen (cell : Option SheetCell) : Cell := cell.elim .empty SheetCell.toCell

theorem cellAt_placeRows {rows : List (List (Option SheetCell))} {r c : Nat}
    {row : List (Option SheetCell)} {cell : Option SheetCell} (hr : rows[r]? = some row)
    (hc : row[c]? = some cell) : cellAt (placeRows 0 0 rows) r c = seen cell := by
  -- Each place is placed at most once, so what is found there is the cell.
  unfold cellAt
  split
  · rename_i p hp
    have hat : p.row = r ∧ p.column = c := by simpa using List.find?_some hp
    obtain ⟨row', hr', hc'⟩ := mem_placeRows.mp (List.mem_reverse.mp (List.mem_of_find?_eq_some hp))
    rw [hat.1, hr] at hr'
    cases hr'
    rw [hat.2, hc] at hc'
    cases hc'
    rfl
  · rename_i hnone
    cases cell with
    | none => rfl
    | some cell =>
        have hp : (⟨r, c, cell⟩ : Placed) ∈ placeRows 0 0 rows := mem_placeRows.mpr ⟨row, hr, hc⟩
        have h := List.find?_eq_none.mp hnone _ (List.mem_reverse.mpr hp)
        simp at h

section Rows

/-! What follows is about rows of the width of the first one, in which every cell is placed; in
the last one something is placed. -/

variable {rows : List (List (Option SheetCell))} {first : List SheetCell}

theorem exists_head?_placeRows (hf : rows.head? = some (first.map some)) (hn : first ≠ []) :
    ∃ p, (placeRows 0 0 rows).head? = some p ∧ p.row = 0 := by
  obtain ⟨rest, rfl⟩ := List.head?_eq_some_iff.mp hf
  obtain ⟨cell, cells, rfl⟩ := List.exists_cons_of_ne_nil hn
  refine ⟨⟨0, 0, cell⟩, ?_, rfl⟩
  rw [placeRows_cons]
  rfl

theorem exists_getLast?_placeRows (hl : ∀ row ∈ rows.getLast?, ¬ Vacant row) (hn : rows ≠ []) :
    ∃ p, (placeRows 0 0 rows).getLast? = some p ∧ p.row = rows.length - 1 := by
  obtain ⟨init, last, rfl⟩ := (List.eq_nil_or_concat' rows).resolve_left hn
  -- The last row places something, and nothing is placed behind it.
  have hlast : placeRow init.length 0 last ≠ [] := by
    intro h
    refine hl last (by simp) fun cell hcell => ?_
    obtain ⟨c, hc⟩ := List.mem_iff_getElem?.mp hcell
    cases cell with
    | none => rfl
    | some cell =>
        have hp : (⟨init.length, c, cell⟩ : Placed) ∈ placeRow init.length 0 last :=
          mem_placeRow.mpr ⟨rfl, hc⟩
        rw [h] at hp
        cases hp
  obtain ⟨p, hp⟩ := Option.ne_none_iff_exists'.mp (mt List.getLast?_eq_none_iff.mp hlast)
  refine ⟨p, ?_, ?_⟩
  · rw [placeRows_append, placeRows_cons, List.getLast?_append]
    simp [placeRows, hp]
  · have hrow := (mem_placeRow.mp (List.mem_of_getLast? hp)).1
    simpa using hrow

theorem ends?_placeRows (hf : rows.head? = some (first.map some)) (hn : first ≠ [])
    (hl : ∀ row ∈ rows.getLast?, ¬ Vacant row) :
    ends? (placeRows 0 0 rows) = some (0, rows.length - 1) := by
  have hrows : rows ≠ [] := by
    rintro rfl
    cases hf
  obtain ⟨p, hp, hp0⟩ := exists_head?_placeRows hf hn
  obtain ⟨q, hq, hq1⟩ := exists_getLast?_placeRows hl hrows
  simp [ends?, hp, hq, hp0, hq1]

theorem span?_placeRows (hf : rows.head? = some (first.map some)) (hn : first ≠ [])
    (hw : ∀ row ∈ rows, row.length = first.length) :
    span? ((placeRows 0 0 rows).map Placed.column) = some (0, first.length - 1) := by
  -- The first row places something in every column, and no row goes further.
  have hmem : ∀ c, c < first.length → c ∈ (placeRows 0 0 rows).map Placed.column := by
    intro c hc
    have hp : (⟨0, c, first[c]⟩ : Placed) ∈ placeRows 0 0 rows := by
      refine mem_placeRows.mpr ⟨first.map some, ?_, by simp [hc]⟩
      rw [← List.head?_eq_getElem?, hf]
    exact List.mem_map_of_mem hp
  have hpos : 0 < first.length := List.length_pos_of_ne_nil hn
  refine span?_eq_some_iff.mpr ⟨⟨hmem 0 hpos, fun _ _ => Nat.zero_le _⟩,
    hmem (first.length - 1) (by omega), fun c hc => ?_⟩
  obtain ⟨p, hp, rfl⟩ := List.mem_map.mp hc
  obtain ⟨row, hr, hcell⟩ := mem_placeRows.mp hp
  have hlt := (List.getElem?_eq_some_iff.mp hcell).1
  rw [hw row (List.mem_of_getElem? hr)] at hlt
  omega

theorem grid_placeRows (name : String) (hf : rows.head? = some (first.map some)) (hn : first ≠ [])
    (hw : ∀ row ∈ rows, row.length = first.length) (hl : ∀ row ∈ rows.getLast?, ¬ Vacant row) :
    grid ⟨name, placeRows 0 0 rows⟩ = rows.map fun row => row.map seen := by
  have hpos : 0 < first.length := List.length_pos_of_ne_nil hn
  have hrows : 0 < rows.length := List.length_pos_of_mem (List.mem_of_head? hf)
  have hh : rows.length - 1 + 1 - 0 = rows.length := by omega
  have hk : first.length - 1 + 1 - 0 = first.length := by omega
  simp only [grid_eq, ends?_placeRows hf hn hl, span?_placeRows hf hn hw, hh, hk]
  refine List.ext_getElem (by simp) fun r hr hr' => ?_
  have hrow : r < rows.length := by simpa using hr'
  refine List.ext_getElem (by simp [hw _ (List.getElem_mem hrow)]) fun c hc hc' => ?_
  have hcell : c < rows[r].length := by simpa using hc'
  simp only [List.getElem_map, List.getElem_range', Nat.zero_add, Nat.one_mul]
  exact cellAt_placeRows (List.getElem?_eq_getElem hrow) (List.getElem?_eq_getElem hcell)

end Rows

end Tabular.Sheet
