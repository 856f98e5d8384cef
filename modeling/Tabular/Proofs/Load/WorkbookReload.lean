import Mathlib.Data.List.DropRight
import Tabular.Export
import Tabular.Proofs.Load.Names
import Tabular.Proofs.Load.Rows
import Tabular.Proofs.Workbook.Grid

set_option autoImplicit false

/-! # Loading a workbook export

A table that a sheet can hold (`Table.Storable`) is exported to a sheet and seen there row by row
(`Export.grid_sheet`): the headers fill the first row, so that every column is seen from there on.
What places nothing is seen only in front of something that is placed. So the table is loaded
again without the records at its end whose cells are all empty, and is the same one if there is no
such record (`Load.reload_of_workbook`).

The file between the two is taken to give back the sheet that was written to it.
-/

namespace Tabular

/-! ## Tables that a sheet can hold -/

/-- The cell is held by a sheet as it is: it is empty, a finite number, or a text that is neither
empty nor too long. -/
def Cell.isStorable : Cell → Bool
  | .empty => true
  | .number x => x.isFinite
  | .text s => s ≠ "" && s.length ≤ maxSheetText

def Record.isVacant (r : Record) : Bool := r.cells.all fun p => p.2 = .empty

/-- A table without ragged records that lies within the limits of a sheet. -/
@[mk_iff]
structure Table.Storable (t : Table) : Prop where
  rectangular : t.Rectangular
  headers_ne_nil : t.headers ≠ []
  proper : Header.Proper t.headers
  headers_le : ∀ name ∈ t.headers, name.length ≤ maxSheetText
  storable : ∀ r ∈ t, ∀ p ∈ r.cells, p.2.isStorable = true
  /-- There is room for the headers as well. -/
  rows_lt : t.length < maxSheetRows
  columns_le : t.headers.length ≤ maxSheetColumns

namespace Table

instance (t : Table) : Decidable t.Storable := decidable_of_iff' _ (storable_iff t)

theorem Storable.ne_nil {t : Table} (h : t.Storable) : t ≠ [] := by
  rintro rfl
  exact h.headers_ne_nil rfl

/-- The records up to the last one that has a cell that is not empty. -/
def upToVacant (t : Table) : Table := t.rdropWhile Record.isVacant

theorem mem_of_mem_upToVacant {t : Table} {r : Record} (hr : r ∈ t.upToVacant) : r ∈ t :=
  (List.rdropWhile_prefix _ t).subset hr

/-- Nothing is left out where the last record has a cell that is not empty. -/
theorem upToVacant_eq_self_iff {t : Table} :
    t.upToVacant = t ↔ ∀ r ∈ t.getLast?, r.isVacant = false := by
  rw [upToVacant, List.rdropWhile_eq_self_iff]
  constructor
  · intro h r hr
    have hne : t ≠ [] := by
      rintro rfl
      cases hr
    rw [Option.mem_def, List.getLast?_eq_some_getLast hne, Option.some.injEq] at hr
    rw [← hr]
    simpa using h hne
  · intro h hne
    simpa using h _ (List.getLast?_eq_some_getLast hne)

theorem isVacant_of_mem_getLast?_upToVacant {t : Table} :
    ∀ r ∈ t.upToVacant.getLast?, r.isVacant = false :=
  upToVacant_eq_self_iff.mp (List.rdropWhile_idempotent _ t)

end Table

namespace Export

open Sheet

/-! ## Rows of a sheet -/

def sheetRow (headers : List String) (r : Record) : List (Option SheetCell) :=
  headers.map fun key => sheetCell? (r.get key)

/-- The rows of a sheet, the headers in the first one. -/
def sheetRows (headers : List String) (records : List Record) : List (List (Option SheetCell)) :=
  headers.map (fun key => sheetCell? (.text key)) :: records.map (sheetRow headers)

theorem placed_sheet (t : Table) : (sheet t).placed = placeRows 0 0 (sheetRows t.headers t) := rfl

theorem seen_sheetCell? {c : Cell} (h : c.isStorable = true) : seen (sheetCell? c) = c := by
  cases c with
  | empty => rfl
  | number x =>
      have hx : x.isFinite = true := h
      simp [sheetCell?, hx, seen, SheetCell.toCell]
  | text s =>
      have hs : s ≠ "" := by
        rintro rfl
        cases h
      simp [sheetCell?, hs, seen, SheetCell.toCell]

theorem fits_of_sheetCell? {c : Cell} (h : c.isStorable = true) {cell : SheetCell}
    (hc : sheetCell? c = some cell) {r k : Nat} (hr : r < maxSheetRows) (hk : k < maxSheetColumns) :
    Placed.fits ⟨r, k, cell⟩ = true := by
  cases c with
  | empty => cases hc
  | number x =>
      have hx : x.isFinite = true := h
      simp only [sheetCell?, hx, if_true, Option.some.injEq] at hc
      subst hc
      simp [Placed.fits, hr, hk]
  | text s =>
      simp only [Cell.isStorable, ne_eq, decide_not, Bool.and_eq_true, Bool.not_eq_eq_eq_not,
        Bool.not_true, decide_eq_false_iff_not, decide_eq_true_eq] at h
      simp only [sheetCell?, h.1, if_false, Option.some.injEq] at hc
      subst hc
      simp [Placed.fits, hr, hk, h.2]

theorem sheetCell?_eq_none_iff {c : Cell} (h : c.isStorable = true) :
    sheetCell? c = none ↔ c = .empty := by
  refine ⟨fun hn => ?_, fun he => he ▸ rfl⟩
  rw [← seen_sheetCell? h, hn]
  rfl

/-- The row of a record under its own keys. -/
theorem sheetRow_keys (r : Record) : sheetRow r.keys r = r.cells.map fun p => sheetCell? p.2 := by
  have h := congrArg (List.map sheetCell?) r.map_get_keys
  rw [List.map_map, List.map_map] at h
  exact h

theorem vacant_sheetRow_iff {r : Record} (h : ∀ p ∈ r.cells, p.2.isStorable = true) :
    Vacant (sheetRow r.keys r) ↔ r.isVacant = true := by
  simp only [Vacant, sheetRow_keys, List.forall_mem_map, Record.isVacant, List.all_eq_true,
    decide_eq_true_eq]
  exact forall₂_congr fun p hp => sheetCell?_eq_none_iff (h p hp)

theorem map_seen_sheetRow {r : Record} (h : ∀ p ∈ r.cells, p.2.isStorable = true) :
    (sheetRow r.keys r).map seen = r.cells.map Prod.snd := by
  rw [sheetRow_keys, List.map_map]
  exact List.map_congr_left fun p hp => seen_sheetCell? (h p hp)

section Storable

variable {t : Table} (h : t.Storable)
include h

theorem isStorable_header {name : String} (hname : name ∈ t.headers) :
    Cell.isStorable (.text name) = true := by
  simp [Cell.isStorable, (h.proper.tidy name hname).ne_empty, h.headers_le name hname]

theorem headerRow_eq : t.headers.map (fun key => sheetCell? (.text key)) =
    (t.headers.map SheetCell.text).map some := by
  rw [List.map_map]
  refine List.map_congr_left fun name hname => ?_
  simp [sheetCell?, (h.proper.tidy name hname).ne_empty]

theorem storable_of_mem_sheetRows {row : List (Option SheetCell)}
    (hrow : row ∈ sheetRows t.headers t) : row.length = t.headers.length ∧
      ∀ cell ∈ row, ∃ c : Cell, c.isStorable = true ∧ cell = sheetCell? c := by
  rcases List.mem_cons.mp hrow with rfl | hrow
  · refine ⟨List.length_map _, fun cell hcell => ?_⟩
    obtain ⟨name, hname, rfl⟩ := List.mem_map.mp hcell
    exact ⟨.text name, isStorable_header h hname, rfl⟩
  · obtain ⟨r, hr, rfl⟩ := List.mem_map.mp hrow
    refine ⟨List.length_map _, fun cell hcell => ?_⟩
    rw [← Table.keys_eq_headers h.rectangular hr, sheetRow_keys] at hcell
    obtain ⟨p, hp, rfl⟩ := List.mem_map.mp hcell
    exact ⟨p.2, h.storable r hr p hp, rfl⟩

theorem fits_sheet : (sheet t).fits = true := by
  rw [Sheet.fits, List.all_eq_true]
  intro p hp
  rw [placed_sheet] at hp
  obtain ⟨row, hr, hc⟩ := mem_placeRows.mp hp
  obtain ⟨hlength, hcells⟩ := storable_of_mem_sheetRows h (List.mem_of_getElem? hr)
  obtain ⟨c, hs, hcell⟩ := hcells _ (List.mem_of_getElem? hc)
  have hrow : p.row < maxSheetRows := by
    have hlt := (List.getElem?_eq_some_iff.mp hr).1
    have hle := h.rows_lt
    simp only [sheetRows, List.length_cons, List.length_map] at hlt
    omega
  have hcolumn : p.column < maxSheetColumns := by
    have hlt := (List.getElem?_eq_some_iff.mp hc).1
    have hle := h.columns_le
    omega
  exact fits_of_sheetCell? hs hcell.symm hrow hcolumn

/-- The records at the end without a cell place nothing. -/
theorem placed_sheet_eq :
    (sheet t).placed = placeRows 0 0 (sheetRows t.headers t.upToVacant) := by
  have hsplit : sheetRows t.headers t = sheetRows t.headers t.upToVacant ++
      (t.rtakeWhile Record.isVacant).map (sheetRow t.headers) := by
    rw [sheetRows, sheetRows, List.cons_append, ← List.map_append, Table.upToVacant,
      List.rdropWhile_append_rtakeWhile]
  rw [placed_sheet, hsplit]
  refine placeRows_append_of_vacant _ (fun row hrow => ?_) 0 0
  obtain ⟨r, hr, rfl⟩ := List.mem_map.mp hrow
  have hmem : r ∈ t := (List.rtakeWhile_suffix _ t).subset hr
  rw [← Table.keys_eq_headers h.rectangular hmem]
  exact (vacant_sheetRow_iff (h.storable r hmem)).mpr (List.mem_rtakeWhile_imp hr)

theorem not_vacant_of_mem_getLast? :
    ∀ row ∈ (sheetRows t.headers t.upToVacant).getLast?, ¬ Vacant row := by
  intro row hrow hv
  rcases List.eq_nil_or_concat' t.upToVacant with hnil | ⟨init, last, hlast⟩
  · -- Only the headers are left.
    rw [hnil, sheetRows, headerRow_eq h] at hrow
    obtain rfl : (t.headers.map SheetCell.text).map some = row := by simpa using hrow
    obtain ⟨name, hname⟩ := List.exists_mem_of_ne_nil _ h.headers_ne_nil
    have hnone := hv (some (.text name))
      (List.mem_map_of_mem (List.mem_map_of_mem hname))
    cases hnone
  · have hmem : last ∈ t := Table.mem_of_mem_upToVacant (by rw [hlast]; simp)
    have hvacant : last.isVacant = false :=
      Table.isVacant_of_mem_getLast?_upToVacant last (by rw [hlast]; simp)
    obtain rfl : sheetRow t.headers last = row := by
      simpa [sheetRows, hlast, List.getLast?_cons] using hrow
    rw [← Table.keys_eq_headers h.rectangular hmem, vacant_sheetRow_iff (h.storable last hmem),
      hvacant] at hv
    cases hv

/-- A reader sees the headers and then the cells of the records, up to the last one that has a
cell. -/
theorem grid_sheet : (sheet t).grid =
    t.headers.map Cell.text :: t.upToVacant.map fun r => r.cells.map Prod.snd := by
  have hsheet : sheet t = ⟨"Export", placeRows 0 0 (sheetRows t.headers t.upToVacant)⟩ := by
    rw [← placed_sheet_eq h]
    rfl
  have hf : (sheetRows t.headers t.upToVacant).head? =
      some ((t.headers.map SheetCell.text).map some) := by
    rw [← headerRow_eq h]
    rfl
  have hn : t.headers.map SheetCell.text ≠ [] := by simpa using h.headers_ne_nil
  -- All rows are as wide as the header row, and every header places a text.
  have hw : ∀ row ∈ sheetRows t.headers t.upToVacant,
      row.length = (t.headers.map SheetCell.text).length := by
    simp [sheetRows, sheetRow]
  rw [hsheet, grid_placeRows "Export" hf hn hw (not_vacant_of_mem_getLast? h), sheetRows,
    List.map_cons, headerRow_eq h, List.map_map, List.map_map, List.map_map]
  congr 1
  · refine List.map_congr_left fun name hname => ?_
    simpa [sheetCell?, (h.proper.tidy name hname).ne_empty] using
      seen_sheetCell? (isStorable_header h hname)
  · refine List.map_congr_left fun r hr => ?_
    have hmem := Table.mem_of_mem_upToVacant hr
    rw [Function.comp_apply, ← Table.keys_eq_headers h.rectangular hmem]
    exact map_seen_sheetRow (h.storable r hmem)

end Storable

end Export

namespace Load

/-! ## Exporting and loading -/

theorem render_xlsx {t : Table} (h : t.Storable) :
    Export.render .xlsx t = .ok (.workbook ⟨[Export.sheet t]⟩) := by
  simp [Export.render, h.ne_nil, Export.workbook, Export.fits_sheet h, Except.map]

theorem record_cells (r : Record) : Header.record r.keys (r.cells.map Prod.snd) = r := by
  refine Record.ext ?_
  rw [Header.cells_record r.nodup_keys]
  exact (Header.pair_map r.cells id).trans (List.map_id r.cells)

/-- The table that is loaded of the sheet of a table. -/
theorem workbook_sheet {t : Table} (h : t.Storable) :
    workbook {} (some (Export.sheet t)) = nonEmpty t.upToVacant := by
  have hheader : (t.headers.map Cell.text).map Cell.toText = t.headers := by
    rw [List.map_map]
    exact List.map_id t.headers
  have hrows : (t.upToVacant.map fun r => r.cells.map Prod.snd).map (Header.record t.headers) =
      t.upToVacant := by
    rw [List.map_map]
    refine (List.map_congr_left fun r hr => ?_).trans (List.map_id _)
    rw [Function.comp_apply,
      ← Table.keys_eq_headers h.rectangular (Table.mem_of_mem_upToVacant hr)]
    exact record_cells r
  rw [workbook, Export.grid_sheet h]
  show nonEmpty (ofRows (Header.names ((t.headers.map Cell.text).map Cell.toText))
    (t.upToVacant.map fun r => r.cells.map Prod.snd)) = _
  rw [hheader, Header.names_eq_self h.proper, ofRows_of_ne_nil h.headers_ne_nil, hrows]

/-- A table that a sheet can hold is exported as a workbook and loaded again up to its last record
with a cell that is not empty. So it is the same table exactly if that is its last record, and
nothing is loaded of a table of empty cells. -/
theorem reload_of_workbook {t : Table} (h : t.Storable) :
    ∃ w, Export.render .xlsx t = .ok (.workbook w) ∧
      workbook {} w.sheets.head? = nonEmpty t.upToVacant ∧
      (workbook {} w.sheets.head? = .ok t ↔ ∀ r ∈ t.getLast?, r.isVacant = false) := by
  have hread := workbook_sheet h
  refine ⟨⟨[Export.sheet t]⟩, render_xlsx h, hread, ?_⟩
  rw [List.head?_cons, hread, ← Table.upToVacant_eq_self_iff]
  constructor
  · intro ho
    exact (nonEmpty_eq_ok ho).1.symm
  · intro he
    rw [he]
    exact nonEmpty_of_ne_nil h.ne_nil

/-- Records without a cell in front of one that has cells, and one at the end. -/
theorem reload_of_workbook_with_gaps :
    let t : Table := [
      Record.ofList [("a", .empty), ("b", .empty)],
      Record.ofList [("a", .number (Number.ofDecimal false 15 (-1))), ("b", .empty)],
      Record.ofList [("a", .empty), ("b", .empty)],
      Record.ofList [("a", .empty), ("b", .text " x")],
      Record.ofList [("a", .empty), ("b", .empty)]]
    t.Storable ∧ ∃ w, Export.render .xlsx t = .ok (.workbook w) ∧
      workbook {} w.sheets.head? = .ok (t.take 4) ∧ workbook {} w.sheets.head? ≠ .ok t := by
  intro t
  have h : t.Storable := by decide +kernel
  obtain ⟨w, hw, hread, hsame⟩ := reload_of_workbook h
  refine ⟨h, w, hw, ?_, ?_⟩
  · rw [hread]
    decide +kernel
  · rw [ne_eq, hsame]
    decide +kernel

/-- A last record of empty cells is lost. -/
theorem last_record_lost_in_workbook :
    let first := Record.ofList [("a", .number (Number.ofDecimal false 1 0))]
    let last := Record.ofList [("a", .empty)]
    Table.Storable [first, last] ∧ ∃ w, Export.render .xlsx [first, last] = .ok (.workbook w) ∧
      workbook {} w.sheets.head? = .ok [first] := by
  intro first last
  have h : Table.Storable [first, last] := by decide +kernel
  refine ⟨h, ⟨[Export.sheet [first, last]]⟩, render_xlsx h, ?_⟩
  rw [List.head?_cons, workbook_sheet h]
  decide +kernel

end Load

end Tabular
