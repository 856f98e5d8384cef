import Tabular.Export
import Tabular.Proofs.Files.Kept
import Tabular.Proofs.Workbook.Grid

set_option autoImplicit false

/-! # What a failed export leaves

An export that fails leaves the file of its path as it was, with one exception
(`read_of_file_eq_error`): the file is emptied before the workbook is made, so that a table which
no workbook can hold costs it its content.
-/

namespace Tabular.Export

/-- Only workbooks cannot hold every table. -/
theorem render_eq_error_iff {format : ExportFormat} {t : Table} (ht : t ≠ []) {e : Error} :
    render format t = .error e ↔
      format = .xlsx ∧ (sheet t).fits = false ∧ Error.beyondWorkbook = e := by
  cases format with
  | xlsx => cases hf : (sheet t).fits <;> simp [render, ht, workbook, hf, Except.map]
  | _ => simp [render, ht]

/-- A text that is too long for a cell of a sheet keeps the table out of a workbook. -/
theorem fits_eq_false_of_long_text {t : Table} {r : Record} (hr : r ∈ t) {key : String}
    (hkey : key ∈ t.headers) {s : String} (hs : r.get key = .text s)
    (hlength : maxSheetText < s.length) : (sheet t).fits = false := by
  obtain ⟨column, hcolumn⟩ := List.mem_iff_getElem?.mp hkey
  obtain ⟨row, hrow⟩ := List.mem_iff_getElem?.mp hr
  have hcell : sheetCell? (r.get key) = some (.text s) := by
    have hne : s ≠ "" := by
      rintro rfl
      simp at hlength
    simp [sheetCell?, hs, hne]
  have hmem : (⟨row + 1, column, .text s⟩ : Placed) ∈ (sheet t).placed := by
    refine Sheet.mem_placeRows.mpr ⟨t.headers.map fun key => sheetCell? (r.get key), ?_, ?_⟩
    · simp [hrow]
    · simp [hcolumn, hcell]
  rw [Sheet.fits, List.all_eq_false]
  exact ⟨_, hmem, by simp [Placed.fits, hlength]⟩

/-- How an export to a file can fail, with the error and the files afterwards. -/
inductive Failing (format : ExportFormat) (t : Table) (path : String) (files : Files) :
    Error → Files → Prop
  | nothing (ht : t = []) : Failing format t path files .nothingToExport files
  /-- The file cannot be made, though directories on the way to it may have been. -/
  | fault (fault : FileFault) {parents : Files} (hp : parents.Extends files) :
      Failing format t path files (.file path fault) parents
  | beyond {parents emptied : Files} (hformat : format = .xlsx) (hfits : (sheet t).fits = false)
      (hp : files.makeParents path = .ok parents) (he : parents.write path .empty = .ok emptied) :
      Failing format t path files .beyondWorkbook emptied

section Failing

variable {format : ExportFormat} {t : Table} {path : String} {files after : Files} {e : Error}

theorem failing_of_file_eq_error (h : file format t path files = (.error e, after)) :
    Failing format t path files e after := by
  -- The cases are those of the export: each of its steps fails, or is done before the next one.
  unfold file at h
  split at h
  · rename_i ht
    obtain ⟨rfl, rfl⟩ : Error.nothingToExport = e ∧ files = after := by simpa using h
    exact .nothing ht
  rename_i ht
  split at h
  · rename_i fault _
    obtain ⟨rfl, rfl⟩ : Error.file path fault = e ∧ files = after := by simpa using h
    exact .fault fault (.refl files)
  rename_i parents hp
  split at h
  · rename_i fault _
    obtain ⟨rfl, rfl⟩ : Error.file path fault = e ∧ parents = after := by simpa using h
    exact .fault fault (Files.makeParents_extends hp)
  rename_i emptied he
  split at h
  · rename_i cause hr
    obtain ⟨rfl, rfl⟩ : cause = e ∧ emptied = after := by simpa using h
    obtain ⟨hformat, hfits, rfl⟩ := (render_eq_error_iff ht).mp hr
    exact .beyond hformat hfits hp he
  rename_i rendering _
  -- A file that has just been emptied can be written.
  obtain ⟨written, hw⟩ :=
    Files.exists_write_of_read (Files.read_of_write he) rendering.bytes
  rw [hw] at h
  cases h

/-- What a failed export leaves of a file: nothing if no workbook can hold the table, and all of it
otherwise. -/
theorem read_of_file_eq_error (h : file format t path files = (.error e, after))
    {content : ByteArray} (hc : files.read path = .ok content) :
    after.read path = .ok (if e = .beyondWorkbook then .empty else content) ∧
      (e = .beyondWorkbook → format = .xlsx ∧ (sheet t).fits = false) := by
  cases failing_of_file_eq_error h with
  | nothing => exact ⟨hc, by simp⟩
  | fault fault hp => exact ⟨Files.read_of_extends hp hc, by simp⟩
  | beyond hformat hfits hp he => exact ⟨Files.read_of_write he, fun _ => ⟨hformat, hfits⟩⟩

end Failing

end Tabular.Export
