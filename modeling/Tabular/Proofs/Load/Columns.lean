import Mathlib.Data.List.Induction
import Tabular.Proofs.Delimited.ReadBack
import Tabular.Proofs.Load.Names
import Tabular.Proofs.Load.Rows
import Tabular.Proofs.Workbook.Grid

set_option autoImplicit false

/-! # Columns of a header row

A header row names the columns of delimited text and of a sheet alike. Every cell of it gives one
name (`Header.Named`): the first variant of what the cell asks for that no column before it has.
The names are distinct, so that every row becomes a record with just these keys, and each key
holds the cell at its own position (`Header.Holds`). Both readers are shown to do this of every
input with a header row that they accept (`header_row_names_columns`).
-/

namespace Tabular

namespace Header

/-! ## Names -/

/-- The names of the columns that the cells of a header row name. -/
structure Named (cells names : List String) : Prop where
  proper : Proper names
  length_eq : names.length = cells.length
  /-- The numbers are tried one after the other, up to the first name that is not taken. -/
  first_variant : ∀ (i : Nat) cell, cells[i]? = some cell → ∃ n,
    names[i]? = some (variant (wanted (i + 1) cell) n) ∧
      variant (wanted (i + 1) cell) n ∉ names.take i ∧
      ∀ m < n, variant (wanted (i + 1) cell) m ∈ names.take i

theorem named_names (cells : List String) : Named cells (names cells) := by
  refine ⟨proper_names cells, length_names cells, ?_⟩
  -- The names before a column are those of the header row up to it.
  induction cells using List.reverseRecOn with
  | nil => simp
  | append_singleton cells last ih =>
      intro i cell hi
      have hlength : (names cells).length = cells.length := length_names cells
      rw [names_concat]
      rcases Nat.lt_or_ge i cells.length with hlt | hge
      · rw [List.getElem?_append_left hlt] at hi
        rw [List.getElem?_append_left (by omega), List.take_append_of_le_length (by omega)]
        exact ih i cell hi
      · obtain rfl : i = cells.length := by
          have hbound := (List.getElem?_eq_some_iff.mp hi).1
          simp only [List.length_append, List.length_singleton] at hbound
          omega
        obtain rfl : last = cell := by simpa using hi
        obtain ⟨n, hf, hn⟩ := exists_fresh_eq_variant (names cells) (wanted (cells.length + 1) last)
        have htake : (names cells ++ [variant (wanted (cells.length + 1) last) n]).take
            cells.length = names cells := by
          rw [← hlength]
          exact List.take_left
        refine ⟨n, ?_, ?_⟩
        · rw [hlength, hf, ← hlength]
          simp
        · rw [hlength, hf, htake]
          exact hn

/-! ## Records -/

/-- The record of a row: under the name of each column the cell at its position, an empty one
where the row is too short. -/
structure Holds (names : List String) (row : List Cell) (r : Record) : Prop where
  keys_eq : r.keys = names
  get_eq : ∀ (i : Nat) name, names[i]? = some name → r.get name = row[i]?.getD .empty

theorem getElem?_pair (names : List String) (row : List Cell) (i : Nat) :
    (pair names row)[i]? = names[i]?.map fun name => (name, row[i]?.getD .empty) := by
  induction names generalizing row i with
  | nil => simp [pair]
  | cons name names ih =>
      cases row with
      | nil => cases i <;> simp [pair, ih]
      | cons cell row => cases i <;> simp [pair, ih]

theorem holds_record {names : List String} (h : names.Nodup) (row : List Cell) :
    Holds names row (record names row) := by
  refine ⟨keys_record_of_nodup h row, fun i name hi => ?_⟩
  have hp : (pair names row)[i]? = some (name, row[i]?.getD .empty) := by
    rw [getElem?_pair, hi]
    rfl
  apply Record.get_of_mem
  rw [cells_record h]
  exact List.mem_of_getElem? hp

end Header

namespace Load

/-! ## Tables -/

/-- The table with the columns of a header row and a record for each of some rows. -/
structure HasColumns (header : List String) (rows : List (List Cell)) (t : Table) : Prop where
  named : Header.Named header t.headers
  holds : List.Forall₂ (Header.Holds t.headers) rows t

theorem hasColumns_ofRows {header : List String} (hc : header ≠ []) {rows : List (List Cell)}
    (hr : rows ≠ []) : HasColumns header rows (ofRows (Header.names header) rows) := by
  have hn := Header.names_ne_nil hc
  have hd := (Header.proper_names header).nodup
  have hh : Table.headers (ofRows (Header.names header) rows) = Header.names header := by
    rw [ofRows_of_ne_nil hn]
    obtain ⟨first, rest, rfl⟩ := List.exists_cons_of_ne_nil hr
    exact Header.keys_record_of_nodup hd first
  constructor
  · rw [hh]
    exact Header.named_names header
  · rw [hh, ofRows_of_ne_nil hn, List.forall₂_map_right_iff, List.forall₂_same]
    exact fun row _ => Header.holds_record hd row

theorem splitHeader_eq_cons {α : Type} {o : Options} (ho : o.hasHeader = true)
    {records : List (List α)} {header : List α} {rows : List (List α)}
    (h : splitHeader o records = (header, rows)) (hr : rows ≠ []) : records = header :: rows := by
  cases records with
  | nil =>
      simp only [splitHeader, ho] at h
      cases h
      exact absurd rfl hr
  | cons first rest =>
      simp only [splitHeader, ho] at h
      cases h
      rfl

theorem limit_nil {α : Type} (o : Options) : o.limit ([] : List α) = [] := by
  unfold Options.limit
  split <;> simp

theorem ne_nil_of_ofRows {names : List String} {rows : List (List Cell)}
    (h : ofRows names rows ≠ []) : rows ≠ [] := by
  rintro rfl
  rw [ofRows_eq_map] at h
  exact h rfl

theorem header_row_of_delimited {o : Options} (ho : o.hasHeader = true) {delimiter : UInt8}
    {bytes : ByteArray} {t : Table} (h : delimited o delimiter bytes = .ok t) :
    ∃ header rows headerTexts rowTexts,
      Delimited.records ⟨delimiter, o.quote⟩ bytes.data.toList = header :: rows ∧
      fieldTexts header = .ok headerTexts ∧ (o.limit rows).mapM fieldTexts = .ok rowTexts ∧
      HasColumns headerTexts (rowTexts.map fun fields => fields.map Cell.infer) t := by
  obtain ⟨header, rows, headerTexts, rowTexts, hs, hh, hr, rfl, hne⟩ := delimited_eq_ok h
  have hrows := ne_nil_of_ofRows hne
  have hdata : rows ≠ [] := by
    rintro rfl
    rw [limit_nil] at hr
    cases hr
    exact hrows rfl
  have hrecords := splitHeader_eq_cons ho hs hdata
  have hmem : header ∈ Delimited.records ⟨delimiter, o.quote⟩ bytes.data.toList := by
    rw [hrecords]
    exact List.mem_cons_self
  have hcells := ne_nil_of_fieldTexts (Delimited.ne_nil_of_mem_records hmem) hh
  exact ⟨header, rows, headerTexts, rowTexts, hrecords, hh, hr, hasColumns_ofRows hcells hrows⟩

theorem header_row_of_workbook {o : Options} (ho : o.hasHeader = true) {first : Option Sheet}
    {t : Table} (h : workbook o first = .ok t) :
    ∃ sheet header rows, first = some sheet ∧ sheet.grid = header :: rows ∧
      HasColumns (header.map Cell.toText) (o.limit rows) t := by
  cases first with
  | none => cases h
  | some sheet =>
      rcases hs : splitHeader o sheet.grid with ⟨header, rows⟩
      rw [workbook, hs] at h
      obtain ⟨rfl, hne⟩ := nonEmpty_eq_ok h
      have hrows := ne_nil_of_ofRows hne
      have hgrid := splitHeader_eq_cons ho hs fun he => hrows (by rw [he, limit_nil])
      have hmem : header ∈ sheet.grid := by
        rw [hgrid]
        exact List.mem_cons_self
      have hcells : header.map Cell.toText ≠ [] := by simpa using Sheet.ne_nil_of_mem_grid hmem
      exact ⟨sheet, header, rows, rfl, hgrid, hasColumns_ofRows hcells hrows⟩

/-- Under a header row, delimited text and sheets are read column by column. The names are proper
and come one from each cell of the header row; every data row becomes a record with these names
as its keys, in their order, and with the cell of the row under each of them. The fields of
delimited text are inferred, and a row that is too short is filled up with empty cells. -/
theorem header_row_names_columns {o : Options} (ho : o.hasHeader = true) :
    (∀ delimiter bytes t, delimited o delimiter bytes = .ok t →
      ∃ header rows headerTexts rowTexts,
        Delimited.records ⟨delimiter, o.quote⟩ bytes.data.toList = header :: rows ∧
        fieldTexts header = .ok headerTexts ∧ (o.limit rows).mapM fieldTexts = .ok rowTexts ∧
        HasColumns headerTexts (rowTexts.map fun fields => fields.map Cell.infer) t) ∧
    ∀ first t, workbook o first = .ok t →
      ∃ sheet header rows, first = some sheet ∧ sheet.grid = header :: rows ∧
        HasColumns (header.map Cell.toText) (o.limit rows) t :=
  ⟨fun _ _ _ h => header_row_of_delimited ho h, fun _ _ h => header_row_of_workbook ho h⟩

/-- Repeats, a blank, numbered names that are there already, a row that is shorter and one that is
longer than the header row; and a sheet with a gap in its header row. -/
theorem header_row_names_columns_of_repeats :
    let number (n : Nat) : Cell := .number (Number.ofDecimal false n 0)
    let t : Table := [
      Record.ofList [("a", number 1), ("a_1", .text "x"), ("a_1_1", .empty), ("column_4", .empty),
        ("column_4_1", .empty), ("a_2", .empty)],
      Record.ofList [("a", number 1), ("a_1", number 2), ("a_1_1", number 3),
        ("column_4", number 4), ("column_4_1", number 5), ("a_2", number 6)]]
    let bytes := "a,a,a_1, ,column_4, a\n1,x\n1,2,3,4,5,6,7\n".toUTF8
    let sheet : Sheet := ⟨"S", Sheet.placeRows 2 1
      [[some (.text "b"), none, some (.text "b")], [none, some (.bool true), none]]⟩
    let u : Table := [Record.ofList [("b", .empty), ("column_2", .text "true"), ("b_1", .empty)]]
    ({} : Options).hasHeader = true ∧
      delimited {} ',' bytes = .ok t ∧ workbook {} (some sheet) = .ok u ∧
      (∃ header rows headerTexts rowTexts,
        Delimited.records ⟨',', '"'⟩ bytes.data.toList = header :: rows ∧
        fieldTexts header = .ok headerTexts ∧ rows.mapM fieldTexts = .ok rowTexts ∧
        HasColumns headerTexts (rowTexts.map fun fields => fields.map Cell.infer) t) ∧
      ∃ sheet' header rows, some sheet = some sheet' ∧ sheet'.grid = header :: rows ∧
        HasColumns (header.map Cell.toText) rows u := by
  intro number t bytes sheet u
  have ht : delimited {} ',' bytes = .ok t := by decide +kernel
  have hu : workbook {} (some sheet) = .ok u := by
    rw [workbook, Sheet.grid_eq]
    decide +kernel
  have h := header_row_names_columns (o := {}) rfl
  exact ⟨rfl, ht, hu, h.1 ',' bytes t ht, h.2 (some sheet) u hu⟩

/-- The delimiter is a byte of no character, and a quote cuts the `é` in two. -/
example : delimited {} 0xFF ⟨#[0x61, 0xFF, 0x62, 0x0A, 0x22, 0xC3, 0x22, 0xA9, 0xFF, 0x31, 0x0A]⟩ =
    .ok [Record.ofList [("a", .text "é"), ("b", .number (.ofNat 1))]] := by
  decide +kernel

end Load

end Tabular
