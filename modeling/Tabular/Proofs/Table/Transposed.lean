import Mathlib.Data.List.Forall2
import Mathlib.Data.List.Nodup
import Tabular.Proofs.Number.Decimal
import Tabular.Proofs.Table.Keys
import Tabular.Reshape

set_option autoImplicit false

/-! # Transposed tables

The record of a column has its header under one name and the cells of the rows under numbered
names, which are distinct (`Table.keys_columnRecord`, `Table.get_columnRecord`). A second
transposition therefore leads back: the cell of a row under a header is found in the record of the
row, under the number of the header (`Table.transpose_recovers_cells`).
-/

namespace Tabular.Table

/-! ## Names of rows -/

theorem rowColumn_injective : Function.Injective rowColumn :=
  Number.append_toString_injective "Row_"

theorem fieldColumn_ne_rowColumn (i : Nat) : fieldColumn ≠ rowColumn i := by
  intro h
  have hl := congrArg String.toList h
  rw [rowColumn, String.toList_append] at hl
  -- The names differ in their first letters.
  have hfirst : ("Row_".toList ++ (toString i).toList).head? = some 'R' := rfl
  rw [← hl] at hfirst
  exact absurd hfirst (by decide)

theorem nodup_rowColumns (n : Nat) :
    (fieldColumn :: (List.range' 1 n).map rowColumn).Nodup := by
  rw [List.nodup_cons]
  constructor
  · intro h
    obtain ⟨i, -, hi⟩ := List.mem_map.mp h
    exact fieldColumn_ne_rowColumn i hi.symm
  · exact List.Nodup.map rowColumn_injective List.nodup_range'

/-! ## The record of a column -/

section Column

variable (rows : Table) (header : String)

/-- The header and the cells of the rows, which are numbered from one. -/
def columnCells : List (String × Cell) :=
  (fieldColumn, .text header) :: (rows.zipIdx 1).map fun p => (rowColumn p.2, p.1.get header)

theorem map_fst_columnCells :
    (columnCells rows header).map Prod.fst =
      fieldColumn :: (List.range' 1 rows.length).map rowColumn := by
  have hnumbers : (rows.zipIdx 1).map Prod.snd = List.range' 1 rows.length :=
    List.zipIdx_map_snd 1 rows
  rw [columnCells, List.map_cons, List.map_map, ← hnumbers, List.map_map]
  rfl

theorem cells_columnRecord : (columnRecord rows header).cells = columnCells rows header := by
  have hfold : columnRecord rows header =
      ((rows.zipIdx 1).map fun p => (rowColumn p.2, p.1.get header)).foldl
        (fun r p => r.put p.1 p.2) (Record.empty.put fieldColumn (.text header)) := by
    rw [List.foldl_map]
    rfl
  have hnodup := map_fst_columnCells rows header ▸ nodup_rowColumns rows.length
  rw [hfold, Record.cells_foldl_put]
  · rfl
  · exact hnodup

theorem keys_columnRecord :
    (columnRecord rows header).keys =
      fieldColumn :: (List.range' 1 rows.length).map rowColumn := by
  rw [Record.keys, cells_columnRecord, map_fst_columnCells]

theorem get_columnRecord_field : (columnRecord rows header).get fieldColumn = .text header := by
  apply Record.get_of_mem
  rw [cells_columnRecord]
  exact List.mem_cons_self

variable {rows}

theorem get_columnRecord {i : Nat} {row : Record} (h : rows[i]? = some row) :
    (columnRecord rows header).get (rowColumn (i + 1)) = row.get header := by
  apply Record.get_of_mem
  rw [cells_columnRecord]
  apply List.mem_cons_of_mem
  have hmem : (row, i + 1) ∈ rows.zipIdx 1 := by
    rw [List.mk_mem_zipIdx_iff_le_and_getElem?_sub]
    exact ⟨by omega, by simpa using h⟩
  exact List.mem_map.mpr ⟨(row, i + 1), hmem, rfl⟩

end Column

/-! ## Two transpositions -/

theorem transpose_of_length_le {t : Table} {limit : Nat} (h : t.length ≤ limit)
    (headers : List String) : t.transpose headers limit = headers.map (columnRecord t) := by
  rw [transpose, List.take_of_length_le h]

/-- A transposed record is found by its header. -/
theorem eq_columnRecord_of_field {t : Table} {headers : List String} {r : Record} {header : String}
    (hr : r ∈ headers.map (columnRecord t)) (h : r.get fieldColumn = .text header) :
    r = columnRecord t header := by
  obtain ⟨header', -, rfl⟩ := List.mem_map.mp hr
  rw [get_columnRecord_field] at h
  cases h
  rfl

/-- The headers of a transposed table are the numbers of the rows, unless there is no column. -/
theorem headers_map_columnRecord (t : Table) {headers : List String} (h : headers ≠ []) :
    Table.headers (headers.map (columnRecord t)) =
      fieldColumn :: (List.range' 1 t.length).map rowColumn := by
  obtain ⟨header, rest, rfl⟩ := List.exists_cons_of_ne_nil h
  exact keys_columnRecord t header

/-- The record of a name, found by it in a table transposed twice, holds under the number of a header
what the record of that header holds under the name. -/
theorem get_rowColumn_of_field {t : Table} {headers names : List String} {r : Record}
    (hr : r ∈ names.map (columnRecord (headers.map (columnRecord t)))) {j : Nat} {header : String}
    (hj : headers[j]? = some header) {name : String} (hname : r.get fieldColumn = .text name) :
    r.get (rowColumn (j + 1)) = (columnRecord t header).get name := by
  rw [eq_columnRecord_of_field hr hname]
  apply get_columnRecord
  rw [List.getElem?_map, hj]
  rfl

/-- Each header has a record, which holds the header and, under their numbers, the cells of the
first rows, an empty one where a row has none. If all rows and headers are within the limit, a
second transposition has a record for the headers and one for each row, which hold the headers and
the cells of the row under the numbers of the headers. -/
theorem transpose_recovers_cells (t : Table) (limit : Nat) :
    (∀ headers : List String, List.Forall₂ (fun header r =>
        r.keys = fieldColumn :: (List.range' 1 (Nat.min t.length limit)).map rowColumn ∧
          r.get fieldColumn = .text header ∧
          ∀ i row, i < limit → t[i]? = some row →
            r.get (rowColumn (i + 1)) = row.get header ∧
              (header ∉ row.keys → r.get (rowColumn (i + 1)) = .empty))
      headers (t.transpose headers limit)) ∧
    (t.length ≤ limit → t.headers.length ≤ limit →
      let once := t.transpose t.headers limit
      let twice := once.transpose once.headers limit
      (t.headers ≠ [] → twice.map (fun r => r.get fieldColumn) =
        (fieldColumn :: (List.range' 1 t.length).map rowColumn).map .text) ∧
      ∀ r ∈ twice, ∀ j header, t.headers[j]? = some header →
        (r.get fieldColumn = .text fieldColumn → r.get (rowColumn (j + 1)) = .text header) ∧
          ∀ i row, t[i]? = some row → r.get fieldColumn = .text (rowColumn (i + 1)) →
            r.get (rowColumn (j + 1)) = row.get header) := by
  constructor
  · intro headers
    rw [transpose, List.forall₂_map_right_iff, List.forall₂_same]
    intro header _
    refine ⟨?_, get_columnRecord_field _ header, ?_⟩
    · rw [keys_columnRecord, List.length_take, Nat.min_comm]
    · intro i row hi hrow
      have hget : (columnRecord (t.take limit) header).get (rowColumn (i + 1)) = row.get header := by
        apply get_columnRecord
        rw [List.getElem?_take_of_lt hi, hrow]
      exact ⟨hget, fun hmissing => hget.trans (Record.get_of_not_mem hmissing)⟩
  · intro hrows hheaders once twice
    have honce : once = t.headers.map (columnRecord t) := transpose_of_length_le hrows t.headers
    have hlength : once.length ≤ limit := by
      rw [honce, List.length_map]
      exact hheaders
    have htwice : twice = once.headers.map (columnRecord once) :=
      transpose_of_length_le hlength once.headers
    constructor
    · intro hne
      have hfields : once.headers = fieldColumn :: (List.range' 1 t.length).map rowColumn := by
        rw [honce]
        exact headers_map_columnRecord t hne
      rw [htwice, List.map_map, ← hfields]
      exact List.map_congr_left fun header _ => get_columnRecord_field once header
    · intro r hr j header hj
      rw [htwice, honce] at hr
      constructor
      · intro hfield
        rw [get_rowColumn_of_field hr hj hfield]
        exact get_columnRecord_field t header
      · intro i row hrow hfield
        rw [get_rowColumn_of_field hr hj hfield]
        exact get_columnRecord header hrow

/-- The second record has no cell under the second header, and an empty one comes back. -/
theorem transpose_recovers_cells_of_ragged :
    let number (n : Nat) : Cell := .number (.ofNat n)
    let t : Table := [Record.ofList [("A", number 1), ("B", .text "x")],
      Record.ofList [("A", number 3)]]
    let once := t.transpose t.headers 10
    let twice := once.transpose once.headers 10
    t.length ≤ 10 ∧ t.headers.length ≤ 10 ∧
      twice.map (fun r => r.get fieldColumn) =
        [.text "Field", .text "Row_1", .text "Row_2"] ∧
      ∀ r ∈ twice, r.get fieldColumn = .text "Row_2" →
        r.get "Row_1" = number 3 ∧ r.get "Row_2" = .empty := by
  intro number t once twice
  have hrows : t.length ≤ 10 := by decide
  have hheaders : t.headers.length ≤ 10 := by decide
  have hone : rowColumn 1 = "Row_1" := by decide
  have htwo : rowColumn 2 = "Row_2" := by decide
  have hA : t.headers[0]? = some "A" := by decide
  have hB : t.headers[1]? = some "B" := by decide
  have hrow : t[1]? = some (Record.ofList [("A", number 3)]) := rfl
  obtain ⟨hfields, hcells⟩ := (transpose_recovers_cells t 10).2 hrows hheaders
  refine ⟨hrows, hheaders, ?_, ?_⟩
  · rw [hfields (by decide), ← hone, ← htwo]
    rfl
  · intro r hr hfield
    rw [← htwo] at hfield
    constructor
    · rw [← hone, (hcells r hr 0 "A" hA).2 1 _ hrow hfield]
      exact Record.get_of_mem List.mem_cons_self
    · rw [← htwo, (hcells r hr 1 "B" hB).2 1 _ hrow hfield]
      exact Record.get_of_not_mem (by decide)

end Tabular.Table
