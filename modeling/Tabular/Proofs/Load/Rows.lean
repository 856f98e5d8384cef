import Tabular.Load
import Tabular.Proofs.Table.Keys

set_option autoImplicit false

/-! # Loaded rows

What the readers of delimited text and of workbooks make of their rows: one record for each, and
all of them with the same keys. `delimited_eq_ok` says everything that is known of the rows of a
table that was read from delimited text.
-/

namespace Tabular

/-! ## Records of rows -/

namespace Header

/-- The keys of a record are those of its names, however many cells its row has. -/
theorem keys_record (names : List String) (cells : List Cell) :
    (record names cells).keys = extended [] names := by
  rw [record, Record.keys_ofList, map_fst_pair]

theorem cells_record {names : List String} (h : names.Nodup) (cells : List Cell) :
    (record names cells).cells = pair names cells := by
  rw [record]
  exact Record.cells_ofList (by rw [map_fst_pair]; exact h)

theorem keys_record_of_nodup {names : List String} (h : names.Nodup) (cells : List Cell) :
    (record names cells).keys = names := by
  rw [keys_record]
  exact extended_eq_append (by simpa using h)

/-- A row as wide as the names. -/
theorem pair_map (pairs : List (String × Cell)) (f : Cell → Cell) :
    pair (pairs.map Prod.fst) (pairs.map fun p => f p.2) = pairs.map fun p => (p.1, f p.2) := by
  induction pairs with
  | nil => rfl
  | cons p pairs ih => rw [List.map_cons, List.map_cons, pair, ih, List.map_cons]

/-- The cells of a row of fields are inferred, an absent one like the empty field. -/
theorem exists_eq_infer_of_mem_pair {names fields : List String} {p : String × Cell}
    (h : p ∈ pair names (fields.map Cell.infer)) : ∃ field, p.2 = Cell.infer field := by
  induction names generalizing fields with
  | nil => cases h
  | cons name names ih =>
      cases fields with
      | nil =>
          rcases List.mem_cons.mp h with rfl | h
          · exact ⟨"", rfl⟩
          · have hp : p ∈ pair names (([] : List String).map Cell.infer) := h
            exact ih hp
      | cons field fields =>
          rcases List.mem_cons.mp h with rfl | h
          · exact ⟨field, rfl⟩
          · exact ih h

end Header

namespace Load

/-- The names of the columns of data rows, numbered where there are no names. -/
def columnNames (names : List String) (rows : List (List Cell)) : List String :=
  match names, rows with
  | [], first :: _ => Header.positions first.length
  | names, _ => names

theorem ofRows_eq_map (names : List String) (rows : List (List Cell)) :
    ofRows names rows = rows.map (Header.record (columnNames names rows)) := by
  rcases names with _ | ⟨name, names⟩ <;> rcases rows with _ | ⟨first, rest⟩ <;> rfl

theorem ofRows_of_ne_nil {names : List String} (hn : names ≠ []) (rows : List (List Cell)) :
    ofRows names rows = rows.map (Header.record names) := by
  obtain ⟨name, rest, rfl⟩ := List.exists_cons_of_ne_nil hn
  rfl

theorem rectangular_ofRows (names : List String) (rows : List (List Cell)) :
    (ofRows names rows).Rectangular := by
  rw [ofRows_eq_map]
  exact Table.rectangular_map (Header.keys_record (columnNames names rows)) rows

theorem nonEmpty_eq_ok {t t' : Table} (h : nonEmpty t = .ok t') : t' = t ∧ t ≠ [] := by
  cases t with
  | nil => cases h
  | cons r rest =>
      cases h
      exact ⟨rfl, List.cons_ne_nil r rest⟩

theorem nonEmpty_of_ne_nil {t : Table} (ht : t ≠ []) : nonEmpty t = .ok t := by
  obtain ⟨r, rest, rfl⟩ := List.exists_cons_of_ne_nil ht
  rfl

/-! ## Delimited text -/

theorem ne_nil_of_fieldTexts {fields : List Delimited.Field} {texts : List String}
    (hf : fields ≠ []) (h : fieldTexts fields = .ok texts) : texts ≠ [] := by
  rcases fields with _ | ⟨field, fields⟩
  · exact absurd rfl hf
  · rw [fieldTexts, List.mapM_cons] at h
    cases hx : field.text? with
    | none => simp [hx] at h
    | some text =>
        cases hm : fields.mapM Delimited.Field.text? with
        | none => simp [hx, hm] at h
        | some rest =>
            rintro rfl
            simp [hx, hm] at h

theorem exists_fieldTexts_of_mem {rows : List (List Delimited.Field)}
    {rowTexts : List (List String)} (h : rows.mapM fieldTexts = .ok rowTexts) {texts : List String}
    (ht : texts ∈ rowTexts) : ∃ fields ∈ rows, fieldTexts fields = .ok texts := by
  induction rows generalizing rowTexts with
  | nil =>
      cases h
      cases ht
  | cons fields rows ih =>
      rw [List.mapM_cons] at h
      obtain ⟨first, hf, h⟩ := exists_of_bind_eq_ok h
      obtain ⟨rest, hr, h⟩ := exists_of_bind_eq_ok h
      cases h
      rcases List.mem_cons.mp ht with rfl | ht
      · exact ⟨fields, List.mem_cons_self, hf⟩
      · obtain ⟨fields', hm, he⟩ := ih hr ht
        exact ⟨fields', List.mem_cons_of_mem _ hm, he⟩

theorem mem_of_mem_splitHeader {α : Type} {o : Options} {rows rest : List (List α)}
    {header fields : List α} (h : splitHeader o rows = (header, rest)) (hf : fields ∈ rest) :
    fields ∈ rows := by
  unfold splitHeader at h
  split at h
  · cases h
    exact List.mem_cons_of_mem _ hf
  · cases h
    exact hf

theorem mem_of_mem_limit {α : Type} {o : Options} {rows : List α} {a : α}
    (h : a ∈ o.limit rows) : a ∈ rows := by
  unfold Options.limit at h
  split at h
  · exact h
  · exact List.mem_of_mem_take h

/-- The texts that a table of delimited text was made of. -/
theorem delimited_eq_ok {o : Options} {delimiter : UInt8} {bytes : ByteArray} {t : Table}
    (h : delimited o delimiter bytes = .ok t) :
    ∃ header rows headerTexts rowTexts,
      splitHeader o (Delimited.records ⟨delimiter, o.quote⟩ bytes.data.toList) =
        (header, rows) ∧
      fieldTexts header = .ok headerTexts ∧ (o.limit rows).mapM fieldTexts = .ok rowTexts ∧
      t = ofRows (Header.names headerTexts)
        (rowTexts.map fun fields => fields.map Cell.infer) ∧ t ≠ [] := by
  rw [delimited] at h
  rcases hs : splitHeader o (Delimited.records ⟨delimiter, o.quote⟩ bytes.data.toList)
    with ⟨header, rows⟩
  rw [hs] at h
  -- The header row is decoded first, then the rows that are read.
  obtain ⟨headerTexts, hh, h⟩ := exists_of_bind_eq_ok h
  obtain ⟨rowTexts, hr, h⟩ := exists_of_bind_eq_ok h
  split at h
  · cases h
  · obtain ⟨rfl, hn⟩ := nonEmpty_eq_ok h
    exact ⟨header, rows, headerTexts, rowTexts, rfl, hh, hr, rfl, hn⟩

theorem rectangular_of_delimited {o : Options} {delimiter : UInt8} {bytes : ByteArray} {t : Table}
    (h : delimited o delimiter bytes = .ok t) : t.Rectangular := by
  obtain ⟨-, -, headerTexts, rowTexts, -, -, -, rfl, -⟩ := delimited_eq_ok h
  exact rectangular_ofRows _ _

/-! ## Workbooks -/

theorem rectangular_of_workbook {o : Options} {first : Option Sheet} {t : Table}
    (h : workbook o first = .ok t) : t.Rectangular := by
  cases first with
  | none => cases h
  | some sheet =>
      obtain ⟨rfl, -⟩ := nonEmpty_eq_ok h
      exact rectangular_ofRows _ _

end Load

end Tabular
