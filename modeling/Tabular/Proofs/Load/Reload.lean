import Tabular.Export
import Tabular.Proofs.Delimited.ReadBack
import Tabular.Proofs.Load.Names
import Tabular.Proofs.Load.Rows
import Tabular.Proofs.Number.Reading
import Tabular.Proofs.Table.Keys
import Tabular.Proofs.Text.Utf8

set_option autoImplicit false

/-! # Loading what was exported

A table of delimited text is exported and loaded again without loss (`reload_of_delimited`).
Its columns have names that a header row keeps (`delimited_columns`), so an export is read back
row by row (`delimited_export`), and each cell is inferred from its own text as it was inferred
the first time (`Cell.alike_infer_toText`).
-/

namespace Tabular

/-! ## Cells -/

/-- A finite number is inferred from its text. -/
theorem Cell.alike_infer_number {x : Number} (hx : x.isFinite = true) :
    (Cell.number x).Alike (infer x.toText) := by
  rw [infer_toText hx]
  split
  · -- The text of a zero has no sign.
    rename_i hzero
    exact Number.same_symm (Number.same_of_isZero hzero)
  · exact Number.same_self (Number.isNan_of_isFinite hx)

/-- What was inferred from a field is inferred from its text again. -/
theorem Cell.alike_infer_toText (field : String) :
    (infer field).Alike (infer (infer field).toText) := by
  rcases infer_eq_text_or field with h | h | ⟨x, h, hx⟩
  · rw [h]
    exact rfl
  · rw [h, toText_text, h]
    exact rfl
  · rw [h]
    exact alike_infer_number hx

/-! ## Records -/

namespace Load

/-- The record of the texts of a record. -/
def reread (r : Record) : Record :=
  Header.record r.keys (r.cells.map fun p => Cell.infer p.2.toText)

theorem cells_reread (r : Record) :
    (reread r).cells = r.cells.map fun p => (p.1, Cell.infer p.2.toText) := by
  rw [reread, Header.cells_record r.nodup_keys]
  exact Header.pair_map r.cells fun c => Cell.infer c.toText

/-- A record of inferred cells is like the record of its texts. -/
theorem alike_reread {names : List String} (hn : names.Nodup) (fields : List String) :
    (Header.record names (fields.map Cell.infer)).Alike
      (reread (Header.record names (fields.map Cell.infer))) := by
  rw [Record.Alike, cells_reread, List.forall₂_map_right_iff, List.forall₂_same]
  intro p hp
  rw [Header.cells_record hn] at hp
  obtain ⟨field, hf⟩ := Header.exists_eq_infer_of_mem_pair hp
  refine ⟨rfl, ?_⟩
  rw [hf]
  exact Cell.alike_infer_toText field

/-! ## Columns -/

theorem ne_nil_of_mem_rowTexts {o : Options} {d : Delimited.Dialect} {file : List UInt8}
    {header : List Delimited.Field} {rows : List (List Delimited.Field)}
    {rowTexts : List (List String)}
    (hs : splitHeader o (Delimited.records d file) = (header, rows))
    (hr : (o.limit rows).mapM fieldTexts = .ok rowTexts) {texts : List String}
    (ht : texts ∈ rowTexts) : texts ≠ [] := by
  obtain ⟨fields, hm, hf⟩ := exists_fieldTexts_of_mem hr ht
  have hrecord := mem_of_mem_splitHeader hs (mem_of_mem_limit hm)
  exact ne_nil_of_fieldTexts (Delimited.ne_nil_of_mem_records hrecord) hf

/-- The columns have names that a header row keeps, when a row without names has cells. -/
theorem proper_columnNames (cells : List String) {first : List Cell} (rest : List (List Cell))
    (hf : first ≠ []) :
    Header.Proper (columnNames (Header.names cells) (first :: rest)) ∧
      columnNames (Header.names cells) (first :: rest) ≠ [] := by
  have hnames := Header.proper_names cells
  rcases hn : Header.names cells with _ | ⟨name, names⟩
  · refine ⟨Header.proper_positions first.length, ?_⟩
    have hpos := List.length_pos_of_ne_nil hf
    simp only [columnNames, Header.positions, ne_eq, List.map_eq_nil_iff, List.range_eq_nil]
    omega
  · rw [hn] at hnames
    exact ⟨hnames, List.cons_ne_nil name names⟩

/-- The columns of a table of delimited text have names that a header row keeps, and its cells
are inferred. -/
theorem delimited_columns {o : Options} {delimiter : UInt8} {bytes : ByteArray} {t : Table}
    (h : delimited o delimiter bytes = .ok t) :
    ∃ names, ∃ rows : List (List String), Header.Proper names ∧ names ≠ [] ∧ rows ≠ [] ∧
      t = rows.map fun fields => Header.record names (fields.map Cell.infer) := by
  obtain ⟨header, rows, headerTexts, rowTexts, hs, -, hr, rfl, hne⟩ := delimited_eq_ok h
  rw [ofRows_eq_map] at hne ⊢
  -- A table has a first row, and without a header row it decides how many columns there are.
  rcases rowTexts with _ | ⟨first, rest⟩
  · exact absurd rfl hne
  · have hfirst : first.map Cell.infer ≠ [] := by
      simpa using ne_nil_of_mem_rowTexts hs hr List.mem_cons_self
    obtain ⟨hp, hn⟩ := proper_columnNames headerTexts
      (rest.map fun fields => fields.map Cell.infer) hfirst
    refine ⟨_, first :: rest, hp, hn, List.cons_ne_nil first rest, ?_⟩
    rw [List.map_map]
    rfl

/-! ## Exports -/

theorem fieldTexts_asRead (texts : List String) :
    fieldTexts ((texts.map String.toList).map Delimited.asRead) = .ok texts := by
  have h : ((texts.map String.toList).map Delimited.asRead).mapM Delimited.Field.text? =
      some texts := by
    induction texts with
    | nil => rfl
    | cons text texts ih =>
        have ht : (Delimited.asRead text.toList).text? = some text := by
          rw [Delimited.Field.text?, Delimited.asRead, Text.fromUTF8?_utf8, String.ofList_toList]
        rw [List.map_cons, List.map_cons, List.mapM_cons, ht, ih]
        rfl
  rw [fieldTexts, h]

theorem mapM_fieldTexts_asRead (rows : List (List String)) :
    (rows.map fun texts => (texts.map String.toList).map Delimited.asRead).mapM fieldTexts =
      .ok rows := by
  induction rows with
  | nil => rfl
  | cons texts rows ih =>
      rw [List.map_cons, List.mapM_cons, fieldTexts_asRead, ih]
      rfl

/-- The table of a file whose records are a header row and data rows. -/
theorem delimited_of_records {sep : Char} {bytes : ByteArray} {header : List String}
    {rows : List (List String)}
    (h : Delimited.records (Delimited.written sep) bytes.data.toList =
      (header :: rows).map fun texts => (texts.map String.toList).map Delimited.asRead)
    (hh : header ≠ []) (hr : rows ≠ []) (fixed : Option UInt8) :
    delimited { delimiter := fixed } sep bytes =
      .ok (rows.map fun fields => Header.record (Header.names header) (fields.map Cell.infer)) := by
  -- The first record names the columns, and the others are all read.
  have hsplit : splitHeader { delimiter := fixed }
      (Delimited.records ⟨sep, ({ delimiter := fixed } : Options).quote⟩ bytes.data.toList) =
        ((header.map String.toList).map Delimited.asRead,
          rows.map fun texts => (texts.map String.toList).map Delimited.asRead) := by
    have hd : (⟨sep, ({ delimiter := fixed } : Options).quote⟩ : Delimited.Dialect) =
        Delimited.written sep := rfl
    rw [hd, h]
    rfl
  have hlimit : ∀ rows : List (List Delimited.Field),
      ({ delimiter := fixed } : Options).limit rows = rows := fun _ => rfl
  have hn := Header.names_ne_nil hh
  have hne : rows.map (fun fields => Header.record (Header.names header) (fields.map Cell.infer)) ≠
      [] := by
    simpa using hr
  rw [delimited, hsplit]
  simp only [fieldTexts_asRead, hlimit, mapM_fieldTexts_asRead, bind, Except.bind, hn, false_and,
    if_false, ofRows_of_ne_nil hn]
  rw [List.map_map]
  exact nonEmpty_of_ne_nil hne

/-- The records of an exported table. -/
theorem records_export {sep : Char} (hsep : Delimited.Separates sep) {t : Table}
    (hr : ∀ texts ∈ Export.textRows t, texts ≠ [])
    (hm : ∀ name ∈ t.headers.head?, name.toList.head? ≠ some '\ufeff') :
    Delimited.records (Delimited.written sep) (Export.delimited sep t).toUTF8.data.toList =
      (Export.textRows t).map fun texts => (texts.map String.toList).map Delimited.asRead := by
  have hfields : ∀ fields ∈ (Export.textRows t).map fun row => row.map String.toList,
      fields ≠ [] := by
    intro fields hf
    obtain ⟨texts, ht, rfl⟩ := List.mem_map.mp hf
    simpa using hr texts ht
  -- The first field of the file is the first header.
  have hmark : ∀ fields ∈ ((Export.textRows t).map fun row => row.map String.toList).head?,
      ∀ s ∈ fields.head?, s.head? ≠ some '\ufeff' := by
    rintro fields ⟨⟩ s hs
    rw [List.head?_map] at hs
    obtain ⟨name, hname, rfl⟩ := Option.map_eq_some_iff.mp hs
    exact hm name hname
  rw [Text.data_toUTF8, Export.delimited, String.toList_ofList,
    Delimited.records_fileText hsep hfields hmark, List.map_map]
  rfl

theorem ne_nil_of_mem_textRows {t : Table} (hh : t.headers ≠ []) :
    ∀ texts ∈ Export.textRows t, texts ≠ [] := by
  rintro texts (_ | ⟨_, htexts⟩)
  · exact hh
  · obtain ⟨r, -, rfl⟩ := List.mem_map.mp htexts
    simpa using hh

/-- The record that the texts of a record are read as in a file with a header row. -/
def rereadUnder (headers : List String) (r : Record) : Record :=
  Header.record (Header.names headers) (headers.map fun key => Cell.infer (r.text key))

/-- An exported table is read back record by record, when it has columns and the file does not
begin with a byte order mark. -/
theorem delimited_export_of_headers {sep : Char} (hsep : Delimited.Separates sep) {t : Table}
    (hh : t.headers ≠ []) (hm : ∀ name ∈ t.headers.head?, name.toList.head? ≠ some '\ufeff')
    (fixed : Option UInt8) :
    delimited { delimiter := fixed } sep (Export.delimited sep t).toUTF8 =
      .ok (t.map (rereadUnder t.headers)) := by
  have ht : t ≠ [] := by
    rintro rfl
    exact hh rfl
  have hread := records_export hsep (ne_nil_of_mem_textRows hh) hm
  rw [Export.textRows] at hread
  rw [delimited_of_records hread hh (by simpa using ht), List.map_map]
  -- The texts of a row are those of its record under the headers.
  congr 1
  refine List.map_congr_left fun r _ => ?_
  rw [Function.comp_apply, rereadUnder, List.map_map]
  rfl

/-- Under names that a header row keeps, the texts of a record are those of its cells. -/
theorem rereadUnder_keys {r : Record} (hp : Header.Proper r.keys) :
    rereadUnder r.keys r = reread r := by
  have htexts : r.keys.map (fun key => Cell.infer (r.text key)) =
      r.cells.map fun p => Cell.infer p.2.toText := by
    have hcompose : r.keys.map (fun key => Cell.infer (r.text key)) =
        (r.keys.map r.text).map Cell.infer := by
      rw [List.map_map]
      rfl
    rw [hcompose, Record.map_text_keys, List.map_map]
    rfl
  rw [rereadUnder, reread, Header.names_eq_self hp, htexts]

/-- An exported table whose columns have names that a header row keeps. -/
theorem delimited_export {sep : Char} (hsep : Delimited.Separates sep) {t : Table}
    {names : List String} (ht : t ≠ []) (hk : ∀ r ∈ t, r.keys = names)
    (hp : Header.Proper names) (hn : names ≠ [])
    (hm : ∀ name ∈ names.head?, name.toList.head? ≠ some '\ufeff') :
    delimited {} sep (Export.delimited sep t).toUTF8 = .ok (t.map reread) := by
  obtain ⟨first, hfirst, hheaders⟩ := Table.exists_keys_eq_headers ht
  obtain rfl : t.headers = names := hheaders.symm.trans (hk first hfirst)
  rw [delimited_export_of_headers hsep hn hm none]
  congr 1
  refine List.map_congr_left fun r hr => ?_
  rw [← hk r hr]
  exact rereadUnder_keys (hk r hr ▸ hp)

/-! ## Loading, exporting and loading -/

/-- The separators of the two formats of delimited text. -/
theorem separates_of_format {format : ExportFormat} {sep : Char}
    (hf : format = .csv ∧ sep = ',' ∨ format = .tsv ∧ sep = '\t') : Delimited.Separates sep := by
  rcases hf with ⟨-, rfl⟩ | ⟨-, rfl⟩
  · exact Delimited.separates_comma
  · exact Delimited.separates_tab

theorem render_of_separator {format : ExportFormat} {sep : Char} {t : Table} (ht : t ≠ [])
    (hf : format = .csv ∧ sep = ',' ∨ format = .tsv ∧ sep = '\t') :
    Export.render format t = .ok (.text (Export.delimited sep t)) := by
  rcases hf with ⟨rfl, rfl⟩ | ⟨rfl, rfl⟩ <;> simp [Export.render, ht]

/-- A table of delimited text, exported as delimited text with a comma or with a tab, is loaded
as it was: under the same headers, with as many records, and with the same values of the same
kinds. -/
theorem reload_of_delimited {o : Options} {delimiter : UInt8} {bytes : ByteArray} {t : Table}
    (h : delimited o delimiter bytes = .ok t)
    (hm : ∀ name ∈ t.headers.head?, name.toList.head? ≠ some '\ufeff')
    {format : ExportFormat} {sep : Char}
    (hf : format = .csv ∧ sep = ',' ∨ format = .tsv ∧ sep = '\t') :
    ∃ text u, Export.render format t = .ok (.text text) ∧
      delimited {} sep (Rendering.text text).bytes = .ok u ∧
      u.headers = t.headers ∧ u.length = t.length ∧ t.Alike u := by
  obtain ⟨names, rows, hp, hn, hrows, ht⟩ := delimited_columns h
  have hne : t ≠ [] := by
    rw [ht]
    simpa using hrows
  have hk : ∀ r ∈ t, r.keys = names := by
    intro r hr
    rw [ht] at hr
    obtain ⟨fields, -, rfl⟩ := List.mem_map.mp hr
    exact Header.keys_record_of_nodup hp.nodup _
  have hheaders : t.headers = names := by
    obtain ⟨first, hfirst, he⟩ := Table.exists_keys_eq_headers hne
    rw [← he, hk first hfirst]
  -- The names are those of a header row, and a header row of them is named as it is.
  have hread := delimited_export (separates_of_format hf) hne hk hp hn (hheaders ▸ hm)
  have halike : t.Alike (t.map reread) := by
    rw [Table.Alike, List.forall₂_map_right_iff, List.forall₂_same]
    intro r hr
    rw [ht] at hr
    obtain ⟨fields, -, rfl⟩ := List.mem_map.mp hr
    exact alike_reread hp.nodup fields
  exact ⟨Export.delimited sep t, t.map reread, render_of_separator hne hf, hread,
    halike.headers_eq.symm, List.length_map reread, halike⟩

/-- A separator, a quote and a line break in a field, a name that is taken, a name that is missing,
a negative zero and a row that is a single empty field. -/
theorem reload_of_semicolon_file :
    let t : Table := [
      Record.ofList [("a", .text "x\t,\"y\n"), ("a_1", .number .negativeZero),
        ("column_3", .number (Number.ofDecimal false 1 3))],
      Record.ofList [("a", .empty), ("a_1", .empty), ("column_3", .empty)]]
    delimited { quote := '%' } ';' "a; a ;\n%x\t,\"y\n%;-0; 1e3 \n%%\n".toUTF8 = .ok t ∧
      ∃ text u, Export.render .tsv t = .ok (.text text) ∧
        delimited {} '\t' (Rendering.text text).bytes = .ok u ∧
        u.headers = t.headers ∧ u.length = t.length ∧ t.Alike u := by
  intro t
  have h : delimited { quote := '%' } ';' "a; a ;\n%x\t,\"y\n%;-0; 1e3 \n%%\n".toUTF8 = .ok t := by
    decide +kernel
  have hm : ∀ name ∈ t.headers.head?, name.toList.head? ≠ some '\ufeff' := by decide +kernel
  exact ⟨h, reload_of_delimited h hm (.inr ⟨rfl, rfl⟩)⟩

end Load

end Tabular
