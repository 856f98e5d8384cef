import Tabular.Proofs.Load.Columns
import Tabular.Proofs.Load.Reload

set_option autoImplicit false

/-! # Texts of an exported table

Delimited text keeps the texts of a table, whatever characters they hold and however its records
differ in their keys. The fields of an export are its headers and, for each record, the texts
under them; read again, the headers name the columns as those of any other header row and the
texts are inferred (`exported_texts_read_back`).

What is read back is another table in general: a header may be no name that a header row keeps, a
number may come from a text, and what a record has beyond the headers is not written.
-/

namespace Tabular

theorem Record.text_of_not_mem {r : Record} {key : String} (h : key ∉ r.keys) : r.text key = "" := by
  rw [text, get_of_not_mem h]
  rfl

namespace Load

/-- What a record of an export is read as: its keys are the names of the headers, and under the
name of each header stands what its text is inferred as. The text of a header that the record
lacks is empty. -/
structure Reread (headers : List String) (r r' : Record) : Prop where
  keys_eq : r'.keys = Header.names headers
  get_eq : ∀ (j : Nat) header, headers[j]? = some header → ∃ name,
    (Header.names headers)[j]? = some name ∧ r'.get name = Cell.infer (r.text header)
  text_of_lacking : ∀ header ∈ headers, header ∉ r.keys → r.text header = ""

theorem reread_rereadUnder (headers : List String) (r : Record) :
    Reread headers r (rereadUnder headers r) := by
  have hholds := Header.holds_record (Header.proper_names headers).nodup
    (headers.map fun key => Cell.infer (r.text key))
  refine ⟨hholds.keys_eq, fun j header hj => ?_, fun _ _ h => Record.text_of_not_mem h⟩
  have hlt : j < (Header.names headers).length := by
    rw [Header.length_names]
    exact (List.getElem?_eq_some_iff.mp hj).1
  have hname := List.getElem?_eq_getElem hlt
  refine ⟨_, hname, ?_⟩
  rw [rereadUnder, hholds.get_eq j _ hname, List.getElem?_map, hj]
  rfl

/-- The fields of an export are the headers and the texts under them, byte by byte. -/
theorem records_eq_textRows {sep : Char} (hsep : Delimited.Separates sep) {t : Table}
    (hh : t.headers ≠ []) (hm : ∀ name ∈ t.headers.head?, name.toList.head? ≠ some '\ufeff') :
    Delimited.records (Delimited.written sep) (Export.delimited sep t).toUTF8.data.toList =
      (Export.textRows t).map fun texts => texts.map fun text => Text.utf8 text.toList := by
  rw [records_export hsep (ne_nil_of_mem_textRows hh) hm]
  refine List.map_congr_left fun texts _ => ?_
  rw [List.map_map]
  rfl

/-- A table with columns, exported with a comma or with a tab, is read back text by text: the
fields are the headers and the texts under them, and every record becomes one with the names of
the headers as its keys and with what its texts are inferred as under them. -/
theorem exported_texts_read_back {t : Table} (hh : t.headers ≠ [])
    (hm : ∀ name ∈ t.headers.head?, name.toList.head? ≠ some '\ufeff')
    {format : ExportFormat} {sep : Char}
    (hf : format = .csv ∧ sep = ',' ∨ format = .tsv ∧ sep = '\t') (fixed : Option UInt8) :
    ∃ text u, Export.render format t = .ok (.text text) ∧
      Delimited.records ⟨sep, '"'⟩ (Rendering.text text).bytes.data.toList =
        (Export.textRows t).map (fun texts => texts.map fun text => Text.utf8 text.toList) ∧
      delimited { delimiter := fixed } sep (Rendering.text text).bytes = .ok u ∧
      List.Forall₂ (Reread t.headers) t u := by
  have ht : t ≠ [] := by
    rintro rfl
    exact hh rfl
  have hsep := separates_of_format hf
  refine ⟨_, _, render_of_separator ht hf, records_eq_textRows hsep hh hm,
    delimited_export_of_headers hsep hh hm fixed, ?_⟩
  rw [List.forall₂_map_right_iff, List.forall₂_same]
  exact fun r _ => reread_rereadUnder t.headers r

/-- Headers that are blank, that differ in blanks only or that hold a line break, texts with
quotes and separators, and a record that lacks two of the headers and has a cell beyond them. -/
theorem exported_texts_read_back_of_ragged :
    let t : Table := [
      Record.ofList [(" a", .number (Number.ofDecimal false 15 (-1))), ("a", .text "x\r\ny"),
        ("", .text " \"7\","), ("\n\"", .text " 08 ")],
      Record.ofList [("b", .text "beyond"), ("a", .text "\t;\"\""), ("", .empty)]]
    t.headers ≠ [] ∧ (∀ name ∈ t.headers.head?, name.toList.head? ≠ some '\ufeff') ∧
      ∃ text u, Export.render .tsv t = .ok (.text text) ∧
        Delimited.records ⟨'\t', '"'⟩ (Rendering.text text).bytes.data.toList =
          (Export.textRows t).map (fun texts => texts.map fun text => Text.utf8 text.toList) ∧
        delimited { delimiter := some ';' } '\t' (Rendering.text text).bytes = .ok u ∧
        List.Forall₂ (Reread t.headers) t u := by
  intro t
  have hh : t.headers ≠ [] := by decide +kernel
  have hm : ∀ name ∈ t.headers.head?, name.toList.head? ≠ some '\ufeff' := by decide +kernel
  exact ⟨hh, hm, exported_texts_read_back hh hm (.inr ⟨rfl, rfl⟩) (some (';' : UInt8))⟩

end Load

end Tabular
