import Tabular.Proofs.Delimited.Detection
import Tabular.Proofs.Files.Written
import Tabular.Proofs.Load.Reload
import Tabular.Proofs.Text.Trim

set_option autoImplicit false

/-! # Files of an export

An export of delimited text is found to have the delimiter that it was written with, as its header
row decides; so a file of it is loaded without naming the delimiter as it is with it
(`export_is_detected`).
-/

namespace Tabular.Load

variable {o : Options} {path : String} {bytes : ByteArray}

/-- The extension of a path names no other format than delimited text. -/
def IsDelimitedPath (path : String) : Prop :=
  ∀ e ∈ Path.extension? path, e.map Char.toLower ∉ ["json", "xlsx", "xlsm"]

theorem content_of_delimiter (hp : IsDelimitedPath path) {delimiter : UInt8}
    (hd : delimiterOf o bytes = .ok delimiter) :
    content o path bytes =
      (delimited o delimiter bytes).map fun t => (t, .ofDelimiter delimiter) := by
  have hext : ∀ name ∈ ["json", "xlsx", "xlsm"],
      ((Path.extension? path).map fun e => e.map Char.toLower) ≠ some name := by
    intro name hname h
    obtain ⟨e, he, rfl⟩ := Option.map_eq_some_iff.mp h
    exact hp e he hname
  have hbook : ¬(((Path.extension? path).map fun e => e.map Char.toLower) = some "xlsx" ∨
      ((Path.extension? path).map fun e => e.map Char.toLower) = some "xlsm") := by
    rintro (h | h)
    · exact hext _ (by simp) h
    · exact hext _ (by simp) h
  simp only [content, if_neg (hext "json" (by simp)), if_neg hbook, hd, bind, Except.bind]
  cases delimited o delimiter bytes <;> rfl

theorem delimiterOf_of_detect? (ho : o.delimiter = none) {delimiter : UInt8}
    (hd : Delimited.detect? bytes.data.toList = some delimiter) :
    delimiterOf o bytes = .ok delimiter := by
  simp only [delimiterOf, ho, hd]

/-- A file of delimited text is read with the delimiter that is found in it. -/
theorem file_of_delimiter (hp : IsDelimitedPath path) {files : Files}
    (hr : files.read path = .ok bytes) {delimiter : UInt8}
    (hd : delimiterOf o bytes = .ok delimiter) :
    file o files path = (delimited o delimiter bytes).map fun t =>
      (t, Source.describe path bytes (.ofDelimiter delimiter) t) := by
  simp only [file, hr, content_of_delimiter hp hd, bind, Except.bind]
  cases delimited o delimiter bytes <;> rfl

theorem mem_candidates_of_format {format : ExportFormat} {sep : Char}
    (hf : format = .csv ∧ sep = ',' ∨ format = .tsv ∧ sep = '\t') :
    (sep : UInt8) ∈ Delimited.candidates := by
  rcases hf with ⟨-, rfl⟩ | ⟨-, rfl⟩ <;> decide

theorem detect?_export {sep : Char} (hsep : Delimited.Separates sep)
    (hmem : (sep : UInt8) ∈ Delimited.candidates) {t : Table}
    (h2 : 2 ≤ t.headers.length) (hw : ∃ name ∈ t.headers, Text.trimmed name ≠ "")
    (hl : ∀ name ∈ t.headers, '\n' ∉ name.toList)
    (ho : ∀ name ∈ t.headers, ∀ d ∈ Delimited.candidates, d ≠ sep → d ∉ Text.utf8 name.toList) :
    Delimited.detect? (Export.delimited sep t).toUTF8.data.toList = some (sep : UInt8) := by
  rw [Text.data_toUTF8, Export.delimited, String.toList_ofList]
  refine Delimited.detect?_fileText hsep hmem (by simpa using h2) ?_ ?_ ?_ _
  · -- A header that is not blank has a character that is not.
    obtain ⟨name, hname, hn⟩ := hw
    rw [ne_eq, Text.trimmed_eq_empty_iff] at hn
    push Not at hn
    obtain ⟨c, hc, hb⟩ := hn
    exact ⟨name.toList, List.mem_map_of_mem hname, c, hc, by simpa using hb⟩
  · rintro s hs
    obtain ⟨name, hname, rfl⟩ := List.mem_map.mp hs
    exact hl name hname
  · rintro s hs
    obtain ⟨name, hname, rfl⟩ := List.mem_map.mp hs
    exact ho name hname

/-- The delimiter of an export is found, whatever its cells hold, when the table has two columns or
more, a header that is not blank, and no line feed or other candidate in a header. A file of the
export is then read with any options as it is with this delimiter. -/
theorem export_is_detected {t : Table} (h2 : 2 ≤ t.headers.length)
    (hw : ∃ name ∈ t.headers, Text.trimmed name ≠ "")
    (hl : ∀ name ∈ t.headers, '\n' ∉ name.toList) {format : ExportFormat} {sep : Char}
    (hf : format = .csv ∧ sep = ',' ∨ format = .tsv ∧ sep = '\t')
    (ho : ∀ name ∈ t.headers, ∀ d ∈ Delimited.candidates, d ≠ sep → d ∉ Text.utf8 name.toList) :
    ∃ text, Export.render format t = .ok (.text text) ∧
      Delimited.detect? (Rendering.text text).bytes.data.toList = some (sep : UInt8) ∧
      ∀ (o : Options) (files : Files) (path : String), o.delimiter = none →
        IsDelimitedPath path → files.read path = .ok (Rendering.text text).bytes →
        file o files path = (delimited o sep (Rendering.text text).bytes).map fun u =>
          (u, Source.describe path (Rendering.text text).bytes (.ofDelimiter sep) u) := by
  have ht : t ≠ [] := by
    rintro rfl
    cases h2
  have hd := detect?_export (separates_of_format hf) (mem_candidates_of_format hf) h2 hw hl ho
  exact ⟨_, render_of_separator ht hf, hd, fun o files path hnone hp hr =>
    file_of_delimiter hp hr (delimiterOf_of_detect? hnone hd)⟩

/-- Headers with separators, quotes and a carriage return, a blank one, and cells that hold every
candidate and line breaks. -/
theorem export_is_detected_of_quoted_headers :
    let t : Table := [
      Record.ofList [("a,\"b", .text "\t\t;\n|,\"\n;;;"), ("\r", .text "\n\n"), ("", .empty)],
      Record.ofList [("\r", .text "x;y\tz|")]]
    2 ≤ t.headers.length ∧ (∃ name ∈ t.headers, Text.trimmed name ≠ "") ∧
      (∀ name ∈ t.headers, '\n' ∉ name.toList) ∧
      (∀ name ∈ t.headers, ∀ d ∈ Delimited.candidates, d ≠ ',' → d ∉ Text.utf8 name.toList) ∧
      ∃ text, Export.render .csv t = .ok (.text text) ∧
        Delimited.detect? (Rendering.text text).bytes.data.toList = some (',' : UInt8) ∧
        file {} ⟨[("p", .file (Rendering.text text).bytes)]⟩ "p" =
          (delimited {} ',' (Rendering.text text).bytes).map fun u =>
            (u, Source.describe "p" (Rendering.text text).bytes .csv u) := by
  intro t
  have h2 : 2 ≤ t.headers.length := by decide +kernel
  have hw : ∃ name ∈ t.headers, Text.trimmed name ≠ "" := by decide +kernel
  have hl : ∀ name ∈ t.headers, '\n' ∉ name.toList := by decide +kernel
  have ho : ∀ name ∈ t.headers, ∀ d ∈ Delimited.candidates, d ≠ ',' → d ∉ Text.utf8 name.toList := by
    have hall : (t.headers.all fun name => Delimited.candidates.all fun d =>
        d = ',' || !(Text.utf8 name.toList).contains d) = true := by decide +kernel
    intro name hname d hd hne
    simpa [hne] using List.all_eq_true.mp (List.all_eq_true.mp hall name hname) d hd
  obtain ⟨text, htext, hd, hfile⟩ := export_is_detected h2 hw hl (.inl ⟨rfl, rfl⟩) ho
  have hp : IsDelimitedPath "p" := by simp [IsDelimitedPath, Files.extension?_p]
  refine ⟨h2, hw, hl, ho, text, htext, hd, hfile {} _ "p" rfl hp ?_⟩
  exact Files.read_eq_ok_iff.mpr ⟨["p"], Files.place?_p _, rfl⟩

end Tabular.Load
