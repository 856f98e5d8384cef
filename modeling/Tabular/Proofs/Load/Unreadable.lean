import Tabular.Load

set_option autoImplicit false

/-! # Files that are no tables

A file that is not loaded could not be read, or its content is refused for one of the reasons of
`Unreadable` (`unreadable_of_file`).
-/

namespace Tabular.Load

/-- Why the content of a file is not a table: something that a table needs is missing, or it is
not in the format that it is read in. -/
inductive Unreadable : Error → Prop
  | emptyData (missing : Missing) : Unreadable (.emptyData missing)
  | notUtf8 : Unreadable .notUtf8
  | json (fault : Json.Fault) : Unreadable (.json fault)
  | notAWorkbook : Unreadable .notAWorkbook

variable {o : Options} {e : Error}

theorem unreadable_of_nonEmpty {t : Table} (h : nonEmpty t = .error e) : Unreadable e := by
  cases t with
  | nil =>
      obtain rfl : Error.emptyData .rows = e := Except.error.inj h
      exact .emptyData .rows
  | cons r rest => cases h

/-! ## Delimited text -/

theorem unreadable_of_fieldTexts {fields : List Delimited.Field}
    (h : fieldTexts fields = .error e) : Unreadable e := by
  unfold fieldTexts at h
  split at h
  · cases h
  · obtain rfl : Error.notUtf8 = e := Except.error.inj h
    exact .notUtf8

theorem unreadable_of_mapM_fieldTexts {rows : List (List Delimited.Field)}
    (h : rows.mapM fieldTexts = .error e) : Unreadable e := by
  induction rows with
  | nil => cases h
  | cons fields rows ih =>
      rw [List.mapM_cons] at h
      rcases of_bind_eq_error h with h | ⟨texts, -, h⟩
      · exact unreadable_of_fieldTexts h
      rcases of_bind_eq_error h with h | ⟨rest, -, h⟩
      · exact ih h
      · cases h

theorem unreadable_of_delimited {delimiter : UInt8} {bytes : ByteArray}
    (h : delimited o delimiter bytes = .error e) : Unreadable e := by
  unfold delimited at h
  rcases of_bind_eq_error h with h | ⟨headerTexts, -, h⟩
  · exact unreadable_of_fieldTexts h
  rcases of_bind_eq_error h with h | ⟨rowTexts, -, h⟩
  · exact unreadable_of_mapM_fieldTexts h
  split at h
  · obtain rfl : Error.emptyData .columns = e := Except.error.inj h
    exact .emptyData .columns
  · exact unreadable_of_nonEmpty h

/-! ## The other formats -/

theorem unreadable_of_workbook {first : Option Sheet} (h : workbook o first = .error e) :
    Unreadable e := by
  cases first with
  | none =>
      obtain rfl : Error.emptyData .sheets = e := Except.error.inj h
      exact .emptyData .sheets
  | some sheet => exact unreadable_of_nonEmpty h

theorem unreadable_of_json {bytes : ByteArray} (h : json o bytes = .error e) : Unreadable e := by
  unfold json at h
  split at h
  · exact unreadable_of_nonEmpty h
  · rename_i fault _
    obtain rfl : Error.json fault = e := Except.error.inj h
    exact .json fault

/-! ## Files -/

theorem unreadable_of_delimiterOf {bytes : ByteArray} (h : delimiterOf o bytes = .error e) :
    Unreadable e := by
  unfold delimiterOf at h
  split at h
  · cases h
  · split at h
    · cases h
    · obtain rfl : Error.emptyData .lines = e := Except.error.inj h
      exact .emptyData .lines

theorem unreadable_of_content {path : String} {bytes : ByteArray}
    (h : content o path bytes = .error e) : Unreadable e := by
  unfold content at h
  dsimp only at h
  split at h
  · rcases of_bind_eq_error h with h | ⟨t, -, h⟩
    · exact unreadable_of_json h
    · cases h
  split at h
  · split at h
    · rcases of_bind_eq_error h with h | ⟨t, -, h⟩
      · exact unreadable_of_workbook h
      · cases h
    · obtain rfl : Error.notAWorkbook = e := Except.error.inj h
      exact .notAWorkbook
  · rcases of_bind_eq_error h with h | ⟨delimiter, -, h⟩
    · exact unreadable_of_delimiterOf h
    rcases of_bind_eq_error h with h | ⟨t, -, h⟩
    · exact unreadable_of_delimited h
    · cases h

/-- A file that is not loaded could not be read, or what was read is refused. -/
theorem unreadable_of_file {files : Files} {path : String} (h : file o files path = .error e) :
    (∃ fault, files.read path = .error fault ∧ e = .file path fault) ∨ Unreadable e := by
  unfold file at h
  split at h
  · rename_i fault hr
    exact .inl ⟨fault, hr, (Except.error.inj h).symm⟩
  · rcases of_bind_eq_error h with h | ⟨result, -, h⟩
    · exact .inr (unreadable_of_content h)
    · cases h

end Tabular.Load
