import Tabular.Json.Value

set_option autoImplicit false

/-! # Errors

What can go wrong, as causes. `Error.summary` is the wording of this program; a fault found by
reading or writing a file format adds a detail of its own (`Error.detail?`).
-/

namespace Tabular

/-- Why a file could not be opened, read or made. -/
inductive FileFault where
  | notFound
  | alreadyExists
  | notADirectory
  | isADirectory
deriving DecidableEq, Repr

/-- The wording of the operating system. -/
def FileFault.message : FileFault → String
  | .notFound => "No such file or directory (os error 2)"
  | .alreadyExists => "File exists (os error 17)"
  | .notADirectory => "Not a directory (os error 20)"
  | .isADirectory => "Is a directory (os error 21)"

/-- What a file that was read does not have. -/
inductive Missing where
  | lines
  | columns
  | rows
  | sheets
deriving DecidableEq, Repr

def Missing.message : Missing → String
  | .lines => "no lines to analyze"
  | .columns => "no columns found"
  | .rows => "no data rows found"
  | .sheets => "workbook contains no sheets"

/-- An error of the program. -/
inductive Error where
  | notLoaded
  | nothingToExport
  | noColumnsSelected
  | emptyColumnName
  | unknownFunction (name : String)
  | unknownOperator (name : String)
  | unknownView (name : String)
  | unsupportedFormat (name : String)
  | emptyData (missing : Missing)
  | file (path : String) (fault : FileFault)
  /-- A field of delimited text is not UTF-8. -/
  | notUtf8
  | json (fault : Json.Fault)
  | notAWorkbook
  /-- A workbook cannot hold the table. -/
  | beyondWorkbook
  /-- A step of a pipeline failed; steps are counted from one. -/
  | step (number : Nat) (op : String) (cause : Error)
deriving DecidableEq

namespace Error

/-- The part of the message that is worded here. -/
def summary : Error → String
  | .notLoaded => "No data loaded"
  | .nothingToExport => "No data: nothing to export"
  | .noColumnsSelected => "No columns selected for hierarchy"
  | .emptyColumnName => "Column name must not be empty"
  | .unknownFunction name => "Unknown function: " ++ name
  | .unknownOperator name => "Unknown operator: " ++ name
  | .unknownView name => "Unknown view: " ++ name
  | .unsupportedFormat name => "Unsupported format: " ++ name
  | .emptyData missing => "Empty data: " ++ missing.message
  | .file path fault => "IO error for '" ++ path ++ "': " ++ fault.message
  | .notUtf8 => "CSV error: "
  | .json _ => "JSON error: "
  | .notAWorkbook => "XLSX read error: "
  | .beyondWorkbook => "XLSX write error: "
  | .step number op cause =>
    "Pipeline step " ++ toString number ++ " (" ++ op ++ ") failed: " ++ cause.summary

/-- What a fault of a file format adds. -/
def detail? : Error → Option String
  | .notUtf8 => some "a field is not valid UTF-8"
  | .json .malformed => some "the text is not JSON"
  | .json .ended => some "the text ends too early"
  | .json .shape => some "the text has an unexpected shape"
  | .json .unreadable => some "there is no text to read"
  | .notAWorkbook => some "the file is not a workbook"
  | .beyondWorkbook => some "a cell does not fit a worksheet"
  | .step _ _ cause => cause.detail?
  | _ => none

def message (e : Error) : String := e.summary ++ e.detail?.getD ""

end Error

/-! ## One computation after the other -/

section Bind

variable {ε α β : Type} {x : Except ε α} {f : α → Except ε β}

/-- Two computations in a row succeed if both do. -/
theorem exists_of_bind_eq_ok {b : β} (h : x >>= f = .ok b) : ∃ a, x = .ok a ∧ f a = .ok b := by
  cases x with
  | error e => cases h
  | ok a => exact ⟨a, rfl, h⟩

/-- Two computations in a row fail if the first or the second one does. -/
theorem of_bind_eq_error {e : ε} (h : x >>= f = .error e) :
    x = .error e ∨ ∃ a, x = .ok a ∧ f a = .error e := by
  cases x with
  | error e' =>
      obtain rfl : e' = e := Except.error.inj h
      exact .inl rfl
  | ok a => exact .inr ⟨a, rfl, h⟩

end Bind

end Tabular
