import Tabular.Delimited
import Tabular.Files
import Tabular.Json.Table
import Tabular.Text.Case
import Tabular.Workbook.Package

set_option autoImplicit false

/-! # Exporting tables

A table is written with the columns of its first record; a cell that a later record lacks is
written empty. Delimited text holds the texts of the cells, JSON keeps numbers, and a workbook
has one sheet with the headers in its first row.

`Export.file` makes the file before it writes the table, so that a table which does not fit a
workbook leaves an empty file behind.
-/

namespace Tabular

inductive ExportFormat where
  | csv
  | tsv
  | json
  | xlsx
deriving DecidableEq, Repr

namespace ExportFormat

def ofName? (name : String) : Except Error ExportFormat :=
  match Text.lowered name with
  | "csv" => .ok .csv
  | "tsv" | "tab" => .ok .tsv
  | "json" => .ok .json
  | "xlsx" | "excel" => .ok .xlsx
  | _ => .error (.unsupportedFormat name)

def ofPath? (path : String) : Option ExportFormat :=
  (Path.extension? path).bind fun name => (ofName? name).toOption

def name : ExportFormat → String
  | .csv => "csv"
  | .tsv => "tsv"
  | .json => "json"
  | .xlsx => "xlsx"

end ExportFormat

inductive Rendering where
  | text (s : String)
  | workbook (w : Workbook)
deriving DecidableEq

/-- The bytes of the file that a rendering is written to. -/
def Rendering.bytes : Rendering → ByteArray
  | .text s => s.toUTF8
  | .workbook w => w.toBytes

namespace Export

def textRows (t : Table) : List (List String) :=
  t.headers :: t.map fun r => t.headers.map r.text

def delimited (delimiter : Char) (t : Table) : String :=
  String.ofList (Delimited.fileText delimiter ((textRows t).map fun row => row.map String.toList))

/-- A table as JSON: each record as an object with all the headers. -/
def json (t : Table) : Json :=
  .array (t.map fun r => .object (t.headers.map fun key => (key, (r.get key).toJson)))

/-! ## Workbooks -/

/-- What a cell places in a sheet: finite numbers as numbers, everything else as text. An empty
text places nothing. -/
def sheetCell? (c : Cell) : Option SheetCell :=
  match c with
  | .number x => some (if x.isFinite then .number x else .text x.toText)
  | .text s => if s = "" then none else some (.text s)
  | .empty => none

def sheet (t : Table) : Sheet where
  name := "Export"
  placed := Sheet.placeRows 0 0
    (t.headers.map (fun key => sheetCell? (.text key))
      :: t.map fun r => t.headers.map fun key => sheetCell? (r.get key))

def workbook (t : Table) : Except Error Workbook :=
  if (sheet t).fits then .ok ⟨[sheet t]⟩ else .error .beyondWorkbook

/-! ## Writing -/

def render (format : ExportFormat) (t : Table) : Except Error Rendering :=
  if t = [] then .error .nothingToExport
  else match format with
    | .csv => .ok (.text (delimited ',' t))
    | .tsv => .ok (.text (delimited '\t' t))
    | .json => .ok (.text (json t).prettyText)
    | .xlsx => (workbook t).map .workbook

/-- Writes a table to a file and gives the number of records. An empty table touches no file;
otherwise directories are made as needed and the file is emptied before the table is written. -/
def file (format : ExportFormat) (t : Table) (path : String) (files : Files) :
    Except Error Nat × Files :=
  if t = [] then (.error .nothingToExport, files)
  else match files.makeParents path with
    | .error fault => (.error (.file path fault), files)
    | .ok files => match files.write path .empty with
      | .error fault => (.error (.file path fault), files)
      | .ok emptied => match render format t with
        | .error e => (.error e, emptied)
        | .ok rendering => match emptied.write path rendering.bytes with
          | .error fault => (.error (.file path fault), emptied)
          | .ok written => (.ok t.length, written)

end Export

end Tabular
