import Tabular.Delimited
import Tabular.Delimited.Detect
import Tabular.Files
import Tabular.Json.Table
import Tabular.Load.Header
import Tabular.Load.Source
import Tabular.Workbook.Reader

set_option autoImplicit false

/-! # Loading tables

A table is loaded from delimited text, from the first sheet of a workbook or from a JSON array of
objects. The fields of delimited text are typed by `Cell.infer`; the cells of the other formats
keep the type they have in the file.
-/

namespace Tabular.Load

/-- How files are read. -/
structure Options where
  /-- The delimiter; it is looked for when there is none here. -/
  delimiter : Option UInt8 := none
  /-- The first row names the columns. -/
  hasHeader : Bool := true
  /-- The number of data rows that are read at most. -/
  maxRows : Option Nat := none
  quote : UInt8 := '"'
deriving DecidableEq

/-- The data rows that are read. -/
def Options.limit {α : Type} (o : Options) (rows : List α) : List α :=
  match o.maxRows with
  | none => rows
  | some n => rows.take n

/-- A table that has rows. -/
def nonEmpty (t : Table) : Except Error Table :=
  match t with
  | [] => .error (.emptyData .rows)
  | t => .ok t

/-- The table of data rows. Without names the columns are numbered as the first row needs. -/
def ofRows (names : List String) (rows : List (List Cell)) : Table :=
  match names, rows with
  | [], first :: _ => rows.map (Header.record (Header.positions first.length))
  | names, rows => rows.map (Header.record names)

/-! ## Delimited text -/

def fieldTexts (fields : List Delimited.Field) : Except Error (List String) :=
  match fields.mapM Delimited.Field.text? with
  | some texts => .ok texts
  | none => .error .notUtf8

/-- The header row, if there is one, and the data rows. -/
def splitHeader {α : Type} (o : Options) (rows : List (List α)) : List α × List (List α) :=
  match o.hasHeader, rows with
  | true, first :: rest => (first, rest)
  | _, rows => ([], rows)

/-- The table of delimited text. Only the fields that are read of it have to be UTF-8. -/
def delimited (o : Options) (delimiter : UInt8) (bytes : ByteArray) : Except Error Table := do
  let (header, rows) := splitHeader o (Delimited.records ⟨delimiter, o.quote⟩ bytes.data.toList)
  let names := Header.names (← fieldTexts header)
  let rows ← (o.limit rows).mapM fieldTexts
  if names = [] ∧ rows = [] then .error (.emptyData .columns)
  else nonEmpty (ofRows names (rows.map fun fields => fields.map Cell.infer))

/-! ## Workbooks -/

/-- The table of the first sheet of a workbook, if the workbook has sheets. -/
def workbook (o : Options) (first : Option Sheet) : Except Error Table :=
  match first with
  | none => .error (.emptyData .sheets)
  | some sheet =>
    let (header, rows) := splitHeader o sheet.grid
    nonEmpty (ofRows (Header.names (header.map Cell.toText)) (o.limit rows))

/-! ## JSON -/

def json (o : Options) (bytes : ByteArray) : Except Error Table :=
  match Table.ofForeign (Text.symbols bytes) with
  | .ok t => nonEmpty (o.limit t)
  | .error fault => .error (.json fault)

/-! ## Files -/

def delimiterOf (o : Options) (bytes : ByteArray) : Except Error UInt8 :=
  match o.delimiter with
  | some delimiter => .ok delimiter
  | none => match Delimited.detect? bytes.data.toList with
    | some delimiter => .ok delimiter
    | none => .error (.emptyData .lines)

/-- The table of the content of a file, and its format, which the extension of the path tells. -/
def content (o : Options) (path : String) (bytes : ByteArray) :
    Except Error (Table × SourceFormat) := do
  let extension := (Path.extension? path).map fun e => e.map Char.toLower
  if extension = some "json" then .ok (← json o bytes, .json)
  else if extension = some "xlsx" ∨ extension = some "xlsm" then
    match Workbook.firstSheet? bytes with
    | some first => .ok (← workbook o first, .xlsx)
    | none => .error .notAWorkbook
  else
    let delimiter ← delimiterOf o bytes
    .ok (← delimited o delimiter bytes, .ofDelimiter delimiter)

def file (o : Options) (files : Files) (path : String) : Except Error (Table × Source) :=
  match files.read path with
  | .error fault => .error (.file path fault)
  | .ok bytes => do
    let (t, format) ← content o path bytes
    .ok (t, Source.describe path bytes format t)

end Tabular.Load
