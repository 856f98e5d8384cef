import Tabular.Archive
import Tabular.Workbook
import Tabular.Workbook.Reference
import Tabular.Workbook.SheetText
import Tabular.Xml

set_option autoImplicit false

/-! # Workbooks as files

A workbook file is an archive of markup documents: one for the workbook with the names of its
sheets, one for each sheet, and some that say how they belong together. The texts of a sheet are
written inside its cells.
-/

namespace Tabular

namespace Workbook.Package

/-! ## Names of the format -/

def workbookPath : String := "xl/workbook.xml"

def relationsPath : String := "xl/_rels/workbook.xml.rels"

def sharedPath : String := "xl/sharedStrings.xml"

def stylesPath : String := "xl/styles.xml"

/-- The path of a sheet that is written, inside the directory of the workbook. -/
def sheetPath (number : Nat) : String := "worksheets/sheet" ++ toString number ++ ".xml"

/-- The name of a relation from a document to a sheet. -/
def relationName (number : Nat) : String := "rId" ++ toString number

/-- A name space of the format, which tells its elements from those of others. -/
def nameSpace (path : String) : String := "http:" ++ "//schemas.openxmlformats.org/" ++ path

def sheetSpace : String := nameSpace "spreadsheetml/2006/main"

def relationSpace : String := nameSpace "officeDocument/2006/relationships"

def contentType (kind : String) : String :=
  "application/vnd.openxmlformats-officedocument.spreadsheetml." ++ kind ++ "+xml"

/-! ## Writing -/

/-- The number of a cell. A negative zero keeps its sign. -/
def numberText (x : Number) : String := if x = .negativeZero then "-0" else x.toText

/-- The text that is written for a number that is none of a sheet. -/
def nonFiniteText (x : Number) : String :=
  if x.isNan then "NAN" else if x = .infinite true then "-INF" else "INF"

/-- The element with the text of a cell. A text of runs is markup already. -/
def textXml (s : String) : Xml :=
  let encoded := Xml.text (String.ofList (SheetText.encode s.toList))
  .element "is" [] [if s.startsWith "<r>" ∧ s.endsWith "</r>" then .verbatim s
    else .element "t" [("xml:space", "preserve")] [encoded]]

def cellXml (p : Placed) : Xml :=
  let cell (type : List (String × String)) (content : Xml) : Xml :=
    .element "c" (("r", Reference.ofPosition p.row p.column) :: type) [content]
  let value (s : String) : Xml := .element "v" [] [.text s]
  let text (s : String) : Xml := cell [("t", "inlineStr")] (textXml s)
  match p.cell with
  | .number x => if x.isFinite then cell [] (value (numberText x)) else text (nonFiniteText x)
  | .bool b => cell [("t", "b")] (value (if b then "1" else "0"))
  | .date s => cell [("t", "d")] (value s)
  | .text s => text s

def rowXml (cells : List Placed) : Xml :=
  let number := match cells with
    | [] => 0
    | p :: _ => p.row + 1
  .element "row" [("r", toString number)] (cells.map cellXml)

def sheetXml (sheet : Sheet) : Xml :=
  let rows := sheet.placed.splitBy fun p q => p.row == q.row
  .element "worksheet" [("xmlns", sheetSpace)] [.element "sheetData" [] (rows.map rowXml)]

def workbookXml (w : Workbook) : Xml :=
  let sheets := (w.sheets.zipIdx 1).map fun (sheet, n) =>
    Xml.element "sheet"
      [("name", sheet.name), ("sheetId", toString n), ("r:id", relationName n)] []
  .element "workbook" [("xmlns", sheetSpace), ("xmlns:r", relationSpace)]
    [.element "sheets" [] sheets]

/-- A document of relations, each with its name, its type and its target. -/
def relationsXml (relations : List (String × String × String)) : Xml :=
  .element "Relationships" [("xmlns", nameSpace "package/2006/relationships")]
    (relations.map fun (name, kind, target) => .element "Relationship"
      [("Id", name), ("Type", relationSpace ++ "/" ++ kind), ("Target", target)] [])

def typesXml (w : Workbook) : Xml :=
  let default (extension type : String) : Xml :=
    .element "Default" [("Extension", extension), ("ContentType", type)] []
  let override (path kind : String) : Xml :=
    .element "Override" [("PartName", "/xl/" ++ path), ("ContentType", contentType kind)] []
  .element "Types" [("xmlns", nameSpace "package/2006/content-types")]
    (default "rels" "application/vnd.openxmlformats-package.relationships+xml"
      :: default "xml" "application/xml"
      :: override "workbook.xml" "sheet.main"
      :: (w.sheets.zipIdx 1).map fun (_, n) => override (sheetPath n) "worksheet")

def archive (w : Workbook) : Archive :=
  let file (name : String) (root : Xml) : ArchiveFile := ⟨name, root.documentText.toUTF8⟩
  let sheets := w.sheets.zipIdx 1
  ⟨file "[Content_Types].xml" (typesXml w)
    :: file "_rels/.rels" (relationsXml [(relationName 1, "officeDocument", workbookPath)])
    :: file workbookPath (workbookXml w)
    :: file relationsPath
      (relationsXml (sheets.map fun (_, n) => (relationName n, "worksheet", sheetPath n)))
    :: sheets.map fun (sheet, n) => file ("xl/" ++ sheetPath n) (sheetXml sheet)⟩

end Workbook.Package

namespace Workbook

def toBytes (w : Workbook) : ByteArray := (Package.archive w).toBytes

end Workbook

end Tabular
