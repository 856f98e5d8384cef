import Tabular.Archive.Directory
import Tabular.Workbook.Contents
import Tabular.Workbook.Package
import Tabular.Workbook.SheetData
import Tabular.Xml.Encoding

set_option autoImplicit false

/-! # Reading workbook files

Of a workbook file only the first sheet is read. The documents on the way to it are read as far
as their last closing tag, and nothing is asked of other documents or of what comes after.
-/

namespace Tabular.Workbook

open Xml

/-- The events of a document of an archive. A content that cannot be unpacked is a fault, and a
wrong checksum is one at the end of the content. -/
def memberEvents (bytes : ByteArray) (m : Archive.Member) : List Event :=
  match m.content? bytes with
  | none => [.fault]
  | some content =>
    documentEvents content ++ if m.isIntact content then [] else [.fault]

/-- The first sheet of a workbook file, and `some none` when the workbook lists none. Other bytes
than those of a workbook are refused. -/
def firstSheet? (bytes : ByteArray) : Option (Option Sheet) := do
  let members ← Archive.members? bytes
  let document? (path : String) : Option (List Event) :=
    (Archive.member? members path).map (memberEvents bytes)
  -- The parts are read in this order, and the first one that cannot be read decides.
  let shared ← match document? Package.sharedPath with
    | some events => sharedTexts? events
    | none => some #[]
  let sound := match document? Package.stylesPath with
    | some events => areSoundStyles none events
    | none => true
  if !sound then none
  let relations ← relations? (← document? Package.relationsPath)
  let sheets ← match document? Package.workbookPath with
    | some events => listedSheets? relations events
    | none => some []
  match sheets with
  | [] => some none
  | first :: _ =>
    let placed ← placed? shared false (← document? first.path)
    some (some ⟨first.name, placed⟩)

end Tabular.Workbook
