import Tabular.Workbook.SharedText

set_option autoImplicit false

/-! # Contents of a workbook file

The document of the workbook lists the sheets by their names, and gives for each a relation; the
document of relations gives the path that belongs to it. How cells look is in a document of
styles, of which nothing is kept.
-/

namespace Tabular.Workbook

open Text Xml

/-! ## Styles -/

/-- The description of a number format can be read. -/
def isSoundFormat (tag : List Symbol) : Bool :=
  match (attributes tag).mapM id with
  | some as => as.all fun a => a.key ≠ symbolsOf "formatCode" || (textOf? a.value).isSome
  | none => false

def styleLists : List String := ["numFmts", "cellXfs"]

/-- The styles can be read; `list` is the list of styles that is open. -/
def areSoundStyles : (list : Option String) → List Event → Bool
  | _, [] | _, .fault :: _ => false
  | list, .text _ :: rest => areSoundStyles list rest
  | none, .opening n _ :: rest => areSoundStyles (styleLists.find? fun list => isLocal list n) rest
  | none, .closing n :: rest => isLocal "styleSheet" n || areSoundStyles none rest
  | some list, .opening n tag :: rest =>
    (!(list = "numFmts" && isLocal "numFmt" n) || isSoundFormat tag)
      && areSoundStyles (some list) rest
  | some list, .closing n :: rest =>
    areSoundStyles (if isLocal list n then none else some list) rest

/-! ## Relations -/

/-- A relation of the workbook: its name and the path that it leads to. -/
structure Relation where
  name : List Symbol
  target : String
deriving DecidableEq

def valueIn (key : String) (as : List Attribute) : List Symbol :=
  ((as.find? fun a => a.key = symbolsOf key).map Attribute.value).getD []

def relations? : List Event → Option (List Relation)
  | [] | .fault :: _ => none
  | .text _ :: rest => relations? rest
  | .closing n :: rest => if isLocal "Relationships" n then some [] else relations? rest
  | .opening n tag :: rest =>
    if isLocal "Relationship" n then do
      let as ← (attributes tag).mapM id
      let target ← textOf? (valueIn "Target" as)
      let more ← relations? rest
      some (⟨valueIn "Id" as, target⟩ :: more)
    else relations? rest

/-- The path of a relation. Of relations with one name the last one counts. -/
def target? (relations : List Relation) (name : List Symbol) : Option String :=
  (relations.reverse.find? fun r => r.name = name).map Relation.target

/-! ## Sheets -/

/-- A sheet that the workbook lists. -/
structure Listed where
  name : String
  path : String
deriving DecidableEq

/-- The path of a part of the workbook from the target of a relation, which may be given from the
root or from the directory of the workbook. -/
def partPath (target : String) : String :=
  if target.startsWith "/xl/" then String.ofList (target.toList.drop 1)
  else if target.startsWith "xl/" then target
  else "xl/" ++ target

def sheetDirectories : List String := ["worksheets", "chartsheets", "dialogsheets"]

def isSheetPath (path : String) : Bool :=
  ((path.splitOn "/")[1]?).any fun directory => directory ∈ sheetDirectories

def visibilities : List String := ["visible", "hidden", "veryHidden"]

/-- The key of the attribute that names the relation of a sheet. -/
def isRelationKey (key : List Symbol) : Bool :=
  key = symbolsOf "r:id" || key = symbolsOf "relationships:id"

/-- The sheet of a tag. All that the tag says of it has to be right. -/
def listed? (relations : List Relation) (tag : List Symbol) : Option Listed := do
  let as ← (attributes tag).mapM id
  let name ← unescape? (valueIn "name" as)
  let states ← (as.filter fun a => a.key = symbolsOf "state").mapM fun a => unescape? a.value
  let targets ← (as.filter fun a => isRelationKey a.key).mapM fun a => target? relations a.value
  let path := partPath (← targets.getLast?)
  if states.all (· ∈ visibilities) ∧ isSheetPath path then some ⟨name, path⟩ else none

/-- What the tag says of the calendar can be read. -/
def isSoundCalendar (tag : List Symbol) : Bool :=
  match valueOf? "date1904" (anyAttributes tag) with
  | some (some value) => (unescape? value).isSome
  | some none => true
  | none => false

/-- What follows a tag that gives a name to a range, if the name and the range can be read. A tag
without a name is passed over. -/
def afterName? (n tag : List Symbol) (rest : List Event) : Option (List Event) := do
  match valueOf? "name" (attributes tag) with
  | some (some value) =>
    let _ ← unescape? value
    let (_, rest) ← readTextUntil? n rest
    some rest
  | _ => some rest

/-- Reads the sheets that the workbook lists. The loop drops an event of its bound for each part
that it reads. -/
def listedWithin (relations : List Relation) : (bound : List Event) → List Event →
    Option (List Listed)
  | [], _ | _, [] | _, .fault :: _ => none
  | _ :: bound, .text _ :: rest => listedWithin relations bound rest
  | _ :: bound, .closing n :: rest =>
    if isLocal "workbook" n then some [] else listedWithin relations bound rest
  | _ :: bound, .opening n tag :: rest =>
    if isLocal "sheet" n then do
      let sheet ← listed? relations tag
      let more ← listedWithin relations bound rest
      some (sheet :: more)
    else if n = symbolsOf "workbookPr" then
      if isSoundCalendar tag then listedWithin relations bound rest else none
    else if isLocal "definedName" n then do
      listedWithin relations bound (← afterName? n tag rest)
    else listedWithin relations bound rest

def listedSheets? (relations : List Relation) (events : List Event) : Option (List Listed) :=
  listedWithin relations events events

end Tabular.Workbook
