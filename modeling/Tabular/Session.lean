import Tabular.Aggregate
import Tabular.Reshape
import Tabular.Export
import Tabular.Filter
import Tabular.Formula
import Tabular.Hierarchy
import Tabular.Load
import Tabular.Session.Outcome
import Tabular.Sort

set_option autoImplicit false

/-! # Sessions

A session holds the table as it was loaded, the table that is worked on and the table of the
last analysis. Row operations replace the working table and show it; analyses read the working
table, replace the analysis table and show that; a reset goes back to what was loaded.

Every operation gives its outcome or an error, and the session after it.
-/

namespace Tabular

/-- What a session holds. -/
structure Session where
  /-- How files are read. -/
  options : Load.Options := {}
  /-- The number of rows that are transposed at most. -/
  transposeLimit : Nat := defaultTransposeLimit
  /-- The table as it was loaded, if one was. -/
  canonical : Option Table := none
  working : Table := []
  analysis : Table := []
  view : View := .main
  /-- The file that the table was loaded from, if it was one. -/
  source : Option Source := none
deriving DecidableEq

namespace Session

/-- An outcome or an error, and the session after the operation. -/
abbrev Result := Except Error Outcome × Session

/-- The table that is shown. -/
def active (s : Session) : Table :=
  match s.view with
  | .main => s.working
  | .analysis => s.analysis

def isLoaded (s : Session) : Bool := s.canonical.isSome

def rowCounts (s : Session) : Option Nat × Nat × Nat :=
  (s.canonical.map List.length, s.working.length, s.analysis.length)

/-! ## Loading -/

/-- A session in which a table has just been loaded. -/
def restart (s : Session) (t : Table) (source : Option Source) : Session :=
  { s with canonical := some t, working := t, analysis := [], view := .main, source := source }

def load (s : Session) (t : Table) : Result :=
  (.ok { description := "Loaded " ++ toString t.length ++ " rows"
         view := .main, rowsBefore := 0, rowsAfter := t.length },
    s.restart t none)

def loadFile (s : Session) (files : Files) (path : String) : Result :=
  match Load.file s.options files path with
  | .error e => (.error e, s)
  | .ok (t, source) =>
    (.ok { description :=
             "Loaded " ++ toString t.length ++ " rows from '" ++ source.file ++ "'"
           view := .main, rowsBefore := 0, rowsAfter := t.length },
      s.restart t (some source))

/-! ## Replacing tables -/

def whenLoaded (s : Session) (result : Result) : Result :=
  if s.isLoaded then result else (.error .notLoaded, s)

/-- Replaces the working table and shows it. -/
def replaceWorking (s : Session) (t : Table) (description : String) : Result :=
  (.ok { description, view := .main, rowsBefore := s.working.length, rowsAfter := t.length },
    { s with working := t, view := .main })

/-- Replaces the analysis table and shows it. -/
def replaceAnalysis (s : Session) (t : Table) (description : String) : Result :=
  (.ok { description, view := .analysis, rowsBefore := s.working.length, rowsAfter := t.length },
    { s with analysis := t, view := .analysis })

def Result.reporting (result : Result) (more : Outcome → Outcome) : Result :=
  (result.1.map more, result.2)

/-! ## Row operations -/

def reset (s : Session) : Result :=
  match s.canonical with
  | none => (.error .notLoaded, s)
  | some t => s.replaceWorking t "Reset to loaded data"

def filter (s : Session) (column : String) (op : FilterOperator) (value : String) : Result :=
  s.whenLoaded (s.replaceWorking (s.working.filterRows column op value)
    ("Filter '" ++ column ++ "' " ++ op.name ++ " '" ++ value ++ "'"))

def sort (s : Session) (column : String) : Result :=
  s.whenLoaded (s.replaceWorking (s.working.sort column) ("Sort by '" ++ column ++ "'"))

def dedupe (s : Session) : Result :=
  let removed := s.working.duplicates
  s.whenLoaded ((s.replaceWorking s.working.dedupe
    ("Removed " ++ toString removed ++ " duplicates")).reporting
      fun o => { o with removed := removed })

def assignHierarchy (s : Session) (columns : List String) : Result :=
  s.whenLoaded (match Hierarchy.assign columns s.working with
    | .error e => (.error e, s)
    | .ok t => (s.replaceWorking t ("Hierarchy IDs on " ++ ", ".intercalate columns)).reporting
        fun o => { o with columnsAdded := [Hierarchy.keyColumn, Hierarchy.idColumn] })

def applyFormula (s : Session) (f : Formula) (name : String) : Result :=
  s.whenLoaded (match Formula.columnName name with
    | .error e => (.error e, s)
    | .ok column => (s.replaceWorking (f.addColumn s.working column)
        ("Column '" ++ column ++ "' created: " ++ f.describe)).reporting
          fun o => { o with columnsAdded := [column], faults := f.faults s.working })

/-! ## Analyses -/

def aggregate (s : Session) (group value : String) (f : AggregateFunction) : Result :=
  s.whenLoaded (s.replaceAnalysis (s.working.aggregate group value f)
    ("Analysis: " ++ f.name ++ " of '" ++ value ++ "' by '" ++ group ++ "'"))

def unique (s : Session) (column : String) : Result :=
  s.whenLoaded (s.replaceAnalysis (s.working.unique column) ("Unique: '" ++ column ++ "'"))

def transpose (s : Session) : Result :=
  let limit := Nat.min s.working.length s.transposeLimit
  s.whenLoaded (s.replaceAnalysis (s.working.transpose s.working.headers limit)
    ("Transpose (first " ++ toString limit ++ " rows)"))

/-! ## Showing and exporting -/

def setView (s : Session) (view : View) : Result :=
  let shown := { s with view := view }
  let rows := shown.active.length
  s.whenLoaded
    (.ok { description := "View: " ++ view.name, view, rowsBefore := rows, rowsAfter := rows },
      shown)

def render (s : Session) (format : ExportFormat) : Except Error Rendering :=
  if s.isLoaded then Export.render format s.active else .error .notLoaded

def exportFile (s : Session) (format : ExportFormat) (path : String) (files : Files) :
    Except Error Nat × Files :=
  if s.isLoaded then Export.file format s.active path files else (.error .notLoaded, files)

@[simp] theorem active_restart (s : Session) (t : Table) (source : Option Source) :
    (s.restart t source).active = t := rfl

@[simp] theorem isLoaded_restart (s : Session) (t : Table) (source : Option Source) :
    (s.restart t source).isLoaded = true := rfl

theorem whenLoaded_of_isLoaded {s : Session} (h : s.isLoaded = true) (result : Result) :
    s.whenLoaded result = result := by
  simp [whenLoaded, h]

theorem whenLoaded_of_not_isLoaded {s : Session} (h : s.isLoaded = false) (result : Result) :
    s.whenLoaded result = (.error .notLoaded, s) := by
  simp [whenLoaded, h]

end Session

end Tabular
