import Tabular.CommandLine
import Tabular.Report.Inspection
import Tabular.Report.Replay

set_option autoImplicit false

/-! # The program

A command prints lines as it goes and may fail in the middle; what it has printed and written
until then stays. `perform` gives all that can be seen of it: the lines, the failure if there is
one, and the files afterwards.
-/

namespace Tabular.Program

open CommandLine Report

inductive Failure where
  | noDataFile (path : String)
  | noPipelineFile (path : String)
  | error (e : Error)
deriving DecidableEq

namespace Failure

def summary : Failure → String
  | .noDataFile path => "Data file not found: " ++ path
  | .noPipelineFile path => "Pipeline file not found: " ++ path
  | .error e => e.summary

def detail? : Failure → Option String
  | .error e => e.detail?
  | _ => none

end Failure

/-- What a command has done so far. -/
structure Progress where
  lines : List Line
  files : Files

/-- A command at work. -/
abbrev Work := ExceptT Failure (StateM Progress)

def print (lines : List Line) : Work Unit := modify fun p => { p with lines := p.lines ++ lines }

def files : Work Files := return (← get).files

/-- Goes on with a result, or fails. -/
def demand {α : Type} : Except Error α → Work α
  | .ok x => pure x
  | .error e => throw (.error e)

/-- Fails unless a file is there. -/
def demandFile (path : String) (failure : Failure) : Work Unit := do
  unless (← files).has path do throw failure

def replay (s : Session) (path : String) : Work Session := do
  let p ← demand (Pipeline.load (← files) path)
  print [running path p]
  -- The session keeps what the steps before a failing one did, but nothing of it is shown.
  let (result, s) := p.run s
  print (outcomes (← demand result))
  return s

/-- Writes what a session shows. Without a format the extension of the path names it, and text
with commas is written when it names none. -/
def save (s : Session) (path : String) (format : Option ExportFormat) : Work Unit := do
  let format := (format.or (ExportFormat.ofPath? path)).getD .csv
  let (result, written) := s.exportFile format path (← files)
  -- A failing export may have changed files.
  modify fun p => { p with files := written }
  print (saved path (← demand result))

def run (file : String) (pipeline output : Option String) (format : Option ExportFormat)
    (rows : Nat) (verbose : Bool) : Work Unit := do
  demandFile file (.noDataFile file)
  let (result, s) := ({} : Session).loadFile (← files) file
  let outcome ← demand result
  print [loaded file outcome.rowsAfter s.working.headers.length]
  let s ← match pipeline with
    | some path => replay s path
    | none => pure s
  print (Report.result s rows)
  match output with
  | some path => save s path format
  | none => if verbose then print notSaved

def inspect (file : String) (rows : Nat) (json : Bool) (loadedAt : String) : Work Unit := do
  demandFile file (.noDataFile file)
  let (table, source) ← demand (Load.file {} (← files) file)
  let inspection : Inspection := { source, table, rows }
  if json then print [[(inspection.toJson loadedAt).prettyText]] else print inspection.report

def steps (file : String) (verbose : Bool) : Work Unit := do
  demandFile file (.noPipelineFile file)
  print (Report.pipeline file (← demand (Pipeline.load (← files) file)) verbose)

def work (i : Invocation) (loadedAt : String) : Work Unit :=
  match i.command with
  | .run file pipeline output format preview =>
    run file pipeline output format preview i.verbose
  | .inspect file rows json => inspect file rows json loadedAt
  | .steps file => steps file i.verbose

/-- Does an invocation with files, at a time. Gives the printed lines, the failure and the files
afterwards. -/
def perform (i : Invocation) (loadedAt : String) (files : Files) :
    List Line × Option Failure × Files :=
  match (work i loadedAt).run ⟨[], files⟩ with
  | (.ok (), p) => (p.lines, none, p.files)
  | (.error failure, p) => (p.lines, some failure, p.files)

end Tabular.Program
