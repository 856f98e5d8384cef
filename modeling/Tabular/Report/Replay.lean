import Tabular.Pipeline
import Tabular.Report.Preview

set_option autoImplicit false

/-! # Reports of runs and of pipelines

What is said while a pipeline is run on a file, and what is said of a pipeline that is only
looked at.
-/

namespace Tabular.Report

/-! ## Runs -/

def loaded (path : String) (rows columns : Nat) : Line :=
  [activity "Loaded", " ", named path, " (", strong (toString rows),
    " rows, " ++ toString columns ++ " columns)"]

def running (path : String) (p : Pipeline) : Line :=
  [activity "Running", " ", strong (toString p.steps.length), " steps from " ++ path]

def rowChange (o : Outcome) : String :=
  if o.rowsBefore = o.rowsAfter then toString o.rowsAfter ++ " rows"
  else toString o.rowsBefore ++ " → " ++ toString o.rowsAfter ++ " rows"

def outcome (number : Nat) (o : Outcome) : List Line :=
  ["  " ++ itemNumber number ++ " " ++ o.description ++ " ", faint (rowChange o)]
    :: if 0 < o.faults then
      [["      ", heading "Warning:",
        " " ++ toString o.faults ++ " rows evaluated to " ++ Formula.errorMarker]]
    else []

def outcomes (os : List Outcome) : List Line := (os.zipIdx 1).flatMap fun (o, n) => outcome n o

def result (s : Session) (rows : Nat) : List Line :=
  [[], [heading "Result",
    " (" ++ s.view.name ++ " view, " ++ toString s.active.length ++ " rows)"]]
  ++ preview s.active rows

def saved (path : String) (rows : Nat) : List Line :=
  [[], [{ text := "Saved", style := { bold := true, colour := some .green } },
    " " ++ toString rows ++ " rows to ", { text := path, style := { colour := some .cyan } }]]

def notSaved : List Line := [[], ["No --output given; nothing written."]]

/-! ## Pipelines -/

/-- A step of a pipeline, in detail with the text that it is stored as. -/
def step (detailed : Bool) (number : Nat) (s : Step) : List Line :=
  ["  " ++ itemNumber number ++ " [", { text := s.tag, style := { colour := some .cyan } },
    "] " ++ s.describe]
    :: if detailed then [["      ", faint s.toJson.compactText]] else []

def pipeline (path : String) (p : Pipeline) (detailed : Bool) : List Line :=
  if p.steps = [] then
    [[{ text := "Pipeline has no steps.", style := { colour := some .yellow } }]]
  else
    let head : Line :=
      [activity "Pipeline", " ", named path, " (", strong (toString p.steps.length), " steps)"]
    let last : Line :=
      ["Run ", activity ("tablewright run <FILE> --pipeline " ++ path), " to apply it."]
    [head, []] ++ (p.steps.zipIdx 1).flatMap (fun (s, n) => step detailed n s) ++ [[], last]

end Tabular.Report
