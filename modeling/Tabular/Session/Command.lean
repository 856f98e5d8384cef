import Tabular.Step

set_option autoImplicit false

/-! # Commands

Everything that can be asked of a session: to load a table or a file, to do a step, to write
what is shown. A run asks commands in order, each of the session that the one before left,
whether that one succeeded or not.

A command that reads or writes files is given the files as they are at that moment.
-/

namespace Tabular.Session

/-- What can be asked of a session. -/
inductive Command where
  | load (t : Table)
  | loadFile (files : Files) (path : String)
  | step (step : Step)
  | exportFile (format : ExportFormat) (path : String) (files : Files)
  | render (format : ExportFormat)
deriving DecidableEq

/-- What a command gives back that succeeds. -/
inductive Reply where
  | outcome (o : Outcome)
  /-- The number of records in the file that was written, and the files with it. -/
  | saved (rows : Nat) (files : Files)
  | rendering (r : Rendering)
deriving DecidableEq

def start (o : Load.Options) (limit : Nat) : Session := { options := o, transposeLimit := limit }

def perform (s : Session) (c : Command) : Except Error Reply × Session :=
  let told (result : Result) := (result.1.map Reply.outcome, result.2)
  match c with
  | .load t => told (s.load t)
  | .loadFile files path => told (s.loadFile files path)
  | .step step => told (step.apply s)
  | .exportFile format path files =>
    let (result, written) := s.exportFile format path files
    (result.map fun rows => .saved rows written, s)
  | .render format => ((s.render format).map .rendering, s)

def run (s : Session) (commands : List Command) : Session :=
  commands.foldl (fun s c => (s.perform c).2) s

namespace Command

def isLoad : Command → Bool
  | .load _ | .loadFile .. => true
  | _ => false

def isReset : Command → Bool
  | .step .reset => true
  | _ => false

end Command

@[simp] theorem run_nil (s : Session) : s.run [] = s := rfl

@[simp] theorem run_cons (s : Session) (c : Command) (commands : List Command) :
    s.run (c :: commands) = (s.perform c).2.run commands := rfl

@[simp] theorem run_append (s : Session) (before after : List Command) :
    s.run (before ++ after) = (s.run before).run after := by
  simp [run]

end Tabular.Session
