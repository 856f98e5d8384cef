import Tabular.Json.Writer
import Tabular.Step

set_option autoImplicit false

/-! # Pipelines

A pipeline is a list of steps that are done in order, up to the first one that fails. It is
stored as an object with the steps under `steps`; other members are passed over, and without
that one there are no steps.
-/

namespace Tabular

structure Pipeline where
  steps : List Step
deriving DecidableEq

namespace Pipeline

/-! ## Running -/

/-- Does steps in order, of which the first one has a number. The steps before a failing one stay
done. -/
def runFrom (number : Nat) : List Step → Session → Except Error (List Outcome) × Session
  | [], s => (.ok [], s)
  | step :: rest, s => match step.apply s with
    | (.error e, s) => (.error (.step number step.tag e), s)
    | (.ok outcome, s) => match runFrom (number + 1) rest s with
      | (.error e, s) => (.error e, s)
      | (.ok outcomes, s) => (.ok (outcome :: outcomes), s)

def run (p : Pipeline) (s : Session) : Except Error (List Outcome) × Session :=
  runFrom 1 p.steps s

/-! ## Storing -/

def toJson (p : Pipeline) : Json := .object [("steps", .array (p.steps.map Step.toJson))]

def readSteps (depth : Nat) (s : Json.Input) : Except Json.Fault (List Step × Json.Input) :=
  Json.readArray depth Step.read s

def readMember (depth : Nat) (name : String) (found : Option (List Step)) (s : Json.Input) :
    Except Json.Fault (Option (List Step) × Json.Input) :=
  if name = "steps" then
    match found with
    | some _ => .error .shape
    | none => do
      let (steps, rest) ← readSteps depth (← Json.readColon s)
      .ok (some steps, rest)
  else do
    let (_, rest) ← Json.skipValue (← Json.readColon s)
    .ok (found, rest)

/-- Reads a pipeline that is given as an array with its steps, from the bracket on. -/
def readFields (depth : Nat) (s : Json.Input) : Except Json.Fault (List Step × Json.Input) :=
  match Json.skipBlanks s with
  | [] => .error .ended
  | some ']' :: rest => .ok ([], rest)
  | s => do
    let (steps, rest) ← readSteps depth s
    match Json.skipBlanks rest with
    | [] => .error .ended
    | some ']' :: rest => .ok (steps, rest)
    | _ => .error .malformed

def read (depth : Nat) (s : Json.Input) : Except Json.Fault (Pipeline × Json.Input) :=
  match depth, Json.skipBlanks s with
  | 0, some '[' :: _ => .error .malformed
  | depth + 1, some '[' :: rest => do
    let (steps, rest) ← readFields depth rest
    .ok (⟨steps⟩, rest)
  | depth, s => do
    let (steps, rest) ← Json.readObject depth readMember none s
    .ok (⟨steps.getD []⟩, rest)

def ofText (s : Json.Input) : Except Json.Fault Pipeline :=
  Json.whole (read Json.maxDepth) s

/-! ## Files -/

/-- The pipeline of a file. A directory can be opened, but there is no text in it. -/
def load (files : Files) (path : String) : Except Error Pipeline :=
  match files.read path with
  | .error .isADirectory => .error (.json .unreadable)
  | .error fault => .error (.file path fault)
  | .ok bytes => match ofText (Text.symbols bytes) with
    | .error fault => .error (.json fault)
    | .ok p => .ok p

/-- Writes a pipeline to a file, with a member or an item on each line. -/
def save (p : Pipeline) (path : String) (files : Files) : Except Error Files :=
  match (files.makeParents path).bind fun files =>
    files.write path p.toJson.prettyText.toUTF8 with
  | .error fault => .error (.file path fault)
  | .ok files => .ok files

@[simp] theorem runFrom_nil (number : Nat) (s : Session) : runFrom number [] s = (.ok [], s) := rfl

end Pipeline

end Tabular
