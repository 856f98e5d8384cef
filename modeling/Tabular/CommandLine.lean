import Tabular.CommandLine.Arguments

set_option autoImplicit false

/-! # The command line

There are three commands: `run` works on a data file and may write the result, `inspect` shows
what a data file holds, and `steps` shows what a pipeline does. Each has one file as its operand.
-/

namespace Tabular.CommandLine

inductive Command where
  | run (file : String) (pipeline output : Option String) (format : Option ExportFormat)
      (preview : Nat)
  | inspect (file : String) (rows : Nat) (json : Bool)
  | steps (file : String)
deriving DecidableEq, Repr

/-- A command, and whether it should say more. -/
structure Invocation where
  command : Command
  verbose : Bool
deriving DecidableEq, Repr

def Invocation.paths (i : Invocation) : List String :=
  match i.command with
  | .run file pipeline output _ _ => file :: pipeline.toList ++ output.toList
  | .inspect file _ _ => [file]
  | .steps file => [file]

def versionText : String := "tablewright 0.1.0"

def helpText : String :=
  "\n".intercalate ["Tablewright: tabular transformation engine", "", "Usage:",
    "  tablewright run <FILE> [-p PIPELINE] [-o OUTPUT] [-f FORMAT] [--preview ROWS]",
    "  tablewright inspect <FILE> [-r ROWS] [--json]",
    "  tablewright steps <PIPELINE>", "",
    "Everywhere: -v, --verbose  -h, --help  -V, --version"]

/-- The switches that are understood everywhere. -/
def commonSwitches : List Switch :=
  [{ name := "verbose", letter := some 'v' }, { name := "help", letter := some 'h' },
    { name := "version", letter := some 'V' }]

def runSwitches : List Switch :=
  [{ name := "pipeline", letter := some 'p', value := some .path },
    { name := "output", letter := some 'o', value := some .path },
    { name := "format", letter := some 'f', value := some .format },
    { name := "preview", value := some .count }]

def inspectSwitches : List Switch :=
  [{ name := "rows", letter := some 'r', value := some .count }, { name := "json" }]

def defaultRows : Nat := 10

/-- The number that a switch gives, or the default. -/
def Given.rows (g : Given) (name : String) : Nat := ((g.value? name).bind count?).getD defaultRows

def Given.format? (g : Given) (name : String) : Option ExportFormat :=
  (g.value? name).bind fun value => (ExportFormat.ofName? value).toOption

/-- The switches of a command and the command of its arguments and file. -/
def command? (name : String) : Option (List Switch × (Given → String → Command)) :=
  match name with
  | "run" => some (runSwitches, fun g file =>
      .run file (g.value? "pipeline") (g.value? "output") (g.format? "format") (g.rows "preview"))
  | "inspect" => some (inspectSwitches, fun g file => .inspect file (g.rows "rows") (g.has "json"))
  | "steps" => some ([], fun _ file => .steps file)
  | _ => none

def readCommand (verbose : Bool) (name : String) (arguments : List String) :
    Except Stop Invocation :=
  match command? name, arguments with
  | some (switches, command), arguments => do
    let g ← read (switches ++ commonSwitches) 1 {} arguments
    match g.operands with
    | file :: _ => .ok ⟨command g file, verbose || g.has "verbose"⟩
    | [] => .error (.misuse (.missingOperand "FILE"))
  | none, [] => .error (if name = "help" then .help else .misuse (.unknown name))
  | none, [topic] =>
    .error (if name = "help" ∧ (topic = "help" ∨ (command? topic).isSome) then .help
      else .misuse (.unknown topic))
  | none, _ => .error (.misuse (.unknown name))

def parse (arguments : List String) : Except Stop Invocation := do
  let before := arguments.takeWhile isSwitchLike
  let g ← read commonSwitches 0 {} before
  match arguments.dropWhile isSwitchLike with
  | name :: rest =>
    if "--" ∈ before then .error (.misuse (.surplus name))
    else readCommand (g.has "verbose") name rest
  | [] => .error (.misuse .missingCommand)

end Tabular.CommandLine
