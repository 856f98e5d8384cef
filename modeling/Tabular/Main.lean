import Std.Time.Format
import Tabular.Program

set_option autoImplicit false

/-! # Running the program

The program sees the files that its command line names, and the directories that lead to them.
They are looked up before the command is performed, and what it has written is put in place
afterwards.
-/

open Tabular

/-- What is at a path; its content is only read when it is wanted. -/
def entryAt? (path : String) (wanted : Bool) : IO (Option Entry) := do
  try
    let found ← IO.FS.realPath path
    if !(← found.pathExists) then return none
    if ← found.isDir then return some .directory
    else return some (.file (← if wanted then IO.FS.readBinFile found else pure .empty))
  catch _ => return none

/-- Looks up a path and the directories that lead to it. -/
def lookUp (files : Files) (path : String) : IO Files := do
  let start := if path.startsWith "/" then "/" else ""
  let names := Path.names path
  let mut files := files
  for n in [1 : names.length + 1] do
    let part := start ++ "/".intercalate (names.take n)
    match files.place? part, ← entryAt? part (n = names.length) with
    | .ok place, some entry =>
      if files.entry? place = none then files := files.put place entry
    | _, _ => return files
  return files

/-- Puts in place what has been written. -/
def store (before after : Files) : IO Unit := do
  for (path, entry) in after.entries do
    if before.entries.lookup path ≠ some entry then
      match entry with
      | .directory => IO.FS.createDirAll path
      | .file content => IO.FS.writeBinFile path content

/-- The output goes to a terminal, or the environment asks for styles or against them. -/
def wantsStyles : IO Bool := do
  let isOn (value : Option String) : Bool := value.any (· ≠ "0")
  if isOn (← IO.getEnv "CLICOLOR_FORCE") then return true
  if (← IO.getEnv "NO_COLOR").isSome then return false
  return (← (← IO.getStdout).isTty) && (← IO.getEnv "CLICOLOR").all (· ≠ "0")

/-- The time in coordinated universal time. -/
def timeStamp : IO String := do
  let now ← Std.Time.Timestamp.now
  return (Std.Time.DateTime.ofTimestampWithZone now .UTC).toISO8601String

def performIn (i : CommandLine.Invocation) : IO UInt32 := do
  let before ← i.paths.foldlM lookUp .empty
  let (lines, failure, after) := Program.perform i (← timeStamp) before
  IO.print (Report.render (← wantsStyles) lines)
  store before after
  match failure with
  | none => return 0
  | some failure =>
    IO.eprintln ("Error: " ++ failure.summary ++ failure.detail?.getD "")
    return 1

def main (arguments : List String) : IO UInt32 := do
  match CommandLine.parse arguments with
  | .ok i => performIn i
  | .error .help =>
    IO.println CommandLine.helpText
    return 0
  | .error .version =>
    IO.println CommandLine.versionText
    return 0
  | .error (.misuse m) =>
    IO.eprintln ("error: " ++ m.message ++ "\n\n" ++ CommandLine.helpText)
    return 2
