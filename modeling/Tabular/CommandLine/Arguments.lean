import Tabular.Export

set_option autoImplicit false

/-! # Arguments of a command

A command has switches and operands. A switch is written with its name after two hyphens or with
its letter after one; letters of switches without value may be written together. The value of a
switch is the next argument, or what follows the name and `=`, or what follows the letter. After
`--` everything is an operand.

Arguments are read from the first to the last, and reading stops at the first one that asks for
help or is wrong. A switch may be given once.
-/

namespace Tabular.CommandLine

/-- What a value has to be. -/
inductive ValueKind where
  /-- A path, which is not empty. -/
  | path
  /-- A number of 64 bits. -/
  | count
  /-- The name of a format. -/
  | format
deriving DecidableEq, Repr

structure Switch where
  name : String
  letter : Option Char := none
  /-- The kind of its value, if it has one. -/
  value : Option ValueKind := none
deriving DecidableEq, Repr

/-- What is wrong with arguments. -/
inductive Misuse where
  | unknown (argument : String)
  | repeated (name : String)
  | missingValue (name : String)
  | surplusValue (name : String)
  | invalid (value : String)
  | surplus (operand : String)
  | missingOperand (name : String)
  | missingCommand
deriving DecidableEq, Repr

def Misuse.message : Misuse → String
  | .unknown argument => "unexpected argument '" ++ argument ++ "'"
  | .repeated name => "'--" ++ name ++ "' is given more than once"
  | .missingValue name => "'--" ++ name ++ "' needs a value"
  | .surplusValue name => "'--" ++ name ++ "' takes no value"
  | .invalid value => "invalid value '" ++ value ++ "'"
  | .surplus operand => "unexpected operand '" ++ operand ++ "'"
  | .missingOperand name => "<" ++ name ++ "> is missing"
  | .missingCommand => "a command is missing"

/-- Why the reading of arguments stops early. -/
inductive Stop where
  | help
  | version
  | misuse (m : Misuse)
deriving DecidableEq, Repr

/-- The switches that have been given, and the operands in order. -/
structure Given where
  switches : List (String × String) := []
  operands : List String := []
deriving DecidableEq, Repr

namespace Given

def has (g : Given) (name : String) : Bool := (g.switches.lookup name).isSome

def value? (g : Given) (name : String) : Option String := g.switches.lookup name

end Given

/-- The number that a text stands for: digits, which may follow a plus. -/
def count? (text : String) : Option Nat :=
  let digits := match text.toList with
    | '+' :: rest => rest
    | digits => digits
  let n := Number.digitsValue digits
  if digits ≠ [] ∧ digits.all Char.isDigit ∧ n ≤ 0xFFFFFFFFFFFFFFFF then some n else none

def ValueKind.accepts (kind : ValueKind) (value : String) : Bool :=
  match kind with
  | .path => value ≠ ""
  | .count => (count? value).isSome
  | .format => (ExportFormat.ofName? value).isOk

def Given.add (g : Given) (s : Switch) (value : Option String) : Except Stop Given :=
  let once (value : String) : Except Stop Given :=
    if g.has s.name then .error (.misuse (.repeated s.name))
    else .ok { g with switches := g.switches ++ [(s.name, value)] }
  match s.value, value with
  | none, some _ => .error (.misuse (.surplusValue s.name))
  | some _, none => .error (.misuse (.missingValue s.name))
  | none, none =>
    if s.name = "help" then .error .help
    else if s.name = "version" then .error .version
    else once ""
  | some kind, some value =>
    if kind.accepts value then once value else .error (.misuse (.invalid value))

/-- Adds an operand, of which there are at most so many. -/
def Given.addOperand (g : Given) (limit : Nat) (operand : String) : Except Stop Given :=
  if limit ≤ g.operands.length then .error (.misuse (.surplus operand))
  else if operand = "" then .error (.misuse (.invalid operand))
  else .ok { g with operands := g.operands ++ [operand] }

/-- The argument starts like a switch: with a hyphen that is not all of it. -/
def isSwitchLike (argument : String) : Bool :=
  match argument.toList with
  | '-' :: _ :: _ => true
  | _ => false

/-- What follows the first `=`, if there is one, and what is before it. -/
def splitEquals (text : List Char) : String × Option String :=
  let name := String.ofList (text.takeWhile (· ≠ '='))
  match text.dropWhile (· ≠ '=') with
  | _ :: value => (name, some (String.ofList value))
  | [] => (name, none)

/-- Reads letters that are written together. Gives a switch whose value is the next argument, if
the last one is such a switch. -/
def readLetters (switches : List Switch) (g : Given) :
    List Char → Except Stop (Given × Option Switch)
  | [] => .ok (g, none)
  | c :: rest => match switches.find? fun s => s.letter = some c with
    | none => .error (.misuse (.unknown (String.ofList ['-', c])))
    | some s => match s.value, rest with
      | none, rest => do readLetters switches (← g.add s none) rest
      -- What stands behind the letter of a switch with a value is its value.
      | some _, [] => .ok (g, some s)
      | some _, '=' :: value => do .ok (← g.add s (some (String.ofList value)), none)
      | some _, value => do .ok (← g.add s (some (String.ofList value)), none)

/-- Reads an argument that starts like a switch. Gives a switch whose value is the next argument. -/
def readSwitch (switches : List Switch) (g : Given) (argument : String) :
    Except Stop (Given × Option Switch) :=
  match argument.toList with
  | '-' :: '-' :: text =>
    let (name, value) := splitEquals text
    match switches.find? fun s => s.name = name with
    | none => .error (.misuse (.unknown argument))
    | some s => match s.value, value with
      | some _, none => .ok (g, some s)
      | _, value => do .ok (← g.add s value, none)
  | _ :: letters => readLetters switches g letters
  | [] => .ok (g, none)

def read (switches : List Switch) (limit : Nat) (g : Given) : List String → Except Stop Given
  | [] => .ok g
  | argument :: rest =>
    -- Nothing behind two hyphens is a switch.
    if argument = "--" then rest.foldlM (fun g operand => g.addOperand limit operand) g
    else if isSwitchLike argument then
      match readSwitch switches g argument with
      | .error stop => .error stop
      | .ok (g, none) => read switches limit g rest
      | .ok (g, some s) => match rest with
        | [] => .error (.misuse (.missingValue s.name))
        | value :: rest =>
          if isSwitchLike value then .error (.misuse (.missingValue s.name))
          else match g.add s (some value) with
            | .error stop => .error stop
            | .ok g => read switches limit g rest
    else match g.addOperand limit argument with
      | .error stop => .error stop
      | .ok g => read switches limit g rest

end Tabular.CommandLine
