import Tabular.Json.Reader

set_option autoImplicit false

/-! # Reading tagged alternatives

A tagged alternative is an object with its tag under a given key and its fields beside it, or an
array that starts with the tag. It is read up to its end and gives its tag, which has to be a
known one, and a value with everything else, which can be decoded once the tag is known.
-/

namespace Tabular.Json

def readTag (known : String → Bool) (s : Input) : Except Fault (String × Input) :=
  match skipBlanks s with
  | some '"' :: rest => do
    let (tag, rest) ← readString rest
    if known tag then .ok (tag, rest) else .error .shape
  | s => unexpected s

/-- The tag that has been found, and the other members so far. -/
structure Untagged where
  tag : Option String
  members : List (String × Json)

def readTaggedMember (key : String) (known : String → Bool) (depth : Nat) (name : String)
    (found : Untagged) (s : Input) : Except Fault (Untagged × Input) :=
  if name = key then
    match found.tag with
    | some _ => .error .shape
    | none => do
      let (tag, rest) ← readTag known (← readColon s)
      .ok ({ found with tag := some tag }, rest)
  else do
    let (value, rest) ← readValue depth (← readColon s)
    .ok ({ found with members := found.members ++ [(name, value)] }, rest)

/-- Reads a tagged alternative whose tag is under `key`. -/
def readTagged (key : String) (known : String → Bool) (depth : Nat) (s : Input) :
    Except Fault ((String × Json) × Input) :=
  match skipBlanks s with
  | some '\x7b' :: rest => match depth with
    | 0 => .error .malformed
    | depth + 1 => do
      let (found, rest) ← readMembers readString (readTaggedMember key known depth)
        rest true ⟨none, []⟩ rest
      match found.tag with
      | some tag => .ok ((tag, .object found.members), rest)
      | none => .error .shape
  | some '[' :: rest => match depth with
    | 0 => .error .malformed
    | depth + 1 => match skipBlanks rest with
      | [] => .error .ended
      | some ']' :: _ => .error .shape
      | rest => do
        let (tag, rest) ← readTag known rest
        let (items, rest) ← readItems (readValue depth) rest false rest
        .ok ((tag, .array items), rest)
  | s => unexpected s

end Tabular.Json
