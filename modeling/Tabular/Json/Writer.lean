import Tabular.Json.Value

set_option autoImplicit false

/-! # Writing JSON

Two layouts: the compact one without any blanks, and the pretty one with a member or an item on
each line and two blanks of indentation per level; an empty array or object is `[]` or `{}`
in both. Strings escape quotes, backslashes and controls only. Numbers have the fewest digits
that read back, with a point or a power of ten; NaN and the infinities are `null`.
-/

namespace Tabular.Json

/-- The layout of a floating-point number: positional from `10^-5` up to below `10^16`. -/
def numberLayout : Number.Layout where
  lowest := -5
  highest := 15
  tie := .toEven
  exactWholes := false
  pointZero := true

def numberText : Number → List Char
  | .finite negative rank h =>
    let text := if rank = 0 then ['0', '.', '0']
      else numberLayout.magnitude (.finite negative rank h) rank
    if negative then '-' :: text else text
  | _ => "null".toList

def Numeral.text : Numeral → List Char
  | .whole i => (toString i).toList
  | .decimal x => numberText x

def hexDigit (n : Nat) : Char := Char.ofNat (if n < 10 then '0'.toNat + n else 'a'.toNat + n - 10)

/-- A character of a string. -/
def escaped (c : Char) : List Char :=
  if c = '"' then ['\\', '"']
  else if c = '\\' then ['\\', '\\']
  else if c = '\x08' then ['\\', 'b']
  else if c = '\x0c' then ['\\', 'f']
  else if c = '\n' then ['\\', 'n']
  else if c = '\r' then ['\\', 'r']
  else if c = '\t' then ['\\', 't']
  else if c.toNat < 0x20 then
    ['\\', 'u', '0', '0', hexDigit (c.toNat / 16), hexDigit (c.toNat % 16)]
  else [c]

def stringText (s : String) : List Char := '"' :: s.toList.flatMap escaped ++ ['"']

mutual

def compact : Json → List Char
  | .null => ['n', 'u', 'l', 'l']
  | .bool true => ['t', 'r', 'u', 'e']
  | .bool false => ['f', 'a', 'l', 's', 'e']
  | .number n => n.text
  | .string s => stringText s
  | .array [] => ['[', ']']
  | .array (first :: rest) => '[' :: compact first ++ compactItems rest
  | .object [] => ['\x7b', '\x7d']
  | .object ((key, first) :: rest) =>
    '\x7b' :: stringText key ++ ':' :: compact first ++ compactMembers rest

/-- The items after the first, and the end of the array. -/
def compactItems : List Json → List Char
  | [] => [']']
  | item :: rest => ',' :: compact item ++ compactItems rest

def compactMembers : List (String × Json) → List Char
  | [] => ['\x7d']
  | (key, value) :: rest => ',' :: stringText key ++ ':' :: compact value ++ compactMembers rest

end

/-- A new line at a level of indentation. -/
def newLine (level : Nat) : List Char := '\n' :: List.replicate (2 * level) ' '

mutual

/-- The pretty text of a value that starts at a level of indentation. -/
def pretty (level : Nat) : Json → List Char
  | .null => ['n', 'u', 'l', 'l']
  | .bool true => ['t', 'r', 'u', 'e']
  | .bool false => ['f', 'a', 'l', 's', 'e']
  | .number n => n.text
  | .string s => stringText s
  | .array [] => ['[', ']']
  | .array (first :: rest) =>
    '[' :: newLine (level + 1) ++ pretty (level + 1) first ++ prettyItems level rest
  | .object [] => ['\x7b', '\x7d']
  | .object ((key, first) :: rest) =>
    '\x7b' :: newLine (level + 1) ++ stringText key ++ ':' :: ' '
      :: pretty (level + 1) first ++ prettyMembers level rest

def prettyItems (level : Nat) : List Json → List Char
  | [] => newLine level ++ [']']
  | item :: rest =>
    ',' :: newLine (level + 1) ++ pretty (level + 1) item ++ prettyItems level rest

def prettyMembers (level : Nat) : List (String × Json) → List Char
  | [] => newLine level ++ ['\x7d']
  | (key, value) :: rest =>
    ',' :: newLine (level + 1) ++ stringText key ++ ':' :: ' ' :: pretty (level + 1) value
      ++ prettyMembers level rest

end

def compactText (j : Json) : String := String.ofList (compact j)

def prettyText (j : Json) : String := String.ofList (pretty 0 j)

end Tabular.Json
