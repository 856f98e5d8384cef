import Tabular.Text.Encoding

set_option autoImplicit false

/-! # Attributes and references

The attributes of a tag are read one after the other, and a fault among them counts only when the
reader comes to it: `attributes` puts `none` in its place and ends there. A value is what stands
between its quotes; `unescape?` gives the text that a value or a text of a document stands for.
-/

namespace Tabular.Xml

open Text

/-! ## References -/

/-- The value of digits in a base. -/
def valueIn? (base : Nat) (digits : List Char) : Option Nat :=
  digits.foldlM (fun n c =>
    let d := if c.isDigit then c.toNat - '0'.toNat else c.toLower.toNat - 'a'.toNat + 10
    if d < base ∧ c.isAlphanum then some (base * n + d) else none) 0

/-- The character of digits in a base, which may be so many. No reference stands for zero. -/
def scalar? (base limit : Nat) (digits : List Char) : Option Char := do
  let n ← valueIn? base digits
  if digits.length ≤ limit ∧ n ≠ 0 ∧ n.isValidChar then some (Char.ofNat n) else none

def named : List (List Char × Char) :=
  [(['l', 't'], '<'), (['g', 't'], '>'), (['a', 'm', 'p'], '&'), (['a', 'p', 'o', 's'], '\''),
    (['q', 'u', 'o', 't'], '"')]

def reference? : List Char → Option Char
  | '#' :: 'x' :: digits => scalar? 16 6 digits
  | '#' :: digits => scalar? 10 7 digits
  | name => named.lookup name

def isReferenceChar (c : Char) : Bool := c ≠ ';' && c ≠ '&'

/-- Replaces the references in a text. The loop drops a character of its bound for each one that
it gives. -/
def unescapeWithin : (bound : List Char) → List Char → Option (List Char)
  | [], _ | _, [] => some []
  | _ :: bound, '&' :: rest =>
    match reference? (rest.takeWhile isReferenceChar), rest.dropWhile isReferenceChar with
    | some c, ';' :: rest => (unescapeWithin bound rest).map (c :: ·)
    | _, _ => none
  | _ :: bound, c :: rest => (unescapeWithin bound rest).map (c :: ·)

def unescape? (s : List Symbol) : Option String := do
  let s ← s.mapM id
  (unescapeWithin s s).map String.ofList

/-! ## Attributes -/

/-- The blanks of markup. -/
def isSpace (c : Symbol) : Bool :=
  c = some ' ' || c = some '\t' || c = some '\n' || c = some '\r'

structure Attribute where
  key : List Symbol
  value : List Symbol
deriving DecidableEq

/-- The symbol goes on with a key. -/
def isKeySymbol (c : Symbol) : Bool := c ≠ some '=' && !isSpace c

/-- Reads a quoted value and gives what follows it. -/
def readValue? : List Symbol → Option (List Symbol × List Symbol)
  | quote :: rest =>
    if quote = some '"' ∨ quote = some '\'' then
      match rest.dropWhile (· ≠ quote) with
      | _ :: after => some (rest.takeWhile (· ≠ quote), after)
      | [] => none
    else none
  | [] => none

/-- Reads the attributes of a tag up to the first fault, which is `none`. The loop drops a symbol
of its bound for each attribute. -/
def attributesWithin : (bound : List Symbol) → List Symbol → List (Option Attribute)
  | [], _ => []
  | _ :: bound, s => match s.dropWhile isSpace with
    | [] => []
    | first :: rest =>
      match (rest.dropWhile isKeySymbol).dropWhile isSpace with
      | some '=' :: after => match readValue? (after.dropWhile isSpace) with
        | some (value, after) =>
          some ⟨first :: rest.takeWhile isKeySymbol, value⟩ :: attributesWithin bound after
        | none => [none]
      | _ => [none]

/-- A key that comes again is a fault. -/
def refuseRepeated (seen : List (List Symbol)) : List (Option Attribute) → List (Option Attribute)
  | some a :: rest => if a.key ∈ seen then [none] else some a :: refuseRepeated (a.key :: seen) rest
  | rest => rest

/-- The attributes of a tag whether or not their keys differ. -/
def anyAttributes (s : List Symbol) : List (Option Attribute) := attributesWithin s s

/-- The attributes of a tag, which have different keys. -/
def attributes (s : List Symbol) : List (Option Attribute) := refuseRepeated [] (anyAttributes s)

/-- The value of the first attribute of a key, and `some none` when there is none. A fault before
it is `none`. -/
def valueOf? (key : String) : List (Option Attribute) → Option (Option (List Symbol))
  | [] => some none
  | none :: _ => none
  | some a :: rest => if a.key = symbolsOf key then some (some a.value) else valueOf? key rest

end Tabular.Xml
