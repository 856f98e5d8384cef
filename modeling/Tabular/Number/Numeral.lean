import Tabular.Number.Nearest
import Tabular.Text.CharacterClass

set_option autoImplicit false

/-! # Reading numbers

A *numeral* is a text that is a number as a whole: an optional sign, decimal digits with an
optional point and an optional power of ten, or a name of infinity or of NaN. `ofNumeral?` reads
it.

The text of a cell may go on after its number (`"12 kg"` is `12`). `leading?` finds the longest
number at the start of a text; there a digit of any script is a digit and the only name is
`Infinity`. `ofLeading?` reads what it finds, and so refuses digits that are not ASCII.
-/

namespace Tabular.Number

open Text

/-! ## Numerals -/

/-- The value of a run of ASCII digits. -/
def digitsValue (digits : List Char) : Nat :=
  digits.foldl (fun n c => 10 * n + digitValue c) 0

/-- The sign in front of a text, true for a minus, and what follows it. -/
def takeSign : List Char → Bool × List Char
  | '-' :: rest => (true, rest)
  | '+' :: rest => (false, rest)
  | text => (false, text)

/-- A power of ten at the end of a numeral: nothing, or `e`, an optional sign and digits. -/
def power? : List Char → Option Int
  | [] => some 0
  | c :: rest =>
    if c = 'e' ∨ c = 'E' then
      let (negative, digits) := takeSign rest
      if digits ≠ [] ∧ digits.all Char.isDigit then
        some (if negative then -(digitsValue digits : Int) else digitsValue digits)
      else none
    else none

/-- The digits after the point, if there is one, and what follows them. -/
def takeFraction : List Char → List Char × List Char
  | '.' :: rest => (rest.takeWhile Char.isDigit, rest.dropWhile Char.isDigit)
  | text => ([], text)

/-- The number of a text without sign that is a numeral in digits. -/
def ofDigits? (negative : Bool) (text : List Char) : Option Number :=
  let whole := text.takeWhile Char.isDigit
  let (fraction, rest) := takeFraction (text.dropWhile Char.isDigit)
  if whole = [] ∧ fraction = [] then none
  else (power? rest).map fun power =>
    ofDecimal negative (digitsValue (whole ++ fraction)) (power - fraction.length)

/-- The number of a text that is a numeral as a whole. Names are read in either case. -/
def ofNumeral? (text : List Char) : Option Number :=
  let (negative, rest) := takeSign text
  let name := rest.map Char.toLower
  if name = ['i', 'n', 'f'] ∨ name = ['i', 'n', 'f', 'i', 'n', 'i', 't', 'y'] then
    some (.infinite negative)
  else if name = ['n', 'a', 'n'] then some (.nan (.quiet negative))
  else ofDigits? negative rest

/-! ## Numbers at the start of a text -/

/-- The name of infinity at the start of a text. -/
def infinityName : List Char := ['I', 'n', 'f', 'i', 'n', 'i', 't', 'y']

/-- The sign at the start of a text, as far as there is one. -/
def leadingSign : List Char → List Char
  | c :: _ => if c = '+' ∨ c = '-' then [c] else []
  | [] => []

/-- The power of ten at the start of a text: `e`, an optional sign and at least one digit, or
nothing. -/
def leadingPower : List Char → List Char
  | c :: rest =>
    if c = 'e' ∨ c = 'E' then
      let sign := leadingSign rest
      let digits := (rest.drop sign.length).takeWhile isDecimalDigit
      if digits = [] then [] else c :: sign ++ digits
    else []
  | [] => []

/-- The digits and the point at the start of a text; a point needs a digit on one side. -/
def leadingDigits? (text : List Char) : Option (List Char) :=
  let whole := text.takeWhile isDecimalDigit
  match text.dropWhile isDecimalDigit with
  | '.' :: rest =>
    let fraction := rest.takeWhile isDecimalDigit
    if whole = [] ∧ fraction = [] then none else some (whole ++ '.' :: fraction)
  | _ => if whole = [] then none else some whole

/-- The number at the start of a text, as it is written there. -/
def leading? (text : List Char) : Option (List Char) :=
  let sign := leadingSign text
  let rest := text.drop sign.length
  if infinityName.isPrefixOf rest then some (sign ++ infinityName)
  else (leadingDigits? rest).map fun digits =>
    sign ++ digits ++ leadingPower (rest.drop digits.length)

/-- The number at the start of a text, after any blanks. -/
def ofLeading? (text : List Char) : Option Number :=
  (leading? (trimStart text)).bind ofNumeral?

def ofText? (s : String) : Option Number := ofLeading? s.toList

end Tabular.Number

namespace Tabular

/-! ## Whole counts -/

/-- The integer at the start of a text, after any blanks: an optional sign and ASCII digits. An
integer that does not fit 64 bits is not read. -/
def integer? (text : List Char) : Option Int :=
  let (negative, rest) := Number.takeSign (Text.trimStart text)
  let digits := rest.takeWhile Char.isDigit
  let value : Int := if negative then -(Number.digitsValue digits : Int)
    else Number.digitsValue digits
  let limit : Int := 0x8000000000000000
  if digits ≠ [] ∧ -limit ≤ value ∧ value < limit then some value else none

end Tabular
