import Tabular.Number.Shortest
import Tabular.Number.Whole

set_option autoImplicit false

/-! # The text of a number

A `Layout` holds the decisions of a number format: from which to which leading exponent a number
is written positionally, and how the digits are chosen. Outside that range it is written with
one digit before the point and a signed power of ten.

`general` is the layout of a cell's text: positional from `10^-6` up to below `10^21`, whole
numbers with all their digits.
-/

namespace Tabular.Number

/-- The decisions of a number format. -/
structure Layout where
  /-- The least leading exponent that is written positionally. -/
  lowest : Int
  /-- The greatest leading exponent that is written positionally. -/
  highest : Int
  /-- Where an exact tie between two shortest decimals goes. -/
  tie : Tie
  /-- Positional whole numbers are written with all their digits, not the shortest ones. -/
  exactWholes : Bool
  /-- Positional whole numbers end in `.0`. -/
  pointZero : Bool

def digitChars (n : Nat) : List Char := (Nat.repr n).toList

/-- `digits · 10^exponent` without a power of ten. -/
def positional (pointZero : Bool) (digits : List Char) (exponent : Int) : List Char :=
  if 0 ≤ exponent then
    digits ++ List.replicate exponent.toNat '0' ++ (if pointZero then ['.', '0'] else [])
  else
    let places := (-exponent).toNat
    if places < digits.length then
      digits.take (digits.length - places) ++ '.' :: digits.drop (digits.length - places)
    else
      '0' :: '.' :: (List.replicate (places - digits.length) '0' ++ digits)

/-- `d.ddd · 10^leading` as `d.ddde+leading`. -/
def scientific (digits : List Char) (leading : Int) : List Char :=
  let mantissa := match digits with
    | first :: second :: rest => first :: '.' :: second :: rest
    | short => short
  mantissa ++ 'e' :: (if leading < 0 then '-' else '+') :: digitChars leading.natAbs

def Layout.magnitude (layout : Layout) (x : Number) (rank : Nat) : List Char :=
  let d := shortest layout.tie rank
  if layout.lowest ≤ d.leading ∧ d.leading ≤ layout.highest then
    match layout.exactWholes, x.wholeMagnitude? with
    | true, some n => positional layout.pointZero (digitChars n) 0
    | _, _ => positional layout.pointZero (digitChars d.digits) d.exponent
  else scientific (digitChars d.digits) d.leading

/-- The layout of a cell's text. -/
def general : Layout where
  lowest := -6
  highest := 20
  tie := .upward
  exactWholes := true
  pointZero := false

/-- The text of a number in a cell. Both zeros are `0`. -/
def toText : Number → String
  | .nan _ => "NaN"
  | .infinite negative => if negative then "-Infinity" else "Infinity"
  | .finite negative rank h =>
    if rank = 0 then "0"
    else
      let text := general.magnitude (.finite negative rank h) rank
      String.ofList (if negative then '-' :: text else text)

end Tabular.Number
