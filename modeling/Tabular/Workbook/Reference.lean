import Tabular.Number.Numeral

set_option autoImplicit false

/-! # Cell references

A position in a sheet is written with letters for its column and a number for its row: `A1` is
the first cell, and after column `Z` come `AA`, `AB` and so on. Here both are counted from zero.
What is read may have small letters, or a row without a column; a count takes 32 bits.
-/

namespace Tabular.Workbook.Reference

def letters (column : Nat) : List Char :=
  let last := Char.ofNat ('A'.toNat + column % 26)
  if column < 26 then [last] else letters (column / 26 - 1) ++ [last]
termination_by column
decreasing_by omega

def ofPosition (row column : Nat) : String :=
  String.ofList (letters column) ++ toString (row + 1)

def lettersValue (letters : List Char) : Nat :=
  letters.foldl (fun n c => 26 * n + (c.toUpper.toNat - 'A'.toNat + 1)) 0

def countLimit : Nat := 0x100000000

/-- A number of 32 bits counted from zero; none counts before one. -/
def fromZero? (n : Nat) : Option Nat :=
  if n % countLimit = 0 then none else some (n % countLimit - 1)

/-- The row of a reference, and its column if it has one. -/
def read? (s : List Char) : Option (Nat × Option Nat) :=
  let digits := s.dropWhile Char.isAlpha
  if digits.all Char.isDigit then
    (fromZero? (Number.digitsValue digits)).map fun row =>
      (row, fromZero? (lettersValue (s.takeWhile Char.isAlpha)))
  else none

def row? (s : List Char) : Option Nat := (read? s).map Prod.fst

def position? (s : List Char) : Option (Nat × Nat) :=
  (read? s).bind fun (row, column) => column.map fun column => (row, column)

end Tabular.Workbook.Reference
