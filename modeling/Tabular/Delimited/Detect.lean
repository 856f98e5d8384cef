import Tabular.Text.CharacterClass
import Tabular.Text.Encoding

set_option autoImplicit false

/-! # Finding the delimiter of a file

The first ten lines that are not blank are looked at. A candidate counts on a line outside
double quotes. One that appears the same number of times on every line is better than one that
does not; then the one that appears more often on the first line is better, and at last the
earlier candidate.
-/

namespace Tabular.Delimited

open Text

/-- The delimiters that are looked for, the preferred ones first. -/
def candidates : List UInt8 := ['\t', ',', ';', '|']

def sampleLines : Nat := 10

def lines (s : List UInt8) : List (List UInt8) := s.splitOn '\n'

/-- The line has a character that is not blank, or a byte that belongs to none. -/
def isWritten (line : List UInt8) : Bool :=
  (symbols line.toByteArray).any fun
    | some c => !isBlank c
    | none => true

def sample (s : List UInt8) : List (List UInt8) := ((lines s).filter isWritten).take sampleLines

/-- Counts a delimiter outside quotes, from a state inside or outside of them. -/
def countOutside (delimiter : UInt8) : (inside : Bool) → List UInt8 → Nat
  | _, [] => 0
  | inside, x :: rest =>
    if x = '"' then countOutside delimiter (!inside) rest
    else if x = delimiter ∧ inside = false then countOutside delimiter inside rest + 1
    else countOutside delimiter inside rest

/-- The occurrences of a delimiter outside double quotes. -/
def countUnquoted (delimiter : UInt8) (line : List UInt8) : Nat := countOutside delimiter false line

/-- How well a candidate splits the lines. -/
structure Fit where
  delimiter : UInt8
  steady : Bool
  onFirst : Nat

/-- The fit of a candidate; it has to appear on the first line. -/
def fit? (lines : List (List UInt8)) (delimiter : UInt8) : Option Fit :=
  match lines.map (countUnquoted delimiter) with
  | [] | 0 :: _ => none
  | first :: rest => some ⟨delimiter, rest.all (· = first), first⟩

def Fit.better (a b : Fit) : Bool :=
  if a.steady = b.steady then decide (b.onFirst < a.onFirst) else a.steady

/-- The best fit, the earlier one of two equals. -/
def bestFit (fits : List Fit) : Option Fit :=
  fits.foldl (fun best f => match best with
    | none => some f
    | some b => if f.better b then some f else some b) none

/-- The delimiter of a file; there is none to find when every line is blank. A file with one
column has a comma. -/
def detect? (s : List UInt8) : Option UInt8 :=
  match sample s with
  | [] => none
  | lines => some (match bestFit (candidates.filterMap (fit? lines)) with
    | some f => f.delimiter
    | none => ',')

end Tabular.Delimited
