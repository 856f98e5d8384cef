import Tabular.Number.Nearest

set_option autoImplicit false

/-! # The fewest digits that read back

A finite magnitude is written with the fewest decimal digits from which `decimalRank` reads the
same magnitude again. On the grid of decimals with `p` digits the only candidates are the two
neighbours of the exact value; the first `p` with a candidate that reads back wins. When both
do, the nearer one is taken, and a format says which way an exact tie goes.
-/

namespace Tabular.Number

/-- A decimal magnitude `digits · 10^exponent`. -/
structure Decimal where
  digits : Nat
  exponent : Int
deriving DecidableEq, Repr

/-- Where the digits go when two shortest decimals are equally near. -/
inductive Tie where
  | upward
  | toEven
deriving DecidableEq, Repr

/-- The exponent of the first digit of `u / 2^1074`: no magnitude is below `10^-324`. -/
def leadingExponent (u : Nat) : Int :=
  (decimalLength (u * Nat.pow 10 324 / unitsPerOne) : Int) - 325

/-- `u` units over the grid step `10^e`, as a fraction. -/
def overStep (u : Nat) (e : Int) : Nat × Nat :=
  if 0 ≤ e then (u, unitsPerOne * Nat.pow 10 e.toNat) else (u * Nat.pow 10 (-e).toNat, unitsPerOne)

/-- Of the grid points below and above `n / d`, the nearer one. -/
def nearerPoint (tie : Tie) (n d : Nat) : Nat :=
  let below := n / d
  let r := n % d
  if 2 * r < d then below
  else if d < 2 * r then below + 1
  else match tie with
    | .upward => below + 1
    | .toEven => below + below % 2

/-- The decimal on the grid of step `10^e` that reads back as `rank`, if there is one. -/
def onGrid? (tie : Tie) (rank : Nat) (e : Int) : Option Decimal :=
  let (n, d) := overStep (units rank) e
  let below := n / d
  match decimalRank below e == rank, decimalRank (below + 1) e == rank with
  | true, true => some ⟨nearerPoint tie n d, e⟩
  | true, false => some ⟨below, e⟩
  | false, true => some ⟨below + 1, e⟩
  | false, false => none

/-- The decimal of the first of `count` grids that has one, each ten times finer than the one
before. -/
def searchDigits (tie : Tie) (rank : Nat) : Nat → Int → Decimal
  | 0, e => ⟨(overStep (units rank) e).1 / (overStep (units rank) e).2, e⟩
  | count + 1, e =>
    match onGrid? tie rank e with
    | some d => d
    | none => searchDigits tie rank count (e - 1)

/-- On the coarsest grid the candidate above a leading `9` is `10`; it is one digit higher up. -/
def Decimal.carry (d : Decimal) : Decimal :=
  if d.digits = 10 then ⟨1, d.exponent + 1⟩ else d

/-- The shortest decimal that reads back as the magnitude of `rank`; seventeen digits always
do. -/
def shortest (tie : Tie) (rank : Nat) : Decimal :=
  if rank = 0 then ⟨0, 0⟩
  else (searchDigits tie rank 17 (leadingExponent (units rank))).carry

/-- The exponent of the first digit. -/
def Decimal.leading (d : Decimal) : Int := (decimalLength d.digits : Int) - 1 + d.exponent

end Tabular.Number
