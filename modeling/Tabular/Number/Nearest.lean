import Tabular.Number.Basic

set_option autoImplicit false

/-! # The nearest number to an exact value

Every result that is not a number itself is rounded once, to the nearest number; of two equally
near ones the one with even rank is taken, and a value half a step past the largest finite
number is infinite.

`nearestRank n d` rounds the exact magnitude `n / d` counted in units. All readers and all
arithmetic end in it.
-/

namespace Tabular.Number

/-- `n / d` rounded to a whole number, a half going to the even neighbour. -/
def divideEven (n d : Nat) : Nat :=
  let q := n / d
  let r := n % d
  if 2 * r < d then q
  else if d < 2 * r then q + 1
  else q + q % 2

/-- The rank of the magnitude nearest to `n / d` units. The step of the binade is `2^k`, and a
mantissa that rounds up to `2^53` carries into the next binade by itself. -/
def nearestRank (n d : Nat) : Nat :=
  let k := Nat.log2 (n / d) - 52
  min infiniteRank (k * binadeSize + divideEven n (d <<< k))

def ofRatio (negative : Bool) (n d : Nat) : Number :=
  ofRank negative (nearestRank (n * unitsPerOne) d)

def ofNat (n : Nat) : Number := ofRatio false n 1

/-- The number nearest to an integer; zero is positive. -/
def ofInt (i : Int) : Number := ofRatio (decide (i < 0)) i.natAbs 1

/-- How many decimal digits a number is written with. -/
def decimalLength (n : Nat) : Nat :=
  if n < 10 then 1 else decimalLength (n / 10) + 1

/-- The rank nearest to `m · 10^e`. Values of more than `309` whole digits are infinite and
values under `10^-325` are zero, whatever their digits; the powers in between are computed. -/
def decimalRank (m : Nat) (e : Int) : Nat :=
  let top := (decimalLength m : Int) + e
  if m = 0 ∨ top ≤ -325 then 0
  else if 310 ≤ top then infiniteRank
  else if 0 ≤ e then nearestRank (m * Nat.pow 10 e.toNat * unitsPerOne) 1
  else nearestRank (m * unitsPerOne) (Nat.pow 10 (-e).toNat)

def ofDecimal (negative : Bool) (m : Nat) (e : Int) : Number :=
  ofRank negative (decimalRank m e)

/-- A quotient without remainder is rounded to itself. -/
theorem divideEven_mul (q : Nat) {d : Nat} (h : 0 < d) : divideEven (q * d) d = q := by
  simp [divideEven, h]

end Tabular.Number
