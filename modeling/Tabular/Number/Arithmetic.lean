import Tabular.Number.Nearest

set_option autoImplicit false

/-! # Arithmetic

Each operation computes its exact result in units and rounds it once with `nearestRank`. Where
there is no result (`∞ - ∞`, `0 · ∞`, `∞ / ∞`, `0 / 0`) it is the quiet NaN. Only the sign of a
NaN is ever changed.
-/

namespace Tabular.Number

/-- The number of a finite sum of units. A sum that cancels is positive zero, unless both
summands were negative zeros. -/
def ofUnits (i : Int) (negativeWhenZero : Bool) : Number :=
  ofRank (if i = 0 then negativeWhenZero else decide (i < 0)) (nearestRank i.natAbs 1)

/-- The units of a magnitude with its sign. -/
def signedUnits (negative : Bool) (rank : Nat) : Int :=
  if negative then -(units rank : Int) else units rank

def neg : Number → Number
  | .nan b => .nan { b with negative := !b.negative }
  | .finite negative rank h => .finite (!negative) rank h
  | .infinite negative => .infinite (!negative)

def abs : Number → Number
  | .nan b => .nan { b with negative := false }
  | .finite _ rank h => .finite false rank h
  | .infinite _ => .infinite false

def add : Number → Number → Number
  | .nan _, _ | _, .nan _ => .nan
  | .infinite a, .infinite b => if a = b then .infinite a else .nan
  | .infinite a, .finite .. => .infinite a
  | .finite .., .infinite b => .infinite b
  | .finite a r _, .finite b s _ => ofUnits (signedUnits a r + signedUnits b s) (a && b)

def sub (x y : Number) : Number := add x y.neg

def mul : Number → Number → Number
  | .nan _, _ | _, .nan _ => .nan
  | .infinite a, .infinite b => .infinite (a != b)
  | .infinite a, .finite b s _ => if s = 0 then .nan else .infinite (a != b)
  | .finite a r _, .infinite b => if r = 0 then .nan else .infinite (a != b)
  | .finite a r _, .finite b s _ => ofRank (a != b) (nearestRank (units r * units s) unitsPerOne)

def div : Number → Number → Number
  | .nan _, _ | _, .nan _ => .nan
  | .infinite _, .infinite _ => .nan
  | .infinite a, .finite b _ _ => .infinite (a != b)
  | .finite a _ _, .infinite b => ofRank (a != b) 0
  | .finite a r _, .finite b s _ =>
    if s = 0 then (if r = 0 then .nan else .infinite (a != b))
    else ofRank (a != b) (nearestRank (units r * unitsPerOne) (units s))

/-- The sum of a list from left to right. It starts at negative zero, which changes no summand,
so the sum of nothing is negative zero. -/
def sum (xs : List Number) : Number := xs.foldl add negativeZero

/-- The smaller of two numbers, the first one when they are equal. -/
def min (x y : Number) : Number := if y.lt x then y else x

/-- The larger of two numbers, the first one when they are equal. -/
def max (x y : Number) : Number := if x.lt y then y else x

@[simp] theorem sum_nil : sum [] = negativeZero := rfl

end Tabular.Number
