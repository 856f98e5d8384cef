import Tabular.Number.Nearest

set_option autoImplicit false

/-! # Whole numbers near a number

Flooring, ceiling and rounding keep the sign, so a result of zero has the sign of the argument.
They work on the exact units: `u / 2^1074` is the whole part of a magnitude.

A half is rounded upwards, towards positive infinity: `2.5` to `3` and `-2.5` to `-2`. So a number
that ends in a half takes its ceiling, and any other one goes to the nearest whole number.
-/

namespace Tabular.Number

/-- Replaces the magnitude of a finite number by a whole one, found from its sign and units. -/
def mapWhole (f : Bool → Nat → Nat) : Number → Number
  | .finite negative rank _ => ofRatio negative (f negative (units rank)) 1
  | x => x

/-- The whole part of a magnitude, away from zero. -/
def wholeUp (u : Nat) : Nat := (u + (unitsPerOne - 1)) / unitsPerOne

/-- The whole part of a magnitude, towards zero. -/
def wholeDown (u : Nat) : Nat := u / unitsPerOne

/-- The largest whole number that is not above. -/
def floor : Number → Number := mapWhole fun negative u => if negative then wholeUp u else wholeDown u

/-- The smallest whole number that is not below. -/
def ceil : Number → Number := mapWhole fun negative u => if negative then wholeDown u else wholeUp u

/-- The whole magnitude nearest to a magnitude, a half going away from zero. -/
def wholeNear (u : Nat) : Nat := (2 * u + unitsPerOne) / (2 * unitsPerOne)

/-- The nearest whole number, a half going away from zero. -/
def roundAway : Number → Number := mapWhole fun _ u => wholeNear u

/-- The fractional part of the number is a half. -/
def endsInHalf : Number → Bool
  | .finite _ rank _ => 2 * (units rank % unitsPerOne) == unitsPerOne
  | _ => false

/-- The nearest whole number, a half going upwards. -/
def round (x : Number) : Number := if x.endsInHalf then x.ceil else x.roundAway

/-- The whole magnitude of a number that has no fractional part. -/
def wholeMagnitude? : Number → Option Nat
  | .finite _ rank _ => if units rank % unitsPerOne = 0 then some (wholeDown (units rank)) else none
  | _ => none

end Tabular.Number
