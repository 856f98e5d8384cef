set_option autoImplicit false

/-! # Numbers of a table

A table computes with binary floating-point numbers of 64 bits. They are kept here as exact
values, so that every rule about them can be stated in `Nat` and `Int`.

The magnitudes `0, 2^-1074, 2·2^-1074, …` up to the largest finite one are listed in increasing
order, and a magnitude is its position in that list, its *rank*. Within one binade the steps are
equal; they double from one binade to the next, every `2^52` ranks. The *units* of a rank are
its value as a multiple of `2^-1074`, which is always whole.

`Number.key` turns a number into an integer that has its place in the order: the two zeros share
the key `0`, infinities lie beyond every finite number, and NaN has no place.

`Number.bits` is the number as it is stored. The bits below the sign are the rank, infinity has the
first rank past the finite ones, and NaNs, of which there are many, the ranks behind it.
-/

namespace Tabular

/-- The number of ranks in a binade, `2^52`. -/
def binadeSize : Nat := 0x10000000000000

/-- The first rank past the finite magnitudes: there are `2047` binades. -/
def infiniteRank : Nat := 2047 * binadeSize

/-- What tells one NaN from another: its sign, and a fraction, which is not zero. -/
structure NanBits where
  negative : Bool
  fraction : Nat
  fraction_pos : 0 < fraction
  fraction_lt : fraction < binadeSize
deriving DecidableEq

/-- The NaN that stands for a missing result; of its fraction only the first bit is set. -/
def NanBits.quiet (negative : Bool) : NanBits :=
  ⟨negative, binadeSize / 2, by decide, by decide⟩

/-- A binary64 number. A finite one is a sign and the rank of its magnitude. -/
inductive Number where
  | nan (bits : NanBits := .quiet false)
  | finite (negative : Bool) (rank : Nat) (rank_lt : rank < infiniteRank)
  | infinite (negative : Bool)
deriving DecidableEq

namespace Number

/-! ## Ranks and units -/

/-- The number of units a magnitude is finer than one: `2^1074` of them make `1`. -/
def unitsPerOne : Nat := 1 <<< 1074

/-- The binade of a rank, counted from the subnormal one; subnormal and least normal
magnitudes have the same step. -/
def binade (rank : Nat) : Nat := rank / binadeSize - 1

/-- The value of a rank as a multiple of `2^-1074`. -/
def units (rank : Nat) : Nat := (rank - binade rank * binadeSize) <<< binade rank

/-- The number of a sign and a rank; ranks past the finite ones are infinity. -/
def ofRank (negative : Bool) (rank : Nat) : Number :=
  if h : rank < infiniteRank then .finite negative rank h else .infinite negative

def zero : Number := .finite false 0 (by decide)

/-- Negative zero, which a sum of nothing gives. -/
def negativeZero : Number := .finite true 0 (by decide)

instance : Inhabited Number := ⟨zero⟩

/-! ## Bits -/

/-- The sign, which a NaN has as well. -/
def sign : Number → Bool
  | .nan b => b.negative
  | .finite negative _ _ => negative
  | .infinite negative => negative

/-- The 63 bits behind the sign. -/
def lowBits : Number → Nat
  | .nan b => infiniteRank + b.fraction
  | .finite _ rank _ => rank
  | .infinite _ => infiniteRank

/-- The 64 bits of a number. -/
def bits (x : Number) : Nat := (if x.sign then 0x8000000000000000 else 0) + x.lowBits

/-! ## Tests -/

def isNan : Number → Bool
  | .nan _ => true
  | _ => false

def isFinite : Number → Bool
  | .finite .. => true
  | _ => false

/-- True for both zeros. -/
def isZero : Number → Bool
  | .finite _ rank _ => rank == 0
  | _ => false

/-! ## Order -/

/-- The place of a number in the order. NaN has none, and is given `0` here. -/
def key : Number → Int
  | .nan _ => 0
  | .finite negative rank _ => if negative then -(rank : Int) else rank
  | .infinite negative => if negative then -(infiniteRank : Int) else infiniteRank

/-- `x < y` as numbers; false when either is NaN. -/
def lt (x y : Number) : Bool := !x.isNan && !y.isNan && decide (x.key < y.key)

/-- How two numbers compare; a NaN compares as equal to everything. -/
def order (x y : Number) : Ordering :=
  if x.lt y then .lt else if y.lt x then .gt else .eq

/-- `x = y` as numbers: the two zeros are equal and NaN equals nothing. -/
def same (x y : Number) : Bool := !x.isNan && !y.isNan && x.key == y.key

@[simp] theorem units_zero : units 0 = 0 := by simp [units]

/-- Below the second binade a rank is its own number of units. -/
theorem units_of_lt {rank : Nat} (h : rank < 2 * binadeSize) : units rank = rank := by
  have hb : binade rank = 0 := by unfold binade binadeSize at *; omega
  simp [units, hb]

theorem ofRank_of_lt {negative : Bool} {rank : Nat} (h : rank < infiniteRank) :
    ofRank negative rank = .finite negative rank h := by
  simp [ofRank, h]

theorem isNan_ofRank (negative : Bool) (rank : Nat) : (ofRank negative rank).isNan = false := by
  unfold ofRank
  split <;> rfl

theorem sign_ofRank (negative : Bool) (rank : Nat) : (ofRank negative rank).sign = negative := by
  unfold ofRank
  split <;> rfl

theorem lt_irrefl (x : Number) : x.lt x = false := by
  simp [lt]

theorem lt_asymm {x y : Number} (h : x.lt y = true) : y.lt x = false := by
  simp only [lt, Bool.and_eq_true, decide_eq_true_eq, Bool.and_eq_false_imp] at *
  intro _; simp; omega

theorem lt_trans {x y z : Number} (hxy : x.lt y = true) (hyz : y.lt z = true) :
    x.lt z = true := by
  simp only [lt, Bool.and_eq_true, Bool.not_eq_true', decide_eq_true_eq] at *
  exact ⟨⟨hxy.1.1, hyz.1.2⟩, Int.lt_trans hxy.2 hyz.2⟩

theorem same_self {x : Number} (h : x.isNan = false) : x.same x = true := by
  simp [same, h]

/-- Of two numbers that have a place in the order, one is less unless they are the same. -/
theorem same_of_not_lt {x y : Number} (hx : x.isNan = false) (hy : y.isNan = false)
    (hxy : x.lt y = false) (hyx : y.lt x = false) : x.same y = true := by
  simp only [lt, same, hx, hy, Bool.not_false, Bool.true_and, decide_eq_false_iff_not,
    beq_iff_eq] at *
  omega

theorem order_swap (x y : Number) : (x.order y).swap = y.order x := by
  unfold order
  by_cases hxy : x.lt y = true
  · simp [hxy, lt_asymm hxy]
  · by_cases hyx : y.lt x = true <;> simp [hxy, hyx]

end Number

end Tabular
