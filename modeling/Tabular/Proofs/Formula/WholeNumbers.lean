import Mathlib.Algebra.Order.Round
import Mathlib.Data.Rat.Floor
import Tabular.Formula.Numeric
import Tabular.Proofs.Number.Closest

set_option autoImplicit false

/-! # Rounding to whole numbers

A finite number has an exact value (`exact`). Flooring, ceiling and rounding compute with units and
the sign apart, and round their result to a number once more. Nothing is lost in that last step,
since a whole number next to a number is a number (`NextTo.exists_units_eq`): below `2^53` all
whole numbers are, and from there on the number is whole itself.

Rounding has two cases, and both of them come to `⌊q + 1/2⌋` (`isWhole_round`). A value that ends in
a half takes its ceiling (`ceil_of_half`). Any other one is rounded by its magnitude, and that is
`⌊q + 1/2⌋` for a negative value as well, but only because it does not end in a half
(`neg_floor_add_half`).
-/

namespace Tabular.Number

/-! ## Exact values of numbers -/

/-- The exact value of a finite number. -/
def exact : Number → ℚ
  | .finite negative rank _ => if negative then -exactValue rank else exactValue rank
  | _ => 0

@[simp] theorem exact_positive {rank : Nat} (hr : rank < infiniteRank) :
    (Number.finite false rank hr).exact = exactValue rank := rfl

@[simp] theorem exact_negative {rank : Nat} (hr : rank < infiniteRank) :
    (Number.finite true rank hr).exact = -exactValue rank := rfl

/-- The value and the sign, which tells the zeros apart, make up a finite number. -/
theorem eq_of_exact_eq {x y : Number} (hx : x.isFinite = true) (hy : y.isFinite = true)
    (hsign : x.sign = y.sign) (h : x.exact = y.exact) : x = y := by
  cases x with
  | finite a r hr =>
      cases y with
      | finite b s hs =>
          obtain rfl : a = b := hsign
          have hvalue : exactValue r = exactValue s := by
            cases a with
            | false => exact h
            | true => exact neg_injective h
          obtain rfl := exactValue_strictMono.injective hvalue
          rfl
      | nan | infinite => cases hy
  | nan | infinite => cases hx

/-- The number is finite and has this integer as its value. -/
structure IsWhole (x : Number) (m : ℤ) : Prop where
  isFinite : x.isFinite = true
  exact_eq : x.exact = m

theorem exactValue_of_units {rank w : Nat} (h : units rank = w * unitsPerOne) :
    exactValue rank = w := by
  rw [exactValue, h, Nat.cast_mul, mul_div_cancel_right₀ _ unitsPerOne_cast_pos.ne']

theorem isWhole_ofNat {n : Nat} (hn : n ≤ 2 ^ 53) : IsWhole (ofNat n) n := by
  obtain ⟨rank, hr, hresult, hu⟩ := exists_ofNat_eq hn
  rw [hresult]
  constructor
  · rfl
  · rw [exact_positive, exactValue_of_units hu, Int.cast_natCast]

/-! ## Halves -/

theorem floor_le_floor_add_half (q : ℚ) : ⌊q⌋ ≤ ⌊q + 1 / 2⌋ := by
  apply Int.floor_mono
  linarith

theorem floor_add_half_le_ceil (q : ℚ) : ⌊q + 1 / 2⌋ ≤ ⌈q⌉ := by
  have hle : q ≤ ⌈q⌉ := Int.le_ceil q
  rw [← Int.lt_add_one_iff, Int.floor_lt]
  push_cast
  linarith

theorem ceil_of_half {q : ℚ} (h : Int.fract q = 1 / 2) : ⌈q⌉ = ⌊q + 1 / 2⌋ := by
  obtain ⟨-, -, m, hm⟩ := Int.fract_eq_iff.mp h
  have hq : q + 1 / 2 = ((m + 1 : ℤ) : ℚ) := by
    push_cast
    linarith
  rw [hq, Int.floor_intCast, Int.ceil_eq_iff]
  push_cast
  constructor <;> linarith

theorem fract_neg_eq_half_iff (q : ℚ) : Int.fract (-q) = 1 / 2 ↔ Int.fract q = 1 / 2 := by
  have hneg {p : ℚ} (h : Int.fract p = 1 / 2) : Int.fract (-p) = 1 / 2 := by
    rw [Int.fract_neg (by rw [h]; norm_num), h]
    norm_num
  constructor
  · intro h
    have hback := hneg h
    rwa [InvolutiveNeg.neg_neg] at hback
  · exact hneg

/-- Without a half, rounding a magnitude and then taking the sign is rounding upwards. -/
theorem neg_floor_add_half {q : ℚ} (h : Int.fract q ≠ 1 / 2) : -⌊q + 1 / 2⌋ = ⌊-q + 1 / 2⌋ := by
  have hle := Int.floor_le (q + 1 / 2)
  have hlt := Int.lt_floor_add_one (q + 1 / 2)
  -- The integer itself would be reached just by a half.
  have hne : (⌊q + 1 / 2⌋ : ℚ) ≠ q + 1 / 2 := by
    intro heq
    refine h (Int.fract_eq_iff.mpr ⟨by norm_num, by norm_num, ⌊q + 1 / 2⌋ - 1, ?_⟩)
    push_cast
    linarith
  have hstrict := lt_of_le_of_ne hle hne
  symm
  rw [Int.floor_eq_iff]
  push_cast
  constructor <;> linarith

/-! ## Whole numbers next to a magnitude -/

theorem floor_exactValue (rank : Nat) : ⌊exactValue rank⌋ = wholeDown (units rank) :=
  Rat.floor_natCast_div_natCast _ _

theorem ceil_exactValue (rank : Nat) : ⌈exactValue rank⌉ = wholeUp (units rank) := by
  have hone : (0 : ℚ) < unitsPerOne := unitsPerOne_cast_pos
  have hpos : 0 < unitsPerOne := unitsPerOne_pos
  have hdiv := Nat.div_add_mod (units rank + (unitsPerOne - 1)) unitsPerOne
  have hmod := Nat.mod_lt (units rank + (unitsPerOne - 1)) hpos
  rw [← wholeUp] at hdiv
  rw [Int.ceil_eq_iff, exactValue, Int.cast_natCast, lt_div_iff₀ hone, div_le_iff₀ hone]
  constructor
  · have h : unitsPerOne * wholeUp (units rank) < units rank + unitsPerOne := by omega
    have hq : (unitsPerOne : ℚ) * wholeUp (units rank) < units rank + unitsPerOne := by
      exact_mod_cast h
    linarith
  · have h : units rank ≤ unitsPerOne * wholeUp (units rank) := by omega
    rw [mul_comm]
    exact_mod_cast h

theorem floor_exactValue_add_half (rank : Nat) :
    ⌊exactValue rank + 1 / 2⌋ = wholeNear (units rank) := by
  have hone : (unitsPerOne : ℚ) ≠ 0 := unitsPerOne_cast_pos.ne'
  have hq : exactValue rank + 1 / 2 =
      ((2 * units rank + unitsPerOne : Nat) : ℚ) / ((2 * unitsPerOne : Nat) : ℚ) := by
    rw [exactValue]
    push_cast
    field_simp
  rw [hq, Rat.floor_natCast_div_natCast, wholeNear, Int.natCast_div]

theorem fract_exactValue_eq_half_iff (rank : Nat) :
    Int.fract (exactValue rank) = 1 / 2 ↔ 2 * (units rank % unitsPerOne) = unitsPerOne := by
  have hone : (unitsPerOne : ℚ) ≠ 0 := unitsPerOne_cast_pos.ne'
  rw [exactValue, Int.fract_div_natCast_eq_div_natCast_mod, div_eq_div_iff hone two_ne_zero,
    one_mul, mul_comm]
  norm_cast

/-- The whole number is the magnitude, or one of the two next to it. -/
structure NextTo (rank w : Nat) : Prop where
  floor_le : ⌊exactValue rank⌋ ≤ w
  le_ceil : w ≤ ⌈exactValue rank⌉

theorem nextTo_wholeDown (rank : Nat) : NextTo rank (wholeDown (units rank)) := by
  have hdown := floor_exactValue rank
  constructor
  · exact hdown.le
  · rw [← hdown]
    exact Int.floor_le_ceil (exactValue rank)

theorem nextTo_wholeUp (rank : Nat) : NextTo rank (wholeUp (units rank)) := by
  have hup := ceil_exactValue rank
  constructor
  · rw [← hup]
    exact Int.floor_le_ceil (exactValue rank)
  · exact hup.ge

theorem nextTo_wholeNear (rank : Nat) : NextTo rank (wholeNear (units rank)) := by
  have hnear := floor_exactValue_add_half rank
  constructor
  · rw [← hnear]
    exact floor_le_floor_add_half (exactValue rank)
  · rw [← hnear]
    exact floor_add_half_le_ceil (exactValue rank)

/-- A whole number next to a magnitude is a magnitude. -/
theorem NextTo.exists_units_eq {rank w : Nat} (h : NextTo rank w) (hr : rank < infiniteRank) :
    ∃ r, r < infiniteRank ∧ units r = w * unitsPerOne := by
  -- From binade 1074 on a step is one or more.
  rcases Nat.lt_or_ge (binade rank) 1074 with hb | hb
  · -- The magnitude is less than `2^53`, and so whole numbers next to it are magnitudes.
    have hpow : 2 ^ binade rank ≤ unitsPerOne := by
      rw [unitsPerOne_eq, Nat.pow_le_pow_iff_right Nat.one_lt_two]
      exact Nat.le_of_lt hb
    have hlt : units rank ≤ 2 ^ 53 * unitsPerOne := by
      rw [units_eq]
      exact Nat.mul_le_mul (mantissa_lt rank).le hpow
    have hvalue : exactValue rank ≤ ((2 ^ 53 : Nat) : ℤ) := by
      rw [exactValue, div_le_iff₀ unitsPerOne_cast_pos]
      exact_mod_cast hlt
    have hw : (w : ℤ) ≤ ((2 ^ 53 : Nat) : ℤ) := h.le_ceil.trans (Int.ceil_le.mpr hvalue)
    obtain ⟨r, hr', -, hu⟩ := exists_ofNat_eq (Int.ofNat_le.mp hw)
    exact ⟨r, hr', hu⟩
  · -- The steps are not below one here: the magnitude is whole, and it is `w`.
    have hu : units rank = mantissa rank * 2 ^ (binade rank - 1074) * unitsPerOne := by
      rw [units_eq, unitsPerOne_eq, Nat.mul_assoc, ← Nat.pow_add]
      congr 2
      omega
    have hvalue : exactValue rank = ((mantissa rank * 2 ^ (binade rank - 1074) : Nat) : ℤ) := by
      rw [exactValue_of_units hu, Int.cast_natCast]
    have hlo := h.floor_le
    have hhi := h.le_ceil
    rw [hvalue, Int.floor_intCast] at hlo
    rw [hvalue, Int.ceil_intCast] at hhi
    have hw : w = mantissa rank * 2 ^ (binade rank - 1074) := by omega
    refine ⟨rank, hr, ?_⟩
    rw [hw]
    exact hu

/-! ## Whole numbers next to a number -/

/-- If a whole number next to the magnitude is taken, it is the magnitude of the result. -/
theorem exists_mapWhole_eq {f : Bool → Nat → Nat} {negative : Bool} {rank w : Nat}
    (hr : rank < infiniteRank) (hf : f negative (units rank) = w) (hw : NextTo rank w) :
    ∃ r, ∃ hr' : r < infiniteRank,
      mapWhole f (.finite negative rank hr) = .finite negative r hr' ∧ exactValue r = w := by
  obtain ⟨r, hr', hu⟩ := hw.exists_units_eq hr
  refine ⟨r, hr', ?_, exactValue_of_units hu⟩
  rw [mapWhole, hf, ofRatio, nearestRank_of_units hr' hu, ofRank_of_lt hr']

theorem isWhole_mapWhole_positive {f : Bool → Nat → Nat} {rank w : Nat} (hr : rank < infiniteRank)
    (hf : f false (units rank) = w) (hw : NextTo rank w) :
    IsWhole (mapWhole f (.finite false rank hr)) w := by
  obtain ⟨r, hr', hresult, hvalue⟩ := exists_mapWhole_eq hr hf hw
  rw [hresult]
  constructor
  · rfl
  · rw [exact_positive, hvalue, Int.cast_natCast]

theorem isWhole_mapWhole_negative {f : Bool → Nat → Nat} {rank w : Nat} (hr : rank < infiniteRank)
    (hf : f true (units rank) = w) (hw : NextTo rank w) :
    IsWhole (mapWhole f (.finite true rank hr)) (-w) := by
  obtain ⟨r, hr', hresult, hvalue⟩ := exists_mapWhole_eq hr hf hw
  rw [hresult]
  constructor
  · rfl
  · rw [exact_negative, hvalue, Int.cast_neg, Int.cast_natCast]

theorem sign_mapWhole (f : Bool → Nat → Nat) (x : Number) : (mapWhole f x).sign = x.sign := by
  cases x with
  | finite negative rank hr => rw [mapWhole, ofRatio, sign_ofRank, sign]
  | nan | infinite => rfl

theorem isWhole_floor {x : Number} (hx : x.isFinite = true) : IsWhole x.floor ⌊x.exact⌋ := by
  cases x with
  | finite negative rank hr =>
      cases negative with
      | false =>
          rw [exact_positive, floor_exactValue]
          exact isWhole_mapWhole_positive hr (if_neg Bool.false_ne_true) (nextTo_wholeDown rank)
      | true =>
          -- Below zero the floor is the next whole magnitude.
          rw [exact_negative, Int.floor_neg, ceil_exactValue]
          exact isWhole_mapWhole_negative hr (if_pos rfl) (nextTo_wholeUp rank)
  | nan | infinite => cases hx

theorem isWhole_ceil {x : Number} (hx : x.isFinite = true) : IsWhole x.ceil ⌈x.exact⌉ := by
  cases x with
  | finite negative rank hr =>
      cases negative with
      | false =>
          rw [exact_positive, ceil_exactValue]
          exact isWhole_mapWhole_positive hr (if_neg Bool.false_ne_true) (nextTo_wholeUp rank)
      | true =>
          rw [exact_negative, Int.ceil_neg, floor_exactValue]
          exact isWhole_mapWhole_negative hr (if_pos rfl) (nextTo_wholeDown rank)
  | nan | infinite => cases hx

/-! ## Rounding -/

theorem endsInHalf_iff {x : Number} (hx : x.isFinite = true) :
    x.endsInHalf = true ↔ Int.fract x.exact = 1 / 2 := by
  cases x with
  | finite negative rank hr =>
      have hmagnitude : (Number.finite negative rank hr).endsInHalf = true ↔
          Int.fract (exactValue rank) = 1 / 2 := by
        rw [fract_exactValue_eq_half_iff, endsInHalf, beq_iff_eq]
      cases negative with
      | false => exact hmagnitude
      | true => rw [hmagnitude, exact_negative, fract_neg_eq_half_iff]
  | nan | infinite => cases hx

theorem isWhole_roundAway {x : Number} (hx : x.isFinite = true)
    (hhalf : Int.fract x.exact ≠ 1 / 2) : IsWhole x.roundAway ⌊x.exact + 1 / 2⌋ := by
  cases x with
  | finite negative rank hr =>
      cases negative with
      | false =>
          rw [exact_positive, floor_exactValue_add_half]
          exact isWhole_mapWhole_positive hr rfl (nextTo_wholeNear rank)
      | true =>
          rw [exact_negative, ne_eq, fract_neg_eq_half_iff] at hhalf
          rw [exact_negative, ← neg_floor_add_half hhalf, floor_exactValue_add_half]
          exact isWhole_mapWhole_negative hr rfl (nextTo_wholeNear rank)
  | nan | infinite => cases hx

theorem isWhole_round {x : Number} (hx : x.isFinite = true) :
    IsWhole x.round ⌊x.exact + 1 / 2⌋ := by
  have hiff := endsInHalf_iff hx
  unfold round
  split
  · rename_i h
    rw [← ceil_of_half (hiff.mp h)]
    exact isWhole_ceil hx
  · rename_i h
    exact isWhole_roundAway hx fun hhalf => h (hiff.mpr hhalf)

theorem sign_round (x : Number) : x.round.sign = x.sign := by
  unfold round
  split
  · exact sign_mapWhole _ x
  · exact sign_mapWhole _ x

/-- A whole number is not changed, and neither is its sign. -/
theorem round_eq_self {x : Number} {m : ℤ} (h : IsWhole x m) : x.round = x := by
  have hround := isWhole_round h.isFinite
  have hfloor : ⌊(m : ℚ) + 1 / 2⌋ = m := by
    rw [Int.floor_eq_iff]
    constructor <;> linarith
  have hexact : x.round.exact = x.exact := by
    rw [hround.exact_eq, h.exact_eq, hfloor]
  exact eq_of_exact_eq hround.isFinite h.isFinite (sign_round x) hexact

end Tabular.Number

namespace Tabular.NumericFunction

open Number

/-- A finite number `q` is rounded to the integer `⌊q + 1/2⌋`: at most a half away, between the floor
and the ceiling, never less for a greater number, and unchanged if it is whole. -/
theorem rounds_half_up (x other : Number) (hx : x.isFinite = true) :
    IsWhole (apply .round x other) ⌊x.exact + 1 / 2⌋ ∧
    |x.exact - (apply .round x other).exact| ≤ 1 / 2 ∧
    IsWhole (apply .floor x other) ⌊x.exact⌋ ∧
    IsWhole (apply .ceil x other) ⌈x.exact⌉ ∧
    (apply .floor x other).exact ≤ (apply .round x other).exact ∧
    (apply .round x other).exact ≤ (apply .ceil x other).exact ∧
    (∀ y another : Number, y.isFinite = true → x.exact ≤ y.exact →
      (apply .round x other).exact ≤ (apply .round y another).exact) ∧
    (∀ m : ℤ, x.exact = m → apply .round x other = x) := by
  have hround : IsWhole (apply .round x other) ⌊x.exact + 1 / 2⌋ := isWhole_round hx
  have hfloor : IsWhole (apply .floor x other) ⌊x.exact⌋ := isWhole_floor hx
  have hceil : IsWhole (apply .ceil x other) ⌈x.exact⌉ := isWhole_ceil hx
  refine ⟨hround, ?_, hfloor, hceil, ?_, ?_, ?_, ?_⟩
  · rw [hround.exact_eq, ← round_eq]
    exact abs_sub_round x.exact
  · rw [hfloor.exact_eq, hround.exact_eq, Int.cast_le]
    exact floor_le_floor_add_half x.exact
  · rw [hround.exact_eq, hceil.exact_eq, Int.cast_le]
    exact floor_add_half_le_ceil x.exact
  · intro y another hy hle
    have hround' : IsWhole (apply .round y another) ⌊y.exact + 1 / 2⌋ := isWhole_round hy
    rw [hround.exact_eq, hround'.exact_eq, Int.cast_le]
    exact Int.floor_mono (by linarith)
  · intro m hm
    exact round_eq_self ⟨hx, hm⟩

theorem rounds_half_up_of_minus_two_and_a_half :
    let x := ofDecimal true 25 (-1)
    let y := Number.ofNat 3
    x.isFinite = true ∧ y.isFinite = true ∧ x.exact = -(5 / 2) ∧ y.exact = (3 : ℤ) ∧
      IsWhole (apply .round x .zero) (-2) ∧
      (apply .round x .zero).exact ≤ (apply .round y .zero).exact ∧ apply .round y .zero = y := by
  intro x y
  have hx : x.isFinite = true := by decide +kernel
  have hy : IsWhole y 3 := isWhole_ofNat (by decide)
  have hrank : ∃ hr, x = .finite true (1023 * binadeSize + 5 * 2 ^ 50) hr :=
    ⟨by decide, by decide +kernel⟩
  have hexact : x.exact = -(5 / 2) := by
    obtain ⟨hr, h⟩ := hrank
    have hone : (unitsPerOne : ℚ) = 2 ^ 1023 * 2 ^ 51 := by
      rw [unitsPerOne_eq, Nat.cast_pow, Nat.cast_ofNat, ← pow_add]
    rw [h, exact_negative, exactValue_of_binade (.inr (by decide)) (by decide), hone]
    generalize hp : (2 : ℚ) ^ 1023 = p
    have hp0 : p ≠ 0 := hp ▸ pow_ne_zero _ two_ne_zero
    field_simp
    norm_num
  have hle : x.exact ≤ y.exact := by
    rw [hexact, hy.exact_eq]
    norm_num
  obtain ⟨hround, -, -, -, -, -, hmono, -⟩ := rounds_half_up x .zero hx
  obtain ⟨-, -, -, -, -, -, -, hself⟩ := rounds_half_up y .zero hy.isFinite
  have hfloor : ⌊(-(5 / 2) + 1 / 2 : ℚ)⌋ = -2 := by norm_num
  rw [hexact, hfloor] at hround
  exact ⟨hx, hy.isFinite, hexact, hy.exact_eq, hround, hmono y .zero hy.isFinite hle,
    hself 3 hy.exact_eq⟩

/-- The number below a half is rounded to zero, though the nearest number to its sum with a half is
one. -/
example : apply .round (ofDecimal false 49999999999999994 (-17)) .zero = .zero ∧
    (ofDecimal false 49999999999999994 (-17)).add (ofDecimal false 5 (-1)) = Number.ofNat 1 := by
  decide +kernel

end Tabular.NumericFunction
