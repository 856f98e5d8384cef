import Tabular.Formula.Numeric
import Tabular.Proofs.Table.Ordered

set_option autoImplicit false

/-! # Numeric formulas without a number

The operands of a numeric formula are never NaN: a NaN in a cell stands for no number, no text is
read as NaN, and what stands for no number counts as zero. The value of the formula is NaN just for
the operands for which the arithmetic of infinities has no answer
(`NumericFormula.isNan_value_iff`). Rounding always has one, and so has division by zero, which is
zero here.
-/

namespace Tabular

/-! ## Arithmetic -/

namespace Number

variable {x y : Number}

theorem isNan_ofUnits (i : Int) (negativeWhenZero : Bool) :
    (ofUnits i negativeWhenZero).isNan = false :=
  isNan_ofRank _ _

theorem isNan_mapWhole (f : Bool → Nat → Nat) (x : Number) : (mapWhole f x).isNan = x.isNan := by
  cases x with
  | nan | infinite => rfl
  | finite => exact isNan_ofRank _ _

theorem isNan_round (x : Number) : x.round.isNan = x.isNan := by
  rw [round]
  split
  · exact isNan_mapWhole _ x
  · exact isNan_mapWhole _ x

theorem isNan_abs (x : Number) : x.abs.isNan = x.isNan := by
  cases x <;> rfl

theorem isNan_neg (x : Number) : x.neg.isNan = x.isNan := by
  cases x <;> rfl

/-- Infinities of different signs have no sum. -/
theorem isNan_add_iff (hx : x.isNan = false) (hy : y.isNan = false) :
    (x.add y).isNan = true ↔ ∃ negative, x = .infinite negative ∧ y = .infinite (!negative) := by
  cases x with
  | nan => cases hx
  | finite a r hr =>
      cases y with
      | nan => cases hy
      | finite b s hs => simp [add, isNan_ofUnits]
      | infinite b => simp [add, isNan]
  | infinite a =>
      cases y with
      | nan => cases hy
      | finite b s hs => simp [add, isNan]
      | infinite b => cases a <;> cases b <;> simp [add, isNan]

theorem isNan_sub_iff (hx : x.isNan = false) (hy : y.isNan = false) :
    (x.sub y).isNan = true ↔ ∃ negative, x = .infinite negative ∧ y = .infinite negative := by
  rw [sub, isNan_add_iff hx (y.isNan_neg.trans hy)]
  refine exists_congr fun negative => and_congr_right fun _ => ?_
  cases y <;> simp [neg]

/-- Zero and infinity have no product. -/
theorem isNan_mul_iff (hx : x.isNan = false) (hy : y.isNan = false) :
    (x.mul y).isNan = true ↔
      (∃ negative, x = .infinite negative ∧ y.isZero = true) ∨
        ∃ negative, x.isZero = true ∧ y = .infinite negative := by
  cases x with
  | nan => cases hx
  | finite a r hr =>
      cases y with
      | nan => cases hy
      | finite b s hs => simp [mul, isNan_ofRank]
      | infinite b => by_cases h0 : r = 0 <;> simp [mul, isNan, isZero, h0]
  | infinite a =>
      cases y with
      | nan => cases hy
      | finite b s hs => by_cases h0 : s = 0 <;> simp [mul, isNan, isZero, h0]
      | infinite b => simp [mul, isNan, isZero]

/-- Infinities have no quotient. -/
theorem isNan_div_iff (hx : x.isNan = false) (hy : y.isNan = false) (h0 : y.isZero = false) :
    (x.div y).isNan = true ↔ ∃ a b, x = .infinite a ∧ y = .infinite b := by
  cases x with
  | nan => cases hx
  | finite a r hr =>
      cases y with
      | nan => cases hy
      | finite b s hs =>
          have hs0 : s ≠ 0 := by simpa [isZero] using h0
          simp [div, hs0, isNan_ofRank]
      | infinite b => simp [div, isNan_ofRank]
  | infinite a =>
      cases y with
      | nan => cases hy
      | finite b s hs => simp [div, isNan]
      | infinite b => simp [div, isNan]

end Number

/-! ## Functions -/

/-- The operands for which a function has no number. -/
inductive NumericFunction.Indeterminate : NumericFunction → Number → Number → Prop
  | sum (negative : Bool) : Indeterminate .add (.infinite negative) (.infinite (!negative))
  | difference (negative : Bool) : Indeterminate .sub (.infinite negative) (.infinite negative)
  | timesZero (negative : Bool) {y : Number} (hy : y.isZero = true) :
      Indeterminate .mult (.infinite negative) y
  | zeroTimes (negative : Bool) {x : Number} (hx : x.isZero = true) :
      Indeterminate .mult x (.infinite negative)
  | quotient (a b : Bool) : Indeterminate .div (.infinite a) (.infinite b)

/-- Rounding has a number for every number. -/
theorem NumericFunction.isNan_apply_of_not_isBinary {f : NumericFunction} (h : f.isBinary = false)
    (x y : Number) : (f.apply x y).isNan = x.isNan := by
  cases f with
  | round => exact x.isNan_round
  | ceil => rw [apply, Number.ceil, Number.isNan_mapWhole]
  | floor => rw [apply, Number.floor, Number.isNan_mapWhole]
  | abs => exact x.isNan_abs
  | add | sub | mult | div => cases h

/-- The result for two numbers is NaN just for the indeterminate ones. -/
theorem NumericFunction.isNan_apply_iff {f : NumericFunction} {x y : Number}
    (hx : x.isNan = false) (hy : y.isNan = false) :
    (f.apply x y).isNan = true ↔ f.Indeterminate x y := by
  cases f with
  | round | ceil | floor | abs =>
      rw [isNan_apply_of_not_isBinary rfl, hx]
      exact iff_of_false Bool.false_ne_true (fun h => by cases h)
  | add =>
      refine (Number.isNan_add_iff hx hy).trans ⟨?_, ?_⟩
      · rintro ⟨negative, rfl, rfl⟩
        exact .sum negative
      · rintro ⟨⟩
        exact ⟨_, rfl, rfl⟩
  | sub =>
      refine (Number.isNan_sub_iff hx hy).trans ⟨?_, ?_⟩
      · rintro ⟨negative, rfl, rfl⟩
        exact .difference negative
      · rintro ⟨⟩
        exact ⟨_, rfl, rfl⟩
  | mult =>
      refine (Number.isNan_mul_iff hx hy).trans ⟨?_, ?_⟩
      · rintro (⟨negative, rfl, h0⟩ | ⟨negative, h0, rfl⟩)
        · exact .timesZero negative h0
        · exact .zeroTimes negative h0
      · intro h
        cases h with
        | timesZero negative h0 => exact .inl ⟨negative, rfl, h0⟩
        | zeroTimes negative h0 => exact .inr ⟨negative, h0, rfl⟩
  | div =>
      rw [apply]
      split
      · rename_i h0
        -- Division by zero is zero, and infinity is not zero.
        refine iff_of_false Bool.false_ne_true ?_
        rintro ⟨⟩
        cases h0
      · rename_i h0
        refine (Number.isNan_div_iff hx hy (Bool.eq_false_iff.mpr h0)).trans ⟨?_, ?_⟩
        · rintro ⟨a, b, rfl, rfl⟩
          exact .quotient a b
        · rintro ⟨⟩
          exact ⟨_, _, rfl, rfl⟩

/-! ## Formulas -/

namespace NumericFormula

/-- What stands for no number counts as zero, and what stands for one is not NaN. -/
theorem isNan_getD_zero {operand : Option Number} (h : ∀ x, operand = some x → x.isNan = false) :
    (operand.getD .zero).isNan = false := by
  cases operand with
  | none => rfl
  | some x => exact h x rfl

theorem isNan_firstOperand (f : NumericFormula) (r : Record) : (f.firstOperand r).isNan = false :=
  isNan_getD_zero fun _ => Cell.isNan_of_number?

theorem isNan_secondOperand (f : NumericFormula) (r : Record) :
    (f.secondOperand r).isNan = false := by
  refine isNan_getD_zero fun x hx => ?_
  cases hc : f.second? with
  | none =>
      rw [hc] at hx
      obtain ⟨s, -, hs⟩ := Option.bind_eq_some_iff.mp hx
      exact Number.isNan_of_ofText? hs
  | some column =>
      rw [hc] at hx
      exact Cell.isNan_of_number? hx

/-- A numeric formula has a number on every row, which is NaN exactly for indeterminate operands: if
two infinities that cancel are added or subtracted, if infinity is multiplied by zero or divided by
infinity. The operands themselves are never NaN. -/
theorem isNan_value_iff (f : NumericFormula) (r : Record) :
    (f.firstOperand r).isNan = false ∧ (f.secondOperand r).isNan = false ∧
      ∃ x, f.evaluate r = .number x ∧
        (x.isNan = true ↔ f.function.Indeterminate (f.firstOperand r) (f.secondOperand r)) :=
  ⟨f.isNan_firstOperand r, f.isNan_secondOperand r, _, rfl,
    NumericFunction.isNan_apply_iff (f.isNan_firstOperand r) (f.isNan_secondOperand r)⟩

/-- An overflowing price and a quantity that is no number; and the other ways to get NaN. -/
theorem infinite_operands_give_nan :
    let r : Record := Record.ofList [("price", .text "1e400"), ("debt", .text "-Infinity"),
      ("quantity", .text "n/a")]
    let value (function : NumericFunction) (first second : String) : Cell :=
      NumericFormula.evaluate ⟨function, first, some second, none⟩ r
    value .mult "price" "quantity" = .number .nan ∧ value .add "price" "debt" = .number .nan ∧
      value .sub "price" "price" = .number .nan ∧ value .div "debt" "price" = .number .nan := by
  decide +kernel

end NumericFormula

end Tabular
