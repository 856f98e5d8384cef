import Tabular.Number.Layout
import Tabular.Number.Numeral
import Tabular.Proofs.Number.Rounding

set_option autoImplicit false

/-! # Decimals and their ranks

How many digits a number is written with (`decimalLength_le_iff`), that its digits read as the
number, and that moving zeros between the digits and the power of ten does not change what a
decimal is rounded to (`decimalRank_mul_pow`).
-/

namespace Tabular.Number

/-! ## Lengths -/

theorem decimalLength_pos (n : Nat) : 0 < decimalLength n := by
  unfold decimalLength
  split <;> omega

theorem decimalLength_le_iff {n k : Nat} (hk : 0 < k) : decimalLength n ≤ k ↔ n < 10 ^ k := by
  induction k generalizing n with
  | zero => cases hk
  | succ k ih =>
      unfold decimalLength
      split
      · -- A single digit is always short enough.
        have h1 : 10 ^ 1 ≤ 10 ^ (k + 1) := Nat.pow_le_pow_right (by omega) (by omega)
        omega
      · rename_i hn
        rw [Nat.pow_succ]
        rcases Nat.eq_zero_or_pos k with rfl | hp
        · have := decimalLength_pos (n / 10)
          omega
        · have := ih (n := n / 10) hp
          omega

theorem lt_pow_decimalLength (n : Nat) : n < 10 ^ decimalLength n :=
  (decimalLength_le_iff (decimalLength_pos n)).mp (Nat.le_refl _)

theorem lt_decimalLength_iff {n k : Nat} (hk : 0 < k) : k < decimalLength n ↔ 10 ^ k ≤ n := by
  rw [← Nat.not_le, decimalLength_le_iff hk, Nat.not_lt]

/-- A number of `k` digits is written with so many. -/
theorem decimalLength_eq {n k : Nat} (hlo : 10 ^ k ≤ n) (hhi : n < 10 ^ (k + 1)) :
    decimalLength n = k + 1 := by
  have hle : decimalLength n ≤ k + 1 := (decimalLength_le_iff (by omega)).mpr hhi
  rcases Nat.eq_zero_or_pos k with rfl | hk
  · have := decimalLength_pos n
    omega
  · have hlt : k < decimalLength n := (lt_decimalLength_iff hk).mpr hlo
    omega

theorem pow_decimalLength_le {n : Nat} (hn : n ≠ 0) : 10 ^ (decimalLength n - 1) ≤ n := by
  rcases Nat.eq_zero_or_pos (decimalLength n - 1) with h | h
  · rw [h, Nat.pow_zero]
    omega
  · exact (lt_decimalLength_iff h).mp (by omega)

/-- A zero at the end is one more digit. -/
theorem decimalLength_mul_pow {n : Nat} (hn : n ≠ 0) (k : Nat) :
    decimalLength (n * 10 ^ k) = decimalLength n + k := by
  obtain ⟨l, hl⟩ : ∃ l, decimalLength n = l + 1 :=
    ⟨decimalLength n - 1, by have := decimalLength_pos n; omega⟩
  have hlo : 10 ^ l ≤ n := by
    have := pow_decimalLength_le hn
    rwa [hl] at this
  have hhi : n < 10 ^ (l + 1) := by
    rw [← hl]
    exact lt_pow_decimalLength n
  have hp : 0 < 10 ^ k := Nat.pow_pos (by omega)
  have h : decimalLength (n * 10 ^ k) = l + k + 1 := by
    refine decimalLength_eq ?_ ?_
    · rw [Nat.pow_add]
      exact Nat.mul_le_mul_right _ hlo
    · rw [show l + k + 1 = l + 1 + k by omega, Nat.pow_add]
      exact Nat.mul_lt_mul_of_pos_right hhi hp
  omega

/-! ## Digits -/

theorem digitsValue_eq_ofDigitChars (digits : List Char) :
    digitsValue digits = Nat.ofDigitChars 10 digits 0 := by
  rw [Nat.ofDigitChars_eq_foldl]
  rfl

theorem digitChars_eq (n : Nat) : digitChars n = Nat.toDigits 10 n := Nat.toList_repr

theorem digitsValue_digitChars (n : Nat) : digitsValue (digitChars n) = n := by
  rw [digitsValue_eq_ofDigitChars, digitChars_eq, Nat.ofDigitChars_ten_toDigits]

theorem toString_injective : Function.Injective (toString : Nat → String) := by
  intro m n h
  have hd : digitChars m = digitChars n := congrArg String.toList h
  rw [← digitsValue_digitChars m, hd, digitsValue_digitChars]

/-- Names that end in different numbers are different. -/
theorem append_toString_injective (front : String) :
    Function.Injective fun n : Nat => front ++ toString n := by
  intro m n h
  have hl := congrArg String.toList h
  simp only [String.toList_append, List.append_cancel_left_eq] at hl
  exact toString_injective (String.toList_inj.mp hl)

theorem isDigit_of_mem_digitChars {n : Nat} {c : Char} (h : c ∈ digitChars n) :
    c.isDigit = true := by
  rw [digitChars_eq] at h
  exact Nat.isDigit_of_mem_toDigits (by omega) (by omega) h

theorem digitChars_ne_nil (n : Nat) : digitChars n ≠ [] := by
  rw [digitChars_eq]
  exact Nat.toDigits_ne_nil

theorem length_digitChars (n : Nat) : (digitChars n).length = decimalLength n := by
  have hle (k : Nat) (hk : 0 < k) : (digitChars n).length ≤ k ↔ decimalLength n ≤ k := by
    rw [digitChars_eq, Nat.length_toDigits_le_iff (by omega) hk, decimalLength_le_iff hk]
  have hp : 0 < (digitChars n).length := List.length_pos_iff.mpr (digitChars_ne_nil n)
  exact Nat.le_antisymm ((hle _ (decimalLength_pos n)).mpr (Nat.le_refl _))
    ((hle _ hp).mp (Nat.le_refl _))

theorem digitsValue_replicate_append (k : Nat) (digits : List Char) :
    digitsValue (List.replicate k '0' ++ digits) = digitsValue digits := by
  rw [digitsValue_eq_ofDigitChars, digitsValue_eq_ofDigitChars, Nat.ofDigitChars_append,
    Nat.ofDigitChars_replicate_zero, Nat.mul_zero]

theorem digitsValue_append_replicate (digits : List Char) (k : Nat) :
    digitsValue (digits ++ List.replicate k '0') = digitsValue digits * 10 ^ k := by
  rw [digitsValue_eq_ofDigitChars, digitsValue_eq_ofDigitChars, Nat.ofDigitChars_append,
    Nat.ofDigitChars_replicate_zero, Nat.mul_comm]

/-! ## Ranks -/

/-- Within the range of the powers of ten, a decimal is rounded as the quotient it is. -/
theorem decimalRank_eq {m : Nat} {e : Int} (hm : m ≠ 0)
    (hlo : -325 < (decimalLength m : Int) + e) (hhi : (decimalLength m : Int) + e < 310) :
    decimalRank m e =
      nearestRank (m * (unitsPerOne * 10 ^ e.toNat)) (10 ^ (-e).toNat) := by
  have hz : ¬ (m = 0 ∨ (decimalLength m : Int) + e ≤ -325) := by omega
  have ht : ¬ 310 ≤ (decimalLength m : Int) + e := by omega
  rw [decimalRank, if_neg hz, if_neg ht]
  by_cases he : 0 ≤ e
  · have hn : (-e).toNat = 0 := by omega
    rw [if_pos he, hn, Nat.pow_zero, Nat.mul_assoc, Nat.mul_comm unitsPerOne]
    rfl
  · have hn : e.toNat = 0 := by omega
    rw [if_neg he, hn, Nat.pow_zero, Nat.mul_one]
    rfl

/-- Zeros at the end of the digits and powers of ten are the same. -/
theorem decimalRank_mul_pow (m k : Nat) (e : Int) :
    decimalRank (m * 10 ^ k) e = decimalRank m (e + k) := by
  rcases Nat.eq_zero_or_pos m with rfl | hm
  · simp [decimalRank]
  · have hm' : m ≠ 0 := by omega
    have hmk : m * 10 ^ k ≠ 0 := Nat.mul_ne_zero hm' (Nat.pow_pos (by omega)).ne'
    have hlen : (decimalLength (m * 10 ^ k) : Int) + e = decimalLength m + (e + k) := by
      rw [decimalLength_mul_pow hm' k]
      push_cast
      omega
    -- Out of range both ranks are the same without any rounding, as both decimals have the same
    -- first digit at the same place.
    by_cases hlo : (decimalLength m : Int) + (e + k) ≤ -325
    · simp only [decimalRank, hlen, hlo, or_true, if_true]
    by_cases hhi : 310 ≤ (decimalLength m : Int) + (e + k)
    · simp only [decimalRank, hlen, hlo, hhi, hm', hmk, or_false, if_true, if_false]
    rw [decimalRank_eq hmk (by omega) (by omega), decimalRank_eq hm' (by omega) (by omega)]
    -- Both quotients are the same one, with a power of ten above and below.
    have hpow : 10 ^ k * 10 ^ e.toNat * 10 ^ (-(e + k)).toNat =
        10 ^ (e + k).toNat * 10 ^ (-e).toNat := by
      rw [← Nat.pow_add, ← Nat.pow_add, ← Nat.pow_add]
      congr 1
      omega
    have hc : 0 < 10 ^ (-(e + k)).toNat := Nat.pow_pos (by omega)
    have hd : 0 < 10 ^ (-e).toNat := Nat.pow_pos (by omega)
    calc nearestRank (m * 10 ^ k * (unitsPerOne * 10 ^ e.toNat)) (10 ^ (-e).toNat)
        = nearestRank (m * 10 ^ k * (unitsPerOne * 10 ^ e.toNat) * 10 ^ (-(e + k)).toNat)
            (10 ^ (-e).toNat * 10 ^ (-(e + k)).toNat) := (nearestRank_mul _ _ hc).symm
      _ = nearestRank (m * (unitsPerOne * 10 ^ (e + k).toNat) * 10 ^ (-e).toNat)
            (10 ^ (-(e + k)).toNat * 10 ^ (-e).toNat) := by
          congr 1
          · calc m * 10 ^ k * (unitsPerOne * 10 ^ e.toNat) * 10 ^ (-(e + k)).toNat
                = m * unitsPerOne * (10 ^ k * 10 ^ e.toNat * 10 ^ (-(e + k)).toNat) := by ring
              _ = m * (unitsPerOne * 10 ^ (e + k).toNat) * 10 ^ (-e).toNat := by
                  rw [hpow]
                  ring
          · exact Nat.mul_comm _ _
      _ = nearestRank (m * (unitsPerOne * 10 ^ (e + k).toNat)) (10 ^ (-(e + k)).toNat) :=
          nearestRank_mul _ _ hd

theorem decimalRank_zero (e : Int) : decimalRank 0 e = 0 := by simp [decimalRank]

end Tabular.Number
