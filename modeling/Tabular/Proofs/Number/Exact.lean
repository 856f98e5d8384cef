import Tabular.Proofs.Number.Decimal

set_option autoImplicit false

/-! # Whole numbers that are magnitudes

A whole number is a magnitude when it is less than `2^53` times a power of two, as every whole
number up to `2^53` is (`exists_ofNat_eq`) and every power of ten up to `10^22`
(`exists_ofDecimal_pow_eq`). So whole numbers are told apart up to `2^53` (`ofNat_inj`).
-/

namespace Tabular.Number

theorem units_of_mantissa {b q : Nat} (hlo : 2 ^ 52 ≤ q) (hhi : q < 2 ^ 53) :
    units (b * binadeSize + q) = q * 2 ^ b := by
  have hb : binade (b * binadeSize + q) = b := by
    unfold binade binadeSize
    omega
  rw [units_eq, mantissa, hb, Nat.add_sub_cancel_left]

/-- A whole number with at most 53 binary digits before its zeros is a magnitude. -/
theorem exists_units_eq {a j : Nat} (ha : a < 2 ^ 53) (hj : j ≤ 900) :
    ∃ rank, rank < infiniteRank ∧ units rank = a * 2 ^ j * unitsPerOne := by
  rcases Nat.eq_zero_or_pos a with rfl | h0
  · refine ⟨0, by decide, ?_⟩
    rw [units_zero, Nat.zero_mul, Nat.zero_mul]
  · obtain ⟨l, hl⟩ : ∃ l, Nat.log2 a = l := ⟨_, rfl⟩
    have hlo : 2 ^ l ≤ a := (Nat.le_log2 (by omega)).mp (by omega)
    have hhi : a < 2 ^ (l + 1) := (Nat.log2_lt (by omega)).mp (by omega)
    have hl52 : l < 53 := by
      rw [← hl]
      exact (Nat.log2_lt (by omega)).mpr ha
    -- The mantissa is `a` with its first binary digit moved to the front.
    have hqlo : 2 ^ 52 ≤ a * 2 ^ (52 - l) := by
      calc 2 ^ 52 = 2 ^ l * 2 ^ (52 - l) := by rw [← Nat.pow_add]; congr 1; omega
        _ ≤ a * 2 ^ (52 - l) := Nat.mul_le_mul_right _ hlo
    have hqhi : a * 2 ^ (52 - l) < 2 ^ 53 := by
      calc a * 2 ^ (52 - l) < 2 ^ (l + 1) * 2 ^ (52 - l) :=
            Nat.mul_lt_mul_of_pos_right hhi (Nat.two_pow_pos _)
        _ = 2 ^ 53 := by rw [← Nat.pow_add]; congr 1; omega
    refine ⟨(l + 1022 + j) * binadeSize + a * 2 ^ (52 - l), ?_, ?_⟩
    · unfold infiniteRank binadeSize
      omega
    · rw [units_of_mantissa hqlo hqhi, unitsPerOne_eq, Nat.mul_assoc, Nat.mul_assoc,
        ← Nat.pow_add, ← Nat.pow_add]
      congr 2
      omega

theorem nearestRank_of_units {rank n : Nat} (hr : rank < infiniteRank) (h : units rank = n) :
    nearestRank n 1 = rank := by
  rw [← h]
  exact nearestRank_units hr

/-- A whole number up to `2^53` is a number as it is. -/
theorem exists_ofNat_eq {n : Nat} (hn : n ≤ 2 ^ 53) :
    ∃ rank, ∃ hr : rank < infiniteRank,
      ofNat n = .finite false rank hr ∧ units rank = n * unitsPerOne := by
  obtain ⟨rank, hr, hu⟩ : ∃ rank, rank < infiniteRank ∧ units rank = n * unitsPerOne := by
    rcases Nat.lt_or_eq_of_le hn with hlt | rfl
    · simpa using exists_units_eq (j := 0) hlt (by omega)
    · simpa using exists_units_eq (a := 1) (j := 53) (by decide) (by omega)
  refine ⟨rank, hr, ?_, hu⟩
  rw [ofNat, ofRatio, nearestRank_of_units hr hu, ofRank_of_lt hr]

/-- Numbers count by one up to `2^53`, and not from there. -/
theorem ofNat_inj {m n : Nat} (hm : m ≤ 2 ^ 53) (hn : n ≤ 2 ^ 53) : ofNat m = ofNat n ↔ m = n := by
  refine ⟨fun h => ?_, fun h => h ▸ rfl⟩
  obtain ⟨rank, hr, he, hu⟩ := exists_ofNat_eq hm
  obtain ⟨rank', hr', he', hu'⟩ := exists_ofNat_eq hn
  obtain rfl : rank = rank' := by
    rw [he, he'] at h
    injection h
  exact Nat.eq_of_mul_eq_mul_right unitsPerOne_pos (hu.symm.trans hu')

example : ofNat (2 ^ 53 + 1) = ofNat (2 ^ 53) := by decide +kernel

theorem decimalRank_pow_eq {k : Nat} (hk : k ≤ 308) :
    decimalRank 1 k = nearestRank (10 ^ k * unitsPerOne) 1 := by
  have hlen : decimalLength 1 = 1 := by rw [decimalLength, if_pos (by decide)]
  have hup : ((k : Int)).toNat = k := Int.toNat_natCast k
  have hdown : (-(k : Int)).toNat = 0 := by omega
  rw [decimalRank_eq (by omega) (by omega) (by omega), hup, hdown, Nat.pow_zero, Nat.one_mul,
    Nat.mul_comm]

/-- The powers of ten up to `10^22` are numbers as they are. -/
theorem exists_ofDecimal_pow_eq {k : Nat} (hk : k ≤ 22) :
    ∃ rank, ∃ hr : rank < infiniteRank,
      ofDecimal false 1 k = .finite false rank hr ∧ units rank = 10 ^ k * unitsPerOne := by
  have h5 : 5 ^ k < 2 ^ 53 := (Nat.pow_le_pow_right (by omega) hk).trans_lt (by decide)
  obtain ⟨rank, hr, hu⟩ := exists_units_eq (j := k) h5 (by omega)
  rw [← Nat.mul_pow] at hu
  refine ⟨rank, hr, ?_, hu⟩
  rw [ofDecimal, decimalRank_pow_eq (by omega), nearestRank_of_units hr hu, ofRank_of_lt hr]

end Tabular.Number
