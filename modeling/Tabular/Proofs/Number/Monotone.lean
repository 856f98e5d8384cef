import Mathlib.Data.Nat.Log
import Tabular.Proofs.Number.Decimal

set_option autoImplicit false

/-! # Rounding keeps the order

A greater value is not rounded to a smaller magnitude: of two quotients with the same denominator
(`nearestRank_mono`) and of two decimals with the same power of ten (`decimalRank_mono`). A greater
rank has more units (`units_strictMono`).
-/

namespace Tabular.Number

/-! ## Quotients -/

theorem le_divideEven (n d : Nat) : n / d ≤ divideEven n d := by
  unfold divideEven
  simp only
  split_ifs <;> omega

theorem divideEven_le (n d : Nat) : divideEven n d ≤ n / d + 1 := by
  unfold divideEven
  simp only
  split_ifs <;> omega

theorem divideEven_mono {n n' : Nat} (d : Nat) (h : n ≤ n') : divideEven n d ≤ divideEven n' d := by
  have hq : n / d ≤ n' / d := Nat.div_le_div_right h
  rcases Nat.eq_or_lt_of_le hq with heq | hlt
  · -- With the same whole part, the rests decide.
    have hn : d * (n / d) + n % d = n := Nat.div_add_mod n d
    have hn' : d * (n' / d) + n' % d = n' := Nat.div_add_mod n' d
    have hr : n % d ≤ n' % d := by
      rw [heq] at hn
      omega
    unfold divideEven
    simp only [heq]
    split_ifs <;> omega
  · calc divideEven n d ≤ n / d + 1 := divideEven_le n d
      _ ≤ n' / d := hlt
      _ ≤ divideEven n' d := le_divideEven n' d

/-! ## Ranks -/

theorem nearestRank_le (n d : Nat) : nearestRank n d ≤ infiniteRank := Nat.min_le_left _ _

/-- A quotient is not below the binade that it is rounded in, nor above it. -/
theorem binade_bounds {n d k : Nat} (hd : 0 < d) (hk : Nat.log2 (n / d) - 52 = k) :
    (k = 0 ∨ 2 ^ 52 * (2 ^ k * d) ≤ n) ∧ n < 2 ^ 53 * (2 ^ k * d) := by
  constructor
  · rcases Nat.eq_zero_or_pos k with h0 | h0
    · exact .inl h0
    · right
      -- A quotient of zero is in the first binade.
      have hz : n / d ≠ 0 := by
        intro hz
        rw [hz] at hk
        simp at hk
        omega
      have hlog : 2 ^ (52 + k) ≤ n / d := (Nat.le_log2 hz).mp (by omega)
      calc 2 ^ 52 * (2 ^ k * d) = 2 ^ (52 + k) * d := by rw [Nat.pow_add]; ring
        _ ≤ n := (Nat.le_div_iff_mul_le hd).mp hlog
  · have hlog : n / d < 2 ^ (53 + k) := by
      by_cases hz : n / d = 0
      · rw [hz]
        exact Nat.two_pow_pos _
      · exact (Nat.log2_lt hz).mp (by omega)
    calc n < 2 ^ (53 + k) * d := (Nat.div_lt_iff_lt_mul hd).mp hlog
      _ = 2 ^ 53 * (2 ^ k * d) := by rw [Nat.pow_add]; ring

/-- A mantissa is rounded to at most one past the last mantissa. -/
theorem divideEven_le_of_binade {n d k : Nat} (hd : 0 < d) (hk : Nat.log2 (n / d) - 52 = k) :
    divideEven n (d <<< k) ≤ 2 ^ 53 := by
  have hlt : n / (d <<< k) < 2 ^ 53 := by
    rw [Nat.shiftLeft_eq, Nat.mul_comm d,
      Nat.div_lt_iff_lt_mul (Nat.mul_pos (Nat.two_pow_pos k) hd)]
    exact (binade_bounds hd hk).2
  exact (divideEven_le n _).trans hlt

/-- Past the first binade a mantissa is rounded to at least the least mantissa. -/
theorem le_divideEven_of_binade {n d k : Nat} (hd : 0 < d) (hk : Nat.log2 (n / d) - 52 = k)
    (h0 : 0 < k) : 2 ^ 52 ≤ divideEven n (d <<< k) := by
  refine le_trans ?_ (le_divideEven n _)
  rw [Nat.shiftLeft_eq, Nat.mul_comm d, Nat.le_div_iff_mul_le (Nat.mul_pos (Nat.two_pow_pos k) hd)]
  exact (binade_bounds hd hk).1.resolve_left (by omega)

theorem nearestRank_mono {n n' : Nat} (d : Nat) (h : n ≤ n') :
    nearestRank n d ≤ nearestRank n' d := by
  have hq : n / d ≤ n' / d := Nat.div_le_div_right h
  have hlog : Nat.log2 (n / d) ≤ Nat.log2 (n' / d) := by
    rw [Nat.log2_eq_log_two, Nat.log2_eq_log_two]
    exact Nat.log_mono_right hq
  obtain ⟨k, hk⟩ : ∃ k, Nat.log2 (n / d) - 52 = k := ⟨_, rfl⟩
  obtain ⟨k', hk'⟩ : ∃ k', Nat.log2 (n' / d) - 52 = k' := ⟨_, rfl⟩
  simp only [nearestRank, hk, hk']
  refine le_min (Nat.min_le_left _ _) ((Nat.min_le_right _ _).trans ?_)
  have hkk : k ≤ k' := by omega
  rcases Nat.eq_or_lt_of_le hkk with rfl | hlt
  · exact Nat.add_le_add_left (divideEven_mono _ h) _
  · -- Between the two lies the start of a binade.
    have hd : 0 < d := by
      rcases Nat.eq_zero_or_pos d with rfl | hd
      · simp at hk'
        omega
      · exact hd
    have hb : (k + 1) * binadeSize ≤ k' * binadeSize := Nat.mul_le_mul_right _ hlt
    have hlo := divideEven_le_of_binade hd hk
    have hhi := le_divideEven_of_binade hd hk' (by omega)
    have hsize : 2 ^ 53 = binadeSize + 2 ^ 52 := by
      unfold binadeSize
      omega
    calc k * binadeSize + divideEven n (d <<< k)
        ≤ k * binadeSize + (binadeSize + 2 ^ 52) := by omega
      _ = (k + 1) * binadeSize + 2 ^ 52 := by ring
      _ ≤ k' * binadeSize + divideEven n' (d <<< k') := by omega

theorem units_lt_succ (rank : Nat) : units rank < units (rank + 1) := by
  rw [units_eq, units_eq]
  by_cases hb : binade (rank + 1) = binade rank
  · have hm : mantissa (rank + 1) = mantissa rank + 1 := by
      have hr := rank_eq rank
      have hr' := rank_eq (rank + 1)
      rw [hb] at hr'
      omega
    rw [hb, hm]
    exact Nat.mul_lt_mul_of_pos_right (Nat.lt_succ_self _) (Nat.two_pow_pos _)
  · -- The next rank starts a binade, whose steps are twice as long.
    have hnext : binade (rank + 1) = binade rank + 1 := by
      unfold binade binadeSize at *
      omega
    have hlt : mantissa rank < 2 ^ 53 := mantissa_lt rank
    have hle : 2 ^ 52 ≤ mantissa (rank + 1) := le_mantissa (by omega)
    calc mantissa rank * 2 ^ binade rank
        < 2 ^ 53 * 2 ^ binade rank := Nat.mul_lt_mul_of_pos_right hlt (Nat.two_pow_pos _)
      _ = 2 ^ 52 * 2 ^ (binade rank + 1) := by rw [Nat.pow_succ 2 (binade rank)]; ring
      _ ≤ mantissa (rank + 1) * 2 ^ binade (rank + 1) := by
          rw [hnext]
          exact Nat.mul_le_mul_right _ hle

theorem units_strictMono : StrictMono units := strictMono_nat_of_lt_succ units_lt_succ

theorem units_mono {rank rank' : Nat} (h : rank ≤ rank') : units rank ≤ units rank' :=
  units_strictMono.monotone h

/-! ## Decimals -/

theorem decimalLength_mono {m m' : Nat} (h : m ≤ m') : decimalLength m ≤ decimalLength m' :=
  (decimalLength_le_iff (decimalLength_pos m')).mpr (h.trans_lt (lt_pow_decimalLength m'))

theorem decimalRank_le (m : Nat) (e : Int) : decimalRank m e ≤ infiniteRank := by
  unfold decimalRank
  simp only
  split_ifs
  · exact Nat.zero_le _
  · exact Nat.le_refl _
  · exact nearestRank_le _ _
  · exact nearestRank_le _ _

theorem decimalRank_mono {m m' : Nat} (e : Int) (h : m ≤ m') :
    decimalRank m e ≤ decimalRank m' e := by
  have hlen := decimalLength_mono h
  by_cases hz : m = 0 ∨ (decimalLength m : Int) + e ≤ -325
  · rw [decimalRank, if_pos hz]
    exact Nat.zero_le _
  by_cases ht : 310 ≤ (decimalLength m' : Int) + e
  · have hz' : ¬ (m' = 0 ∨ (decimalLength m' : Int) + e ≤ -325) := by omega
    rw [decimalRank.eq_def m', if_neg hz', if_pos ht]
    exact decimalRank_le m e
  · rw [decimalRank_eq (by omega) (by omega) (by omega),
      decimalRank_eq (by omega) (by omega) (by omega)]
    exact nearestRank_mono _ (Nat.mul_le_mul_right _ h)

end Tabular.Number
