import Mathlib.Algebra.Order.Field.Power
import Tabular.Proofs.Number.Closest

set_option autoImplicit false

/-! # The nearest number

Rounding gives the number nearest to an exact value (`Nearest`), the one of even rank of two that
are equally near, and infinity from half a step past the greatest finite number on
(`overflowBound`): quotients are rounded to the nearest number (`nearest_ofRank`), and so are
decimals of any length (`nearest_ofDecimal`). There is one nearest number (`Nearest.unique`).
-/

namespace Tabular.Number

/-! ## Overflow -/

/-- From here on a value is infinite: half a step past the greatest finite number, which is
`2^1024 - 2^971`. -/
def overflowBound : ℚ := 2 ^ 1024 - 2 ^ 970

theorem binadeStep_top : binadeStep 2045 = 2 * 2 ^ 970 := by
  have hone : (unitsPerOne : ℚ) = 2 ^ 1074 := by rw [unitsPerOne_eq, Nat.cast_pow, Nat.cast_ofNat]
  have hpow : (2 : ℚ) ^ 2045 = 2 ^ 970 * 2 * 2 ^ 1074 := by
    rw [← pow_succ, ← pow_add]
  rw [binadeStep, div_eq_iff unitsPerOne_cast_pos.ne', hone, hpow, mul_comm (2 ^ 970) (2 : ℚ)]

/-- The bound lies in the middle between the greatest finite magnitude and the next one. -/
theorem overflowBound_eq :
    overflowBound = (exactValue (infiniteRank - 1) + exactValue infiniteRank) / 2 := by
  have hlast : infiniteRank - 1 = 2045 * binadeSize + (2 ^ 53 - 1) := by decide
  have hnext : infiniteRank = 2045 * binadeSize + 2 ^ 53 := by decide
  have htop : (2 : ℚ) ^ 1024 = 2 ^ 54 * 2 ^ 970 := by rw [← pow_add]
  rw [hlast, hnext, exactValue_of_binade (.inr (by decide)) (by decide),
    exactValue_of_binade (.inr (by decide)) (Nat.le_refl _), ← binadeStep, binadeStep_top,
    overflowBound, htop]
  generalize (2 : ℚ) ^ 970 = p
  norm_num
  ring

/-- The closest rank is a finite one exactly below the bound. -/
theorem Closest.lt_infiniteRank_iff {q : ℚ} {rank : Nat} (h : Closest q rank) :
    rank < infiniteRank ↔ q < overflowBound := by
  have hstep : exactValue (infiniteRank - 1) < exactValue infiniteRank :=
    exactValue_strictMono (by decide)
  rw [overflowBound_eq]
  constructor
  · intro hr
    by_contra hq
    have hle : exactValue rank ≤ exactValue (infiniteRank - 1) :=
      exactValue_strictMono.monotone (by omega)
    have hnear := h.near infiniteRank
    rw [abs_of_nonpos (by linarith), le_abs] at hnear
    rcases hnear with hnear | hnear
    · -- The value is the bound itself, and the greatest finite rank is odd.
      have heq : exactValue rank = exactValue (infiniteRank - 1) := by linarith
      have htie : |exactValue infiniteRank - q| = |exactValue rank - q| := by
        rw [abs_of_nonneg (by linarith), abs_of_nonpos (by linarith)]
        linarith
      have heven := h.even infiniteRank htie (by omega)
      rw [exactValue_strictMono.injective heq] at heven
      exact absurd heven (by decide)
    · linarith
  · intro hq
    by_contra hr
    have hge : exactValue infiniteRank ≤ exactValue rank :=
      exactValue_strictMono.monotone (by omega)
    have hnear := h.near (infiniteRank - 1)
    rw [abs_of_nonneg (by linarith), le_abs] at hnear
    rcases hnear with hnear | hnear <;> linarith

/-! ## Numbers -/

/-- The number of this sign that is nearest to the magnitude `q`; of two equally near ones the one
of even rank. -/
inductive Nearest (negative : Bool) (q : ℚ) : Number → Prop
  | finite {rank : Nat} {hr : rank < infiniteRank} (hq : q < overflowBound)
      (near : ∀ r < infiniteRank, |exactValue rank - q| ≤ |exactValue r - q|)
      (even : ∀ r < infiniteRank, |exactValue r - q| = |exactValue rank - q| → r ≠ rank →
        rank % 2 = 0) :
      Nearest negative q (.finite negative rank hr)
  | infinite (hq : overflowBound ≤ q) : Nearest negative q (.infinite negative)

theorem Closest.nearest {q : ℚ} {rank : Nat} (h : Closest q rank) (negative : Bool) :
    Nearest negative q (ofRank negative rank) := by
  unfold ofRank
  split
  · rename_i hr
    exact .finite (h.lt_infiniteRank_iff.mp hr) (fun r _ => h.near r) fun r _ => h.even r
  · rename_i hr
    exact .infinite (le_of_not_gt fun hq => hr (h.lt_infiniteRank_iff.mpr hq))

/-- A quotient in units is rounded to the nearest number. -/
theorem nearest_ofRank (negative : Bool) (n : Nat) {d : Nat} (hd : 0 < d) :
    Nearest negative (n / (d * unitsPerOne)) (ofRank negative (nearestRank n d)) := by
  have h := (closest_unboundedRank n hd).nearest negative
  have hr : ofRank negative (nearestRank n d) = ofRank negative (unboundedRank n d) := by
    rw [nearestRank_eq_min]
    unfold ofRank
    by_cases hlt : unboundedRank n d < infiniteRank
    · have hmin : Min.min infiniteRank (unboundedRank n d) = unboundedRank n d := by omega
      simp only [hmin]
    · rw [dif_neg (by omega), dif_neg hlt]
  rw [hr]
  exact h

theorem Nearest.isNan {negative : Bool} {q : ℚ} {x : Number} (h : Nearest negative q x) :
    x.isNan = false := by
  cases h <;> rfl

/-- Of two nearest magnitudes of even rank, none is less: the rank in between would be nearer. -/
theorem not_lt_of_near {q : ℚ} {r s : Nat} (hs : s < infiniteRank)
    (hnear : ∀ t < infiniteRank, |exactValue r - q| ≤ |exactValue t - q|)
    (hnear' : ∀ t < infiniteRank, |exactValue s - q| ≤ |exactValue t - q|)
    (hr2 : r % 2 = 0) (hs2 : s % 2 = 0) : ¬ r < s := by
  intro hlt
  have hmid : r + 1 < s := by omega
  have hv : exactValue r < exactValue (r + 1) := exactValue_strictMono (Nat.lt_succ_self r)
  have hv' : exactValue (r + 1) < exactValue s := exactValue_strictMono hmid
  rcases le_total q (exactValue (r + 1)) with hq | hq
  · exact absurd (abs_sub_lt_of_between (.inr ⟨hq, hv'⟩)) (not_lt.mpr (hnear' _ (by omega)))
  · exact absurd (abs_sub_lt_of_between (.inl ⟨hv, hq⟩)) (not_lt.mpr (hnear _ (by omega)))

/-- There is one nearest number. -/
theorem Nearest.unique {negative : Bool} {q : ℚ} {x y : Number} (hx : Nearest negative q x)
    (hy : Nearest negative q y) : x = y := by
  cases hx with
  | @finite r hr hq near even =>
      cases hy with
      | @finite s hs _ near' even' =>
          -- Both are equally near, so that two different ones would both be even, with an odd one
          -- in between that is nearer.
          have heq : |exactValue r - q| = |exactValue s - q| := le_antisymm (near s hs) (near' r hr)
          obtain rfl : r = s := by
            by_contra hne
            have hr2 := even s hs heq.symm (Ne.symm hne)
            have hs2 := even' r hr heq hne
            rcases Nat.lt_or_gt_of_ne hne with hlt | hgt
            · exact not_lt_of_near hs near near' hr2 hs2 hlt
            · exact not_lt_of_near hr near' near hs2 hr2 hgt
          rfl
      | infinite hq' => exact absurd hq (not_lt.mpr hq')
  | infinite hq =>
      cases hy with
      | finite hq' => exact absurd hq' (not_lt.mpr hq)
      | infinite => rfl

/-! ## Decimals -/

/-- Less than half of the least magnitude is nearest to zero. -/
theorem nearest_zero (negative : Bool) {q : ℚ} (h0 : 0 ≤ q) (h : 2 * q < exactValue 1) :
    Nearest negative q (ofRank negative 0) := by
  have hfar {r : Nat} (hr : r ≠ 0) : |exactValue 0 - q| < |exactValue r - q| := by
    have hle : exactValue 1 ≤ exactValue r := exactValue_strictMono.monotone (by omega)
    rw [exactValue_zero, zero_sub, abs_neg, abs_of_nonneg h0, abs_of_pos (by linarith)]
    linarith
  have hclosest : Closest q 0 := by
    constructor
    · intro r
      rcases eq_or_ne r 0 with rfl | hr
      · exact le_refl _
      · exact (hfar hr).le
    · intro r _ _
      rfl
  exact hclosest.nearest negative

theorem nearest_infinite (negative : Bool) {q : ℚ} (h : overflowBound ≤ q) :
    Nearest negative q (ofRank negative infiniteRank) := by
  have hr : ofRank negative infiniteRank = .infinite negative := dif_neg (Nat.lt_irrefl _)
  rw [hr]
  exact .infinite h

/-- A decimal is less than the power of ten with as many digits in front of the point. -/
theorem decimal_lt_zpow (m : Nat) (e : Int) :
    (m : ℚ) * 10 ^ e < 10 ^ ((decimalLength m : Int) + e) := by
  have hm : (m : ℚ) < 10 ^ decimalLength m := by exact_mod_cast lt_pow_decimalLength m
  rw [zpow_add₀ (by norm_num), zpow_natCast]
  exact mul_lt_mul_of_pos_right hm (by positivity)

theorem zpow_le_decimal {m : Nat} (hm : m ≠ 0) (e : Int) :
    (10 : ℚ) ^ ((decimalLength m : Int) - 1 + e) ≤ m * 10 ^ e := by
  have hpow : (10 : ℚ) ^ (decimalLength m - 1) ≤ m := by exact_mod_cast pow_decimalLength_le hm
  have hlen : ((decimalLength m : Int) - 1) = ((decimalLength m - 1 : Nat) : Int) := by
    have := decimalLength_pos m
    omega
  rw [zpow_add₀ (by norm_num), hlen, zpow_natCast]
  exact mul_le_mul_of_nonneg_right hpow (by positivity)

/-- Decimals with so many places are less than half of the least magnitude. -/
theorem two_mul_zpow_lt : 2 * (10 : ℚ) ^ (-325 : Int) < exactValue 1 := by
  have hpow : (2 : ℚ) * 2 ^ 1074 < 10 ^ 325 := by
    calc (2 : ℚ) * 2 ^ 1074 = (2 ^ 43) ^ 25 := by rw [← pow_succ', ← pow_mul]
      _ < (10 ^ 13) ^ 25 := by gcongr; norm_num
      _ = 10 ^ 325 := by rw [← pow_mul]
  have hone : units 1 = 1 := units_of_lt (by decide)
  rw [zpow_neg, zpow_ofNat, exactValue, hone, Nat.cast_one, ← div_eq_mul_inv,
    div_lt_div_iff₀ (by positivity) unitsPerOne_cast_pos, one_mul, unitsPerOne_eq, Nat.cast_pow,
    Nat.cast_ofNat]
  exact hpow

/-- Decimals with so many whole digits are infinite. -/
theorem overflowBound_le_zpow : overflowBound ≤ (10 : ℚ) ^ (309 : Int) := by
  have hstep : (2 : ℚ) ^ 93 ≤ 10 ^ 28 := by norm_num
  calc overflowBound ≤ 2 ^ 1024 := sub_le_self _ (by positivity)
    _ = 2 * (2 ^ 93) ^ 11 := by rw [← pow_mul, ← pow_succ']
    _ ≤ 10 * (10 ^ 28) ^ 11 := by gcongr; norm_num
    _ = 10 ^ (309 : Int) := by rw [← pow_mul, ← pow_succ', zpow_ofNat]

/-- A decimal is rounded to the nearest number, however many digits and powers of ten it has. -/
theorem nearest_ofDecimal (negative : Bool) (m : Nat) (e : Int) :
    Nearest negative (m * 10 ^ e) (ofDecimal negative m e) := by
  rw [ofDecimal]
  by_cases hz : m = 0 ∨ (decimalLength m : Int) + e ≤ -325
  · rw [decimalRank, if_pos hz]
    refine nearest_zero negative (by positivity) ?_
    rcases hz with rfl | hlo
    · have hpos := exactValue_strictMono (Nat.zero_lt_one)
      rw [exactValue_zero] at hpos
      rw [Nat.cast_zero, zero_mul, mul_zero]
      exact hpos
    · have hle : (10 : ℚ) ^ ((decimalLength m : Int) + e) ≤ 10 ^ (-325 : Int) :=
        zpow_le_zpow_right₀ (by norm_num) hlo
      have hlt := decimal_lt_zpow m e
      have hleast := two_mul_zpow_lt
      linarith
  -- Decimals under the least magnitude are settled. Beyond `309` whole digits all are infinite.
  obtain ⟨hm, hlo⟩ := not_or.mp hz
  by_cases ht : 310 ≤ (decimalLength m : Int) + e
  · rw [decimalRank, if_neg hz, if_pos ht]
    refine nearest_infinite negative ?_
    calc overflowBound ≤ 10 ^ (309 : Int) := overflowBound_le_zpow
      _ ≤ 10 ^ ((decimalLength m : Int) - 1 + e) :=
          zpow_le_zpow_right₀ (by norm_num) (by omega)
      _ ≤ m * 10 ^ e := zpow_le_decimal hm e
  · rw [decimalRank_eq hm (by omega) (by omega)]
    have h := nearest_ofRank negative (m * (unitsPerOne * 10 ^ e.toNat))
      (d := 10 ^ (-e).toNat) (Nat.pow_pos (by omega))
    have hone : (unitsPerOne : ℚ) ≠ 0 := unitsPerOne_cast_pos.ne'
    have hexp : (10 : ℚ) ^ e = 10 ^ e.toNat / 10 ^ (-e).toNat := by
      rw [← zpow_natCast, ← zpow_natCast, ← zpow_sub₀ (by norm_num)]
      congr 1
      omega
    have hq : (m : ℚ) * 10 ^ e = ((m * (unitsPerOne * 10 ^ e.toNat) : Nat) : ℚ) /
        (((10 ^ (-e).toNat : Nat) : ℚ) * unitsPerOne) := by
      rw [hexp, Nat.cast_mul, Nat.cast_mul, Nat.cast_pow, Nat.cast_pow, Nat.cast_ofNat]
      field_simp
    rw [hq]
    exact h

end Tabular.Number
