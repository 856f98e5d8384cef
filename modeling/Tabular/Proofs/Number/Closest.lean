import Mathlib.Algebra.Order.Field.Rat
import Mathlib.Data.Rat.Cast.Order
import Mathlib.Tactic.FieldSimp
import Mathlib.Tactic.Linarith
import Mathlib.Tactic.Positivity
import Tabular.Proofs.Number.Exact
import Tabular.Proofs.Number.Monotone

set_option autoImplicit false

/-! # The closest magnitude

A rank has an exact value (`exactValue`), and ranks without end are taken here: past the finite
ones they go on with the magnitudes that would come next. The rank that a quotient is rounded to is
closest to it, and even if another one is equally close (`closest_unboundedRank`): in its binade the
steps are equal, and rounding to whole steps takes the nearest number of steps (`nearestSteps`).
-/

namespace Tabular.Number

/-! ## Exact values -/

/-- The value of a rank; past the finite ranks, that of the magnitude that would come next. -/
def exactValue (rank : Nat) : ℚ := (units rank : ℚ) / (unitsPerOne : ℚ)

theorem unitsPerOne_cast_pos : (0 : ℚ) < (unitsPerOne : ℚ) := by
  exact_mod_cast unitsPerOne_pos

theorem exactValue_strictMono : StrictMono exactValue := by
  intro r s h
  have hu : (units r : ℚ) < (units s : ℚ) := by exact_mod_cast units_strictMono h
  exact div_lt_div_of_pos_right hu unitsPerOne_cast_pos

theorem exactValue_zero : exactValue 0 = 0 := by simp [exactValue]

/-- From the start of a binade up to the start of the next one the steps are equal. -/
theorem exactValue_of_binade {k j : Nat} (hlo : k = 0 ∨ 2 ^ 52 ≤ j) (hhi : j ≤ 2 ^ 53) :
    exactValue (k * binadeSize + j) = j * ((2 : ℚ) ^ k / unitsPerOne) := by
  have hu : units (k * binadeSize + j) = j * 2 ^ k := by
    rcases Nat.eq_or_lt_of_le hhi with rfl | hlt
    · -- The start of the next binade.
      have hr : k * binadeSize + 2 ^ 53 = (k + 1) * binadeSize + 2 ^ 52 := by
        unfold binadeSize
        omega
      rw [hr, units_of_mantissa (Nat.le_refl _) (by decide), Nat.pow_succ 2 k]
      ring
    · rcases Nat.lt_or_ge j (2 ^ 52) with hj | hj
      · have hk : k = 0 := by omega
        rw [hk, Nat.zero_mul, Nat.zero_add, Nat.pow_zero, Nat.mul_one]
        exact units_of_lt (by unfold binadeSize; omega)
      · exact units_of_mantissa hj hlt
  rw [exactValue, hu]
  push_cast
  ring

/-! ## Whole numbers nearest to a quotient -/

/-- How far a quotient is rounded, by its rest. -/
theorem divideEven_cases (n d : Nat) :
    2 * (n % d) < d ∧ divideEven n d = n / d ∨
      d < 2 * (n % d) ∧ divideEven n d = n / d + 1 ∨
      2 * (n % d) = d ∧ divideEven n d = n / d + n / d % 2 := by
  unfold divideEven
  simp only
  split_ifs <;> omega

/-- A rest below a half is nearer to the whole part than to any other whole number. -/
theorem abs_sub_of_low {a j : Nat} {t : ℚ} (h0 : 0 ≤ t) (h : t < 1 / 2) (hj : j ≠ a) :
    |(a : ℚ) - (a + t)| < |(j : ℚ) - (a + t)| := by
  have ha : |(a : ℚ) - (a + t)| = t := by
    rw [sub_add_cancel_left, abs_neg, abs_of_nonneg h0]
  rw [ha, lt_abs]
  rcases Nat.lt_or_gt_of_ne hj with hlt | hgt
  · right
    have hc : (j : ℚ) + 1 ≤ a := by exact_mod_cast hlt
    linarith
  · left
    have hc : (a : ℚ) + 1 ≤ j := by exact_mod_cast hgt
    linarith

/-- A rest above a half is nearer to the next whole number than to any other one. -/
theorem abs_sub_of_high {a j : Nat} {t : ℚ} (h1 : t < 1) (h : 1 / 2 < t) (hj : j ≠ a + 1) :
    |((a + 1 : Nat) : ℚ) - (a + t)| < |(j : ℚ) - (a + t)| := by
  have ha : |((a + 1 : Nat) : ℚ) - (a + t)| = 1 - t := by
    push_cast
    rw [add_sub_add_left_eq_sub, abs_of_pos (by linarith)]
  rw [ha, lt_abs]
  rcases Nat.lt_or_gt_of_ne hj with hlt | hgt
  · right
    have hc : (j : ℚ) ≤ a := by exact_mod_cast Nat.lt_succ_iff.mp hlt
    linarith
  · left
    have hc : ((a + 1 : Nat) : ℚ) + 1 ≤ j := by exact_mod_cast hgt
    push_cast at hc
    linarith

/-- A rest of a half is a half away from the whole part and the next whole number, and further from
any other one. -/
theorem abs_sub_of_half (a i j : Nat) (hi : i ≤ 1) :
    |((a + i : Nat) : ℚ) - (a + 1 / 2)| ≤ |(j : ℚ) - (a + 1 / 2)| := by
  have ha : |((a + i : Nat) : ℚ) - (a + 1 / 2)| = 1 / 2 := by
    push_cast
    rw [add_sub_add_left_eq_sub]
    rcases Nat.le_one_iff_eq_zero_or_eq_one.mp hi with rfl | rfl <;> norm_num
  rw [ha, le_abs]
  rcases Nat.lt_or_ge a j with hlt | hge
  · left
    have hc : (a : ℚ) + 1 ≤ j := by exact_mod_cast hlt
    linarith
  · right
    have hc : (j : ℚ) ≤ a := by exact_mod_cast hge
    linarith

/-- The whole number that a quotient is rounded to is nearest to it, and even if another one is
equally near. -/
theorem divideEven_near {n d : Nat} (hd : 0 < d) (j : Nat) :
    |(divideEven n d : ℚ) - n / d| ≤ |(j : ℚ) - n / d| ∧
      (|(j : ℚ) - n / d| = |(divideEven n d : ℚ) - n / d| → j ≠ divideEven n d →
        divideEven n d % 2 = 0) := by
  have hdq : (0 : ℚ) < d := by exact_mod_cast hd
  -- The quotient is its whole part and a rest `t` below one.
  obtain ⟨t, ht⟩ : ∃ t : ℚ, t = ((n % d : Nat) : ℚ) / d := ⟨_, rfl⟩
  have hq : (n : ℚ) / d = ((n / d : Nat) : ℚ) + t := by
    have hn : (d : ℚ) * ((n / d : Nat) : ℚ) + ((n % d : Nat) : ℚ) = n := by
      exact_mod_cast Nat.div_add_mod n d
    rw [ht, ← hn]
    field_simp
  have ht0 : 0 ≤ t := by rw [ht]; positivity
  have ht1 : t < 1 := by
    rw [ht, div_lt_one hdq]
    exact_mod_cast Nat.mod_lt n hd
  have htwice : 2 * t * d = ((2 * (n % d) : Nat) : ℚ) := by
    rw [ht]
    push_cast
    field_simp
  rw [hq]
  -- The rest is below, above or at a half, and the quotient is rounded down, up or to even.
  rcases divideEven_cases n d with ⟨hr, he⟩ | ⟨hr, he⟩ | ⟨hr, he⟩ <;> rw [he]
  · have hc : 2 * t * d < 1 * d := by
      rw [htwice, one_mul]
      exact_mod_cast hr
    have hlow : 2 * t < 1 := lt_of_mul_lt_mul_right hc hdq.le
    have hlt (h : j ≠ n / d) := abs_sub_of_low ht0 (by linarith) h
    exact ⟨(eq_or_ne j (n / d)).elim (fun h => by rw [h]) fun h => (hlt h).le,
      fun htie h => absurd htie (hlt h).ne'⟩
  · have hc : 1 * d < 2 * t * d := by
      rw [htwice, one_mul]
      exact_mod_cast hr
    have hhigh : 1 < 2 * t := lt_of_mul_lt_mul_right hc hdq.le
    have hlt (h : j ≠ n / d + 1) := abs_sub_of_high ht1 (by linarith) h
    exact ⟨(eq_or_ne j (n / d + 1)).elim (fun h => by rw [h]) fun h => (hlt h).le,
      fun htie h => absurd htie (hlt h).ne'⟩
  · have hc : 2 * t * d = 1 * d := by
      rw [htwice, one_mul]
      exact_mod_cast hr
    have hhalf : t = 1 / 2 := by
      have := mul_right_cancel₀ hdq.ne' hc
      linarith
    rw [hhalf]
    exact ⟨abs_sub_of_half (n / d) (n / d % 2) j (by omega), fun _ _ => by omega⟩

/-! ## Ranks without end -/

/-- The rank closest to an exact value, and even if another one is equally close. -/
structure Closest (q : ℚ) (rank : Nat) : Prop where
  near : ∀ r, |exactValue rank - q| ≤ |exactValue r - q|
  even : ∀ r, |exactValue r - q| = |exactValue rank - q| → r ≠ rank → rank % 2 = 0

/-- A quotient in units, rounded as if ranks had no end. -/
def unboundedRank (n d : Nat) : Nat :=
  (Nat.log2 (n / d) - 52) * binadeSize + divideEven n (d <<< (Nat.log2 (n / d) - 52))

theorem nearestRank_eq_min (n d : Nat) :
    nearestRank n d = Min.min infiniteRank (unboundedRank n d) := rfl

def binadeStep (k : Nat) : ℚ := (2 : ℚ) ^ k / (unitsPerOne : ℚ)

theorem binadeStep_pos (k : Nat) : 0 < binadeStep k :=
  div_pos (pow_pos two_pos k) unitsPerOne_cast_pos

/-- The value `q` lies in the binade `k`, and `m` steps are nearest to it. -/
structure NearestSteps (q : ℚ) (k m : Nat) : Prop where
  lowest : k = 0 ∨ 2 ^ 52 * binadeStep k ≤ q
  highest : q < 2 ^ 53 * binadeStep k
  least : k = 0 ∨ 2 ^ 52 ≤ m
  most : m ≤ 2 ^ 53
  near : ∀ j : Nat, |m * binadeStep k - q| ≤ |j * binadeStep k - q|
  even : ∀ j : Nat, |j * binadeStep k - q| = |m * binadeStep k - q| → j ≠ m → m % 2 = 0

/-- The steps that a quotient in units is rounded to are nearest to it. -/
theorem nearestSteps {n d k : Nat} (hd : 0 < d) (hk : Nat.log2 (n / d) - 52 = k) :
    NearestSteps (n / (d * unitsPerOne)) k (divideEven n (d <<< k)) := by
  have hdq : (0 : ℚ) < d := by exact_mod_cast hd
  have hone : (unitsPerOne : ℚ) ≠ 0 := unitsPerOne_cast_pos.ne'
  have hstep := binadeStep_pos k
  have hdk : 0 < d <<< k := by
    rw [Nat.shiftLeft_eq]
    exact Nat.mul_pos hd (Nat.two_pow_pos k)
  have hdkq : (0 : ℚ) < ((d <<< k : Nat) : ℚ) := by exact_mod_cast hdk
  -- Counted in steps, the value is the quotient that is rounded to a whole number.
  obtain ⟨q, hq⟩ : ∃ q : ℚ, q = n / (d * unitsPerOne) := ⟨_, rfl⟩
  have hsteps : q = n / ((d <<< k : Nat) : ℚ) * binadeStep k := by
    rw [hq, binadeStep, Nat.shiftLeft_eq, Nat.cast_mul, Nat.cast_pow, Nat.cast_ofNat]
    field_simp
  have hscale (j : Nat) :
      |j * binadeStep k - q| = |(j : ℚ) - n / ((d <<< k : Nat) : ℚ)| * binadeStep k := by
    rw [hsteps, ← sub_mul, abs_mul, abs_of_pos hstep]
  obtain ⟨hlo, hhi⟩ := binade_bounds hd hk
  rw [← hq]
  -- The bounds of the binade are those of the quotient, scaled by a step.
  refine ⟨hlo.imp_right fun h => ?_, ?_, ?_, divideEven_le_of_binade hd hk,
    fun j => ?_, fun j htie hj => ?_⟩
  · rw [hsteps]
    refine mul_le_mul_of_nonneg_right ?_ hstep.le
    rw [le_div_iff₀ hdkq, Nat.shiftLeft_eq, Nat.mul_comm d]
    exact_mod_cast h
  · rw [hsteps]
    refine mul_lt_mul_of_pos_right ?_ hstep
    rw [div_lt_iff₀ hdkq, Nat.shiftLeft_eq, Nat.mul_comm d]
    exact_mod_cast hhi
  · exact (Nat.eq_zero_or_pos k).imp_right (le_divideEven_of_binade hd hk)
  · rw [hscale, hscale]
    exact mul_le_mul_of_nonneg_right (divideEven_near hdk j).1 hstep.le
  · rw [hscale, hscale] at htie
    exact (divideEven_near hdk j).2 (mul_right_cancel₀ hstep.ne' htie) hj

/-- Of two values on one side of `q`, the one in between is nearer. -/
theorem abs_sub_lt_of_between {q v w : ℚ} (h : v < w ∧ w ≤ q ∨ q ≤ w ∧ w < v) :
    |w - q| < |v - q| := by
  rcases h with ⟨hvw, hwq⟩ | ⟨hqw, hwv⟩
  · rw [abs_of_nonpos (by linarith), abs_of_nonpos (by linarith)]
    linarith
  · rw [abs_of_nonneg (by linarith), abs_of_nonneg (by linarith)]
    linarith

theorem NearestSteps.closest {q : ℚ} {k m : Nat} (h : NearestSteps q k m) :
    Closest q (k * binadeSize + m) := by
  have hvalue {j : Nat} (hlo : k = 0 ∨ 2 ^ 52 ≤ j) (hhi : j ≤ 2 ^ 53) :
      exactValue (k * binadeSize + j) = j * binadeStep k := exactValue_of_binade hlo hhi
  have hm := hvalue h.least h.most
  -- A rank is in the binade, or the least or the greatest rank of the binade is nearer.
  have hcases (r : Nat) : (∃ j, r = k * binadeSize + j ∧ exactValue r = j * binadeStep k) ∨
      |m * binadeStep k - q| < |exactValue r - q| := by
    by_cases hlo : k = 0 ∨ k * binadeSize + 2 ^ 52 ≤ r
    · by_cases hhi : r ≤ k * binadeSize + 2 ^ 53
      · obtain ⟨j, rfl⟩ : ∃ j, r = k * binadeSize + j :=
          ⟨r - k * binadeSize, by rcases hlo with rfl | hlo <;> omega⟩
        exact .inl ⟨j, rfl, hvalue (by omega) (by omega)⟩
      · right
        have hlt := exactValue_strictMono (Nat.lt_of_not_le hhi)
        rw [hvalue (by omega) (Nat.le_refl _)] at hlt
        refine (h.near (2 ^ 53)).trans_lt (abs_sub_lt_of_between (.inr ⟨?_, hlt⟩))
        exact_mod_cast h.highest.le
    · right
      obtain ⟨hk, hr⟩ := not_or.mp hlo
      have hlt := exactValue_strictMono (Nat.lt_of_not_le hr)
      rw [hvalue (by omega) (by omega)] at hlt
      refine (h.near (2 ^ 52)).trans_lt (abs_sub_lt_of_between (.inl ⟨hlt, ?_⟩))
      exact_mod_cast h.lowest.resolve_left hk
  constructor
  · intro r
    rw [hm]
    rcases hcases r with ⟨j, -, hj⟩ | hlt
    · rw [hj]
      exact h.near j
    · exact hlt.le
  · intro r htie hr
    rw [hm] at htie
    rcases hcases r with ⟨j, rfl, hj⟩ | hlt
    · rw [hj] at htie
      have heven := h.even j htie (by omega)
      unfold binadeSize
      omega
    · exact absurd htie hlt.ne'

theorem closest_unboundedRank (n : Nat) {d : Nat} (hd : 0 < d) :
    Closest (n / (d * unitsPerOne)) (unboundedRank n d) := (nearestSteps hd rfl).closest

end Tabular.Number
