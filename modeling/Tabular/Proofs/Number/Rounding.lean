import Mathlib.Tactic.Ring
import Tabular.Number.Nearest

set_option autoImplicit false

/-! # Rounding to the nearest number

A rank is a binade and a mantissa (`rank_eq`, `units_eq`). An exact value is rounded to a rank
when it is less than half a step away from it (`nearestRank_eq_of_close`); below the least
mantissa of a binade the steps are half as long, and so is the distance. How the value is written
as a quotient does not matter (`nearestRank_mul`).
-/

namespace Tabular.Number

/-! ## Quotients -/

/-- A quotient less than a half away from a whole number is rounded to it. -/
theorem divideEven_eq {n d q : Nat} (hlo : 2 * q * d < 2 * n + d) (hhi : 2 * n < (2 * q + 1) * d) :
    divideEven n d = q := by
  have hd : 0 < d := by
    rcases Nat.eq_zero_or_pos d with rfl | h
    · simp at hhi
    · exact h
  have hr : n % d < d := Nat.mod_lt n hd
  have hn : d * (n / d) + n % d = n := Nat.div_add_mod n d
  -- The whole part of the quotient is `q`, or one less when the rest is past the half.
  have hle : n / d ≤ q := by
    by_contra h
    have hm : d * (q + 1) ≤ d * (n / d) := Nat.mul_le_mul_left d (by omega)
    have he : (2 * q + 1) * d + d = 2 * (d * (q + 1)) := by ring
    omega
  have hge : q ≤ n / d + 1 := by
    by_contra h
    have hm : d * (n / d + 2) ≤ d * q := Nat.mul_le_mul_left d (by omega)
    have he : 2 * (d * (n / d + 2)) = 2 * (d * (n / d)) + 4 * d := by ring
    have hq : 2 * q * d = 2 * (d * q) := by ring
    omega
  have hcases : n / d = q ∨ n / d + 1 = q := by omega
  rcases hcases with h | h
  · have hq : (2 * q + 1) * d = 2 * (d * (n / d)) + d := by rw [h]; ring
    have hlt : 2 * (n % d) < d := by omega
    simp only [divideEven, if_pos hlt, h]
  · have hq : 2 * q * d = 2 * (d * (n / d)) + 2 * d := by rw [← h]; ring
    have hgt : d < 2 * (n % d) := by omega
    have hnl : ¬ 2 * (n % d) < d := by omega
    simp only [divideEven, if_neg hnl, if_pos hgt, h]

theorem divideEven_mul_mul (n d : Nat) {c : Nat} (hc : 0 < c) :
    divideEven (n * c) (d * c) = divideEven n d := by
  have hl : 2 * (n % d * c) < d * c ↔ 2 * (n % d) < d := by
    rw [← Nat.mul_assoc]
    exact Nat.mul_lt_mul_right hc
  have hg : d * c < 2 * (n % d * c) ↔ d < 2 * (n % d) := by
    rw [← Nat.mul_assoc]
    exact Nat.mul_lt_mul_right hc
  simp only [divideEven, Nat.mul_mod_mul_right, Nat.mul_div_mul_right _ _ hc, hl, hg]

theorem nearestRank_mul (n d : Nat) {c : Nat} (hc : 0 < c) :
    nearestRank (n * c) (d * c) = nearestRank n d := by
  have hs (k : Nat) : (d * c) <<< k = d <<< k * c := by
    simp only [Nat.shiftLeft_eq]
    ring
  simp only [nearestRank, Nat.mul_div_mul_right _ _ hc, hs, divideEven_mul_mul _ _ hc]

/-! ## Binades and mantissas -/

/-- The steps of a binade that a rank is above its start; in all but the first binade there are
at least `2^52`. -/
def mantissa (rank : Nat) : Nat := rank - binade rank * binadeSize

theorem rank_eq (rank : Nat) : rank = binade rank * binadeSize + mantissa rank := by
  have h : binade rank * binadeSize ≤ rank :=
    (Nat.mul_le_mul_right _ (Nat.sub_le _ 1)).trans (Nat.div_mul_le_self rank binadeSize)
  rw [mantissa]
  omega

theorem units_eq (rank : Nat) : units rank = mantissa rank * 2 ^ binade rank := by
  rw [units, Nat.shiftLeft_eq, mantissa]

theorem mantissa_lt (rank : Nat) : mantissa rank < 2 ^ 53 := by
  unfold mantissa binade binadeSize
  omega

theorem le_mantissa {rank : Nat} (h : binade rank ≠ 0) : 2 ^ 52 ≤ mantissa rank := by
  unfold binade at h
  unfold mantissa binade
  unfold binadeSize at *
  omega

theorem binade_le {rank : Nat} (h : rank < infiniteRank) : binade rank ≤ 2045 := by
  unfold infiniteRank at h
  unfold binade
  unfold binadeSize at *
  omega

theorem mantissa_pos {rank : Nat} (h : 0 < rank) : 0 < mantissa rank := by
  have hr := rank_eq rank
  by_cases hb : binade rank = 0
  · rw [hb] at hr
    omega
  · exact lt_of_lt_of_le (Nat.two_pow_pos 52) (le_mantissa hb)

theorem units_pos {rank : Nat} (h : 0 < rank) : 0 < units rank := by
  rw [units_eq]
  exact Nat.mul_pos (mantissa_pos h) (Nat.two_pow_pos _)

theorem unitsPerOne_eq : unitsPerOne = 2 ^ 1074 := by decide +kernel

theorem unitsPerOne_pos : 0 < unitsPerOne := by
  obtain ⟨k, hk⟩ : ∃ k, unitsPerOne = 2 ^ k := ⟨1074, unitsPerOne_eq⟩
  rw [hk]
  exact Nat.two_pow_pos k

theorem two_pow_le_mul {a b c : Nat} (h : a ≤ b + c) : 2 ^ a ≤ 2 ^ b * 2 ^ c := by
  rw [← Nat.pow_add]
  exact Nat.pow_le_pow_right Nat.two_pos h

/-- Every finite magnitude is less than this whole number. -/
def wholeLimit : Nat := 1 <<< 1024

theorem wholeLimit_eq : wholeLimit = 2 ^ 1024 := by decide +kernel

theorem units_lt {rank : Nat} (h : rank < infiniteRank) :
    units rank < wholeLimit * unitsPerOne := by
  have hb : 53 + binade rank ≤ 1024 + 1074 := by
    have := binade_le h
    omega
  calc units rank = mantissa rank * 2 ^ binade rank := units_eq rank
    _ < 2 ^ 53 * 2 ^ binade rank :=
        Nat.mul_lt_mul_of_pos_right (mantissa_lt rank) (Nat.two_pow_pos _)
    _ = 2 ^ (53 + binade rank) := (Nat.pow_add 2 53 (binade rank)).symm
    _ ≤ 2 ^ 1024 * 2 ^ 1074 := two_pow_le_mul hb
    _ = wholeLimit * unitsPerOne := by rw [wholeLimit_eq, unitsPerOne_eq]

/-! ## Values close to a rank -/

/-- The binade that a quotient is rounded in. -/
theorem log2_div {n d k : Nat} (hd : 0 < d) (hlo : 2 ^ k * d ≤ n) (hhi : n < 2 ^ (k + 1) * d) :
    Nat.log2 (n / d) = k := by
  have hl : 2 ^ k ≤ n / d := (Nat.le_div_iff_mul_le hd).mpr hlo
  have hh : n / d < 2 ^ (k + 1) := (Nat.div_lt_iff_lt_mul hd).mpr hhi
  have hn : n / d ≠ 0 := by
    have := Nat.two_pow_pos k
    omega
  exact (Nat.log2_eq_iff hn).mpr ⟨hl, hh⟩

/-- Rounding in a binade takes the mantissa that is less than half a step away. -/
theorem nearestRank_of_binade {n d k m : Nat} (hk : Nat.log2 (n / d) - 52 = k)
    (hlo : 2 * m * (2 ^ k * d) < 2 * n + 2 ^ k * d)
    (hhi : 2 * n < (2 * m + 1) * (2 ^ k * d)) :
    nearestRank n d = Min.min infiniteRank (k * binadeSize + m) := by
  have hs : d <<< k = 2 ^ k * d := by rw [Nat.shiftLeft_eq, Nat.mul_comm]
  simp only [nearestRank, hk, hs, divideEven_eq hlo hhi]

/-- A value close to a mantissa is rounded in the binade of the mantissa, unless it lies below
the binade. -/
theorem log2_of_close {n d k m : Nat} (hd : 0 < d) (hm : m < 2 ^ 53)
    (hhi : 2 * n < (2 * m + 1) * (2 ^ k * d)) (hn : 2 ^ 52 * (2 ^ k * d) ≤ n ∨ k = 0) :
    Nat.log2 (n / d) - 52 = k := by
  have htop : n < 2 ^ 53 * (2 ^ k * d) := by
    have h1 : (m + 1) * (2 ^ k * d) ≤ 2 ^ 53 * (2 ^ k * d) := Nat.mul_le_mul_right _ hm
    have h2 : (2 * m + 1) * (2 ^ k * d) + 2 ^ k * d = 2 * ((m + 1) * (2 ^ k * d)) := by ring
    omega
  -- In the first binade there is no lower bound, and none is needed: its number is cut off at zero.
  rcases hn with hn | rfl
  · have hl : 2 ^ (52 + k) * d ≤ n := by
      rw [Nat.pow_add, Nat.mul_assoc]
      exact hn
    have hh : n < 2 ^ (52 + k + 1) * d := by
      rw [show 52 + k + 1 = 53 + k by omega, Nat.pow_add, Nat.mul_assoc]
      exact htop
    have hlog : Nat.log2 (n / d) = 52 + k := log2_div hd hl hh
    omega
  · have hq : n / d < 2 ^ 53 := by
      rw [Nat.div_lt_iff_lt_mul hd]
      simpa using htop
    by_cases hz : n / d = 0
    · simp [hz]
    · have hlog : Nat.log2 (n / d) < 53 := (Nat.log2_lt hz).mpr hq
      omega

/-- A value just below the start of a binade is rounded in the binade before, where the start is
one past the last mantissa. -/
theorem nearestRank_of_below {n d k : Nat} (hd : 0 < d) (hn : n < 2 ^ 52 * (2 ^ (k + 1) * d))
    (hedge : 4 * (2 ^ 52 * (2 ^ (k + 1) * d)) < 4 * n + 2 ^ (k + 1) * d) :
    nearestRank n d = Min.min infiniteRank ((k + 1) * binadeSize + 2 ^ 52) := by
  have hs : 2 ^ (k + 1) * d = 2 * (2 ^ k * d) := by rw [Nat.pow_succ]; ring
  rw [hs] at hn hedge
  have hl : 2 ^ (52 + k) * d ≤ n := by
    rw [Nat.pow_add, Nat.mul_assoc]
    omega
  have hh : n < 2 ^ (52 + k + 1) * d := by
    rw [show 52 + k + 1 = 53 + k by omega, Nat.pow_add, Nat.mul_assoc]
    omega
  have hlog : Nat.log2 (n / d) = 52 + k := log2_div hd hl hh
  have hk : Nat.log2 (n / d) - 52 = k := by omega
  have hlo : 2 * 2 ^ 53 * (2 ^ k * d) < 2 * n + 2 ^ k * d := by omega
  have hhi : 2 * n < (2 * 2 ^ 53 + 1) * (2 ^ k * d) := by omega
  have hr : k * binadeSize + 2 ^ 53 = (k + 1) * binadeSize + 2 ^ 52 := by
    unfold binadeSize
    omega
  rw [nearestRank_of_binade hk hlo hhi, hr]

/-- A value `n / d` less than half a step away from a finite magnitude is rounded to it. At the
least mantissa of a binade the step below is half as long. -/
theorem nearestRank_eq_of_close {rank n d : Nat} (hr : rank < infiniteRank) (hd : 0 < d)
    (hlo : 2 * (units rank * d) < 2 * n + 2 ^ binade rank * d)
    (hhi : 2 * n < 2 * (units rank * d) + 2 ^ binade rank * d)
    (hedge : mantissa rank = 2 ^ 52 → 4 * (units rank * d) < 4 * n + 2 ^ binade rank * d) :
    nearestRank n d = rank := by
  have hrank := rank_eq rank
  have hm : mantissa rank < 2 ^ 53 := mantissa_lt rank
  have hu : units rank * d = mantissa rank * (2 ^ binade rank * d) := by rw [units_eq]; ring
  rw [hu] at hlo hhi hedge
  have hhi' : 2 * n < (2 * mantissa rank + 1) * (2 ^ binade rank * d) := by
    rw [Nat.add_mul, Nat.mul_assoc, Nat.one_mul]
    exact hhi
  by_cases hn : 2 ^ 52 * (2 ^ binade rank * d) ≤ n ∨ binade rank = 0
  · -- The value is in the binade of the rank, or in the first one.
    have hlo' : 2 * mantissa rank * (2 ^ binade rank * d) < 2 * n + 2 ^ binade rank * d := by
      rw [Nat.mul_assoc]
      exact hlo
    rw [nearestRank_of_binade (log2_of_close hd hm hhi' hn) hlo' hhi', ← hrank]
    omega
  · -- The value is below the binade, so the rank is at the start of it.
    have hb : binade rank ≠ 0 := fun h => hn (.inr h)
    have hlt : n < 2 ^ 52 * (2 ^ binade rank * d) := Nat.lt_of_not_le fun h => hn (.inl h)
    have hm52 : mantissa rank = 2 ^ 52 := by
      have hle := le_mantissa hb
      by_contra hne
      have hs : (2 ^ 52 + 1) * (2 ^ binade rank * d) ≤
          mantissa rank * (2 ^ binade rank * d) := Nat.mul_le_mul_right _ (by omega)
      rw [Nat.add_mul, Nat.one_mul] at hs
      omega
    have he := hedge hm52
    rw [hm52] at he hrank
    obtain ⟨k, hk⟩ : ∃ k, binade rank = k + 1 := ⟨binade rank - 1, by omega⟩
    rw [hk] at he hlt hrank
    rw [nearestRank_of_below hd hlt he, ← hrank]
    omega

/-- A magnitude is the nearest one to itself. -/
theorem nearestRank_units {rank : Nat} (h : rank < infiniteRank) :
    nearestRank (units rank) 1 = rank := by
  have hs : 0 < 2 ^ binade rank * 1 := Nat.mul_pos (Nat.two_pow_pos _) Nat.one_pos
  exact nearestRank_eq_of_close h Nat.one_pos (by omega) (by omega) (fun _ => by omega)

end Tabular.Number
