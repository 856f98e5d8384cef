import Tabular.Proofs.Number.Monotone
import Tabular.Proofs.Number.Shortest

set_option autoImplicit false

/-! # How long the shortest digits are

The shortest decimal of a magnitude has at most seventeen digits (`digits_shortest_le`) and a
leading exponent within the range of the powers of ten (`leading_of_reads`). Next to the greatest
magnitude it does not have more digits than that one (`digits_shortest_le_topDigits`).
-/

namespace Tabular.Number

/-! ## The grids of the search -/

/-- A finer grid has more points below a magnitude. -/
theorem gridPoint_le_sub (rank : Nat) (e : Int) (k : Nat) :
    gridPoint rank e ≤ gridPoint rank (e - k) := by
  have hup : 10 ^ (e - k).toNat ≤ 10 ^ e.toNat :=
    Nat.pow_le_pow_right (by omega) (by omega)
  have hdown : 10 ^ (-e).toNat ≤ 10 ^ (-(e - k)).toNat :=
    Nat.pow_le_pow_right (by omega) (by omega)
  exact Nat.div_le_div (Nat.mul_le_mul_left _ hdown) (Nat.mul_le_mul_left _ hup)
    (Nat.mul_pos unitsPerOne_pos (Nat.pow_pos (by omega))).ne'

theorem digits_of_onGrid? {tie : Tie} {rank : Nat} {e : Int} {d : Decimal}
    (h : onGrid? tie rank e = some d) : d.digits ≤ gridPoint rank e + 1 := by
  rw [gridPoint]
  simp only [onGrid?, overStep_eq] at h
  split at h
  · cases h
    have hn := nearerPoint_cases tie (units rank * 10 ^ (-e).toNat) (unitsPerOne * 10 ^ e.toNat)
    simp only
    omega
  · cases h
    exact Nat.le_succ _
  · cases h
    exact Nat.le_refl _
  · cases h

/-- The search ends at a point of one of the grids up to the first that is known to have one. -/
theorem digits_searchDigits_le {tie : Tie} {rank count j : Nat} {e : Int} (hj : j < count)
    (h : (onGrid? tie rank (e - j)).isSome = true) :
    (searchDigits tie rank count e).digits ≤ gridPoint rank (e - j) + 1 := by
  induction count generalizing e j with
  | zero => cases hj
  | succ count ih =>
      rw [searchDigits]
      cases hg : onGrid? tie rank e with
      | some d => exact (digits_of_onGrid? hg).trans (Nat.succ_le_succ (gridPoint_le_sub rank e j))
      | none =>
          -- The grid that has a point is a later one.
          have hj0 : j ≠ 0 := by
            rintro rfl
            simp [hg] at h
          have he : e - 1 - ((j - 1 : Nat) : Int) = e - j := by omega
          have hs := ih (e := e - 1) (j := j - 1) (by omega) (by rw [he]; exact h)
          rw [he] at hs
          exact hs

theorem digits_carry_le {d : Decimal} {n : Nat} (h : d.digits ≤ n) : d.carry.digits ≤ n := by
  unfold Decimal.carry
  split
  · simp only
    omega
  · exact h

/-- The digits of the shortest decimal are at most seventeen, or they are a one and seventeen
zeros. -/
theorem digits_shortest_le (tie : Tie) {rank : Nat} (hr : rank < infiniteRank) :
    (shortest tie rank).digits ≤ 10 ^ 17 := by
  rcases Nat.eq_zero_or_pos rank with rfl | h0
  · exact Nat.zero_le _
  · have hsome := isSome_onGrid? (reads_of_seventeen h0 hr rfl) tie
    obtain ⟨l, p, hp, hl, hlead, hlo, hhi⟩ := leadingExponent_spec (units_pos h0)
    obtain ⟨hfine, hwide⟩ := grid_bounds (e := leadingExponent (units rank) - 16) hl (by omega)
      hlo hhi
    have hpoint := (gridPoint_bounds hfine hwide).2
    have hlast : 16 < 17 := by omega
    have hsearch := digits_searchDigits_le hlast hsome
    rw [Nat.cast_ofNat] at hsearch
    rw [shortest, if_neg (by omega)]
    exact digits_carry_le (by omega)

/-! ## Leading exponents -/

/-- A decimal that reads back as a finite magnitude other than zero is in the range of the powers
of ten. -/
theorem leading_of_reads {d : Decimal} {rank : Nat} (h : d.Reads rank) (h0 : 0 < rank)
    (hr : rank < infiniteRank) : d.digits ≠ 0 ∧ -325 ≤ d.leading ∧ d.leading < 309 := by
  unfold Decimal.Reads decimalRank at h
  simp only at h
  unfold Decimal.leading
  split_ifs at h <;> omega

/-! ## The greatest magnitudes -/

/-- The whole part of the greatest magnitude over a power of ten. -/
def topDigits (k : Nat) : Nat := (2 ^ 1024 - 2 ^ 971) / 10 ^ k

/-- One more would be rounded to the greatest magnitude or be infinite. -/
theorem le_decimalRank_topDigits_succ :
    ∀ i < 17, infiniteRank - 1 ≤ decimalRank (topDigits (292 + i) + 1) (292 + i : Nat) := by
  decide +kernel

/-- The greatest magnitude has its digits on the first of these grids. -/
theorem shortest_top : shortest .toEven (infiniteRank - 1) = ⟨17976931348623157, 292⟩ ∧
    17976931348623157 ≤ topDigits 292 := by
  decide +kernel

theorem digits_shortest_le_topDigits {rank k : Nat} (hr : rank < infiniteRank) (hlo : 292 ≤ k)
    (hhi : k ≤ 308) (hk : (shortest .toEven rank).exponent = k) :
    (shortest .toEven rank).digits ≤ topDigits k := by
  by_cases htop : rank = infiniteRank - 1
  · rw [htop, shortest_top.1] at hk ⊢
    have hk' : k = 292 := by
      simp only at hk
      omega
    rw [hk']
    exact shortest_top.2
  · have hread := reads_shortest .toEven hr
    rw [Decimal.Reads, hk] at hread
    obtain ⟨i, rfl⟩ : ∃ i, k = 292 + i := ⟨k - 292, by omega⟩
    by_contra hlt
    have hmono := decimalRank_mono (292 + i : Nat) (Nat.succ_le_of_lt (Nat.lt_of_not_le hlt))
    have hbig := le_decimalRank_topDigits_succ i (by omega)
    have hone : topDigits (292 + i) + 1 = (topDigits (292 + i)).succ := rfl
    rw [hone] at hbig
    omega

end Tabular.Number
