import Tabular.Json.Reader
import Tabular.Proofs.Number.Exact
import Tabular.Proofs.Number.Range

set_option autoImplicit false

/-! # Scaling digits by a power of ten

`scaled?` rounds the digits and scales the result once. The digits of a shortest decimal are
always scaled to a finite number (`exists_scaled?_eq`). Digits below `2^53` and a power of ten up to
`10^22` are numbers as they are, so only the scaling rounds and the result is the nearest number
(`scaled?_of_exact`).
-/

namespace Tabular.Json

open Number

/-! ## Digits and powers of ten as numbers -/

theorem nearestRank_pow_lt {k : Nat} (hk : k ≤ 308) :
    nearestRank (10 ^ k * unitsPerOne) 1 < infiniteRank := by
  obtain ⟨q, hq⟩ : ∃ q, q = 308 := ⟨308, rfl⟩
  have htop : nearestRank (10 ^ q * unitsPerOne) 1 < infiniteRank := by
    rw [hq]
    decide +kernel
  have hle : 10 ^ k ≤ 10 ^ q := Nat.pow_le_pow_right (by omega) (hk.trans hq.ge)
  exact (nearestRank_mono 1 (Nat.mul_le_mul_right _ hle)).trans_lt htop

theorem exists_ofNat_eq_finite {n : Nat} (hn : n ≤ 10 ^ 17) :
    ∃ hr : nearestRank (n * unitsPerOne) 1 < infiniteRank,
      Number.ofNat n = .finite false (nearestRank (n * unitsPerOne) 1) hr := by
  have hr : nearestRank (n * unitsPerOne) 1 < infiniteRank :=
    (nearestRank_mono 1 (Nat.mul_le_mul_right _ hn)).trans_lt (nearestRank_pow_lt (by omega))
  exact ⟨hr, ofRank_of_lt hr⟩

theorem decimalRank_pow_mono {k k' : Nat} (h : k ≤ k') (hk : k' ≤ 308) :
    decimalRank 1 k ≤ decimalRank 1 k' := by
  rw [decimalRank_pow_eq (h.trans hk), decimalRank_pow_eq hk]
  exact nearestRank_mono 1 (Nat.mul_le_mul_right _ (Nat.pow_le_pow_right (by omega) h))

theorem exists_powerOfTen_eq {k : Nat} (hk : k ≤ 308) :
    ∃ hs : decimalRank 1 k < infiniteRank, powerOfTen k = .finite false (decimalRank 1 k) hs := by
  have hs : decimalRank 1 k < infiniteRank := by
    rw [decimalRank_pow_eq hk]
    exact nearestRank_pow_lt hk
  exact ⟨hs, ofRank_of_lt hs⟩

/-- No power of ten is less than one. -/
theorem unitsPerOne_le_units_pow {k : Nat} (hk : k ≤ 308) :
    unitsPerOne ≤ units (decimalRank 1 k) := by
  obtain ⟨rank, hr, hu⟩ := exists_units_eq (a := 1) (j := 0) (by omega) (by omega)
  rw [Nat.pow_zero, Nat.mul_one, Nat.one_mul] at hu
  have hone : decimalRank 1 (0 : Nat) = rank := by
    rw [decimalRank_pow_eq (by omega), Nat.pow_zero, Nat.one_mul]
    exact nearestRank_of_units hr hu
  calc unitsPerOne = units (decimalRank 1 (0 : Nat)) := by rw [hone, hu]
    _ ≤ units (decimalRank 1 k) := units_mono (decimalRank_pow_mono (by omega) hk)

/-! ## Dividing -/

/-- A number divided by one that is not less than one stays finite. -/
theorem exists_div_eq {r s : Nat} (hr : r < infiniteRank) (hs : s < infiniteRank)
    (h : unitsPerOne ≤ units s) :
    ∃ hq : nearestRank (units r * unitsPerOne) (units s) < infiniteRank,
      (Number.finite false r hr).div (.finite false s hs) =
        .finite false (nearestRank (units r * unitsPerOne) (units s)) hq := by
  have hpos : 0 < units s := unitsPerOne_pos.trans_le h
  have hs0 : s ≠ 0 := by
    rintro rfl
    simp at hpos
  have hq : nearestRank (units r * unitsPerOne) (units s) < infiniteRank := by
    calc nearestRank (units r * unitsPerOne) (units s)
        ≤ nearestRank (units r * units s) (1 * units s) := by
          rw [Nat.one_mul]
          exact nearestRank_mono _ (Nat.mul_le_mul_left _ h)
      _ = nearestRank (units r) 1 := nearestRank_mul _ _ hpos
      _ = r := nearestRank_units hr
      _ < infiniteRank := hr
  refine ⟨hq, ?_⟩
  rw [Number.div, if_neg hs0]
  exact ofRank_of_lt hq

theorem exists_div_powerOfTen_eq {r k : Nat} (hr : r < infiniteRank) (hk : k ≤ 308) :
    ∃ q, ∃ hq : q < infiniteRank,
      (Number.finite false r hr).div (powerOfTen k) = .finite false q hq := by
  obtain ⟨hs, hpow⟩ := exists_powerOfTen_eq hk
  obtain ⟨hq, hdiv⟩ := exists_div_eq hr hs (unitsPerOne_le_units_pow hk)
  rw [hpow]
  exact ⟨_, hq, hdiv⟩

theorem exists_dividedByPower_eq {r : Nat} (hr : r < infiniteRank) (k : Nat) :
    ∃ q, ∃ hq : q < infiniteRank,
      dividedByPower (.finite false r hr) k = .finite false q hq := by
  unfold dividedByPower
  obtain ⟨q, hq, hdiv⟩ := exists_div_powerOfTen_eq hr (Nat.le_refl 308)
  split
  · exact exists_div_powerOfTen_eq hr ‹_›
  · rw [hdiv]
    split
    · exact exists_div_powerOfTen_eq hq (by omega)
    · exact exists_div_powerOfTen_eq hq (Nat.le_refl 308)

/-! ## Multiplying -/

theorem nearestRank_mul_le {r r' s s' : Nat} (hr : r ≤ r') (hs : s ≤ s') :
    nearestRank (units r * units s) unitsPerOne ≤
      nearestRank (units r' * units s') unitsPerOne :=
  nearestRank_mono _ (Nat.mul_le_mul (units_mono hr) (units_mono hs))

/-- Even the most digits are finite when they are scaled by less than `10^292`. -/
theorem product_lt_of_few : nearestRank (units (nearestRank (10 ^ 17 * unitsPerOne) 1) *
    units (decimalRank 1 (291 : Nat))) unitsPerOne < infiniteRank := by
  decide +kernel

/-- The digits of the greatest magnitude stay finite. -/
theorem product_lt_of_topDigits : ∀ i < 17,
    nearestRank (units (nearestRank (topDigits (292 + i) * unitsPerOne) 1) *
      units (decimalRank 1 (292 + i : Nat))) unitsPerOne < infiniteRank := by
  decide +kernel

theorem product_lt {n k : Nat} (hn : n ≤ 10 ^ 17) (hk : k ≤ 308)
    (htop : 292 ≤ k → n ≤ topDigits k) :
    nearestRank (units (nearestRank (n * unitsPerOne) 1) * units (decimalRank 1 k))
      unitsPerOne < infiniteRank := by
  by_cases hfew : k ≤ 291
  · exact (nearestRank_mul_le (nearestRank_mono 1 (Nat.mul_le_mul_right _ hn))
      (decimalRank_pow_mono hfew (by omega))).trans_lt product_lt_of_few
  · obtain ⟨i, rfl⟩ : ∃ i, k = 292 + i := ⟨k - 292, by omega⟩
    have hle := htop (by omega)
    exact (nearestRank_mul_le (nearestRank_mono 1 (Nat.mul_le_mul_right _ hle))
      (Nat.le_refl _)).trans_lt (product_lt_of_topDigits i (by omega))

theorem mul_powerOfTen_eq {n k : Nat} (hn : n ≤ 10 ^ 17) (hk : k ≤ 308) :
    (Number.ofNat n).mul (powerOfTen k) =
      ofRank false (nearestRank (units (nearestRank (n * unitsPerOne) 1) *
        units (decimalRank 1 k)) unitsPerOne) := by
  obtain ⟨hr, hnum⟩ := exists_ofNat_eq_finite hn
  obtain ⟨hs, hpow⟩ := exists_powerOfTen_eq hk
  rw [hnum, hpow]
  rfl

/-! ## Scaling -/

/-- Digits that are not too many are scaled to a finite number that is not negative. -/
theorem exists_scaled?_eq {n : Nat} {e : Int} (hn : n ≤ 10 ^ 17) (he : e ≤ 308)
    (htop : ∀ k : Nat, e = k → 292 ≤ k → n ≤ topDigits k) :
    ∃ q, ∃ hq : q < infiniteRank, scaled? n e = some (.finite false q hq) := by
  obtain ⟨hr, hnum⟩ := exists_ofNat_eq_finite hn
  unfold scaled?
  simp only
  by_cases hneg : e < 0
  · obtain ⟨q, hq, hdiv⟩ := exists_dividedByPower_eq hr e.natAbs
    rw [if_pos hneg, hnum, hdiv]
    exact ⟨q, hq, rfl⟩
  by_cases hz : n = 0
  · rw [if_neg hneg, if_pos hz, hnum]
    exact ⟨_, hr, rfl⟩
  · have hk : e = (e.toNat : Int) := by omega
    have hlt := product_lt (k := e.toNat) hn (by omega) (htop _ hk)
    rw [if_neg hneg, if_neg hz, if_neg (by omega), mul_powerOfTen_eq hn (by omega),
      ofRank_of_lt hlt]
    exact ⟨_, hlt, rfl⟩

theorem decimalLength_of_lt_two_pow {n : Nat} (hn : n < 2 ^ 53) : decimalLength n ≤ 16 :=
  (decimalLength_le_iff (by omega)).mpr (by omega)

theorem nearestRank_zero {d : Nat} (hd : 0 < d) : nearestRank 0 d = 0 := by
  have h := divideEven_mul 0 hd
  rw [Nat.zero_mul] at h
  simp [nearestRank, h]

/-- Division of digits by a power of ten that are both numbers as they are. -/
theorem nearestRank_div_pow {n k r s : Nat} (hr : units r = n * unitsPerOne)
    (hs : units s = 10 ^ k * unitsPerOne) :
    nearestRank (units r * unitsPerOne) (units s) = nearestRank (n * unitsPerOne) (10 ^ k) := by
  rw [hr, hs]
  exact nearestRank_mul _ _ unitsPerOne_pos

/-- Multiplication of digits by a power of ten that are both numbers as they are. -/
theorem nearestRank_mul_pow {n k r s : Nat} (hr : units r = n * unitsPerOne)
    (hs : units s = 10 ^ k * unitsPerOne) :
    nearestRank (units r * units s) unitsPerOne = nearestRank (n * (unitsPerOne * 10 ^ k)) 1 := by
  have hprod : units r * units s = n * (unitsPerOne * 10 ^ k) * unitsPerOne := by
    rw [hr, hs]
    ring
  have h := nearestRank_mul (n * (unitsPerOne * 10 ^ k)) 1 unitsPerOne_pos
  rw [Nat.one_mul] at h
  rw [hprod, h]

/-- Where the digits and the power of ten are numbers as they are, the result is the number
nearest to the decimal. -/
theorem scaled?_of_exact {n : Nat} {e : Int} (hn : n < 2 ^ 53) (he : e.natAbs ≤ 22) :
    scaled? n e = some (ofDecimal false n e) := by
  obtain ⟨r, hr, hnum, hur⟩ := exists_ofNat_eq hn.le
  have hlen := decimalLength_of_lt_two_pow hn
  have hlen0 := decimalLength_pos n
  unfold scaled?
  simp only
  by_cases hneg : e < 0
  · obtain ⟨s, hs, hpow, hus⟩ := exists_ofDecimal_pow_eq he
    have hle : unitsPerOne ≤ units s := by
      rw [hus]
      exact Nat.le_mul_of_pos_left _ (Nat.pow_pos (by omega))
    obtain ⟨hq, hdiv⟩ := exists_div_eq hr hs hle
    have hrank : nearestRank (units r * unitsPerOne) (units s) = decimalRank n e := by
      rw [nearestRank_div_pow hur hus]
      by_cases hz : n = 0
      · rw [hz, Nat.zero_mul, decimalRank_zero]
        exact nearestRank_zero (Nat.pow_pos (by omega))
      · have hup : e.toNat = 0 := by omega
        have hdown : (-e).toNat = e.natAbs := by omega
        rw [decimalRank_eq hz (by omega) (by omega), hup, hdown, Nat.pow_zero, Nat.mul_one]
    rw [if_pos hneg, dividedByPower, if_pos (by omega), powerOfTen, hnum, hpow, hdiv, ofDecimal,
      ← hrank, ofRank_of_lt hq]
  by_cases hz : n = 0
  · rw [if_neg hneg, if_pos hz, hz, ofDecimal, decimalRank_zero]
    rfl
  · obtain ⟨s, hs, hpow, hus⟩ := exists_ofDecimal_pow_eq (k := e.toNat) (by omega)
    have hrank : nearestRank (units r * units s) unitsPerOne = decimalRank n e := by
      have hdown : (-e).toNat = 0 := by omega
      rw [nearestRank_mul_pow hur hus, decimalRank_eq hz (by omega) (by omega), hdown,
        Nat.pow_zero]
    have hmul : (Number.ofNat n).mul (powerOfTen e.toNat) = ofDecimal false n e := by
      rw [powerOfTen, hnum, hpow, ofDecimal, ← hrank]
      rfl
    -- The product is finite as it is for more digits.
    obtain ⟨q, hq, hscaled⟩ := exists_scaled?_eq (n := n) (e := e) (by omega) (by omega)
      fun k hk hlo => by omega
    unfold scaled? at hscaled
    simp only [if_neg hneg, if_neg hz, hmul] at hscaled ⊢
    rw [if_neg (by omega)] at hscaled ⊢
    split_ifs at hscaled ⊢
    rfl

end Tabular.Json
