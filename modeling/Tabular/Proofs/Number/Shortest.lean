import Tabular.Proofs.Number.Decimal

set_option autoImplicit false

/-! # The shortest digits read back

Seventeen digits always determine a magnitude (`reads_of_seventeen`): on that grid the steps are
less than nine tenths of the steps between magnitudes, so one of the two neighbours of the exact
value is less than half a step away. The search for fewer digits stops at the first grid on
which a neighbour reads back, so the decimal that it finds does (`reads_shortest`).
-/

namespace Tabular.Number

/-- The decimal is rounded to the magnitude of a rank. -/
def Decimal.Reads (d : Decimal) (rank : Nat) : Prop := decimalRank d.digits d.exponent = rank

/-! ## Grids -/

theorem overStep_eq (u : Nat) (e : Int) :
    overStep u e = (u * 10 ^ (-e).toNat, unitsPerOne * 10 ^ e.toNat) := by
  by_cases he : 0 ≤ e
  · have hn : (-e).toNat = 0 := by omega
    rw [overStep, if_pos he, hn, Nat.pow_zero, Nat.mul_one]
    rfl
  · have hn : e.toNat = 0 := by omega
    rw [overStep, if_neg he, hn, Nat.pow_zero, Nat.mul_one]
    rfl

/-- The grid point below a magnitude. -/
def gridPoint (rank : Nat) (e : Int) : Nat :=
  units rank * 10 ^ (-e).toNat / (unitsPerOne * 10 ^ e.toNat)

theorem nearerPoint_cases (tie : Tie) (n d : Nat) :
    nearerPoint tie n d = n / d ∨ nearerPoint tie n d = n / d + 1 := by
  unfold nearerPoint
  cases tie <;> simp only [] <;> split_ifs <;> omega

theorem reads_of_onGrid? {tie : Tie} {rank : Nat} {e : Int} {d : Decimal}
    (h : onGrid? tie rank e = some d) : d.Reads rank := by
  simp only [onGrid?, overStep_eq] at h
  split at h
  · rename_i hb ha
    cases h
    -- Both neighbours read back, and the nearer one is one of them.
    rcases nearerPoint_cases tie (units rank * 10 ^ (-e).toNat) (unitsPerOne * 10 ^ e.toNat)
      with hn | hn
    · rw [Decimal.Reads, hn]
      exact beq_iff_eq.mp hb
    · rw [Decimal.Reads, hn]
      exact beq_iff_eq.mp ha
  · rename_i hb _
    cases h
    exact beq_iff_eq.mp hb
  · rename_i _ ha
    cases h
    exact beq_iff_eq.mp ha
  · cases h

theorem isSome_onGrid? {rank : Nat} {e : Int}
    (h : decimalRank (gridPoint rank e) e = rank ∨ decimalRank (gridPoint rank e + 1) e = rank)
    (tie : Tie) : (onGrid? tie rank e).isSome = true := by
  rw [gridPoint] at h
  simp only [onGrid?, overStep_eq]
  split
  · rfl
  · rfl
  · rfl
  · rename_i hb ha
    rcases h with h | h
    · rw [h, beq_self_eq_true] at hb
      cases hb
    · rw [h, beq_self_eq_true] at ha
      cases ha

/-- The search ends on a decimal that reads back, if one of its grids has one. -/
theorem reads_searchDigits {tie : Tie} {rank count j : Nat} {e : Int} (hj : j < count)
    (h : (onGrid? tie rank (e - j)).isSome = true) :
    (searchDigits tie rank count e).Reads rank := by
  induction count generalizing e j with
  | zero => cases hj
  | succ count ih =>
      rw [searchDigits]
      cases hg : onGrid? tie rank e with
      | some d => exact reads_of_onGrid? hg
      | none =>
          -- The grid that has one is not this one.
          have hj0 : j ≠ 0 := by
            rintro rfl
            simp [hg] at h
          have he : e - 1 - ((j - 1 : Nat) : Int) = e - j := by omega
          exact ih (j := j - 1) (by omega) (by rw [he]; exact h)

theorem Decimal.Reads.carry {d : Decimal} {rank : Nat} (h : d.Reads rank) :
    d.carry.Reads rank := by
  unfold Decimal.carry
  split
  · rename_i hd
    have ht := decimalRank_mul_pow 1 1 d.exponent
    rw [Decimal.Reads, hd] at h
    exact ht.symm.trans h
  · exact h

/-! ## Seventeen digits -/

/-- A decimal length says between which powers of ten a quotient lies. -/
theorem decimalLength_div_spec {n d : Nat} (hd : 0 < d) (hn : d ≤ n) :
    d * 10 ^ (decimalLength (n / d) - 1) ≤ n ∧ n < d * 10 ^ decimalLength (n / d) := by
  have hq : n / d ≠ 0 := (Nat.div_pos hn hd).ne'
  constructor
  · rw [Nat.mul_comm]
    exact (Nat.le_div_iff_mul_le hd).mp (pow_decimalLength_le hq)
  · rw [Nat.mul_comm]
    exact (Nat.div_lt_iff_lt_mul hd).mp (lt_pow_decimalLength _)

/-- The leading exponent of a magnitude says between which powers of ten it lies. -/
theorem leadingExponent_spec {u : Nat} (hu : 0 < u) :
    ∃ l p : Nat, p = 324 ∧ 0 < l ∧ leadingExponent u = (l : Int) - 325 ∧
      unitsPerOne * 10 ^ (l - 1) ≤ u * 10 ^ p ∧ u * 10 ^ p < unitsPerOne * 10 ^ l := by
  obtain ⟨p, hp⟩ : ∃ p, p = 324 := ⟨324, rfl⟩
  have hone : unitsPerOne ≤ Nat.pow 10 p := by
    rw [hp]
    decide +kernel
  have hle : unitsPerOne ≤ u * Nat.pow 10 p := hone.trans (Nat.le_mul_of_pos_left _ hu)
  obtain ⟨hlo, hhi⟩ := decimalLength_div_spec unitsPerOne_pos hle
  refine ⟨_, p, hp, decimalLength_pos _, ?_, hlo, hhi⟩
  unfold leadingExponent
  rw [← hp]

/-- The grid of the seventeenth digit, against the exact value. The powers of ten of the grid and
of the leading exponent cancel. -/
theorem grid_bounds {u l p : Nat} {e : Int} (hl : 0 < l) (he : e + (p + 17 : Nat) = l)
    (hlo : unitsPerOne * 10 ^ (l - 1) ≤ u * 10 ^ p) (hhi : u * 10 ^ p < unitsPerOne * 10 ^ l) :
    unitsPerOne * 10 ^ e.toNat * 10 ^ 16 ≤ u * 10 ^ (-e).toNat ∧
      u * 10 ^ (-e).toNat < unitsPerOne * 10 ^ e.toNat * 10 ^ 17 := by
  have hc : 0 < 10 ^ l := Nat.pow_pos (by omega)
  have hpow : 10 ^ (-e).toNat * 10 ^ l = 10 ^ e.toNat * (10 ^ p * 10 ^ 17) := by
    rw [← Nat.pow_add, ← Nat.pow_add, ← Nat.pow_add]
    congr 1
    omega
  have hsucc : 10 ^ l = 10 ^ (l - 1) * 10 := by
    rw [← Nat.pow_succ]
    congr 1
    omega
  have hval : u * 10 ^ (-e).toNat * 10 ^ l = u * 10 ^ p * (10 ^ e.toNat * 10 ^ 17) := by
    rw [Nat.mul_assoc, hpow]
    ring
  -- Both sides are multiplied by the power of ten of the leading exponent.
  constructor
  · refine Nat.le_of_mul_le_mul_right ?_ hc
    calc unitsPerOne * 10 ^ e.toNat * 10 ^ 16 * 10 ^ l
        = unitsPerOne * 10 ^ (l - 1) * (10 ^ e.toNat * 10 ^ 17) := by rw [hsucc]; ring
      _ ≤ u * 10 ^ p * (10 ^ e.toNat * 10 ^ 17) := Nat.mul_le_mul_right _ hlo
      _ = u * 10 ^ (-e).toNat * 10 ^ l := hval.symm
  · refine Nat.lt_of_mul_lt_mul_right (a := 10 ^ l) ?_
    calc u * 10 ^ (-e).toNat * 10 ^ l = u * 10 ^ p * (10 ^ e.toNat * 10 ^ 17) := hval
      _ < unitsPerOne * 10 ^ l * (10 ^ e.toNat * 10 ^ 17) :=
          Nat.mul_lt_mul_of_pos_right hhi (Nat.mul_pos (Nat.pow_pos (by omega)) (by omega))
      _ = unitsPerOne * 10 ^ e.toNat * 10 ^ 17 * 10 ^ l := by ring

/-- On a grid whose steps are at most `10^-16` of a magnitude, one of the two neighbours of the
magnitude is rounded to it. -/
theorem nearestRank_gridPoint {rank : Nat} (hr : rank < infiniteRank) {e : Int}
    (hfine : unitsPerOne * 10 ^ e.toNat * 10 ^ 16 ≤ units rank * 10 ^ (-e).toNat) :
    nearestRank (gridPoint rank e * (unitsPerOne * 10 ^ e.toNat)) (10 ^ (-e).toNat) = rank ∨
      nearestRank ((gridPoint rank e + 1) * (unitsPerOne * 10 ^ e.toNat)) (10 ^ (-e).toNat) =
        rank := by
  have hs : 0 < 10 ^ (-e).toNat := Nat.pow_pos (by omega)
  have hd : 0 < unitsPerOne * 10 ^ e.toNat :=
    Nat.mul_pos unitsPerOne_pos (Nat.pow_pos (by omega))
  have hdiv := Nat.div_add_mod (units rank * 10 ^ (-e).toNat) (unitsPerOne * 10 ^ e.toNat)
  have hmod := Nat.mod_lt (units rank * 10 ^ (-e).toNat) hd
  have hm : mantissa rank < 2 ^ 53 := mantissa_lt rank
  have hu : units rank * 10 ^ (-e).toNat =
      mantissa rank * (2 ^ binade rank * 10 ^ (-e).toNat) := by rw [units_eq]; ring
  have hstep : 0 < 2 ^ binade rank * 10 ^ (-e).toNat := Nat.mul_pos (Nat.two_pow_pos _) hs
  -- The steps of the grid are shorter than the step `w` of the binade, and less than half as
  -- long where the magnitude has the least mantissa.
  have hle : mantissa rank * (2 ^ binade rank * 10 ^ (-e).toNat) ≤
      (2 ^ 53 - 1) * (2 ^ binade rank * 10 ^ (-e).toNat) := Nat.mul_le_mul_right _ (by omega)
  have hshort : unitsPerOne * 10 ^ e.toNat < 2 ^ binade rank * 10 ^ (-e).toNat := by omega
  have hedge : mantissa rank = 2 ^ 52 →
      2 * (unitsPerOne * 10 ^ e.toNat) < 2 ^ binade rank * 10 ^ (-e).toNat := by
    intro h
    rw [h] at hu
    omega
  rw [← gridPoint, Nat.mul_comm] at hdiv
  have hnext : (gridPoint rank e + 1) * (unitsPerOne * 10 ^ e.toNat) =
      gridPoint rank e * (unitsPerOne * 10 ^ e.toNat) + unitsPerOne * 10 ^ e.toNat := by ring
  -- The nearer neighbour is less than half a step of the binade away.
  by_cases hhalf : 2 * (units rank * 10 ^ (-e).toNat % (unitsPerOne * 10 ^ e.toNat)) ≤
      unitsPerOne * 10 ^ e.toNat
  · left
    exact nearestRank_eq_of_close hr hs (by omega) (by omega)
      fun h => by have := hedge h; omega
  · right
    exact nearestRank_eq_of_close hr hs (by omega) (by omega)
      fun h => by have := hedge h; omega

theorem gridPoint_bounds {rank : Nat} {e : Int}
    (hlo : unitsPerOne * 10 ^ e.toNat * 10 ^ 16 ≤ units rank * 10 ^ (-e).toNat)
    (hhi : units rank * 10 ^ (-e).toNat < unitsPerOne * 10 ^ e.toNat * 10 ^ 17) :
    10 ^ 16 ≤ gridPoint rank e ∧ gridPoint rank e < 10 ^ 17 := by
  have hd : 0 < unitsPerOne * 10 ^ e.toNat :=
    Nat.mul_pos unitsPerOne_pos (Nat.pow_pos (by omega))
  rw [Nat.mul_comm _ (10 ^ 16)] at hlo
  rw [Nat.mul_comm _ (10 ^ 17)] at hhi
  exact ⟨(Nat.le_div_iff_mul_le hd).mpr hlo, (Nat.div_lt_iff_lt_mul hd).mpr hhi⟩

/-- No finite magnitude is near enough to `10^309` for its upper neighbour to have one digit
more. -/
theorem decimalLength_gridPoint_succ {rank l : Nat} {e : Int} (hr : rank < infiniteRank)
    (he : e + 341 = l) (hhi : gridPoint rank e < 10 ^ 17)
    (hle : gridPoint rank e * (unitsPerOne * 10 ^ e.toNat) ≤ units rank * 10 ^ (-e).toNat)
    (hl : l ≤ 633) : (decimalLength (gridPoint rank e + 1) : Int) + e < 310 := by
  by_cases hc : gridPoint rank e + 1 < 10 ^ 17
  · have hlen : decimalLength (gridPoint rank e + 1) ≤ 17 :=
      (decimalLength_le_iff (by omega)).mpr hc
    omega
  · have hlen : decimalLength (gridPoint rank e + 1) ≤ 18 :=
      (decimalLength_le_iff (by omega)).mpr (by omega)
    -- Otherwise the magnitude would reach past `2^1024`.
    have hl' : l ≠ 633 := by
      intro h633
      obtain ⟨q, hq⟩ : ∃ q, q = 292 := ⟨292, rfl⟩
      have hup : e.toNat = q := by omega
      have hdown : (-e).toNat = 0 := by omega
      have hbig : wholeLimit ≤ (10 ^ 17 - 1) * 10 ^ q := by
        rw [hq]
        decide +kernel
      rw [hup, hdown, Nat.pow_zero, Nat.mul_one] at hle
      have hle' : wholeLimit * unitsPerOne ≤ units rank := by
        calc wholeLimit * unitsPerOne
            ≤ (10 ^ 17 - 1) * 10 ^ q * unitsPerOne := Nat.mul_le_mul_right _ hbig
          _ = (10 ^ 17 - 1) * (unitsPerOne * 10 ^ q) := by ring
          _ ≤ gridPoint rank e * (unitsPerOne * 10 ^ q) := Nat.mul_le_mul_right _ (by omega)
          _ ≤ units rank := hle
      exact absurd (units_lt hr) (Nat.not_lt.mpr hle')
    omega

/-- The range of the leading exponents of finite magnitudes. -/
theorem leading_le {u l p : Nat} (hp : p = 324) (hu : u < wholeLimit * unitsPerOne)
    (h : unitsPerOne * 10 ^ (l - 1) ≤ u * 10 ^ p) : l ≤ 633 := by
  -- The exponent is kept a variable, so that only the bound itself is computed.
  obtain ⟨q, hq⟩ : ∃ q, q = 633 := ⟨633, rfl⟩
  have htop : wholeLimit * 10 ^ p ≤ 10 ^ q := by
    rw [hp, hq]
    decide +kernel
  by_contra hl
  have hpow : 10 ^ q ≤ 10 ^ (l - 1) := Nat.pow_le_pow_right (by omega) (by omega)
  have hlt : unitsPerOne * 10 ^ (l - 1) < unitsPerOne * 10 ^ q := by
    calc unitsPerOne * 10 ^ (l - 1) ≤ u * 10 ^ p := h
      _ < wholeLimit * unitsPerOne * 10 ^ p :=
          Nat.mul_lt_mul_of_pos_right hu (Nat.pow_pos (by omega))
      _ = unitsPerOne * (wholeLimit * 10 ^ p) := by ring
      _ ≤ unitsPerOne * 10 ^ q := Nat.mul_le_mul_left _ htop
  exact absurd hpow (Nat.not_le.mpr (Nat.lt_of_mul_lt_mul_left hlt))

/-- One of the two decimals with seventeen digits around a magnitude reads back as it. -/
theorem reads_of_seventeen {rank : Nat} (h0 : 0 < rank) (hr : rank < infiniteRank) {e : Int}
    (he : e = leadingExponent (units rank) - 16) :
    decimalRank (gridPoint rank e) e = rank ∨ decimalRank (gridPoint rank e + 1) e = rank := by
  obtain ⟨l, p, hp, hl, hlead, hlo, hhi⟩ := leadingExponent_spec (units_pos h0)
  have hl633 : l ≤ 633 := leading_le hp (units_lt hr) hlo
  have hexp : e + (p + 17 : Nat) = l := by omega
  obtain ⟨hfine, hwide⟩ := grid_bounds hl hexp hlo hhi
  obtain ⟨hc16, hc17⟩ := gridPoint_bounds hfine hwide
  have hlen : decimalLength (gridPoint rank e) = 17 := decimalLength_eq hc16 hc17
  have hle : gridPoint rank e * (unitsPerOne * 10 ^ e.toNat) ≤ units rank * 10 ^ (-e).toNat :=
    Nat.div_mul_le_self _ _
  have hnext : (decimalLength (gridPoint rank e + 1) : Int) + e < 310 :=
    decimalLength_gridPoint_succ hr (by omega) hc17 hle hl633
  have hpos : 0 < decimalLength (gridPoint rank e + 1) := decimalLength_pos _
  -- The upper neighbour may have eighteen digits, and is in range all the same.
  have hlong : 16 < decimalLength (gridPoint rank e + 1) :=
    (lt_decimalLength_iff (by omega)).mpr (by omega)
  rcases nearestRank_gridPoint hr hfine with h | h
  · left
    rw [decimalRank_eq (by omega) (by omega) (by omega)]
    exact h
  · right
    rw [decimalRank_eq (by omega) (by omega) hnext]
    exact h

/-- The shortest decimal of a finite magnitude is rounded to it. -/
theorem reads_shortest (tie : Tie) {rank : Nat} (hr : rank < infiniteRank) :
    (shortest tie rank).Reads rank := by
  rcases Nat.eq_zero_or_pos rank with rfl | h0
  · exact decimalRank_zero 0
  · rw [shortest, if_neg (by omega)]
    have h := isSome_onGrid? (reads_of_seventeen h0 hr rfl) tie
    exact (reads_searchDigits (j := 16) (by omega) h).carry

end Tabular.Number
