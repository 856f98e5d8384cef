import Tabular.Proofs.Number.Shortest
import Tabular.Proofs.Number.Spelling
import Tabular.Proofs.Text.Trim

set_option autoImplicit false

/-! # Written numbers are read back

The text of a number is a numeral. The layouts write numerals in digits, with the shortest digits or
with all digits of a whole number, and both read back as the magnitude (`ofDigits?_magnitude`). So a
finite number is read back from its text, where zero has lost its sign (`ofNumeral?_trim_toText`).
-/

namespace Tabular.Number

/-! ## Powers -/

theorem power?_nil : power? [] = some 0 := rfl

/-- A power of ten as it is written in front of its sign and digits. -/
theorem power?_signed (i : Int) :
    power? ('e' :: (if i < 0 then '-' else '+') :: digitChars i.natAbs) = some i := by
  have hd : (digitChars i.natAbs).all Char.isDigit = true := by
    rw [List.all_eq_true]
    exact fun c hc => isDigit_of_mem_digitChars hc
  by_cases hi : i < 0
  · simp only [power?, true_or, if_true, if_pos hi, takeSign, hd, digitsValue_digitChars,
      digitChars_ne_nil, ne_eq, not_false_eq_true, and_self, Option.some.injEq]
    omega
  · simp only [power?, true_or, if_true, if_neg hi, takeSign, hd, digitsValue_digitChars,
      digitChars_ne_nil, ne_eq, not_false_eq_true, and_self, Option.some.injEq,
      Bool.false_eq_true, if_false]
    omega

/-! ## Layouts -/

theorem ofDecimal_mul_pow (negative : Bool) (m k : Nat) (e : Int) :
    ofDecimal negative (m * 10 ^ k) e = ofDecimal negative m (e + k) := by
  rw [ofDecimal, ofDecimal, decimalRank_mul_pow]

theorem isDigit_of_mem_zeros {k : Nat} {c : Char} (h : c ∈ List.replicate k '0') :
    c.isDigit = true := by
  rw [List.eq_of_mem_replicate h]
  rfl

/-- Zeros behind the digits, and perhaps one more behind a point. -/
theorem ofDigits?_zeros (negative pointZero : Bool) (m k : Nat) :
    ofDigits? negative (digitChars m ++ List.replicate k '0' ++
      if pointZero then ['.', '0'] else []) = some (ofDecimal negative m k) := by
  have hd : ∀ c ∈ digitChars m ++ List.replicate k '0', c.isDigit = true :=
    List.forall_mem_append.mpr ⟨fun _ => isDigit_of_mem_digitChars, fun _ => isDigit_of_mem_zeros⟩
  have hw : digitChars m ++ List.replicate k '0' ≠ [] := by simp [digitChars_ne_nil]
  -- A zero behind the point is one more digit, and takes one from the exponent.
  cases pointZero with
  | false =>
      have h := ofDigits?_whole negative hw hd endsDigits_nil
      rw [power?_nil, digitsValue_append_replicate, digitsValue_digitChars, Option.map_some,
        ofDecimal_mul_pow, Int.zero_add] at h
      exact h
  | true =>
      have hf : ∀ c ∈ ['0'], c.isDigit = true := by simp
      have hv : digitsValue (digitChars m ++ List.replicate k '0' ++ ['0']) =
          m * 10 ^ (k + 1) := by
        rw [List.append_assoc, ← List.replicate_succ', digitsValue_append_replicate,
          digitsValue_digitChars]
      have h := ofDigits?_point negative (.inl hw) hd hf endsDigits_nil
      rw [power?_nil, hv, Option.map_some, ofDecimal_mul_pow] at h
      have he : (0 : Int) - (['0'].length : Nat) + (k + 1 : Nat) = k := by
        simp only [List.length_singleton]
        omega
      rw [he] at h
      exact h

/-- A point between the digits. -/
theorem ofDigits?_pointInside (negative : Bool) (m : Nat) {places : Nat}
    (hp : places < (digitChars m).length) :
    ofDigits? negative ((digitChars m).take ((digitChars m).length - places) ++
      '.' :: (digitChars m).drop ((digitChars m).length - places)) =
        some (ofDecimal negative m (-places)) := by
  have hd : ∀ c ∈ digitChars m, c.isDigit = true := fun c hc => isDigit_of_mem_digitChars hc
  have hw : (digitChars m).take ((digitChars m).length - places) ≠ [] := by
    simp only [ne_eq, List.take_eq_nil_iff, digitChars_ne_nil, or_false]
    omega
  have ht : ∀ c ∈ (digitChars m).take ((digitChars m).length - places), c.isDigit = true :=
    fun c hc => hd c (List.mem_of_mem_take hc)
  have hr : ∀ c ∈ (digitChars m).drop ((digitChars m).length - places), c.isDigit = true :=
    fun c hc => hd c (List.mem_of_mem_drop hc)
  have h := ofDigits?_point negative (.inl hw) ht hr endsDigits_nil
  have hl : ((digitChars m).drop ((digitChars m).length - places)).length = places := by
    rw [List.length_drop]
    omega
  rw [List.append_nil, power?_nil, List.take_append_drop, digitsValue_digitChars,
    Option.map_some, hl, Int.zero_sub] at h
  exact h

/-- A point and zeros in front of the digits. -/
theorem ofDigits?_pointBefore (negative : Bool) (m k : Nat) :
    ofDigits? negative ('0' :: '.' :: (List.replicate k '0' ++ digitChars m)) =
      some (ofDecimal negative m (-(k + (digitChars m).length : Nat))) := by
  have hz : ∀ c ∈ ['0'], c.isDigit = true := by simp
  have hf : ∀ c ∈ List.replicate k '0' ++ digitChars m, c.isDigit = true :=
    List.forall_mem_append.mpr ⟨fun _ => isDigit_of_mem_zeros, fun _ => isDigit_of_mem_digitChars⟩
  have h := ofDigits?_point negative (.inl (List.cons_ne_nil '0' [])) hz hf endsDigits_nil
  have hv : digitsValue (['0'] ++ (List.replicate k '0' ++ digitChars m)) = m := by
    rw [← List.append_assoc, ← List.replicate_one, List.replicate_append_replicate,
      digitsValue_replicate_append, digitsValue_digitChars]
  rw [List.append_nil, power?_nil, hv, Option.map_some, List.length_append,
    List.length_replicate, Int.zero_sub] at h
  exact h

/-- Digits without power of ten are read with their exponent. -/
theorem ofDigits?_positional (negative pointZero : Bool) (m : Nat) (e : Int) :
    ofDigits? negative (positional pointZero (digitChars m) e) = some (ofDecimal negative m e) := by
  by_cases he : 0 ≤ e
  · have hn : (e.toNat : Int) = e := Int.toNat_of_nonneg he
    rw [positional, if_pos he, ofDigits?_zeros, hn]
  · rw [positional, if_neg he]
    by_cases hp : (-e).toNat < (digitChars m).length
    · have hn : -((-e).toNat : Int) = e := by omega
      simp only [if_pos hp]
      rw [ofDigits?_pointInside negative m hp, hn]
    · have hn : -(((-e).toNat - (digitChars m).length + (digitChars m).length : Nat) : Int) =
          e := by
        omega
      simp only [if_neg hp]
      rw [ofDigits?_pointBefore, hn]

/-- Digits with a power of ten are read with the exponent of the last digit. -/
theorem ofDigits?_scientific (negative : Bool) (d : Decimal) :
    ofDigits? negative (scientific (digitChars d.digits) d.leading) =
      some (ofDecimal negative d.digits d.exponent) := by
  have hd : ∀ c ∈ digitChars d.digits, c.isDigit = true :=
    fun c hc => isDigit_of_mem_digitChars hc
  have hv := digitsValue_digitChars d.digits
  have hl := length_digitChars d.digits
  have he : EndsDigits ('e' :: (if d.leading < 0 then '-' else '+') ::
      digitChars d.leading.natAbs) := by
    rintro c ⟨⟩
    decide
  unfold scientific
  rcases hs : digitChars d.digits with _ | ⟨first, _ | ⟨second, rest⟩⟩
  · exact absurd hs (digitChars_ne_nil _)
  · -- A single digit has no point, and its exponent is the leading one.
    rw [hs] at hd hv hl
    have h := ofDigits?_whole negative (List.cons_ne_nil first []) hd he
    have hx : d.leading = d.exponent := by
      rw [Decimal.leading, ← hl, List.length_singleton]
      omega
    rw [power?_signed, hv, Option.map_some] at h
    rw [← hx]
    exact h
  · rw [hs] at hd hv hl
    have hf : ∀ c ∈ [first], c.isDigit = true := fun c hc => hd c (by simp_all)
    have hr : ∀ c ∈ second :: rest, c.isDigit = true :=
      fun c hc => hd c (List.mem_cons_of_mem first hc)
    have h := ofDigits?_point negative (.inl (List.cons_ne_nil first [])) hf hr he
    have hx : d.leading - ((second :: rest).length : Nat) = d.exponent := by
      rw [Decimal.leading, ← hl, List.length_cons]
      omega
    have hj : [first] ++ second :: rest = first :: second :: rest := rfl
    rw [power?_signed, Option.map_some, hj, hv, hx] at h
    exact h

/-- A whole magnitude is read back from all its digits. -/
theorem decimalRank_wholeMagnitude {x : Number} {negative : Bool} {rank n : Nat}
    {hr : rank < infiniteRank} (hx : x = .finite negative rank hr)
    (h : x.wholeMagnitude? = some n) : decimalRank n 0 = rank := by
  subst hx
  obtain ⟨hm, hn⟩ : units rank % unitsPerOne = 0 ∧ wholeDown (units rank) = n := by
    simpa [wholeMagnitude?] using h
  have hu : units rank = n * unitsPerOne := by
    rw [← hn, wholeDown]
    exact (Nat.div_mul_cancel (Nat.dvd_of_mod_eq_zero hm)).symm
  rcases Nat.eq_zero_or_pos n with rfl | hp
  · -- Only zero has no units.
    rw [Nat.zero_mul] at hu
    rw [decimalRank_zero]
    by_contra h0
    have := units_pos (Nat.pos_of_ne_zero fun h => h0 h.symm)
    omega
  · have hlt : n < wholeLimit := by
      have := units_lt hr
      rw [hu] at this
      exact Nat.lt_of_mul_lt_mul_right this
    -- No finite magnitude is out of the range of exponents.
    have hlen : decimalLength n ≤ 309 := by
      have h309 : wholeLimit ≤ 10 ^ 309 := by decide +kernel
      exact (decimalLength_le_iff (by omega)).mpr (hlt.trans_le h309)
    have hq : n * (unitsPerOne * 10 ^ (0 : Int).toNat) = units rank := by
      rw [hu, Int.toNat_zero, Nat.pow_zero, Nat.mul_one]
    rw [decimalRank_eq (by omega) (by omega) (by omega), hq]
    exact nearestRank_units hr

/-- Whatever the layout, the text of a magnitude is read as the magnitude. -/
theorem ofDigits?_magnitude (layout : Layout) (negative : Bool) (rank : Nat)
    (hr : rank < infiniteRank) :
    ofDigits? negative (layout.magnitude (.finite negative rank hr) rank) =
      some (.finite negative rank hr) := by
  have hd : ofDecimal negative (shortest layout.tie rank).digits
      (shortest layout.tie rank).exponent = .finite negative rank hr := by
    rw [ofDecimal, reads_shortest layout.tie hr, ofRank_of_lt hr]
  rw [Layout.magnitude]
  split
  · split
    · rename_i n hw
      rw [ofDigits?_positional, ofDecimal, decimalRank_wholeMagnitude rfl hw, ofRank_of_lt hr]
    · rw [ofDigits?_positional, hd]
  · rw [ofDigits?_scientific, hd]

/-! ## The text of a number -/

/-- A numeral in digits is read as a numeral, with a minus sign in front or without sign. -/
theorem ofNumeral?_of_ofDigits? {negative : Bool} {text : List Char} {x : Number}
    (h : ofDigits? negative text = some x) :
    ofNumeral? (if negative then '-' :: text else text) = some x := by
  obtain ⟨m, e, ht, -⟩ := ofDigits?_eq_some_iff.mp h
  cases negative with
  | true => exact (ofNumeral?_append .minus ht.anyScript).trans h
  | false => exact (ofNumeral?_append .none ht.anyScript).trans h

/-- No character of a numeral in digits is blank. -/
theorem not_isBlank_of_ofDigits? {negative : Bool} {text : List Char} {x : Number}
    (h : ofDigits? negative text = some x) : ∀ c ∈ text, Text.isBlank c = false := by
  obtain ⟨m, e, ht, -⟩ := ofDigits?_eq_some_iff.mp h
  exact ht.anyScript.not_isBlank

/-- A finite number is read back from its text, and zero without its sign. -/
theorem ofNumeral?_trim_toText (negative : Bool) (rank : Nat) (hr : rank < infiniteRank) :
    ofNumeral? (Text.trim (Number.finite negative rank hr).toText.toList) =
      some (if rank = 0 then .zero else .finite negative rank hr) := by
  by_cases h0 : rank = 0
  · have ht : (Number.finite negative rank hr).toText = "0" := by simp [toText, h0]
    rw [ht, if_pos h0]
    rfl
  · have hd := ofDigits?_magnitude general negative rank hr
    have hb : ∀ c ∈ (if negative then
        '-' :: general.magnitude (.finite negative rank hr) rank
        else general.magnitude (.finite negative rank hr) rank), Text.isBlank c = false := by
      intro c hc
      have hm : c ∈ general.magnitude (.finite negative rank hr) rank ∨ c = '-' := by
        cases negative <;> simp_all [or_comm]
      rcases hm with hm | rfl
      · exact not_isBlank_of_ofDigits? hd c hm
      · rfl
    rw [toText, if_neg h0, if_neg h0, String.toList_ofList,
      Text.trim_eq_self (Text.noBlankEnds_of_forall hb)]
    exact ofNumeral?_of_ofDigits? hd

theorem toText_ne_empty (x : Number) : x.toText ≠ "" := by
  cases x with
  | nan =>
      show "NaN" ≠ ""
      decide
  | infinite negative => cases negative <;> decide
  | finite negative rank hr =>
      intro h
      have hread := ofNumeral?_trim_toText negative rank hr
      rw [h] at hread
      cases hread

end Tabular.Number
