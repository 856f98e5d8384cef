import Mathlib.Data.List.Basic
import Tabular.Json.Writer
import Tabular.Proofs.Json.Scaling
import Tabular.Proofs.Number.Numeral

set_option autoImplicit false

/-! # The text of a number, read

A floating-point number is written with a point, with a power of ten or with both (`Spells`). All
its digits fit 64 bits, so the reader gathers them as one whole number and scales it
(`readNumeral_of_spells`). The digits in the text are those of the shortest decimal, except that a
whole number without power of ten has one more zero behind its point (`Decimal.written`).
-/

namespace Tabular.Json

open Number Text

/-! ## Runs of digits -/

/-- What may follow a run of digits. -/
def StopsDigits (rest : Input) : Prop := ∀ c, rest.head? = some (some c) → c.isDigit = false

/-- What may follow a number: no digit, no point and no power of ten. -/
def EndsNumber (rest : Input) : Prop :=
  ∀ c, rest.head? = some (some c) → c.isDigit = false ∧ c ≠ '.' ∧ c ≠ 'e' ∧ c ≠ 'E'

theorem EndsNumber.stopsDigits {rest : Input} (h : EndsNumber rest) : StopsDigits rest :=
  fun c hc => (h c hc).1

theorem stopsDigits_cons {c : Char} (hc : c.isDigit = false) (rest : Input) :
    StopsDigits (some c :: rest) := by
  rintro d ⟨⟩
  exact hc

theorem takeDigits_of_stops {rest : Input} (hr : StopsDigits rest) :
    takeDigits rest = ([], rest) := by
  unfold takeDigits
  split
  · rename_i c rest
    rw [if_neg]
    simp [hr c rfl]
  · rfl

theorem takeDigits_append {digits : List Char} (hd : ∀ c ∈ digits, c.isDigit = true)
    {rest : Input} (hr : StopsDigits rest) :
    takeDigits (digits.map some ++ rest) = (digits.map digitValue, rest) := by
  induction digits with
  | nil => exact takeDigits_of_stops hr
  | cons c digits ih =>
      have hc : c.isDigit = true := hd c List.mem_cons_self
      have ht := ih fun d hm => hd d (List.mem_cons_of_mem c hm)
      simp only [List.map_cons, List.cons_append, takeDigits, hc, if_true, ht]

/-- A whole number with more digits behind it. -/
def appended (n : Nat) (digits : List Char) : Nat :=
  digits.foldl (fun n c => 10 * n + digitValue c) n

theorem appended_digitsValue (whole digits : List Char) :
    appended (digitsValue whole) digits = digitsValue (whole ++ digits) :=
  List.foldl_append.symm

theorem le_appended (n : Nat) (digits : List Char) : n ≤ appended n digits := by
  induction digits generalizing n with
  | nil => exact Nat.le_refl n
  | cons c digits ih =>
      calc n ≤ 10 * n + digitValue c := by omega
        _ ≤ appended (10 * n + digitValue c) digits := ih _

/-- Digits are all gathered when the whole number fits. -/
theorem gather_eq {n : Nat} {digits : List Char} (h : appended n digits ≤ maxWhole) :
    gather n (digits.map digitValue) = (appended n digits, []) := by
  induction digits generalizing n with
  | nil => rfl
  | cons c digits ih =>
      have hle : 10 * n + digitValue c ≤ maxWhole := (le_appended _ digits).trans h
      rw [List.map_cons, gather, if_pos hle]
      exact ih h

/-! ## The parts of a number -/

/-- The whole digits of a number: one digit, or several that do not start with a zero. -/
structure WholeDigits (digits : List Char) : Prop where
  isDigit : ∀ c ∈ digits, c.isDigit = true
  ne_nil : digits ≠ []
  single : digits.head? = some '0' → digits.length = 1

theorem eq_zero_of_digitValue {c : Char} (hc : c.isDigit = true) (h : digitValue c = 0) :
    c = '0' := by
  have hn := toNat_of_isDigit hc
  have hz : ('0' : Char).toNat = 48 := rfl
  unfold digitValue at h
  exact Char.toNat_inj.mp (by omega)

/-- Whole digits are gathered, and those that do not fit are counted, before what follows is read. -/
theorem readNumeral_digits (negative : Bool) {whole : List Char} (hw : WholeDigits whole)
    {rest : Input} (hr : StopsDigits rest) :
    readNumeral negative (whole.map some ++ rest) =
      readFraction negative (gather 0 (whole.map digitValue)).1
        (gather 0 (whole.map digitValue)).2.length rest := by
  have ht := takeDigits_append hw.isDigit hr
  obtain ⟨c, digits, rfl⟩ := List.exists_cons_of_ne_nil hw.ne_nil
  have hc : c.isDigit = true := hw.isDigit c List.mem_cons_self
  rw [readNumeral, ht]
  by_cases hz : digitValue c = 0
  · -- A leading zero is the only digit.
    have h0 : c = '0' := eq_zero_of_digitValue hc hz
    have hnil : digits = [] := by
      have := hw.single (by rw [h0]; rfl)
      simpa using this
    subst h0 hnil
    rfl
  · obtain ⟨d, hd⟩ : ∃ d, digitValue c = d + 1 := ⟨digitValue c - 1, by omega⟩
    rw [List.map_cons, hd]
    rfl

theorem readNumeral_whole (negative : Bool) {whole : List Char} (hw : WholeDigits whole)
    (hv : digitsValue whole ≤ maxWhole) {rest : Input} (hr : StopsDigits rest) :
    readNumeral negative (whole.map some ++ rest) =
      readFraction negative (digitsValue whole) 0 rest := by
  have hg := gather_eq hv
  rw [readNumeral_digits negative hw hr, hg]
  rfl

/-- A power of ten with its sign. -/
def powerText (i : Int) : List Char :=
  'e' :: (if i < 0 then '-' else '+') :: digitChars i.natAbs

theorem readPower_signed (negative : Bool) (n : Nat) (e : Int) {i : Int}
    (hi : i.natAbs < 0x80000000) {rest : Input} (hr : StopsDigits rest) :
    readPower negative n e
        (((if i < 0 then '-' else '+') :: digitChars i.natAbs).map some ++ rest) =
      decimalNumeral negative n (e + i) rest := by
  have ht := takeDigits_append (fun c hc => isDigit_of_mem_digitChars (n := i.natAbs) hc) hr
  have hv : ((digitChars i.natAbs).map digitValue).foldl (fun n d => 10 * n + d) 0 =
      i.natAbs := by
    rw [List.foldl_map]
    exact digitsValue_digitChars _
  obtain ⟨d, digits, hd⟩ : ∃ d digits, (digitChars i.natAbs).map digitValue = d :: digits :=
    List.exists_cons_of_ne_nil (by simp [digitChars_ne_nil])
  rw [hd] at ht hv
  by_cases hneg : i < 0
  · have hsign : -(i.natAbs : Int) = i := by omega
    simp only [if_pos hneg, List.map_cons, List.cons_append, readPower, ht, hv, if_pos hi, if_true,
      hsign]
  · have hsign : (i.natAbs : Int) = i := by omega
    simp only [if_neg hneg, List.map_cons, List.cons_append, readPower, ht, hv, if_pos hi,
      Bool.false_eq_true, if_false, hsign]

/-- A fraction at the end of a number. -/
theorem readFraction_end (negative : Bool) {n : Nat} {digits : List Char}
    (hd : ∀ c ∈ digits, c.isDigit = true) (hne : digits ≠ [])
    (hv : appended n digits ≤ maxWhole) {rest : Input} (hr : EndsNumber rest) :
    readFraction negative n 0 (some '.' :: (digits.map some ++ rest)) =
      decimalNumeral negative (appended n digits) (-(digits.length : Int)) rest := by
  have ht := takeDigits_append hd hr.stopsDigits
  have hg := gather_eq hv
  have hlen : (digits.map digitValue).length = digits.length := List.length_map _
  obtain ⟨v, vs, hvs⟩ : ∃ v vs, digits.map digitValue = v :: vs :=
    List.exists_cons_of_ne_nil (by simpa using hne)
  rw [hvs] at ht hg hlen
  simp only [readFraction, ht, hg, hlen, List.length_nil, Nat.sub_zero, Nat.cast_zero, zero_sub]
  split
  · exact absurd rfl (hr 'e' rfl).2.2.1
  · exact absurd rfl (hr 'E' rfl).2.2.2
  · rfl

/-- A fraction in front of a power of ten. -/
theorem readFraction_power (negative : Bool) {n : Nat} {digits : List Char}
    (hd : ∀ c ∈ digits, c.isDigit = true) (hne : digits ≠ [])
    (hv : appended n digits ≤ maxWhole) (rest : Input) :
    readFraction negative n 0 (some '.' :: (digits.map some ++ some 'e' :: rest)) =
      readPower negative (appended n digits) (-(digits.length : Int)) rest := by
  have ht := takeDigits_append hd (stopsDigits_cons (c := 'e') rfl rest)
  have hg := gather_eq hv
  have hlen : (digits.map digitValue).length = digits.length := List.length_map _
  obtain ⟨v, vs, hvs⟩ : ∃ v vs, digits.map digitValue = v :: vs :=
    List.exists_cons_of_ne_nil (by simpa using hne)
  rw [hvs] at ht hg hlen
  simp only [readFraction, ht, hg, hlen, List.length_nil, Nat.sub_zero, Nat.cast_zero, zero_sub]

/-- The text is a number without sign: the digits `n`, with the point and the power of ten of
`n · 10^e`. -/
inductive Spells : List Char → Nat → Int → Prop
  | fraction {whole digits : List Char} (hw : WholeDigits whole)
      (hd : ∀ c ∈ digits, c.isDigit = true) (hne : digits ≠ []) :
      Spells (whole ++ '.' :: digits) (digitsValue (whole ++ digits)) (-(digits.length : Int))
  | fractionPower {whole digits : List Char} {i : Int} (hw : WholeDigits whole)
      (hd : ∀ c ∈ digits, c.isDigit = true) (hne : digits ≠ []) (hi : i.natAbs < 0x80000000) :
      Spells (whole ++ '.' :: (digits ++ powerText i)) (digitsValue (whole ++ digits))
        (i - digits.length)
  | power {whole : List Char} {i : Int} (hw : WholeDigits whole) (hi : i.natAbs < 0x80000000) :
      Spells (whole ++ powerText i) (digitsValue whole) i

theorem map_powerText (i : Int) :
    (powerText i).map some =
      some 'e' :: ((if i < 0 then '-' else '+') :: digitChars i.natAbs).map some := rfl

/-- A number whose digits fit is read as its digits, scaled by its power of ten. -/
theorem readNumeral_of_spells {text : List Char} {n : Nat} {e : Int} (h : Spells text n e)
    (hn : n ≤ maxWhole) (negative : Bool) {rest : Input} (hr : EndsNumber rest) :
    readNumeral negative (text.map some ++ rest) = decimalNumeral negative n e rest := by
  -- The fraction and the power of ten each end what is read before them.
  cases h with
  | @fraction whole digits hw hd hne =>
      rw [← appended_digitsValue] at hn ⊢
      rw [List.map_append, List.map_cons, List.append_assoc, List.cons_append,
        readNumeral_whole negative hw ((le_appended _ _).trans hn) (stopsDigits_cons rfl _),
        readFraction_end negative hd hne hn hr]
  | @fractionPower whole digits i hw hd hne hi =>
      rw [← appended_digitsValue] at hn ⊢
      rw [List.map_append, List.map_cons, List.append_assoc, List.cons_append, List.map_append,
        List.append_assoc, map_powerText, List.cons_append,
        readNumeral_whole negative hw ((le_appended _ _).trans hn) (stopsDigits_cons rfl _),
        readFraction_power negative hd hne hn, readPower_signed negative _ _ hi hr.stopsDigits]
      congr 1
      omega
  | @power whole i hw hi =>
      rw [List.map_append, List.append_assoc, map_powerText, List.cons_append,
        readNumeral_whole negative hw hn (stopsDigits_cons rfl _), readFraction,
        readPower_signed negative _ _ hi hr.stopsDigits, Nat.cast_zero, Int.zero_add]

/-! ## The layout of numbers -/

theorem head?_digitChars_ne {n : Nat} (hn : n ≠ 0) : (digitChars n).head? ≠ some '0' := by
  rw [digitChars_eq]
  induction n using Nat.strong_induction_on with
  | _ n ih =>
      rw [Nat.toDigits_eq_if (by omega)]
      split
      · have hsingle : ∀ d < 10, d ≠ 0 → [Nat.digitChar d].head? ≠ some '0' := by decide
        exact hsingle n ‹_› hn
      · -- The first digit is that of the number without its last digit.
        rw [List.head?_append_of_ne_nil _ Nat.toDigits_ne_nil]
        exact ih (n / 10) (by omega) (by omega)

theorem wholeDigits_append {m : Nat} (hm : m ≠ 0) {digits : List Char}
    (hd : ∀ c ∈ digits, c.isDigit = true) : WholeDigits (digitChars m ++ digits) where
  isDigit := List.forall_mem_append.mpr ⟨fun _ => isDigit_of_mem_digitChars, hd⟩
  ne_nil := by simp [digitChars_ne_nil]
  single := by
    intro h
    rw [List.head?_append_of_ne_nil _ (digitChars_ne_nil m)] at h
    exact absurd h (head?_digitChars_ne hm)

theorem wholeDigits_take {m k : Nat} (hm : m ≠ 0) (hk : 0 < k) :
    WholeDigits ((digitChars m).take k) where
  isDigit := fun c hc => isDigit_of_mem_digitChars (List.mem_of_mem_take hc)
  ne_nil := by
    simp only [ne_eq, List.take_eq_nil_iff, digitChars_ne_nil, or_false]
    omega
  single := by
    intro h
    rw [List.head?_take, if_neg (by omega)] at h
    exact absurd h (head?_digitChars_ne hm)

theorem wholeDigits_singleton {c : Char} (hc : c.isDigit = true) : WholeDigits [c] where
  isDigit := by simpa using hc
  ne_nil := List.cons_ne_nil c []
  single := fun _ => rfl

theorem spells_zeroFraction {whole : List Char} (hw : WholeDigits whole) :
    Spells (whole ++ ['.', '0']) (digitsValue (whole ++ ['0'])) (-1) :=
  .fraction hw (by simp) (by simp)

/-- A whole number with the zero behind its point. -/
theorem spells_zeros {m : Nat} (hm : m ≠ 0) (k : Nat) :
    Spells (digitChars m ++ List.replicate k '0' ++ ['.', '0']) (m * 10 ^ (k + 1)) (-1) := by
  have hv : digitsValue (digitChars m ++ List.replicate k '0' ++ ['0']) = m * 10 ^ (k + 1) := by
    rw [List.append_assoc, ← List.replicate_succ', digitsValue_append_replicate,
      digitsValue_digitChars]
  have h := spells_zeroFraction (wholeDigits_append hm fun _ => isDigit_of_mem_zeros (k := k))
  rw [hv] at h
  exact h

/-- A point between the digits. -/
theorem spells_pointInside {m places : Nat} (hm : m ≠ 0) (h0 : 0 < places)
    (hp : places < (digitChars m).length) :
    Spells ((digitChars m).take ((digitChars m).length - places) ++
      '.' :: (digitChars m).drop ((digitChars m).length - places)) m (-(places : Int)) := by
  have hl : ((digitChars m).drop ((digitChars m).length - places)).length = places := by
    rw [List.length_drop]
    omega
  have h := Spells.fraction (wholeDigits_take (k := (digitChars m).length - places) hm (by omega))
    (fun c hc => isDigit_of_mem_digitChars (List.mem_of_mem_drop hc))
    (List.ne_nil_of_length_pos (by rw [hl]; exact h0))
  rw [List.take_append_drop, digitsValue_digitChars, hl] at h
  exact h

/-- A point and zeros in front of the digits. -/
theorem spells_pointBefore (m k : Nat) :
    Spells ('0' :: '.' :: (List.replicate k '0' ++ digitChars m)) m
      (-(k + (digitChars m).length : Nat)) := by
  have hd : ∀ c ∈ List.replicate k '0' ++ digitChars m, c.isDigit = true :=
    List.forall_mem_append.mpr ⟨fun _ => isDigit_of_mem_zeros, fun _ => isDigit_of_mem_digitChars⟩
  have hv : digitsValue (['0'] ++ (List.replicate k '0' ++ digitChars m)) = m := by
    rw [← List.append_assoc, ← List.replicate_one, List.replicate_append_replicate,
      digitsValue_replicate_append, digitsValue_digitChars]
  have h := Spells.fraction (wholeDigits_singleton (c := '0') rfl) hd
    (by simp [digitChars_ne_nil])
  rw [hv, List.length_append, List.length_replicate] at h
  exact h

theorem spells_positional_whole {m : Nat} {e : Int} (hm : m ≠ 0) (he : 0 ≤ e) :
    Spells (positional true (digitChars m) e) (m * 10 ^ (e.toNat + 1)) (-1) := by
  rw [positional, if_pos he, if_pos rfl]
  exact spells_zeros hm e.toNat

theorem spells_positional_fraction {m : Nat} {e : Int} (hm : m ≠ 0) (he : e < 0) :
    Spells (positional true (digitChars m) e) m e := by
  rw [positional, if_neg (by omega)]
  by_cases hp : (-e).toNat < (digitChars m).length
  · have h := spells_pointInside hm (by omega) hp
    have hx : -((-e).toNat : Int) = e := by omega
    rw [hx] at h
    simp only [if_pos hp]
    exact h
  · have h := spells_pointBefore m ((-e).toNat - (digitChars m).length)
    have hx : -(((-e).toNat - (digitChars m).length + (digitChars m).length : Nat) : Int) = e := by
      omega
    rw [hx] at h
    simp only [if_neg hp]
    exact h

/-- Digits with a power of ten. -/
theorem spells_scientific {d : Decimal} (hd : d.leading.natAbs < 0x80000000) :
    Spells (scientific (digitChars d.digits) d.leading) d.digits d.exponent := by
  have hdigit : ∀ c ∈ digitChars d.digits, c.isDigit = true :=
    fun c hc => isDigit_of_mem_digitChars hc
  have hv := digitsValue_digitChars d.digits
  have hl := length_digitChars d.digits
  unfold scientific
  rcases hs : digitChars d.digits with _ | ⟨first, _ | ⟨second, rest⟩⟩
  · exact absurd hs (digitChars_ne_nil _)
  · -- A single digit has no point, and its exponent is the leading one.
    rw [hs] at hdigit hv hl
    have hx : d.leading = d.exponent := by
      rw [Decimal.leading, ← hl, List.length_singleton]
      omega
    have h := Spells.power (wholeDigits_singleton (hdigit first List.mem_cons_self)) hd
    rw [hv] at h
    rw [← hx]
    exact h
  · rw [hs] at hdigit hv hl
    have hx : d.leading - ((second :: rest).length : Nat) = d.exponent := by
      rw [Decimal.leading, ← hl, List.length_cons]
      omega
    have h := Spells.fractionPower (wholeDigits_singleton (hdigit first List.mem_cons_self))
      (fun c hc => hdigit c (List.mem_cons_of_mem first hc)) (List.cons_ne_nil second rest) hd
    have hj : [first] ++ second :: rest = first :: second :: rest := rfl
    rw [hj, hv, hx] at h
    exact h

/-! ## The digits in the text -/

/-- The decimal whose digits stand in the text of a magnitude: the shortest one, and a whole number
without power of ten has one more zero, behind its point. -/
def writtenDecimal (rank : Nat) : Decimal :=
  let d := shortest .toEven rank
  if 0 ≤ d.exponent ∧ d.leading ≤ 15 then ⟨d.digits * 10 ^ (d.exponent.toNat + 1), -1⟩ else d

theorem writtenDecimal_zero : writtenDecimal 0 = ⟨0, -1⟩ := by
  have hlen : decimalLength 0 = 1 := by rw [decimalLength, if_pos (by decide)]
  have hzero : shortest .toEven 0 = ⟨0, 0⟩ := rfl
  simp [writtenDecimal, hzero, Decimal.leading, hlen]

theorem reads_writtenDecimal {rank : Nat} (hr : rank < infiniteRank) :
    (writtenDecimal rank).Reads rank := by
  have h := reads_shortest .toEven hr
  unfold writtenDecimal
  simp only
  split
  · rename_i hw
    have he : (-1 : Int) + ((shortest .toEven rank).exponent.toNat + 1 : Nat) =
        (shortest .toEven rank).exponent := by omega
    rw [Decimal.Reads, decimalRank_mul_pow, he]
    exact h
  · exact h

theorem digits_writtenDecimal_le {rank : Nat} (hr : rank < infiniteRank) :
    (writtenDecimal rank).digits ≤ 10 ^ 17 := by
  unfold writtenDecimal
  simp only
  split
  · rename_i hw
    -- A whole number of at most sixteen digits, and a zero.
    have hlen := decimalLength_pos (shortest .toEven rank).digits
    unfold Decimal.leading at hw
    calc (shortest .toEven rank).digits * 10 ^ ((shortest .toEven rank).exponent.toNat + 1)
        ≤ 10 ^ decimalLength (shortest .toEven rank).digits *
            10 ^ ((shortest .toEven rank).exponent.toNat + 1) :=
          Nat.mul_le_mul_right _ (lt_pow_decimalLength _).le
      _ = 10 ^ (decimalLength (shortest .toEven rank).digits +
            ((shortest .toEven rank).exponent.toNat + 1)) := (Nat.pow_add _ _ _).symm
      _ ≤ 10 ^ 17 := Nat.pow_le_pow_right (by omega) (by omega)
  · exact digits_shortest_le .toEven hr

theorem exponent_writtenDecimal_le {rank : Nat} (hr : rank < infiniteRank) :
    (writtenDecimal rank).exponent ≤ 308 := by
  rcases Nat.eq_zero_or_pos rank with rfl | h0
  · rw [writtenDecimal_zero]
    decide
  · have hlead := leading_of_reads (reads_shortest .toEven hr) h0 hr
    have hlen := decimalLength_pos (shortest .toEven rank).digits
    unfold Decimal.leading at hlead
    unfold writtenDecimal
    simp only
    split
    · simp only
      omega
    · omega

theorem digits_writtenDecimal_le_topDigits {rank k : Nat} (hr : rank < infiniteRank)
    (hk : (writtenDecimal rank).exponent = k) (hlo : 292 ≤ k) :
    (writtenDecimal rank).digits ≤ topDigits k := by
  have hle := exponent_writtenDecimal_le hr
  unfold writtenDecimal at hk hle ⊢
  simp only at hk hle ⊢
  split at hk
  · simp only at hk
    omega
  · rename_i hw
    rw [if_neg hw] at hle ⊢
    exact digits_shortest_le_topDigits hr hlo (by omega) hk

def magnitudeText (negative : Bool) (rank : Nat) (hr : rank < infiniteRank) : List Char :=
  if rank = 0 then ['0', '.', '0'] else numberLayout.magnitude (.finite negative rank hr) rank

theorem numberText_finite (negative : Bool) (rank : Nat) (hr : rank < infiniteRank) :
    numberText (.finite negative rank hr) =
      if negative then '-' :: magnitudeText negative rank hr
      else magnitudeText negative rank hr := rfl

theorem magnitude_eq (negative : Bool) (rank : Nat) (hr : rank < infiniteRank) :
    numberLayout.magnitude (.finite negative rank hr) rank =
      if -5 ≤ (shortest .toEven rank).leading ∧ (shortest .toEven rank).leading ≤ 15 then
        positional true (digitChars (shortest .toEven rank).digits)
          (shortest .toEven rank).exponent
      else scientific (digitChars (shortest .toEven rank).digits)
        (shortest .toEven rank).leading := rfl

/-- The text of a magnitude spells its written decimal. -/
theorem spells_magnitudeText (negative : Bool) {rank : Nat} (hr : rank < infiniteRank) :
    Spells (magnitudeText negative rank hr) (writtenDecimal rank).digits
      (writtenDecimal rank).exponent := by
  unfold magnitudeText
  split
  · rename_i h0
    subst h0
    have h := spells_zeroFraction (wholeDigits_singleton (c := '0') rfl)
    rw [writtenDecimal_zero]
    exact h
  · rename_i h0
    obtain ⟨hm, hlo, hhi⟩ :=
      leading_of_reads (reads_shortest .toEven hr) (Nat.pos_of_ne_zero h0) hr
    have hlen := decimalLength_pos (shortest .toEven rank).digits
    have hlead : (shortest .toEven rank).leading =
        (decimalLength (shortest .toEven rank).digits : Int) - 1 +
          (shortest .toEven rank).exponent := rfl
    rw [magnitude_eq]
    by_cases hw : 0 ≤ (shortest .toEven rank).exponent ∧ (shortest .toEven rank).leading ≤ 15
    · rw [writtenDecimal, if_pos hw, if_pos ⟨by omega, hw.2⟩]
      exact spells_positional_whole hm hw.1
    · rw [writtenDecimal, if_neg hw]
      split
      · exact spells_positional_fraction hm (by omega)
      · exact spells_scientific (by omega)

theorem Spells.exists_cons {text : List Char} {n : Nat} {e : Int} (h : Spells text n e) :
    ∃ c rest, text = c :: rest ∧ c.isDigit = true := by
  have hcons {whole : List Char} (hw : WholeDigits whole) (tail : List Char) :
      ∃ c rest, whole ++ tail = c :: rest ∧ c.isDigit = true := by
    obtain ⟨c, digits, rfl⟩ := List.exists_cons_of_ne_nil hw.ne_nil
    exact ⟨c, digits ++ tail, rfl, hw.isDigit c List.mem_cons_self⟩
  cases h with
  | fraction hw => exact hcons hw _
  | fractionPower hw => exact hcons hw _
  | power hw => exact hcons hw _

/-! ## Reading the text of a number -/

/-- The digits of a magnitude and their power of ten are numbers as they are. -/
def KeepsDigits (rank : Nat) : Prop :=
  (writtenDecimal rank).digits < 2 ^ 53 ∧ (writtenDecimal rank).exponent.natAbs ≤ 22

instance : DecidablePred KeepsDigits := fun _ => inferInstanceAs (Decidable (_ ∧ _))

/-- The text of a finite magnitude is read as a finite magnitude, and as the same one if its digits
are kept. -/
theorem exists_readNumeral_eq (negative : Bool) {rank : Nat} (hr : rank < infiniteRank) :
    ∃ q, ∃ hq : q < infiniteRank, (KeepsDigits rank → q = rank) ∧
      ∀ rest, EndsNumber rest →
        readNumeral negative ((magnitudeText negative rank hr).map some ++ rest) =
          .ok (.decimal (.finite negative q hq), rest) := by
  have hdigits := digits_writtenDecimal_le hr
  obtain ⟨q, hq, hs⟩ := exists_scaled?_eq hdigits (exponent_writtenDecimal_le hr)
    fun k hk hlo => digits_writtenDecimal_le_topDigits hr hk hlo
  -- The digits are scaled exactly if they are kept, and else to some finite number.
  refine ⟨q, hq, ?_, ?_⟩
  · rintro ⟨hsmall, hpower⟩
    have hread := reads_writtenDecimal hr
    rw [Decimal.Reads] at hread
    rw [scaled?_of_exact hsmall hpower, ofDecimal, hread, ofRank_of_lt hr] at hs
    cases hs
    rfl
  · intro rest hrest
    have hfit : (writtenDecimal rank).digits ≤ maxWhole := hdigits.trans (by decide)
    rw [readNumeral_of_spells (spells_magnitudeText negative hr) hfit negative hrest,
      decimalNumeral, hs]
    cases negative <;> rfl

end Tabular.Json
