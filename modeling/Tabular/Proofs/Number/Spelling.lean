import Mathlib.Data.List.TakeWhile
import Tabular.Proofs.Number.Decimal

set_option autoImplicit false

/-! # How numbers are spelled

A number in digits is a run of digits, which may hold a point (`DigitsText`), and perhaps a power of
ten behind it (`PowerText`). Such a text without sign spells a decimal (`DecimalText`), and
`ofDigits?` reads just the decimals in ASCII digits (`ofDigits?_eq_some_iff`). In front of it stands a
sign or nothing (`SignText`). None of the characters is blank.

The digits are those of a class, since the number at the start of a text is recognised with the digits of
all scripts.
-/

namespace Tabular.Number

open Text

variable {digit : Char → Bool}

/-- A sign or nothing, true for a minus. -/
inductive SignText : List Char → Bool → Prop
  | none : SignText [] false
  | plus : SignText ['+'] false
  | minus : SignText ['-'] true

/-- Digits that may hold a point, at least one of them; which digits they are, and how many of them
stand behind the point. -/
inductive DigitsText (digit : Char → Bool) : List Char → List Char → Nat → Prop
  | whole {whole : List Char} (hw : ∀ c ∈ whole, digit c = true) (hne : whole ≠ []) :
      DigitsText digit whole whole 0
  | point {whole fraction : List Char} (hw : ∀ c ∈ whole, digit c = true)
      (hf : ∀ c ∈ fraction, digit c = true) (hne : whole ≠ [] ∨ fraction ≠ []) :
      DigitsText digit (whole ++ '.' :: fraction) (whole ++ fraction) fraction.length

/-- A power of ten or nothing, with the exponent. -/
inductive PowerText (digit : Char → Bool) : List Char → Int → Prop
  | none : PowerText digit [] 0
  | signed {letter : Char} {sign digits : List Char} {negative : Bool}
      (hl : letter = 'e' ∨ letter = 'E') (hs : SignText sign negative)
      (hd : ∀ c ∈ digits, digit c = true) (hne : digits ≠ []) :
      PowerText digit (letter :: (sign ++ digits))
        (if negative then -(Nat.ofDigitChars 10 digits 0 : Int) else Nat.ofDigitChars 10 digits 0)

/-- The text spells `m · 10^e` without sign. -/
inductive DecimalText (digit : Char → Bool) : List Char → Nat → Int → Prop
  | intro {text power digits : List Char} {places : Nat} {k : Int}
      (ht : DigitsText digit text digits places) (hp : PowerText digit power k) :
      DecimalText digit (text ++ power) (Nat.ofDigitChars 10 digits 0) (k - places)

/-! ## Digits of all scripts -/

theorem isDigit_eq_false {c : Char} (h : isDecimalDigit c = false) : c.isDigit = false := by
  by_contra hd
  rw [isDecimalDigit_of_isDigit (Bool.not_eq_false _ ▸ hd)] at h
  cases h

theorem toNat_of_isDigit {c : Char} (h : c.isDigit = true) : 48 ≤ c.toNat ∧ c.toNat ≤ 57 := by
  simp only [Char.isDigit, Bool.and_eq_true, decide_eq_true_eq] at h
  exact h

/-- The ASCII digits are the first digits of the table. -/
theorem has_of_isDecimalDigit {c : Char} (h : isDecimalDigit c = true) :
    decimalDigits.has c = true := by
  rcases Bool.or_eq_true_iff.mp h with h | h
  · exact (CodeRanges.has_iff _ _).mpr ⟨(0x30, 0x39), List.mem_cons_self, toNat_of_isDigit h⟩
  · exact h

theorem toLower_of_isDecimalDigit {c : Char} (h : isDecimalDigit c = true) : c.toLower = c := by
  have hupper : CodeRanges.has [(0x41, 0x5A)] c = false :=
    CodeRanges.has_eq_false_of_apart (by decide) (has_of_isDecimalDigit h)
  refine dif_neg fun hc => ?_
  rw [Bool.eq_false_iff, ne_eq, CodeRanges.has_iff] at hupper
  exact hupper ⟨_, List.mem_singleton.mpr rfl, hc⟩

def blanks : CodeRanges := [
  (0x9, 0xD), (0x20, 0x20), (0x85, 0x85), (0xA0, 0xA0), (0x1680, 0x1680), (0x2000, 0x200A),
  (0x2028, 0x2029), (0x202F, 0x202F), (0x205F, 0x205F), (0x3000, 0x3000)]

theorem has_of_isBlank {c : Char} (h : isBlank c = true) : blanks.has c = true := by
  simp only [isBlank, Bool.or_eq_true, Bool.and_eq_true, decide_eq_true_eq, beq_iff_eq] at h
  simp only [blanks, CodeRanges.has, List.any_cons, List.any_nil, Bool.or_eq_true,
    Bool.and_eq_true, decide_eq_true_eq]
  omega

theorem not_isBlank_of_isDecimalDigit {c : Char} (h : isDecimalDigit c = true) :
    isBlank c = false := by
  have hnone : blanks.has c = false :=
    CodeRanges.has_eq_false_of_apart (by decide) (has_of_isDecimalDigit h)
  by_contra hb
  rw [has_of_isBlank (Bool.not_eq_false _ ▸ hb)] at hnone
  cases hnone

theorem not_sign_of_isDecimalDigit {c : Char} (h : isDecimalDigit c = true) :
    c ≠ '+' ∧ c ≠ '-' := by
  constructor <;> rintro rfl <;> revert h <;> decide

/-! ## Signs -/

theorem exists_signText (s : List Char) :
    ∃ sign, SignText sign (takeSign s).1 ∧ s = sign ++ (takeSign s).2 := by
  unfold takeSign
  split
  · exact ⟨_, .minus, rfl⟩
  · exact ⟨_, .plus, rfl⟩
  · exact ⟨_, .none, rfl⟩

/-- A sign ends in front of a character that is none. -/
theorem takeSign_append {sign : List Char} {negative : Bool} (hs : SignText sign negative) {c : Char}
    (hc : c ≠ '+' ∧ c ≠ '-') (rest : List Char) :
    takeSign (sign ++ c :: rest) = (negative, c :: rest) := by
  cases hs with
  | none =>
      rw [List.nil_append]
      unfold takeSign
      split <;> simp_all
  | plus => rfl
  | minus => rfl

theorem leadingSign_append {sign : List Char} {negative : Bool} (hs : SignText sign negative)
    {c : Char} (hc : c ≠ '+' ∧ c ≠ '-') (rest : List Char) :
    leadingSign (sign ++ c :: rest) = sign := by
  cases hs with
  | none => simp [leadingSign, hc]
  | plus => rfl
  | minus => rfl

/-! ## Powers -/

theorem exists_cons_of_digits {digits : List Char} (hd : ∀ c ∈ digits, digit c = true)
    (hne : digits ≠ []) : ∃ c rest, digits = c :: rest ∧ digit c = true := by
  obtain ⟨c, rest, rfl⟩ := List.exists_cons_of_ne_nil hne
  exact ⟨c, rest, rfl, hd c List.mem_cons_self⟩

theorem power?_of_powerText {s : List Char} {k : Int} (h : PowerText Char.isDigit s k) :
    power? s = some k := by
  cases h with
  | none => rfl
  | @signed letter sign digits negative hl hs hd hne =>
      obtain ⟨c, rest, rfl, hc⟩ := exists_cons_of_digits hd hne
      have hsign := takeSign_append hs
        (not_sign_of_isDecimalDigit (isDecimalDigit_of_isDigit hc)) rest
      have hall : (c :: rest).all Char.isDigit = true := List.all_eq_true.mpr hd
      simp only [power?, hl, if_true, hsign, hall, hne, ne_eq, not_false_eq_true, and_self,
        digitsValue_eq_ofDigitChars]

theorem powerText_of_power? {s : List Char} {k : Int} (h : power? s = some k) :
    PowerText Char.isDigit s k := by
  cases s with
  | nil =>
      cases h
      exact .none
  | cons letter rest =>
      obtain ⟨sign, hs, hrest⟩ := exists_signText rest
      simp only [power?] at h
      split at h
      · rename_i hl
        split at h
        · rename_i hd
          rw [hrest, ← Option.some.inj h, digitsValue_eq_ofDigitChars]
          exact .signed hl hs (List.all_eq_true.mp hd.2) hd.1
        · cases h
      · cases h

/-! ## Digits -/

/-- What may follow the digits of a number: no digit and no point. -/
def EndsDigits (rest : List Char) : Prop :=
  ∀ c, rest.head? = some c → isDecimalDigit c = false ∧ c ≠ '.'

theorem endsDigits_nil : EndsDigits [] := by simp [EndsDigits]

theorem PowerText.endsDigits {s : List Char} {k : Int} (h : PowerText digit s k) :
    EndsDigits s := by
  cases h with
  | none => exact endsDigits_nil
  | signed hl =>
      rintro c ⟨⟩
      rcases hl with rfl | rfl <;> decide

/-- A run of digits ends in front of a character that is none. -/
theorem takeWhile_digits_append {digits rest : List Char} (hd : ∀ c ∈ digits, digit c = true)
    (hr : ∀ c, rest.head? = some c → digit c = false) :
    (digits ++ rest).takeWhile digit = digits ∧ (digits ++ rest).dropWhile digit = rest := by
  rw [List.takeWhile_append_of_pos hd, List.dropWhile_append_of_pos hd]
  cases rest with
  | nil => simp
  | cons c rest => simp [hr c rfl]

/-- A numeral without point. -/
theorem ofDigits?_whole (negative : Bool) {whole rest : List Char} (hw : whole ≠ [])
    (hd : ∀ c ∈ whole, c.isDigit = true) (hr : EndsDigits rest) :
    ofDigits? negative (whole ++ rest) =
      (power? rest).map fun power => ofDecimal negative (digitsValue whole) power := by
  obtain ⟨ht, hdrop⟩ := takeWhile_digits_append hd fun c hc => isDigit_eq_false (hr c hc).1
  have hf : takeFraction rest = ([], rest) := by
    unfold takeFraction
    split
    · exact absurd rfl (hr '.' rfl).2
    · rfl
  simp [ofDigits?, ht, hdrop, hf, hw]

/-- A numeral with a point. -/
theorem ofDigits?_point (negative : Bool) {whole fraction rest : List Char}
    (hne : whole ≠ [] ∨ fraction ≠ []) (hd : ∀ c ∈ whole, c.isDigit = true)
    (hf : ∀ c ∈ fraction, c.isDigit = true) (hr : EndsDigits rest) :
    ofDigits? negative (whole ++ '.' :: (fraction ++ rest)) =
      (power? rest).map fun power =>
        ofDecimal negative (digitsValue (whole ++ fraction)) (power - fraction.length) := by
  have hp : ∀ c, ('.' :: (fraction ++ rest)).head? = some c → c.isDigit = false := by
    rintro c ⟨⟩
    rfl
  obtain ⟨ht, hdrop⟩ := takeWhile_digits_append hd hp
  obtain ⟨ht', hdrop'⟩ := takeWhile_digits_append hf fun c hc => isDigit_eq_false (hr c hc).1
  have hdigits : ¬ (whole = [] ∧ fraction = []) := fun h => hne.elim (· h.1) (· h.2)
  simp only [ofDigits?, takeFraction, ht, hdrop, ht', hdrop', if_neg hdigits]

theorem ofDigits?_of_decimalText (negative : Bool) {s : List Char} {m : Nat} {e : Int}
    (h : DecimalText Char.isDigit s m e) : ofDigits? negative s = some (ofDecimal negative m e) := by
  obtain ⟨ht, hp⟩ := h
  have hpower := power?_of_powerText hp
  cases ht with
  | whole hw hne =>
      rw [ofDigits?_whole negative hne hw hp.endsDigits, hpower, digitsValue_eq_ofDigitChars]
      simp
  | point hw hf hne =>
      rw [List.append_assoc, List.cons_append, ofDigits?_point negative hne hw hf hp.endsDigits,
        hpower, digitsValue_eq_ofDigitChars]
      rfl

theorem decimalText_of_ofDigits? {negative : Bool} {s : List Char} {x : Number}
    (h : ofDigits? negative s = some x) :
    ∃ m e, DecimalText Char.isDigit s m e ∧ x = ofDecimal negative m e := by
  have hrun (t : List Char) : ∀ c ∈ t.takeWhile Char.isDigit, c.isDigit = true :=
    fun _ => List.mem_takeWhile_imp
  have hsplit : s = s.takeWhile Char.isDigit ++ s.dropWhile Char.isDigit :=
    List.takeWhile_append_dropWhile.symm
  simp only [ofDigits?] at h
  have hw := hrun s
  generalize s.takeWhile Char.isDigit = whole at h hsplit hw
  generalize s.dropWhile Char.isDigit = tail at h hsplit
  -- Either a point stands behind the whole digits, or what follows them is the power.
  unfold takeFraction at h
  rw [hsplit]
  split at h
  · rename_i rest
    split at h
    · cases h
    · rename_i hne
      obtain ⟨k, hk, rfl⟩ := Option.map_eq_some_iff.mp h
      have hf := hrun rest
      have htext : whole ++ '.' :: rest =
          whole ++ '.' :: rest.takeWhile Char.isDigit ++ rest.dropWhile Char.isDigit := by
        rw [List.append_assoc, List.cons_append, List.takeWhile_append_dropWhile]
      rw [htext, digitsValue_eq_ofDigitChars]
      exact ⟨_, _, .intro (.point hw hf (not_and_or.mp hne)) (powerText_of_power? hk), rfl⟩
  · split at h
    · cases h
    · rename_i hne
      obtain ⟨k, hk, rfl⟩ := Option.map_eq_some_iff.mp h
      have hw0 : whole ≠ [] := fun h0 => hne ⟨h0, rfl⟩
      rw [List.append_nil, digitsValue_eq_ofDigitChars]
      exact ⟨_, _, .intro (.whole hw hw0) (powerText_of_power? hk), rfl⟩

/-- Read are just the decimals in ASCII digits. -/
theorem ofDigits?_eq_some_iff {negative : Bool} {s : List Char} {x : Number} :
    ofDigits? negative s = some x ↔
      ∃ m e, DecimalText Char.isDigit s m e ∧ x = ofDecimal negative m e := by
  refine ⟨decimalText_of_ofDigits?, ?_⟩
  rintro ⟨m, e, h, rfl⟩
  exact ofDigits?_of_decimalText negative h

/-! ## Characters -/

/-- The characters of a decimal that are no digits. -/
def marks : List Char := ['.', '+', '-', 'e', 'E']

theorem not_isDecimalDigit_of_mem_marks {c : Char} (h : c ∈ marks) : isDecimalDigit c = false := by
  have hall : marks.all (fun d => !isDecimalDigit d) = true := by decide
  simpa using List.all_eq_true.mp hall c h

theorem not_isBlank_of_mem_marks {c : Char} (h : c ∈ marks) : isBlank c = false := by
  have hall : marks.all (fun d => !isBlank d) = true := by decide
  simpa using List.all_eq_true.mp hall c h

theorem not_isDecimalDigit_of_mem_infinityName {c : Char} (h : c ∈ infinityName) :
    isDecimalDigit c = false := by
  have hall : infinityName.all (fun d => !isDecimalDigit d) = true := by decide
  simpa using List.all_eq_true.mp hall c h

theorem not_isBlank_of_mem_infinityName {c : Char} (h : c ∈ infinityName) : isBlank c = false := by
  have hall : infinityName.all (fun d => !isBlank d) = true := by decide
  simpa using List.all_eq_true.mp hall c h

theorem DigitsText.exists_cons {s digits : List Char} {places : Nat}
    (h : DigitsText digit s digits places) :
    ∃ c rest, s = c :: rest ∧ (digit c = true ∨ c = '.') := by
  cases h with
  | whole hw hne =>
      obtain ⟨c, rest, hs, hc⟩ := exists_cons_of_digits hw hne
      exact ⟨c, rest, hs, .inl hc⟩
  | @point whole fraction hw hf hne =>
      cases whole with
      | nil => exact ⟨'.', fraction, rfl, .inr rfl⟩
      | cons c rest => exact ⟨c, _, rfl, .inl (hw c List.mem_cons_self)⟩

/-- A decimal starts with a digit or a point. -/
theorem DecimalText.exists_cons {s : List Char} {m : Nat} {e : Int}
    (h : DecimalText digit s m e) : ∃ c rest, s = c :: rest ∧ (digit c = true ∨ c = '.') := by
  obtain ⟨ht, hp⟩ := h
  obtain ⟨c, rest, rfl, hc⟩ := ht.exists_cons
  exact ⟨c, _, rfl, hc⟩

theorem SignText.forall_mem {s : List Char} {negative : Bool} (h : SignText s negative) :
    ∀ c ∈ s, c ∈ marks := by
  cases h <;> simp [marks]

theorem DigitsText.forall_mem {s digits : List Char} {places : Nat}
    (h : DigitsText digit s digits places) :
    ∀ c ∈ s, digit c = true ∨ c ∈ marks := by
  cases h with
  | whole hw => exact fun c hc => .inl (hw c hc)
  | point hw hf =>
      refine List.forall_mem_append.mpr ⟨fun c hc => .inl (hw c hc), ?_⟩
      exact List.forall_mem_cons.mpr ⟨.inr (by decide), fun c hc => .inl (hf c hc)⟩

theorem PowerText.forall_mem {s : List Char} {k : Int} (h : PowerText digit s k) :
    ∀ c ∈ s, digit c = true ∨ c ∈ marks := by
  cases h with
  | none => simp
  | signed hl hs hd =>
      refine List.forall_mem_cons.mpr ⟨.inr (by rcases hl with rfl | rfl <;> decide), ?_⟩
      exact List.forall_mem_append.mpr
        ⟨fun c hc => .inr (hs.forall_mem c hc), fun c hc => .inl (hd c hc)⟩

/-- A decimal consists of digits, points, signs and letters of powers. -/
theorem DecimalText.forall_mem {s : List Char} {m : Nat} {e : Int} (h : DecimalText digit s m e) :
    ∀ c ∈ s, digit c = true ∨ c ∈ marks := by
  obtain ⟨ht, hp⟩ := h
  exact List.forall_mem_append.mpr ⟨ht.forall_mem, hp.forall_mem⟩

theorem DecimalText.not_isBlank {s : List Char} {m : Nat} {e : Int}
    (h : DecimalText isDecimalDigit s m e) : ∀ c ∈ s, isBlank c = false := by
  intro c hc
  rcases h.forall_mem c hc with hd | hm
  · exact not_isBlank_of_isDecimalDigit hd
  · exact not_isBlank_of_mem_marks hm

/-! ## Classes of digits -/

/-- Only the digits of the text decide whether it spells a decimal. -/
theorem DecimalText.imp {digit' : Char → Bool} {s : List Char} {m : Nat} {e : Int}
    (h : DecimalText digit s m e) (hd : ∀ c ∈ s, digit c = true → digit' c = true) :
    DecimalText digit' s m e := by
  obtain ⟨ht, hp⟩ := h
  obtain ⟨htext, hpower⟩ := List.forall_mem_append.mp hd
  refine .intro ?_ ?_
  · cases ht with
    | whole hw hne => exact .whole (fun c hc => htext c hc (hw c hc)) hne
    | point hw hf hne =>
        obtain ⟨hwhole, hfraction⟩ := List.forall_mem_append.mp htext
        exact .point (fun c hc => hwhole c hc (hw c hc))
          (fun c hc => hfraction c (List.mem_cons_of_mem _ hc) (hf c hc)) hne
  · cases hp with
    | none => exact .none
    | signed hl hs hdigits hne =>
        refine .signed hl hs (fun c hc => hpower c ?_ (hdigits c hc)) hne
        exact List.mem_cons_of_mem _ (List.mem_append_right _ hc)

theorem DecimalText.anyScript {s : List Char} {m : Nat} {e : Int}
    (h : DecimalText Char.isDigit s m e) : DecimalText isDecimalDigit s m e :=
  h.imp fun _ _ => isDecimalDigit_of_isDigit

/-! ## Numerals -/

/-- A text that spells a decimal has no name, and is read behind its sign. -/
theorem ofNumeral?_append {sign s : List Char} {negative : Bool} {m : Nat} {e : Int}
    (hs : SignText sign negative) (h : DecimalText isDecimalDigit s m e) :
    ofNumeral? (sign ++ s) = ofDigits? negative s := by
  obtain ⟨c, rest, rfl, hc⟩ := h.exists_cons
  have hl : c.toLower = c := by
    rcases hc with hd | rfl
    · exact toLower_of_isDecimalDigit hd
    · rfl
  have hne (d : Char) (hd : isDecimalDigit d = false ∧ d ≠ '.') : c ≠ d := by
    rintro rfl
    rcases hc with h | h
    · rw [h] at hd
      cases hd.1
    · exact hd.2 h
  have hi : c ≠ 'i' := hne 'i' (by decide)
  have hn : c ≠ 'n' := hne 'n' (by decide)
  have hsign := takeSign_append hs ⟨hne '+' (by decide), hne '-' (by decide)⟩ rest
  simp [ofNumeral?, hsign, hl, hi, hn]

end Tabular.Number
