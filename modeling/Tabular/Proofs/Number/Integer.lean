import Tabular.Proofs.Number.Spelling
import Tabular.Proofs.Text.Trim

set_option autoImplicit false

/-! # Reading the integer at the start of a text

A text starts with an integer (`StartsWithInteger`) if it has a sign or nothing and then ASCII
digits after its blanks; the digits go on as far as they can, and anything may follow. The integer
is read if it fits 64 bits, and not at all otherwise (`integer?_of_startsWithInteger`); nothing else
is read (`integer?_eq_some_iff`).
-/

namespace Tabular

open Number

/-- The text starts with this integer, after any blanks. -/
inductive StartsWithInteger : List Char → Int → Prop
  | intro {blanks sign digits rest : List Char} {negative : Bool}
      (hb : ∀ c ∈ blanks, Text.isBlank c = true) (hs : SignText sign negative)
      (hd : ∀ c ∈ digits, c.isDigit = true) (hne : digits ≠ [])
      (hr : ∀ c, rest.head? = some c → c.isDigit = false) :
      StartsWithInteger (blanks ++ (sign ++ (digits ++ rest)))
        (if negative then -(digitsValue digits : Int) else digitsValue digits)

def FitsWord (m : Int) : Prop := -2 ^ 63 ≤ m ∧ m < 2 ^ 63

instance : DecidablePred FitsWord := fun m =>
  inferInstanceAs (Decidable (-2 ^ 63 ≤ m ∧ m < 2 ^ 63))

theorem fitsWord_natCast_iff {n : Nat} : FitsWord n ↔ n < 2 ^ 63 := by
  unfold FitsWord
  omega

theorem fitsWord_of_natAbs_lt {m : Int} (h : m.natAbs < 2 ^ 63) : FitsWord m := by
  unfold FitsWord
  omega

/-! ## What is read -/

/-- Blanks end in front of a sign or a digit. -/
theorem trimStart_append_signed {blanks sign digits : List Char} {negative : Bool}
    (hb : ∀ c ∈ blanks, Text.isBlank c = true) (hs : SignText sign negative)
    (hd : ∀ c ∈ digits, c.isDigit = true) (hne : digits ≠ []) (rest : List Char) :
    Text.trimStart (blanks ++ (sign ++ (digits ++ rest))) = sign ++ (digits ++ rest) := by
  rw [Text.trimStart, List.dropWhile_append_of_pos hb]
  refine Text.trimStart_eq_self fun c hc => ?_
  have hmem : c ∈ sign ∨ c ∈ digits := by
    cases hs with
    | none =>
        obtain ⟨first, others, rfl, -⟩ := exists_cons_of_digits hd hne
        cases hc
        exact .inr List.mem_cons_self
    | plus | minus =>
        cases hc
        exact .inl List.mem_cons_self
  rcases hmem with hsign | hdigit
  · exact not_isBlank_of_mem_marks (hs.forall_mem c hsign)
  · exact not_isBlank_of_isDecimalDigit (Text.isDecimalDigit_of_isDigit (hd c hdigit))

theorem integer?_of_startsWithInteger {text : List Char} {m : Int} (h : StartsWithInteger text m) :
    integer? text = if FitsWord m then some m else none := by
  obtain ⟨hb, hs, hd, hne, hr⟩ := h
  rename_i blanks sign digits rest negative
  have hsign : takeSign (sign ++ (digits ++ rest)) = (negative, digits ++ rest) := by
    obtain ⟨c, others, rfl, hc⟩ := exists_cons_of_digits hd hne
    exact takeSign_append hs (not_sign_of_isDecimalDigit (Text.isDecimalDigit_of_isDigit hc)) _
  obtain ⟨hdigits, -⟩ := takeWhile_digits_append hd hr
  simp only [integer?, trimStart_append_signed hb hs hd hne, hsign, hdigits, ne_eq, hne,
    not_false_eq_true, true_and]
  rfl

/-- An integer that is read is the one that the text starts with. -/
theorem startsWithInteger_of_integer? {text : List Char} {m : Int} (h : integer? text = some m) :
    StartsWithInteger text m := by
  obtain ⟨sign, hs, hsign⟩ := exists_signText (Text.trimStart text)
  have htext : text = text.takeWhile Text.isBlank ++
      (sign ++ ((takeSign (Text.trimStart text)).2.takeWhile Char.isDigit ++
        (takeSign (Text.trimStart text)).2.dropWhile Char.isDigit)) := by
    rw [List.takeWhile_append_dropWhile, ← hsign]
    exact List.takeWhile_append_dropWhile.symm
  obtain ⟨hfits, hm⟩ := Option.ite_none_right_eq_some.mp h
  rw [htext, ← Option.some.inj hm]
  refine .intro (fun c => List.mem_takeWhile_imp) hs (fun c => List.mem_takeWhile_imp) hfits.1 ?_
  intro c hc
  have hstop := List.head?_dropWhile_not Char.isDigit (takeSign (Text.trimStart text)).2
  simpa [hc] using hstop

/-- Read are just the integers that fit, each from the texts that start with it. -/
theorem integer?_eq_some_iff {text : List Char} {m : Int} :
    integer? text = some m ↔ StartsWithInteger text m ∧ FitsWord m := by
  constructor
  · intro h
    have hstarts := startsWithInteger_of_integer? h
    rw [integer?_of_startsWithInteger hstarts] at h
    split at h
    · rename_i hfits
      exact ⟨hstarts, hfits⟩
    · cases h
  · rintro ⟨hstarts, hfits⟩
    rw [integer?_of_startsWithInteger hstarts, if_pos hfits]

/-! ## Written integers -/

/-- Digits behind a sign or nothing start with their number. -/
theorem startsWithInteger_signed {sign digits : List Char} {negative : Bool}
    (hs : SignText sign negative) (hd : ∀ c ∈ digits, c.isDigit = true) (hne : digits ≠ []) :
    StartsWithInteger (sign ++ digits)
      (if negative then -(digitsValue digits : Int) else digitsValue digits) := by
  have hblanks : ∀ c ∈ ([] : List Char), Text.isBlank c = true := by simp
  have hrest : ∀ c, ([] : List Char).head? = some c → c.isDigit = false := by simp
  have h := StartsWithInteger.intro hblanks hs hd hne hrest
  rwa [List.nil_append, List.append_nil] at h

theorem startsWithInteger_toString (m : Int) : StartsWithInteger (toString m).toList m := by
  have hd (n : Nat) : ∀ c ∈ digitChars n, c.isDigit = true := fun _ => isDigit_of_mem_digitChars
  cases m with
  | ofNat n =>
      have h := startsWithInteger_signed .none (hd n) (digitChars_ne_nil n)
      rwa [digitsValue_digitChars] at h
  | negSucc n =>
      have h := startsWithInteger_signed .minus (hd (n + 1)) (digitChars_ne_nil (n + 1))
      have htext : (toString (Int.negSucc n)).toList = ['-'] ++ digitChars (n + 1) :=
        String.toList_append
      rw [digitsValue_digitChars] at h
      rw [htext]
      exact h

end Tabular
