import Mathlib.Data.List.Basic
import Tabular.Proofs.Json.Reads
import Tabular.Proofs.Number.Spelling

set_option autoImplicit false

/-! # Numbers and strings of JSON

The grammar of numbers (`NumberText`) and of the characters of strings (`CharText`), and what the
reader makes of them. It may refuse such a text, since a number can be out of range and half of a
surrogate pair can stand alone; but when it gives a value it has read just this text and leaves what is
behind it (`Leaves`).
-/

namespace Tabular.Json

open Text

/-! ## What a reader leaves -/

section Leaves

variable {α β : Type} {P : α → Prop} {Q : β → Prop} {rest tail : Input}

/-- If there is a result, it has the property, and the rest is left to be read. -/
def Leaves (result : Except Fault (α × Input)) (P : α → Prop) (rest : Input) : Prop :=
  ∀ a rest', result = .ok (a, rest') → P a ∧ rest' = rest

theorem leaves_error (fault : Fault) : Leaves (.error fault) P rest := by
  intro a rest' h
  cases h

theorem leaves_ok {a : α} (h : P a) : Leaves (.ok (a, rest)) P rest := by
  intro b rest' hb
  cases hb
  exact ⟨h, rfl⟩

theorem Leaves.bind {x : Except Fault (α × Input)} (hx : Leaves x P tail)
    {f : α × Input → Except Fault (β × Input)} (hf : ∀ a, P a → Leaves (f (a, tail)) Q rest) :
    Leaves (x >>= f) Q rest := by
  cases x with
  | error fault => exact leaves_error fault
  | ok result =>
      obtain ⟨a, rest'⟩ := result
      obtain ⟨ha, rfl⟩ := hx a rest' rfl
      exact hf a ha

theorem Leaves.imp {x : Except Fault (α × Input)} {R : α → Prop} (hx : Leaves x P rest)
    (h : ∀ a, P a → R a) : Leaves x R rest :=
  fun a rest' ha => ⟨h a (hx a rest' ha).1, (hx a rest' ha).2⟩

end Leaves

/-! ## Numbers -/

/-- A point with digits, or nothing. -/
inductive FractionText : List Char → Prop
  | none : FractionText []
  | digits {digits : List Char} (hd : ∀ c ∈ digits, c.isDigit = true) (hne : digits ≠ []) :
      FractionText ('.' :: digits)

/-- A number: a minus or nothing, whole digits, a fraction and a power of ten. -/
inductive NumberText : List Char → Prop
  | intro {sign whole fraction power : List Char} {k : Int} (hs : sign = [] ∨ sign = ['-'])
      (hw : WholeDigits whole) (hf : FractionText fraction)
      (hp : Number.PowerText Char.isDigit power k) :
      NumberText (sign ++ (whole ++ (fraction ++ power)))

/-- A whole number has neither a fraction nor a power of ten. -/
theorem NumberText.of_whole {sign whole : List Char} (hs : sign = [] ∨ sign = ['-'])
    (hw : WholeDigits whole) : NumberText (sign ++ whole) := by
  have h := NumberText.intro hs hw .none .none
  rw [List.append_nil, List.append_nil] at h
  exact h

abbrev anything {α : Type} (_ : α) : Prop := True

theorem leaves_decimalNumeral (negative : Bool) (n : Nat) (e : Int) (rest : Input) :
    Leaves (decimalNumeral negative n e rest) anything rest := by
  unfold decimalNumeral
  split
  · exact leaves_ok trivial
  · exact leaves_error _

/-- Reads the digits of a power of ten behind its sign. -/
def readPowerDigits (negative : Bool) (n : Nat) (e : Int) (down : Bool) (s : Input) :
    Except Fault (Numeral × Input) :=
  match takeDigits s with
  | ([], []) => .error .ended
  | ([], _) => .error .malformed
  | (digits, rest) =>
    let power : Nat := digits.foldl (fun n d => 10 * n + d) 0
    if power < 0x80000000 then
      decimalNumeral negative n (e + if down then -(power : Int) else power) rest
    else if n ≠ 0 ∧ !down then .error .malformed
    else .ok (.decimal (if negative then .negativeZero else .zero), rest)

theorem readPower_sign (negative : Bool) (n : Nat) (e : Int) {sign : List Char} {down : Bool}
    (hs : Number.SignText sign down) {c : Char} (hc : c.isDigit = true) (s : Input) :
    readPower negative n e (sign.map some ++ some c :: s) =
      readPowerDigits negative n e down (some c :: s) := by
  cases hs with
  | none =>
      have hminus : c ≠ '-' := ne_of_isDigit hc rfl
      have hplus : c ≠ '+' := ne_of_isDigit hc rfl
      rw [List.map_nil, List.nil_append]
      unfold readPower
      split
      rename_i heq
      split at heq
      · simp_all
      · simp_all
      · cases heq
        rfl
  | plus => rfl
  | minus => rfl

/-- A power of ten is read up to its last digit. -/
theorem leaves_readPower (negative : Bool) (n : Nat) (e : Int) {sign digits : List Char} {down : Bool}
    (hs : Number.SignText sign down) (hd : ∀ c ∈ digits, c.isDigit = true) (hne : digits ≠ [])
    {rest : Input} (hr : StopsDigits rest) :
    Leaves (readPower negative n e (sign.map some ++ (digits.map some ++ rest))) anything rest := by
  have ht := takeDigits_append hd hr
  obtain ⟨c, more, rfl⟩ := List.exists_cons_of_ne_nil hne
  rw [List.map_cons, List.cons_append] at ht ⊢
  rw [readPower_sign negative n e hs (hd c List.mem_cons_self), readPowerDigits, ht, List.map_cons]
  simp only
  split
  · exact leaves_decimalNumeral _ _ _ _
  · split
    · exact leaves_error _
    · exact leaves_ok trivial

/-- What may stand behind the fraction of a number. -/
theorem leaves_readFraction_power {negative : Bool} {n dropped : Nat} {power : List Char} {k : Int}
    (hp : Number.PowerText Char.isDigit power k) {rest : Input} (hr : EndsNumber rest) :
    Leaves (readFraction negative n dropped (power.map some ++ rest)) anything rest := by
  cases hp with
  | none =>
      rw [List.map_nil, List.nil_append]
      unfold readFraction
      split
      · exact absurd rfl (hr '.' rfl).2.1
      · exact absurd rfl (hr 'e' rfl).2.2.1
      · exact absurd rfl (hr 'E' rfl).2.2.2
      · split
        · exact leaves_decimalNumeral _ _ _ _
        · split
          · split
            · exact leaves_ok trivial
            · exact leaves_ok trivial
          · exact leaves_ok trivial
  | @signed letter sign digits down hl hs hd hne =>
      have hread := leaves_readPower negative n dropped hs hd hne hr.stopsDigits
      rw [List.map_cons, List.map_append, List.cons_append, List.append_assoc]
      rcases hl with rfl | rfl
      · exact hread
      · exact hread

theorem head?_powerText {power : List Char} {k : Int}
    (hp : Number.PowerText Char.isDigit power k) {rest : Input} (hr : EndsNumber rest) {c : Char}
    (hc : (power.map some ++ rest).head? = some (some c)) : c.isDigit = false ∧ c ≠ '.' := by
  cases hp with
  | none => exact ⟨(hr c hc).1, (hr c hc).2.1⟩
  | signed hl =>
      obtain rfl : _ = c := by simpa using hc
      rcases hl with rfl | rfl <;> decide

theorem leaves_readFraction {negative : Bool} {n dropped : Nat} {fraction power : List Char}
    {k : Int} (hf : FractionText fraction) (hp : Number.PowerText Char.isDigit power k)
    {rest : Input} (hr : EndsNumber rest) :
    Leaves (readFraction negative n dropped (fraction.map some ++ (power.map some ++ rest)))
      anything rest := by
  cases hf with
  | none => exact leaves_readFraction_power hp hr
  | @digits digits hd hne =>
      have hstops : StopsDigits (power.map some ++ rest) := fun c hc => (head?_powerText hp hr hc).1
      have ht := takeDigits_append hd hstops
      obtain ⟨v, vs, hvs⟩ : ∃ v vs, digits.map digitValue = v :: vs :=
        List.exists_cons_of_ne_nil (by simpa using hne)
      rw [hvs] at ht
      rw [List.map_cons, List.cons_append]
      simp only [readFraction, ht]
      -- The digits end where the power of ten starts, if there is one.
      cases hp with
      | none =>
          rw [List.map_nil, List.nil_append]
          split
          · exact absurd rfl (hr 'e' rfl).2.2.1
          · exact absurd rfl (hr 'E' rfl).2.2.2
          · exact leaves_decimalNumeral _ _ _ _
      | signed hl hs hdigits hpower =>
          rw [List.map_cons, List.map_append, List.cons_append, List.append_assoc]
          rcases hl with rfl | rfl
          · exact leaves_readPower _ _ _ hs hdigits hpower hr.stopsDigits
          · exact leaves_readPower _ _ _ hs hdigits hpower hr.stopsDigits

theorem leaves_readNumeral (negative : Bool) {whole fraction power : List Char} {k : Int}
    (hw : WholeDigits whole) (hf : FractionText fraction)
    (hp : Number.PowerText Char.isDigit power k) {rest : Input} (hr : EndsNumber rest) :
    Leaves (readNumeral negative
      (whole.map some ++ (fraction.map some ++ (power.map some ++ rest)))) anything rest := by
  have hstops : StopsDigits (fraction.map some ++ (power.map some ++ rest)) := by
    cases hf with
    | none => exact fun c hc => (head?_powerText hp hr hc).1
    | digits => exact stopsDigits_cons rfl _
  rw [readNumeral_digits negative hw hstops]
  exact leaves_readFraction hf hp hr

/-- A number is read as a number. -/
theorem leaves_readScalar_number {text : List Char} (h : NumberText text) {rest : Input}
    (hr : EndsNumber rest) :
    (∃ c tail, text = c :: tail ∧ (c = '-' ∨ c.isDigit = true)) ∧
      Leaves (readScalar (text.map some ++ rest)) (fun j => ∃ n, j = .number n) rest := by
  cases h with
  | @intro sign whole fraction power k hs hw hf hp =>
      have hread (negative : Bool) := leaves_readNumeral negative hw hf hp hr
      have hnumber (n : Numeral) : Leaves (.ok (Json.number n, rest))
          (fun j => ∃ n, j = .number n) rest := leaves_ok ⟨n, rfl⟩
      obtain ⟨c, digits, rfl⟩ := List.exists_cons_of_ne_nil hw.ne_nil
      have hc : c.isDigit = true := hw.isDigit c List.mem_cons_self
      simp only [List.map_append, List.append_assoc]
      rcases hs with rfl | rfl
      · refine ⟨⟨c, _, rfl, .inr hc⟩, ?_⟩
        rw [List.map_nil, List.nil_append, List.map_cons, List.cons_append,
          readScalar_of_isDigit hc]
        exact (hread false).bind fun n _ => hnumber n
      · refine ⟨⟨'-', _, rfl, .inl rfl⟩, ?_⟩
        exact (hread true).bind fun n _ => hnumber n

/-! ## Strings -/

def IsHex (c : Char) : Prop :=
  ('0' ≤ c ∧ c ≤ '9') ∨ ('a' ≤ c ∧ c ≤ 'f') ∨ ('A' ≤ c ∧ c ≤ 'F')

instance (c : Char) : Decidable (IsHex c) :=
  inferInstanceAs (Decidable (('0' ≤ c ∧ c ≤ '9') ∨ ('a' ≤ c ∧ c ≤ 'f') ∨ ('A' ≤ c ∧ c ≤ 'F')))

/-- What stands for a character in a string: the character itself, an escape sequence, or its code,
of which two may make one character together. -/
inductive CharText : List Char → Prop
  | plain {c : Char} (hq : c ≠ '"') (hs : c ≠ '\\') (hc : ¬ c.toNat < 0x20) : CharText [c]
  | escape {c : Char} (hc : c ∈ ['"', '\\', '/', 'b', 'f', 'n', 'r', 't']) : CharText ['\\', c]
  | code {a b c d : Char} (ha : IsHex a) (hb : IsHex b) (hc : IsHex c) (hd : IsHex d) :
      CharText ['\\', 'u', a, b, c, d]

/-- The symbols of a string behind its opening quote. -/
def charsTail (chars : List (List Char)) (rest : Input) : Input :=
  chars.flatten.map some ++ some '"' :: rest

theorem charsTail_cons (text : List Char) (chars : List (List Char)) (rest : Input) :
    charsTail (text :: chars) rest = text.map some ++ charsTail chars rest := by
  simp [charsTail]

theorem exists_hexValue? {c : Char} (h : IsHex c) : ∃ n, hexValue? c = some n := by
  unfold hexValue?
  rcases h with h | h | h
  · exact ⟨_, if_pos h⟩
  · split_ifs
    · exact ⟨_, rfl⟩
    · exact ⟨_, rfl⟩
  · split_ifs
    · exact ⟨_, rfl⟩
    · exact ⟨_, rfl⟩
    · exact ⟨_, rfl⟩

theorem exists_readHex_eq {a b c d : Char} (ha : IsHex a) (hb : IsHex b) (hc : IsHex c)
    (hd : IsHex d) : ∃ n, ∀ rest : Input,
      readHex (some a :: some b :: some c :: some d :: rest) = .ok (n, rest) := by
  obtain ⟨i, hi⟩ := exists_hexValue? ha
  obtain ⟨j, hj⟩ := exists_hexValue? hb
  obtain ⟨k, hk⟩ := exists_hexValue? hc
  obtain ⟨l, hl⟩ := exists_hexValue? hd
  exact ⟨_, fun rest => by simp only [readHex, hi, hj, hk, hl]; rfl⟩

/-- The second half of a surrogate pair is the code that stands next. -/
theorem leaves_readLow (high : Nat) {chars : List (List Char)} (h : ∀ text ∈ chars, CharText text)
    (rest : Input) {c : Char} {rest' : Input}
    (hread : readLow high (charsTail chars rest) = .ok (c, rest')) :
    ∃ text more, chars = text :: more ∧ rest' = charsTail more rest := by
  cases chars with
  | nil => cases hread
  | cons text more =>
      rw [charsTail_cons] at hread
      cases h text List.mem_cons_self with
      | @plain d hq hs hc =>
          rw [List.map_singleton, List.singleton_append] at hread
          unfold readLow at hread
          split at hread <;> simp_all
      | @escape d hd =>
          have hu : d ≠ 'u' := by
            rintro rfl
            revert hd
            decide
          simp only [List.map_cons, List.map_nil, List.cons_append, List.nil_append] at hread
          unfold readLow at hread
          split at hread <;> simp_all
      -- Only a code can be the second half, and only one of the range of second halves is.
      | @code d e f g hd he hf hg =>
          obtain ⟨n, hn⟩ := exists_readHex_eq hd he hf hg
          have hlow : readLow high (some '\\' :: some 'u' :: some d :: some e :: some f :: some g ::
              charsTail more rest) = if 0xDC00 ≤ n ∧ n ≤ 0xDFFF then
                .ok (Char.ofNat (0x10000 + (high - 0xD800) * 0x400 + (n - 0xDC00)),
                  charsTail more rest)
              else .error .malformed := by
            simp only [readLow, hn, bind, Except.bind]
          have hread' : readLow high (some '\\' :: some 'u' :: some d :: some e :: some f ::
              some g :: charsTail more rest) = .ok (c, rest') := hread
          rw [hlow] at hread'
          split at hread'
          · rw [Except.ok.injEq, Prod.mk.injEq] at hread'
            exact ⟨_, more, rfl, hread'.2.symm⟩
          · cases hread'

/-- An escape sequence is read up to its end, or together with the one behind it. -/
theorem leaves_readEscape {tail : List Char} (ht : CharText ('\\' :: tail))
    {chars : List (List Char)} (h : ∀ text ∈ chars, CharText text) {rest : Input} {c : Char}
    {rest' : Input}
    (hread : readEscape (tail.map some ++ charsTail chars rest) = .ok (c, rest')) :
    ∃ more, more <:+ chars ∧ rest' = charsTail more rest := by
  cases ht with
  | plain hq hs hc => exact absurd rfl hs
  | @escape d hd =>
      refine ⟨chars, List.suffix_refl chars, ?_⟩
      simp only [List.mem_cons, List.not_mem_nil, or_false] at hd
      rcases hd with rfl | rfl | rfl | rfl | rfl | rfl | rfl | rfl <;> cases hread <;> rfl
  | @code d e f g hd he hf hg =>
      obtain ⟨n, hn⟩ := exists_readHex_eq hd he hf hg
      have hescape : readEscape (some 'u' :: some d :: some e :: some f :: some g ::
          charsTail chars rest) =
          if 0xDC00 ≤ n ∧ n ≤ 0xDFFF then .error .malformed
          else if 0xD800 ≤ n ∧ n ≤ 0xDBFF then readLow n (charsTail chars rest)
          else .ok (Char.ofNat n, charsTail chars rest) := by
        simp only [readEscape, hn, bind, Except.bind]
      have hread' : readEscape (some 'u' :: some d :: some e :: some f :: some g ::
          charsTail chars rest) = .ok (c, rest') := hread
      rw [hescape] at hread'
      -- A second half on its own is refused, and a first half takes what stands next.
      split at hread'
      · cases hread'
      · split at hread'
        · obtain ⟨text, more, rfl, hrest⟩ := leaves_readLow n h rest hread'
          exact ⟨more, List.suffix_cons text more, hrest⟩
        · cases hread'
          exact ⟨chars, List.suffix_refl chars, rfl⟩

/-- A string is read up to its closing quote, and is empty only if nothing stands in it. -/
theorem leaves_readChars {chars : List (List Char)} (h : ∀ text ∈ chars, CharText text)
    (bound rest : Input) :
    Leaves (readChars bound (charsTail chars rest)) (fun cs => cs = [] → chars = []) rest := by
  -- A surrogate pair takes two texts at once, so the induction is on the symbols that bound the loop.
  induction bound generalizing chars with
  | nil =>
      unfold readChars
      exact leaves_error _
  | cons x bound ih =>
      cases chars with
      | nil => exact leaves_ok fun _ => rfl
      | cons text chars =>
          have hchars : ∀ text ∈ chars, CharText text := fun t ht => h t (List.mem_cons_of_mem _ ht)
          have hnext (c : Char) {more : List (List Char)} (hmore : more <:+ chars) :
              Leaves (readChars bound (charsTail more rest) >>= fun cs => .ok (c :: cs.1, cs.2))
                (fun cs => cs = [] → text :: chars = []) rest :=
            (ih fun t ht => hchars t (hmore.subset ht)).bind fun cs _ =>
              leaves_ok fun hnil => absurd hnil (List.cons_ne_nil c cs)
          have hescape {tail : List Char} (ht : CharText ('\\' :: tail)) :
              Leaves (readChars (x :: bound) (some '\\' :: (tail.map some ++ charsTail chars rest)))
                (fun cs => cs = [] → text :: chars = []) rest := by
            rw [readChars_backslash]
            cases hfound : readEscape (tail.map some ++ charsTail chars rest) with
            | error fault => exact leaves_error fault
            | ok found =>
                obtain ⟨c, rest'⟩ := found
                obtain ⟨more, hmore, rfl⟩ := leaves_readEscape ht hchars hfound
                exact hnext c hmore
          have htext : CharText text := h text List.mem_cons_self
          rw [charsTail_cons]
          cases htext with
          | plain hq hs hc =>
              rw [List.map_singleton, List.singleton_append, readChars_plain x bound hq hs hc]
              exact hnext _ (List.suffix_refl chars)
          | escape hc => exact hescape (.escape hc)
          | code ha hb hc hd => exact hescape (.code ha hb hc hd)

/-- A string behind its opening quote. -/
theorem leaves_readString {chars : List (List Char)} (h : ∀ text ∈ chars, CharText text)
    (rest : Input) :
    Leaves (readString (charsTail chars rest)) (fun s => s = "" → chars = []) rest := by
  refine (leaves_readChars h _ rest).bind fun cs hcs => leaves_ok fun hs => hcs ?_
  exact String.ofList_eq_empty_iff.mp hs

end Tabular.Json
