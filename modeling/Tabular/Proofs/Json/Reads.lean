import Mathlib.Data.List.Basic
import Tabular.Json.Reader
import Tabular.Json.Writer
import Tabular.Proofs.Json.NumberText

set_option autoImplicit false

/-! # Texts that are read as values

A text is read as a value when a reader gives the value for it, whatever blanks stand before it and
whatever follows (`Reads`). Here are the texts without containers: `null`, the booleans, strings
with any characters (`reads_string`), and finite numbers (`exists_reads_number`). A text that is
read as a value is read as a whole (`Reads.whole_eq`).
-/

namespace Tabular.Json

open Text

/-! ## Blanks -/

def Blank (gap : List Char) : Prop := ∀ c ∈ gap, isBlankSymbol (some c) = true

theorem blank_nil : Blank [] := by simp [Blank]

theorem blank_newLine (level : Nat) : Blank (newLine level) := by
  intro c hc
  rcases List.mem_cons.mp hc with rfl | hc
  · rfl
  · rw [List.eq_of_mem_replicate hc]
    rfl

theorem skipBlanks_cons {c : Char} (hc : isBlankSymbol (some c) = false) (s : Input) :
    skipBlanks (some c :: s) = some c :: s :=
  List.dropWhile_cons_of_neg (by simp [hc])

theorem skipBlanks_append {gap : List Char} (hg : Blank gap) {c : Char}
    (hc : isBlankSymbol (some c) = false) (s : Input) :
    skipBlanks (gap.map some ++ some c :: s) = some c :: s := by
  have hall : ∀ x ∈ gap.map some, isBlankSymbol x = true := by simpa [Blank] using hg
  rw [skipBlanks, List.dropWhile_append_of_pos hall]
  exact skipBlanks_cons hc s

/-! ## Texts and what follows them -/

theorem endsNumber_nil : EndsNumber [] := by
  rintro c ⟨⟩

theorem endsNumber_cons {c : Char} (hc : isBlankSymbol (some c) = true ∨ c ∈ [',', ']', '\x7d'])
    (rest : Input) : EndsNumber (some c :: rest) := by
  rintro d ⟨⟩
  simp only [isBlankSymbol, Bool.or_eq_true, decide_eq_true_eq, List.mem_cons, List.not_mem_nil,
    or_false] at hc
  rcases hc with ((((rfl | rfl) | rfl) | rfl) | rfl | rfl | rfl) <;> decide

theorem endsNumber_append {gap : List Char} (hg : Blank gap) {c : Char}
    (hc : c ∈ [',', ']', '\x7d']) (rest : Input) :
    EndsNumber (gap.map some ++ some c :: rest) := by
  cases gap with
  | nil => exact endsNumber_cons (.inr hc) rest
  | cons x gap => exact endsNumber_cons (.inl (hg x List.mem_cons_self)) _

/-- The reader gives the value for the text, whatever blanks stand before the text and whatever
follows it, unless it goes on like a number. -/
structure Reads {α : Type} (read : Input → Except Fault (α × Input)) (text : List Char) (x : α) :
    Prop where
  starts : ∃ c rest, text = c :: rest ∧ isBlankSymbol (some c) = false ∧ c ≠ ']'
  reads : ∀ gap, Blank gap → ∀ rest, EndsNumber rest →
    read (gap.map some ++ (text.map some ++ rest)) = .ok (x, rest)

theorem Reads.whole_eq {α : Type} {read : Input → Except Fault (α × Input)} {text : List Char}
    {x : α} (h : Reads read text x) : whole read (text.map some) = .ok x := by
  have hread := h.reads [] blank_nil [] endsNumber_nil
  rw [List.append_nil] at hread
  rw [whole, show read (text.map some) = .ok (x, []) from hread]
  rfl

/-! ## Values without containers -/

theorem readValue_scalar (depth : Nat) {gap : List Char} (hg : Blank gap) {c : Char}
    (hc : isBlankSymbol (some c) = false) (ha : c ≠ '[') (ho : c ≠ '\x7b') (s : Input) :
    readValue depth (gap.map some ++ some c :: s) = readScalar (some c :: s) := by
  cases depth <;> simp only [readValue, skipBlanks_append hg hc] <;> split <;> simp_all

theorem reads_of_readScalar {text : List Char} {j : Json} {c : Char} {tail : List Char}
    (ht : text = c :: tail) (hc : isBlankSymbol (some c) = false)
    (hb : c ∉ ['[', ']', '\x7b'])
    (h : ∀ rest, EndsNumber rest → readScalar (text.map some ++ rest) = .ok (j, rest))
    (depth : Nat) : Reads (readValue depth) text j where
  starts := ⟨c, tail, ht, hc, fun he => hb (by simp [he])⟩
  reads := by
    intro gap hg rest hr
    have hread := h rest hr
    subst ht
    rw [List.map_cons, List.cons_append] at hread ⊢
    rw [readValue_scalar depth hg hc (fun he => hb (by simp [he])) (fun he => hb (by simp [he]))]
    exact hread

theorem reads_null (depth : Nat) : Reads (readValue depth) ['n', 'u', 'l', 'l'] .null :=
  reads_of_readScalar rfl rfl (by decide) (fun _ _ => rfl) depth

theorem reads_true (depth : Nat) : Reads (readValue depth) ['t', 'r', 'u', 'e'] (.bool true) :=
  reads_of_readScalar rfl rfl (by decide) (fun _ _ => rfl) depth

theorem reads_false (depth : Nat) :
    Reads (readValue depth) ['f', 'a', 'l', 's', 'e'] (.bool false) :=
  reads_of_readScalar rfl rfl (by decide) (fun _ _ => rfl) depth

/-! ## Strings -/

theorem hexValue?_hexDigit : ∀ n < 16, hexValue? (hexDigit n) = some n := by decide

theorem readEscape_control {c : Char} (hc : c.toNat < 0x20) (rest : Input) :
    readEscape (some 'u' :: some '0' :: some '0' :: some (hexDigit (c.toNat / 16)) ::
      some (hexDigit (c.toNat % 16)) :: rest) = .ok (c, rest) := by
  have hzero : hexValue? '0' = some 0 := rfl
  have hn : 0 * 4096 + 0 * 256 + c.toNat / 16 * 16 + c.toNat % 16 = c.toNat := by omega
  simp only [readEscape, readHex, hzero, hexValue?_hexDigit (c.toNat / 16) (by omega),
    hexValue?_hexDigit (c.toNat % 16) (by omega), hn, bind, Except.bind]
  rw [if_neg (by omega), if_neg (by omega), Char.ofNat_toNat]

/-- A character is written as an escape sequence that stands for it, or as itself. -/
theorem escaped_cases (c : Char) :
    (∃ tail, escaped c = '\\' :: tail ∧
        ∀ rest, readEscape (tail.map some ++ rest) = .ok (c, rest)) ∨
      escaped c = [c] ∧ c ≠ '"' ∧ c ≠ '\\' ∧ ¬ c.toNat < 0x20 := by
  unfold escaped
  split_ifs with hquote hslash hb hf hn hr ht hcontrol
  · exact .inl ⟨_, rfl, fun rest => by rw [hquote]; rfl⟩
  · exact .inl ⟨_, rfl, fun rest => by rw [hslash]; rfl⟩
  · exact .inl ⟨_, rfl, fun rest => by rw [hb]; rfl⟩
  · exact .inl ⟨_, rfl, fun rest => by rw [hf]; rfl⟩
  · exact .inl ⟨_, rfl, fun rest => by rw [hn]; rfl⟩
  · exact .inl ⟨_, rfl, fun rest => by rw [hr]; rfl⟩
  · exact .inl ⟨_, rfl, fun rest => by rw [ht]; rfl⟩
  · -- Any other control has its code in hexadecimal digits.
    exact .inl ⟨_, rfl, fun rest => readEscape_control hcontrol rest⟩
  · exact .inr ⟨rfl, hquote, hslash, hcontrol⟩

theorem readChars_backslash (x : Symbol) (bound s : Input) :
    readChars (x :: bound) (some '\\' :: s) = readEscape s >>= fun found =>
      readChars bound found.2 >>= fun cs => .ok (found.1 :: cs.1, cs.2) := rfl

theorem readChars_plain (x : Symbol) (bound : Input) {c : Char} (hq : c ≠ '"') (hs : c ≠ '\\')
    (hc : ¬ c.toNat < 0x20) (s : Input) :
    readChars (x :: bound) (some c :: s) =
      readChars bound s >>= fun cs => .ok (c :: cs.1, cs.2) := by
  rw [readChars, if_neg hc]
  · exact hq
  · exact hs

/-- The text of a character is read as the character. -/
theorem readChars_escaped (c : Char) {bound rest rest' : Input} {cs : List Char} (x : Symbol)
    (h : readChars bound rest = .ok (cs, rest')) :
    readChars (x :: bound) ((escaped c).map some ++ rest) = .ok (c :: cs, rest') := by
  rcases escaped_cases c with ⟨tail, htext, hread⟩ | ⟨htext, hquote, hslash, hcontrol⟩
  · rw [htext, List.map_cons, List.cons_append, readChars_backslash, hread]
    simp only [h, bind, Except.bind]
  · rw [htext, List.map_singleton, List.singleton_append,
      readChars_plain x bound hquote hslash hcontrol, h]
    rfl

theorem readChars_flatMap_escaped (cs : List Char) {bound : Input} (hb : cs.length < bound.length)
    (rest : Input) :
    readChars bound ((cs.flatMap escaped).map some ++ some '"' :: rest) = .ok (cs, rest) := by
  induction cs generalizing bound with
  | nil =>
      obtain ⟨x, bound, rfl⟩ := List.exists_cons_of_length_pos hb
      rfl
  | cons c cs ih =>
      obtain ⟨x, bound, rfl⟩ := List.exists_cons_of_length_pos (Nat.zero_lt_of_lt hb)
      rw [List.flatMap_cons, List.map_append, List.append_assoc]
      exact readChars_escaped c x (ih (by simpa using hb))

theorem one_le_length_escaped (c : Char) : 1 ≤ (escaped c).length := by
  unfold escaped
  repeat' split
  all_goals simp

theorem length_le_length_flatMap_escaped (cs : List Char) :
    cs.length ≤ (cs.flatMap escaped).length := by
  induction cs with
  | nil => simp
  | cons c cs ih =>
      have hc := one_le_length_escaped c
      rw [List.flatMap_cons, List.length_append, List.length_cons]
      omega

/-- The symbols of a string behind its opening quote. -/
def stringTail (s : String) (rest : Input) : Input :=
  (s.toList.flatMap escaped).map some ++ some '"' :: rest

theorem map_stringText (s : String) (rest : Input) :
    (stringText s).map some ++ rest = some '"' :: stringTail s rest := by
  simp [stringText, stringTail]

/-- A string is read as it was written. -/
theorem readString_stringTail (s : String) (rest : Input) :
    readString (stringTail s rest) = .ok (s, rest) := by
  -- Each character has a symbol of its own, and the closing quote is one more.
  have hb : s.toList.length < (stringTail s rest).length := by
    have hl := length_le_length_flatMap_escaped s.toList
    rw [stringTail, List.length_append, List.length_map, List.length_cons]
    omega
  have hread := readChars_flatMap_escaped s.toList hb rest
  rw [← stringTail] at hread
  simp only [readString, hread, bind, Except.bind, String.ofList_toList]

theorem reads_string (s : String) (depth : Nat) :
    Reads (readValue depth) (stringText s) (.string s) := by
  have hquote : stringText s = '"' :: (s.toList.flatMap escaped ++ ['"']) := rfl
  refine reads_of_readScalar hquote rfl (by decide) ?_ depth
  intro rest _
  rw [map_stringText]
  simp only [readScalar, readString_stringTail, bind, Except.bind]

/-! ## Numbers -/

theorem readScalar_negative {rest rest' : Input} {n : Numeral}
    (h : readNumeral true rest = .ok (n, rest')) :
    readScalar (some '-' :: rest) = .ok (.number n, rest') := by
  simp only [readScalar, h, bind, Except.bind]

theorem ne_of_isDigit {c d : Char} (hc : c.isDigit = true) (hd : d.isDigit = false) : c ≠ d := by
  rintro rfl
  rw [hc] at hd
  cases hd

theorem readScalar_of_isDigit {c : Char} (hc : c.isDigit = true) (s : Input) :
    readScalar (some c :: s) =
      readNumeral false (some c :: s) >>= fun found => .ok (.number found.1, found.2) := by
  rw [readScalar, if_pos hc]
  all_goals exact ne_of_isDigit hc rfl

theorem readScalar_digit {c : Char} (hc : c.isDigit = true) {rest rest' : Input} {n : Numeral}
    (h : readNumeral false (some c :: rest) = .ok (n, rest')) :
    readScalar (some c :: rest) = .ok (.number n, rest') := by
  rw [readScalar_of_isDigit hc, h]
  rfl

/-- The text of a finite number is read as a finite number of the same sign, and as the same one if
its digits are kept. -/
theorem exists_reads_number (negative : Bool) {rank : Nat} (hr : rank < infiniteRank) :
    ∃ q, ∃ hq : q < infiniteRank, (KeepsDigits rank → q = rank) ∧ ∀ depth,
      Reads (readValue depth) (numberText (.finite negative rank hr))
        (.number (.decimal (.finite negative q hq))) := by
  obtain ⟨q, hq, hkeep, hread⟩ := exists_readNumeral_eq negative hr
  refine ⟨q, hq, hkeep, fun depth => ?_⟩
  rw [numberText_finite]
  cases negative with
  | true =>
      refine reads_of_readScalar rfl rfl (by decide) ?_ depth
      intro rest hrest
      exact readScalar_negative (hread rest hrest)
  | false =>
      obtain ⟨c, tail, ht, hc⟩ := (spells_magnitudeText false hr).exists_cons
      refine reads_of_readScalar (c := c) ht ?_ ?_ ?_ depth
      · simp [isBlankSymbol, ne_of_isDigit hc]
      · simp [ne_of_isDigit hc]
      · intro rest hrest
        have hnumeral := hread rest hrest
        rw [ht] at hnumeral ⊢
        exact readScalar_digit hc hnumeral

end Tabular.Json
