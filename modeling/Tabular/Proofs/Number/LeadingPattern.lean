import Tabular.Proofs.Number.Spelling
import Tabular.Proofs.Text.Pattern

set_option autoImplicit false

/-! # The pattern of a number at the start of a text

The number at the start of a text has a pattern (`leadingPattern`). `leading?` finds what a
backtracking matcher of the pattern tries first (`first?_leadingPattern`), and that is the longest
beginning which the pattern describes (`leading?_eq_some_iff`): a match only ends where no digit, no
point and no power could go on (`exists_leading?_append`).
-/

namespace Tabular.Number

open Text

/-! ## The pattern -/

def signPattern : Pattern := .optional (.char fun c => c = '+' ∨ c = '-')

def digitsPattern : Pattern := .seq (.char isDecimalDigit) (.many isDecimalDigit)

/-- Digits with or without a point, and more digits behind it; or a point and digits. -/
def mantissaPattern : Pattern :=
  .either (.seq digitsPattern (.seq (.optional (.word ['.'])) (.many isDecimalDigit)))
    (.seq (.word ['.']) digitsPattern)

def powerPattern : Pattern :=
  .optional (.seq (.char fun c => c = 'e' ∨ c = 'E') (.seq signPattern digitsPattern))

/-- A sign or nothing, and infinity or a number in digits. -/
def leadingPattern : Pattern :=
  .seq signPattern (.either (.word infinityName) (.seq mantissaPattern powerPattern))

/-! ## What the pattern describes -/

theorem matches_signPattern {s : List Char} :
    signPattern.Matches s ↔ ∃ negative, SignText s negative := by
  simp only [signPattern, Pattern.matches_optional, Pattern.matches_char, decide_eq_true_eq]
  constructor
  · rintro (⟨c, rfl | rfl, rfl⟩ | rfl)
    · exact ⟨_, .plus⟩
    · exact ⟨_, .minus⟩
    · exact ⟨_, .none⟩
  · rintro ⟨negative, h⟩
    cases h with
    | none => exact .inr rfl
    | plus => exact .inl ⟨'+', .inl rfl, rfl⟩
    | minus => exact .inl ⟨'-', .inr rfl, rfl⟩

theorem matches_digitsPattern {s : List Char} :
    digitsPattern.Matches s ↔ (∀ c ∈ s, isDecimalDigit c = true) ∧ s ≠ [] := by
  simp only [digitsPattern, Pattern.matches_seq, Pattern.matches_char, Pattern.matches_many]
  constructor
  · rintro ⟨_, v, ⟨c, hc, rfl⟩, hv, rfl⟩
    exact ⟨List.forall_mem_cons.mpr ⟨hc, hv⟩, List.cons_ne_nil c v⟩
  · rintro ⟨hd, hne⟩
    obtain ⟨c, rest, rfl⟩ := List.exists_cons_of_ne_nil hne
    obtain ⟨hc, hrest⟩ := List.forall_mem_cons.mp hd
    exact ⟨[c], rest, ⟨c, hc, rfl⟩, hrest, rfl⟩

theorem matches_mantissaPattern {s : List Char} :
    mantissaPattern.Matches s ↔ ∃ digits places, DigitsText isDecimalDigit s digits places := by
  simp only [mantissaPattern, Pattern.matches_either, Pattern.matches_seq, Pattern.matches_optional,
    Pattern.matches_word, Pattern.matches_many, matches_digitsPattern]
  constructor
  · rintro (⟨whole, _, ⟨hw, hne⟩, ⟨_, fraction, rfl | rfl, hf, rfl⟩, rfl⟩ |
      ⟨_, fraction, rfl, ⟨hf, hne⟩, rfl⟩)
    · exact ⟨_, _, .point hw hf (.inl hne)⟩
    · exact ⟨_, _, .whole (List.forall_mem_append.mpr ⟨hw, hf⟩)
        (List.append_ne_nil_of_left_ne_nil hne _)⟩
    · exact ⟨_, _, .point (List.forall_mem_nil _) hf (.inr hne)⟩
  · rintro ⟨digits, places, h⟩
    cases h with
    | whole hw hne => exact .inl ⟨s, [], ⟨hw, hne⟩, ⟨[], [], .inr rfl, by simp, rfl⟩, by simp⟩
    | @point whole fraction hw hf hne =>
        by_cases h0 : whole = []
        · subst h0
          exact .inr ⟨['.'], fraction, rfl, ⟨hf, hne.resolve_left fun h => h rfl⟩, rfl⟩
        · exact .inl ⟨whole, _, ⟨hw, h0⟩, ⟨['.'], fraction, .inl rfl, hf, rfl⟩, rfl⟩

theorem matches_powerPattern {s : List Char} :
    powerPattern.Matches s ↔ ∃ k, PowerText isDecimalDigit s k := by
  simp only [powerPattern, Pattern.matches_optional, Pattern.matches_seq, Pattern.matches_char,
    matches_signPattern, matches_digitsPattern, decide_eq_true_eq]
  constructor
  · rintro (⟨_, _, ⟨c, hc, rfl⟩, ⟨sign, digits, ⟨negative, hs⟩, ⟨hd, hne⟩, rfl⟩, rfl⟩ | rfl)
    · have hp : PowerText isDecimalDigit (c :: (sign ++ digits)) _ := .signed hc hs hd hne
      exact ⟨_, hp⟩
    · exact ⟨_, .none⟩
  · rintro ⟨k, h⟩
    cases h with
    | none => exact .inr rfl
    | @signed letter sign digits negative hl hs hd hne =>
        exact .inl ⟨[letter], _, ⟨letter, hl, rfl⟩, ⟨sign, digits, ⟨negative, hs⟩, ⟨hd, hne⟩, rfl⟩, rfl⟩

/-- A number at the start of a text is infinity or a decimal, behind a sign. -/
theorem matches_leadingPattern {s : List Char} :
    leadingPattern.Matches s ↔ ∃ sign negative body, SignText sign negative ∧ s = sign ++ body ∧
      (body = infinityName ∨ ∃ m e, DecimalText isDecimalDigit body m e) := by
  simp only [leadingPattern, Pattern.matches_seq, Pattern.matches_either, Pattern.matches_word,
    matches_signPattern, matches_mantissaPattern, matches_powerPattern]
  constructor
  · rintro ⟨sign, body, ⟨negative, hs⟩, rfl | ⟨_, _, ⟨_, _, ht⟩, ⟨_, hp⟩, rfl⟩, rfl⟩
    · exact ⟨sign, negative, _, hs, rfl, .inl rfl⟩
    · exact ⟨sign, negative, _, hs, rfl, .inr ⟨_, _, .intro ht hp⟩⟩
  · rintro ⟨sign, negative, body, hs, rfl, rfl | ⟨m, e, ht, hp⟩⟩
    · exact ⟨sign, _, ⟨negative, hs⟩, .inl rfl, rfl⟩
    · exact ⟨sign, _, ⟨negative, hs⟩, .inr ⟨_, _, ⟨_, _, ht⟩, ⟨_, hp⟩, rfl⟩, rfl⟩

theorem not_isBlank_of_matches {s : List Char} (h : leadingPattern.Matches s) :
    ∀ c ∈ s, isBlank c = false := by
  obtain ⟨sign, negative, body, hs, rfl, hbody⟩ := matches_leadingPattern.mp h
  refine List.forall_mem_append.mpr ⟨fun c hc => not_isBlank_of_mem_marks (hs.forall_mem c hc), ?_⟩
  rcases hbody with rfl | ⟨m, e, ht⟩
  · exact fun c => not_isBlank_of_mem_infinityName
  · exact ht.not_isBlank

/-! ## What is found where a number begins the text -/

/-- Digits are found as far as they go on: to the end of the text that has them, or further if more
digits or a point follow it. -/
theorem exists_leadingDigits?_append {s digits : List Char} {places : Nat}
    (h : DigitsText isDecimalDigit s digits places) (rest : List Char) :
    ∃ more, leadingDigits? (s ++ rest) = some (s ++ more) ∧ (EndsDigits rest → more = []) := by
  have hstop (hr : EndsDigits rest) :
      rest.takeWhile isDecimalDigit = [] ∧ rest.dropWhile isDecimalDigit = rest :=
    takeWhile_digits_append (List.forall_mem_nil _) fun c hc => (hr c hc).1
  cases h with
  | whole hw hne =>
      have htake : (s ++ rest).takeWhile isDecimalDigit = s ++ rest.takeWhile isDecimalDigit :=
        List.takeWhile_append_of_pos hw
      have hdrop : (s ++ rest).dropWhile isDecimalDigit = rest.dropWhile isDecimalDigit :=
        List.dropWhile_append_of_pos hw
      have hs : ¬ s ++ rest.takeWhile isDecimalDigit = [] :=
        List.append_ne_nil_of_left_ne_nil hne _
      simp only [leadingDigits?, htake, hdrop, hs, false_and, if_false]
      split
      · rename_i tail heq
        rw [List.append_assoc]
        refine ⟨_, rfl, fun hr => ?_⟩
        -- The text is not followed by a point.
        rw [(hstop hr).2] at heq
        exact absurd rfl (hr '.' (by rw [heq]; rfl)).2
      -- Without a point only digits can follow.
      · exact ⟨_, rfl, fun hr => (hstop hr).1⟩
  | @point whole fraction hw hf hne =>
      have hpoint : ∀ c, ('.' :: (fraction ++ rest)).head? = some c → isDecimalDigit c = false := by
        rintro c ⟨⟩
        decide
      obtain ⟨htake, hdrop⟩ := takeWhile_digits_append hw hpoint
      have hfraction : (fraction ++ rest).takeWhile isDecimalDigit =
          fraction ++ rest.takeWhile isDecimalDigit := List.takeWhile_append_of_pos hf
      have hdigits : ¬ (whole = [] ∧ fraction ++ rest.takeWhile isDecimalDigit = []) :=
        fun h0 => hne.elim (· h0.1) (· (List.append_eq_nil_iff.mp h0.2).1)
      rw [List.append_assoc, List.cons_append]
      simp only [leadingDigits?, htake, hdrop, hfraction, if_neg hdigits]
      refine ⟨rest.takeWhile isDecimalDigit, ?_, fun hr => (hstop hr).1⟩
      rw [List.append_assoc, List.cons_append]

/-- A power is found as far as its digits go on. -/
theorem exists_leadingPower_append {s : List Char} {k : Int} (h : PowerText isDecimalDigit s k)
    (rest : List Char) : ∃ more, leadingPower (s ++ rest) = s ++ more := by
  cases h with
  | none => exact ⟨_, rfl⟩
  | @signed letter sign digits negative hl hs hd hne =>
      have hsign : leadingSign (sign ++ (digits ++ rest)) = sign := by
        obtain ⟨c, more, rfl, hc⟩ := exists_cons_of_digits hd hne
        exact leadingSign_append hs (not_sign_of_isDecimalDigit hc) (more ++ rest)
      have htake : (digits ++ rest).takeWhile isDecimalDigit =
          digits ++ rest.takeWhile isDecimalDigit := List.takeWhile_append_of_pos hd
      have hdigits : digits ++ rest.takeWhile isDecimalDigit ≠ [] :=
        List.append_ne_nil_of_left_ne_nil hne _
      refine ⟨rest.takeWhile isDecimalDigit, ?_⟩
      rw [List.cons_append, List.append_assoc, leadingPower, if_pos hl]
      simp only [hsign, List.drop_left, htake, if_neg hdigits, List.cons_append, List.append_assoc]

/-- Behind a sign, digits are found with the power that follows them. -/
theorem leading?_append_of_digits {sign text : List Char} {negative : Bool}
    (hs : SignText sign negative) {c : Char} {tail : List Char} (htext : text = c :: tail)
    (hc : isDecimalDigit c = true ∨ c = '.') :
    leading? (sign ++ text) = (leadingDigits? text).map fun digits =>
      sign ++ digits ++ leadingPower (text.drop digits.length) := by
  have hfirst : (c ≠ '+' ∧ c ≠ '-') ∧ c ≠ 'I' := by
    rcases hc with hd | rfl
    · refine ⟨not_sign_of_isDecimalDigit hd, ?_⟩
      rintro rfl
      exact absurd hd (by decide)
    · decide
  have hsign : leadingSign (sign ++ text) = sign := by
    rw [htext]
    exact leadingSign_append hs hfirst.1 _
  have hname : infinityName.isPrefixOf text = false := by
    rw [htext, infinityName, List.isPrefixOf]
    simp [hfirst.2.symm]
  simp only [leading?, hsign, List.drop_left, hname, Bool.false_eq_true, if_false]

/-- A text that the pattern describes is found where it begins a text, or something longer is. -/
theorem exists_leading?_append {s : List Char} (h : leadingPattern.Matches s) (rest : List Char) :
    ∃ more, leading? (s ++ rest) = some (s ++ more) := by
  obtain ⟨sign, negative, body, hs, rfl, hbody⟩ := matches_leadingPattern.mp h
  rw [List.append_assoc]
  rcases hbody with rfl | ⟨m, e, hdecimal⟩
  · have hsign : leadingSign (sign ++ (infinityName ++ rest)) = sign :=
      leadingSign_append hs (by decide) _
    have hname : infinityName.isPrefixOf (infinityName ++ rest) = true :=
      List.isPrefixOf_iff_prefix.mpr (List.prefix_append _ _)
    refine ⟨[], ?_⟩
    simp only [leading?, hsign, List.drop_left, hname, if_true, List.append_nil]
  · obtain ⟨c, tail, hcons, hc⟩ := hdecimal.exists_cons
    have hrest : body ++ rest = c :: (tail ++ rest) := by rw [hcons, List.cons_append]
    rw [leading?_append_of_digits hs hrest hc]
    cases hdecimal with
    | @intro text power digits places k ht hp =>
        obtain ⟨more, hdigits, hmore⟩ := exists_leadingDigits?_append ht (power ++ rest)
        rw [List.append_assoc, hdigits, Option.map_some]
        -- Without a power, digits and a power may follow, and what is found is longer by both.
        by_cases hp0 : power = []
        · subst hp0
          generalize leadingPower _ = found
          exact ⟨more ++ found, by simp only [List.append_assoc, List.append_nil]⟩
        · -- The power starts with a letter, which ends the digits.
          have hends : EndsDigits (power ++ rest) := by
            obtain ⟨letter, power, rfl⟩ := List.exists_cons_of_ne_nil hp0
            exact fun d hd => hp.endsDigits d hd
          rw [hmore hends, List.append_nil, List.drop_left]
          obtain ⟨more', hpower⟩ := exists_leadingPower_append hp rest
          exact ⟨more', by rw [hpower]; simp only [List.append_assoc]⟩

/-! ## The match that is tried first -/

theorem first?_signPattern (text : List Char) :
    signPattern.first? text = some (leadingSign text) := by
  rw [signPattern, Pattern.first?_optional]
  cases text with
  | nil => rfl
  | cons c rest =>
      rw [Pattern.first?_char_cons, leadingSign]
      by_cases hc : c = '+' ∨ c = '-'
      · rw [if_pos (decide_eq_true hc), if_pos hc]
        rfl
      · rw [if_neg (by simpa using hc), if_neg hc]
        rfl

/-- Behind a sign nothing else is tried, if what follows it cannot start with a sign. -/
theorem first?_signed {P : Pattern}
    (hP : ∀ c rest, c = '+' ∨ c = '-' → P.first? (c :: rest) = none) (text : List Char) :
    (Pattern.seq signPattern P).first? text =
      (P.first? (text.drop (leadingSign text).length)).map (leadingSign text ++ ·) := by
  cases hrest : P.first? (text.drop (leadingSign text).length) with
  | some found => exact Pattern.first?_seq (first?_signPattern text) hrest
  -- Without a sign, the text could start with one that the pattern of signs passed over.
  | none =>
      refine Pattern.first?_seq_eq_none ?_
      rintro u r rfl hu
      obtain ⟨negative, hs⟩ := matches_signPattern.mp hu
      cases hs with
      | none =>
          cases r with
          | nil => exact hrest
          | cons c r =>
              by_cases hc : c = '+' ∨ c = '-'
              · exact hP c r hc
              · rw [List.nil_append, leadingSign, if_neg hc] at hrest
                exact hrest
      | plus => exact hrest
      | minus => exact hrest

theorem first?_digitsPattern (text : List Char) :
    digitsPattern.first? text =
      if text.takeWhile isDecimalDigit = [] then none else some (text.takeWhile isDecimalDigit) := by
  cases text with
  | nil => rfl
  | cons c rest =>
      rw [digitsPattern, Pattern.first?_seq_char, Pattern.first?_many]
      by_cases hc : isDecimalDigit c = true
      · rw [if_pos hc, List.takeWhile_cons_of_pos hc, if_neg (List.cons_ne_nil c _)]
        rfl
      · rw [if_neg hc, List.takeWhile_cons_of_neg hc, if_pos rfl]

theorem first?_digitsPattern_sign (c : Char) (rest : List Char) (hc : c = '+' ∨ c = '-') :
    digitsPattern.first? (c :: rest) = none := by
  have hd : ¬ isDecimalDigit c = true := by rcases hc with rfl | rfl <;> decide
  rw [first?_digitsPattern, List.takeWhile_cons_of_neg hd, if_pos rfl]

theorem first?_powerPattern (text : List Char) :
    powerPattern.first? text = some (leadingPower text) := by
  rw [powerPattern, Pattern.first?_optional]
  congr 1
  cases text with
  | nil => rfl
  | cons c rest =>
      rw [Pattern.first?_seq_char, first?_signed first?_digitsPattern_sign, first?_digitsPattern]
      simp only [leadingPower, decide_eq_true_eq]
      by_cases hc : c = 'e' ∨ c = 'E'
      · rw [if_pos hc, if_pos hc]
        split <;> rfl
      · rw [if_neg hc, if_neg hc]
        rfl

/-- Behind the whole digits a point is tried first, and then as many digits as there are. -/
theorem first?_fraction_point (rest : List Char) :
    (Pattern.seq (.optional (.word ['.'])) (.many isDecimalDigit)).first? ('.' :: rest) =
      some ('.' :: rest.takeWhile isDecimalDigit) := by
  have hword : (Pattern.word ['.']).first? ('.' :: rest) = some ['.'] :=
    Pattern.first?_word_append ['.'] rest
  have hpoint : (Pattern.optional (.word ['.'])).first? ('.' :: rest) = some ['.'] := by
    rw [Pattern.first?_optional, hword]
    rfl
  exact Pattern.first?_seq hpoint (Pattern.first?_many _ _)

theorem first?_fraction {text : List Char} (h : ∀ rest, text ≠ '.' :: rest) :
    (Pattern.seq (.optional (.word ['.'])) (.many isDecimalDigit)).first? text =
      some (text.takeWhile isDecimalDigit) := by
  have hpoint : (Pattern.optional (.word ['.'])).first? text = some [] := by
    rw [Pattern.first?_optional, Pattern.first?_word, if_neg]
    · rfl
    · rw [List.isPrefixOf_iff_prefix]
      rintro ⟨rest, rfl⟩
      exact h rest rfl
  exact Pattern.first?_seq hpoint (Pattern.first?_many _ _)

/-- Without digits in front, a point needs digits behind it. -/
theorem first?_point (rest : List Char) :
    (Pattern.seq (.word ['.']) digitsPattern).first? ('.' :: rest) =
      if rest.takeWhile isDecimalDigit = [] then none
      else some ('.' :: rest.takeWhile isDecimalDigit) := by
  refine (Pattern.first?_seq_word ['.'] digitsPattern rest).trans ?_
  rw [first?_digitsPattern]
  split <;> rfl

theorem first?_point_eq_none {text : List Char} (h : ∀ rest, text ≠ '.' :: rest) :
    (Pattern.seq (.word ['.']) digitsPattern).first? text = none := by
  refine Pattern.first?_seq_eq_none ?_
  rintro u r rfl rfl
  exact absurd rfl (h r)

/-- What follows the longest run of a class. -/
theorem drop_length_takeWhile (among : Char → Bool) (text : List Char) :
    text.drop (text.takeWhile among).length = text.dropWhile among := by
  have h : (text.takeWhile among ++ text.dropWhile among).drop (text.takeWhile among).length =
      text.dropWhile among := List.drop_left
  rwa [List.takeWhile_append_dropWhile] at h

theorem first?_mantissaPattern (text : List Char) :
    mantissaPattern.first? text = leadingDigits? text := by
  have hdigits := first?_digitsPattern text
  have hdrop := drop_length_takeWhile isDecimalDigit text
  rw [mantissaPattern, Pattern.first?_either, leadingDigits?]
  -- Digits are needed for the first alternative, and the second one is a point with digits.
  by_cases hw : text.takeWhile isDecimalDigit = []
  · have hwhole : text.dropWhile isDecimalDigit = text := by
      rw [← hdrop, hw]
      rfl
    have hfront : (Pattern.seq digitsPattern
        (.seq (.optional (.word ['.'])) (.many isDecimalDigit))).first? text = none := by
      rw [if_pos hw] at hdigits
      exact Pattern.first?_seq_eq_none_of_front _ hdigits
    rw [hfront, Option.none_or]
    simp only [hw, hwhole, true_and, if_true, List.nil_append]
    split
    · exact first?_point _
    · rename_i hpoint
      exact first?_point_eq_none hpoint
  · rw [if_neg hw] at hdigits
    simp only [hw, false_and, if_false]
    split
    · rename_i rest heq
      rw [Pattern.first?_seq hdigits (by rw [hdrop, heq]; exact first?_fraction_point rest)]
      rfl
    · rename_i hpoint
      have hnone : (text.dropWhile isDecimalDigit).takeWhile isDecimalDigit = [] :=
        List.takeWhile_eq_nil_iff.mpr (List.dropWhile_get_zero_not isDecimalDigit text)
      have hback := first?_fraction hpoint
      rw [hnone, ← hdrop] at hback
      rw [Pattern.first?_seq hdigits hback, List.append_nil]
      rfl

/-- The number in digits that is tried first: its digits, and a power behind them. -/
theorem first?_decimal (text : List Char) :
    (Pattern.seq mantissaPattern powerPattern).first? text =
      (leadingDigits? text).map fun digits =>
        digits ++ leadingPower (text.drop digits.length) := by
  rw [← first?_mantissaPattern]
  cases hdigits : mantissaPattern.first? text with
  | some digits => exact Pattern.first?_seq hdigits (first?_powerPattern _)
  | none => exact Pattern.first?_seq_eq_none_of_front _ hdigits

/-- What a backtracking matcher of the pattern tries first is found. -/
theorem first?_leadingPattern (text : List Char) : leadingPattern.first? text = leading? text := by
  have hname (rest : List Char) := Pattern.first?_word infinityName rest
  rw [leadingPattern, first?_signed]
  · rw [Pattern.first?_either, hname, first?_decimal, leading?]
    split
    · rfl
    · rw [Option.none_or, Option.map_map]
      congr 1
      funext digits
      exact (List.append_assoc _ _ _).symm
  · -- Neither infinity nor a number in digits starts with a sign.
    intro c rest hc
    have hdigit : isDecimalDigit c = false ∧ c ≠ '.' := by rcases hc with rfl | rfl <;> decide
    have hinfinity : infinityName.isPrefixOf (c :: rest) = false := by
      rcases hc with rfl | rfl <;> rfl
    have hdigits : leadingDigits? (c :: rest) = none := by
      simp [leadingDigits?, hdigit]
    rw [Pattern.first?_either, hname, first?_decimal, hinfinity, hdigits]
    rfl

/-! ## The match is the longest -/

/-- Found is just the longest beginning with the pattern. -/
theorem leading?_eq_some_iff {text found : List Char} :
    leading? text = some found ↔ leadingPattern.Longest text found := by
  constructor
  · intro h
    obtain ⟨hm, hp⟩ := Pattern.of_first?_eq_some ((first?_leadingPattern text).trans h)
    refine ⟨hm, hp, ?_⟩
    rintro other ho ⟨rest, rfl⟩
    obtain ⟨more, hmore⟩ := exists_leading?_append ho rest
    rw [hmore] at h
    rw [← Option.some.inj h, List.length_append]
    exact Nat.le_add_right _ _
  · intro h
    obtain ⟨rest, rfl⟩ := h.begins
    obtain ⟨more, hmore⟩ := exists_leading?_append h.isMatch rest
    obtain ⟨hm, hp⟩ := Pattern.of_first?_eq_some ((first?_leadingPattern _).trans hmore)
    have hlen := h.longest _ hm hp
    rw [List.length_append] at hlen
    have hnil : more = [] := List.length_eq_zero_iff.mp (by omega)
    rw [hmore, hnil, List.append_nil]

/-! ## Cut behind a digit -/

/-- A number that is cut behind one of its digits is still one. -/
theorem cutAt_leadingPattern {c : Char} (hc : isDecimalDigit c = true) :
    leadingPattern.CutAt c := by
  have hsign : ∀ s, signPattern.Matches s → c ∉ s := by
    rintro s hs hmem
    obtain ⟨negative, hs⟩ := matches_signPattern.mp hs
    have hne := not_sign_of_isDecimalDigit hc
    cases hs <;> simp_all
  have hletter : ∀ s, (Pattern.char fun c => c = 'e' ∨ c = 'E').Matches s → c ∉ s := by
    rintro s ⟨d, hd, rfl⟩ hmem
    rw [List.mem_singleton.mp hmem] at hc
    rcases of_decide_eq_true hd with rfl | rfl <;> exact absurd hc (by decide)
  have hpoint : ∀ s, (Pattern.word ['.']).Matches s → c ∉ s := by
    rintro s rfl hmem
    rw [List.mem_singleton.mp hmem] at hc
    exact absurd hc (by decide)
  have hname : ∀ s, (Pattern.word infinityName).Matches s → c ∉ s := by
    rintro s rfl hmem
    rw [not_isDecimalDigit_of_mem_infinityName hmem] at hc
    cases hc
  -- Only the runs of digits hold `c`, and each of them is still one when it is cut there.
  have hdigits : digitsPattern.CutAt c :=
    (Pattern.cutAt_char _).seq (Pattern.cutAt_many _) fun _ _ _ => List.forall_mem_nil _
  have hfraction : (Pattern.seq (.optional (.word ['.'])) (.many isDecimalDigit)).CutAt c :=
    (Pattern.cutAt_of_not_mem hpoint).optional.seq (Pattern.cutAt_many _)
      fun _ _ _ => List.forall_mem_nil _
  have hmantissa : mantissaPattern.CutAt c :=
    (hdigits.seq hfraction fun _ _ _ => ⟨[], [], .inr rfl, List.forall_mem_nil _, rfl⟩).either
      (hdigits.behind hpoint)
  have hpower : powerPattern.CutAt c := ((hdigits.behind hsign).behind hletter).optional
  refine Pattern.CutAt.behind ((Pattern.cutAt_of_not_mem hname).either ?_) hsign
  exact hmantissa.seq hpower fun _ _ _ => matches_powerPattern.mpr ⟨0, .none⟩

end Tabular.Number
