import Mathlib.Data.List.TakeWhile
import Tabular.Text.CharacterClass

set_option autoImplicit false

/-! # Trimming

What trimming leaves of a text: nothing when every character is blank (`trim_eq_nil_iff`), the
text itself when no blank stands at either end (`trim_eq_self`), and always a text of the
second kind (`noBlankEnds_trim`).
-/

namespace Tabular.Text

/-! ## The two ends -/

theorem trimStart_eq_nil_iff {s : List Char} :
    trimStart s = [] ↔ ∀ c ∈ s, isBlank c = true :=
  List.dropWhile_eq_nil_iff

theorem trimEnd_eq_nil_iff {s : List Char} : trimEnd s = [] ↔ ∀ c ∈ s, isBlank c = true := by
  simp [trimEnd, List.dropWhile_eq_nil_iff]

theorem not_isBlank_head_trimStart {s : List Char} {c : Char}
    (h : (trimStart s).head? = some c) : isBlank c = false := by
  have hn := List.head?_dropWhile_not isBlank s
  rw [trimStart] at h
  simpa [h] using hn

theorem not_isBlank_last_trimEnd {s : List Char} {c : Char}
    (h : (trimEnd s).getLast? = some c) : isBlank c = false := by
  have hr : (trimStart s.reverse).head? = some c := by simpa [trimEnd, trimStart] using h
  exact not_isBlank_head_trimStart hr

theorem trimStart_eq_self {s : List Char} (h : ∀ c, s.head? = some c → isBlank c = false) :
    trimStart s = s := by
  cases s with
  | nil => rfl
  | cons c rest => simp [trimStart, h c rfl]

theorem trimEnd_eq_self {s : List Char} (h : ∀ c, s.getLast? = some c → isBlank c = false) :
    trimEnd s = s := by
  have hr : trimStart s.reverse = s.reverse := by
    refine trimStart_eq_self fun c hc => h c ?_
    simpa using hc
  rw [trimEnd, ← trimStart, hr, List.reverse_reverse]

/-- What is left is a beginning of the text. -/
theorem trimEnd_prefix (s : List Char) : trimEnd s <+: s := by
  have h : s.reverse.dropWhile isBlank <:+ s.reverse := List.dropWhile_suffix _
  simpa [trimEnd] using List.reverse_prefix.mpr h

/-- What is cut off at the end is blank. -/
theorem exists_blanks_trimEnd (s : List Char) :
    ∃ blanks, s = trimEnd s ++ blanks ∧ ∀ c ∈ blanks, isBlank c = true := by
  refine ⟨(s.reverse.takeWhile isBlank).reverse, ?_, fun c hc => ?_⟩
  · rw [trimEnd, ← List.reverse_append, List.takeWhile_append_dropWhile, List.reverse_reverse]
  · exact List.mem_takeWhile_imp (List.mem_reverse.mp hc)

/-- More text changes nothing at a start that is not all blank. -/
theorem trimStart_append {s : List Char} (h : trimStart s ≠ []) (t : List Char) :
    trimStart (s ++ t) = trimStart s ++ t := by
  rw [trimStart, List.dropWhile_append, if_neg]
  · rfl
  · rwa [List.isEmpty_iff]

/-! ## Both ends -/

theorem trim_eq_nil_iff {s : List Char} : trim s = [] ↔ ∀ c ∈ s, isBlank c = true := by
  rw [trim, trimEnd_eq_nil_iff]
  constructor
  · intro h c hc
    -- A character that is not blank stops the trimming at the start, and so is still there.
    by_contra hb
    have hn : trimStart s ≠ [] := fun hs => hb (trimStart_eq_nil_iff.mp hs c hc)
    obtain ⟨d, hd⟩ : ∃ d, (trimStart s).head? = some d := ⟨_, List.head?_eq_some_head hn⟩
    have hf := not_isBlank_head_trimStart hd
    rw [h d (List.mem_of_head? hd)] at hf
    cases hf
  · intro h c hc
    exact h c ((List.dropWhile_suffix _).subset hc)

/-- The text begins and ends with something that is not blank, if it has characters. -/
def NoBlankEnds (s : List Char) : Prop :=
  (∀ c, s.head? = some c → isBlank c = false) ∧ ∀ c, s.getLast? = some c → isBlank c = false

theorem trim_eq_self {s : List Char} (h : NoBlankEnds s) : trim s = s := by
  rw [trim, trimStart_eq_self h.1, trimEnd_eq_self h.2]

theorem noBlankEnds_trim (s : List Char) : NoBlankEnds (trim s) := by
  refine ⟨fun c hc => ?_, fun c hc => not_isBlank_last_trimEnd hc⟩
  -- What is left of the trimmed start is a beginning of it.
  obtain ⟨rest, hr⟩ := trimEnd_prefix (trimStart s)
  have hh : (trimStart s).head? = some c := by
    rw [← hr, List.head?_append, ← trim, hc]
    rfl
  exact not_isBlank_head_trimStart hh

theorem noBlankEnds_of_forall {s : List Char} (h : ∀ c ∈ s, isBlank c = false) :
    NoBlankEnds s :=
  ⟨fun c hc => h c (List.mem_of_head? hc), fun c hc => h c (List.mem_of_getLast? hc)⟩

theorem NoBlankEnds.append {s t : List Char} (hs : NoBlankEnds s) (ht : NoBlankEnds t)
    (hs0 : s ≠ []) (ht0 : t ≠ []) : NoBlankEnds (s ++ t) := by
  constructor
  · intro c hc
    rw [List.head?_append, List.head?_eq_some_head hs0, Option.some_or] at hc
    exact hs.1 c (by rw [List.head?_eq_some_head hs0, hc])
  · intro c hc
    rw [List.getLast?_append, List.getLast?_eq_some_getLast ht0, Option.some_or] at hc
    exact ht.2 c (by rw [List.getLast?_eq_some_getLast ht0, hc])

/-! ## Strings -/

theorem trimmed_eq_empty_iff {s : String} :
    trimmed s = "" ↔ ∀ c ∈ s.toList, isBlank c = true := by
  rw [← trim_eq_nil_iff, trimmed]
  constructor
  · intro h
    simpa using congrArg String.toList h
  · intro h
    rw [h]

end Tabular.Text
