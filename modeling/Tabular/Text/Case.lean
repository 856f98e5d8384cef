import Tabular.Text.CaseTable
import Tabular.Text.SigmaTable

set_option autoImplicit false

/-! # Comparing texts

The full case mappings, in which one letter may become several (`ß` is `SS` in upper case). The
only letter whose lower case depends on its neighbours is the capital sigma: at the end of a
word, after a letter and before none, it becomes `ς`.

A text can hold another one at its start, at its end or anywhere; the lemmas say so in terms of
the list relations `<+:`, `<:+` and `<:+:`.
-/

namespace Tabular.Text

/-! ## Upper and lower case -/

/-- The lower case of a letter on its own. -/
def lowerChar (c : Char) : List Char :=
  if c.toNat < 0x80 then [c.toLower]
  else match lowerSequences.lookup c.toNat with
    | some sequence => sequence.map Char.ofNat
    | none => [(mapRun? lowerRuns c).getD c]

def upperChar (c : Char) : List Char :=
  if c.toNat < 0x80 then [c.toUpper]
  else match upperSequences.lookup c.toNat with
    | some sequence => sequence.map Char.ofNat
    | none => [(mapRun? upperRuns c).getD c]

/-- The first character that is not passed over is a letter with case. -/
def letterAhead (s : List Char) : Bool :=
  match s.dropWhile caseIgnorables.has with
  | [] => false
  | c :: _ => casedLetters.has c

/-- A sigma after `before`, read backwards, and before `after` ends a word. -/
def endsWord (before after : List Char) : Bool := letterAhead before && !letterAhead after

/-- The lower case of a text that follows `before`, read backwards. -/
def lowerAfter (before : List Char) : List Char → List Char
  | [] => []
  | c :: rest =>
    (if c = 'Σ' then [if endsWord before rest then 'ς' else 'σ'] else lowerChar c)
      ++ lowerAfter (c :: before) rest

/-- The lower case of a text. -/
def lower (s : List Char) : List Char := lowerAfter [] s

def upper (s : List Char) : List Char := s.flatMap upperChar

def lowered (s : String) : String := String.ofList (lower s.toList)

def uppered (s : String) : String := String.ofList (upper s.toList)

@[simp] theorem lower_nil : lower [] = [] := rfl

@[simp] theorem upper_nil : upper [] = [] := rfl

/-! ## A text in another -/

def startsWith (part text : List Char) : Bool := part.isPrefixOf text

def endsWith (part text : List Char) : Bool := part.isSuffixOf text

def occursIn (part : List Char) : List Char → Bool
  | [] => part.isEmpty
  | c :: rest => part.isPrefixOf (c :: rest) || occursIn part rest

theorem startsWith_iff {part text : List Char} : startsWith part text = true ↔ part <+: text := by
  simp [startsWith]

theorem endsWith_iff {part text : List Char} : endsWith part text = true ↔ part <:+ text := by
  simp [endsWith]

theorem occursIn_iff {part text : List Char} : occursIn part text = true ↔ part <:+: text := by
  induction text with
  | nil => simp [occursIn]
  | cons c rest ih => simp [occursIn, ih, List.infix_cons_iff]

end Tabular.Text
