import Tabular.Number.Layout
import Tabular.Number.Numeral

set_option autoImplicit false

/-! # Cells

A cell is empty, a number or a text. The empty text is not the empty cell. Two readings connect
the kinds: every cell has a text (`Cell.toText`), and a cell may have a number (`Cell.number?`),
a text through the number it starts with.
-/

namespace Tabular

inductive Cell where
  | empty
  | number (x : Number)
  | text (s : String)
deriving DecidableEq

namespace Cell

instance : Inhabited Cell := ⟨.empty⟩

/-- The cell of a field of delimited text: empty, or a finite number when the trimmed field is a
numeral, or the field as it stands. -/
def infer (field : String) : Cell :=
  if field = "" then .empty
  else match Number.ofNumeral? (Text.trim field.toList) with
    | some x => if x.isFinite then .number x else .text field
    | none => .text field

/-- The number that a cell stands for; NaN stands for none. -/
def number? : Cell → Option Number
  | .empty => none
  | .number x => if x.isNan then none else some x
  | .text s => Number.ofText? s

def toText : Cell → String
  | .empty => ""
  | .number x => x.toText
  | .text s => s

/-- A blank cell is empty or holds the empty text. -/
def isBlank : Cell → Bool
  | .empty => true
  | .number _ => false
  | .text s => s = ""

@[simp] theorem infer_empty : infer "" = .empty := rfl

@[simp] theorem toText_text (s : String) : (Cell.text s).toText = s := rfl

@[simp] theorem toText_empty : Cell.empty.toText = "" := rfl

/-- Inference loses no text: a field that is not read as a number keeps its characters. -/
theorem infer_eq_text_or (field : String) :
    infer field = .empty ∨ infer field = .text field ∨
      ∃ x, infer field = .number x ∧ x.isFinite = true := by
  unfold infer
  split
  · exact .inl rfl
  · split
    · split
      · rename_i x _ h; exact .inr (.inr ⟨x, rfl, h⟩)
      · exact .inr (.inl rfl)
    · exact .inr (.inl rfl)

end Cell

end Tabular
