import Tabular.Json.Writer
import Tabular.Json.Reader

set_option autoImplicit false

/-! # Texts in sheets

A text in a sheet may hold any character, but the markup it is kept in may hold neither controls
nor the two characters that are none. Such a character is written as `_xHHHH_` with its code
point, and so is an underscore that would start such a sequence. A reader takes the sequences as
they stand.
-/

namespace Tabular.Workbook.SheetText

def escapeSequence (n : Nat) : List Char :=
  '_' :: 'x' :: ([4096, 256, 16, 1].map fun unit => (Json.hexDigit (n / unit % 16)).toUpper) ++ ['_']

def startsEscaped : List Char → Bool
  | '_' :: 'x' :: a :: b :: c :: d :: '_' :: _ =>
    [a, b, c, d].all fun c => (Json.hexValue? c).isSome
  | _ => false

/-- A character that markup may not hold. Tabs and line feeds are allowed, carriage returns are
not. -/
def isRefused (c : Char) : Bool :=
  (c.toNat < 0x20 && c ≠ '\t' && c ≠ '\n') || c = '\ufffe' || c = '\uffff'

/-- A text as it is kept in a sheet. -/
def encode : List Char → List Char
  | [] => []
  | c :: rest =>
    (if isRefused c || startsEscaped (c :: rest) then escapeSequence c.toNat else [c])
      ++ encode rest

/-- A text is kept as it is when nothing in it has to be escaped. -/
theorem encode_eq_self {s : List Char} (refused : ∀ c ∈ s, isRefused c = false)
    (escaped : ∀ t, t <:+ s → startsEscaped t = false) : encode s = s := by
  induction s with
  | nil => rfl
  | cons c rest ih =>
    rw [encode, refused c (by simp), escaped (c :: rest) (List.suffix_refl _),
      ih (fun d hd => refused d (by simp [hd]))
        (fun t ht => escaped t (ht.trans (List.suffix_cons c rest)))]
    rfl

end Tabular.Workbook.SheetText
