set_option autoImplicit false

/-! # Characters and bytes of a file

A file is a sequence of bytes that should be UTF-8. Delimited text is read byte by byte, with the
marks of its dialect among the bytes. The other formats are read as a list of symbols: a character
where the bytes encode one, and `none` for a byte that belongs to no character. A reader can so
refuse a stray byte where it matters and stop before it where it does not.

In the encoding windows-1252 each byte is a character. It has the characters of Latin 1 at their
own codes, and letters and punctuation at most of the codes from 80 to 9F, which are controls
there. What says that it is in Latin 1 or in ASCII is read in it as well.
-/

namespace Tabular.Text

/-! ## UTF-8 -/

/-- An ASCII character stands for its byte. -/
instance asciiByte : Coe Char UInt8 := ⟨Char.toUInt8⟩

/-- A character of a file, or a byte that belongs to none. -/
abbrev Symbol := Option Char

/-- The symbols of the bytes from position `i` on. -/
def symbolsFrom (bytes : ByteArray) (i : Nat) : List Symbol :=
  if _h : i < bytes.size then
    match bytes.utf8DecodeChar? i with
    | some c =>
      have : c.utf8Size > 0 := Char.utf8Size_pos c
      some c :: symbolsFrom bytes (i + c.utf8Size)
    | none => none :: symbolsFrom bytes (i + 1)
  else []
termination_by bytes.size - i

def symbols (bytes : ByteArray) : List Symbol := symbolsFrom bytes 0

def symbolsOf (s : String) : List Symbol := s.toList.map some

/-- The text of a list of symbols without stray bytes. -/
def textOf? (ss : List Symbol) : Option String := (ss.mapM id).map String.ofList

def symbolSize : Symbol → Nat
  | some c => c.utf8Size
  | none => 1

/-! ## Western characters -/

/-- The characters at the codes from 80 to 9F. -/
def westernMarks : List Char := [
  '\u20ac', '\u0081', '\u201a', '\u0192', '\u201e', '\u2026', '\u2020', '\u2021',
  '\u02c6', '\u2030', '\u0160', '\u2039', '\u0152', '\u008d', '\u017d', '\u008f',
  '\u0090', '\u2018', '\u2019', '\u201c', '\u201d', '\u2022', '\u2013', '\u2014',
  '\u02dc', '\u2122', '\u0161', '\u203a', '\u0153', '\u009d', '\u017e', '\u0178']

def westernChar (b : UInt8) : Char :=
  if b < 0x80 then Char.ofNat b.toNat
  else (westernMarks[b.toNat - 0x80]?).getD (Char.ofNat b.toNat)

def westernSymbols (bytes : ByteArray) : List Symbol :=
  bytes.data.toList.map fun b => some (westernChar b)

def westernLabels : List String := [
  "ansi_x3.4-1968", "ascii", "cp1252", "cp819", "csisolatin1", "ibm819", "iso-8859-1",
  "iso-ir-100", "iso8859-1", "iso88591", "iso_8859-1", "iso_8859-1:1987", "l1", "latin1",
  "us-ascii", "windows-1252", "x-cp1252"]

end Tabular.Text
