import Tabular.Text.CharacterClass
import Tabular.Text.Encoding
import Tabular.Xml.Event

set_option autoImplicit false

/-! # Encodings of documents

A document is in UTF-8 unless the declaration at its start names another encoding. Western
characters are read too. A document whose characters take two bytes each is a fault as a whole: no
tag of it could be told.
-/

namespace Tabular.Xml

open Text

/-- How the bytes of a document stand for characters. -/
inductive Encoding where
  | utf8
  | western
  /-- Two bytes are a character. -/
  | wide
deriving DecidableEq

/-- The names of encodings with two bytes for a character. -/
def wideLabels : List String := [
  "utf-16", "utf-16le", "utf-16be", "unicode", "ucs-2", "iso-10646-ucs-2", "csunicode",
  "unicodefeff", "unicodefffe"]

/-- The encoding of a name, which may have capital letters and blanks around it. A name that is
not known changes nothing. -/
def Encoding.ofLabel (label : List Char) : Encoding :=
  let name := String.ofList ((trim label).map Char.toLower)
  if name ∈ westernLabels then .western else if name ∈ wideLabels then .wide else .utf8

/-- A document starts like one with two bytes for a character: with a mark of their order, or
with an instruction. -/
def startsWide (bytes : ByteArray) : Bool :=
  match (bytes.extract 0 4).data.toList with
  | 0xFF :: 0xFE :: _ | 0xFE :: 0xFF :: _ | [0x00, 0x3C, 0x00, 0x3F] | [0x3C, 0x00, 0x3F, 0x00] =>
    true
  | _ => false

/-- The attributes of the declaration at the start of a document, if it has one. -/
def declaration? (s : List Symbol) : Option (List Symbol) :=
  if s.take 5 = symbolsOf "<?xml" ∧ ((s.drop 5).take 1).all isSpace then
    some (((s.drop 5).takeWhile (· ≠ some '>')).dropLast)
  else none

def Encoding.declared (s : List Symbol) : Encoding :=
  match (declaration? s).bind fun tag => (valueOf? "encoding" (anyAttributes tag)).join with
  | some label => .ofLabel (label.filterMap id)
  | none => .utf8

/-- The bytes of a document without a mark of the byte order of UTF-8. -/
def withoutMark (bytes : ByteArray) : ByteArray :=
  if (bytes.extract 0 3).data = #[0xEF, 0xBB, 0xBF] then bytes.extract 3 bytes.size else bytes

def documentEvents (bytes : ByteArray) : List Event :=
  let bytes := withoutMark bytes
  let s := symbols bytes
  if startsWide bytes then [.fault]
  else match Encoding.declared s with
    | .utf8 => events s
    | .western => events (westernSymbols bytes)
    | .wide => [.fault]

end Tabular.Xml
