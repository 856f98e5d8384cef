set_option autoImplicit false

/-! # Styled text

A report is a list of lines, and a line is a list of spans: pieces of text with a style and a
least width. The same report is rendered for a terminal, where a style is an escape sequence
before the text and a reset after it, and for a file, where styles leave no trace.
-/

namespace Tabular.Report

/-- The colours of a terminal that reports use. -/
inductive Colour where
  | green
  | yellow
  | blue
  | cyan
  | white
deriving DecidableEq, Repr

def Colour.code : Colour → String
  | .green => "32"
  | .yellow => "33"
  | .blue => "34"
  | .cyan => "36"
  | .white => "37"

structure Style where
  bold : Bool := false
  dimmed : Bool := false
  colour : Option Colour := none
deriving DecidableEq, Repr

namespace Style

/-- The codes of a style; the colour comes last. -/
def codes (style : Style) : List String :=
  (if style.bold then ["1"] else []) ++ (if style.dimmed then ["2"] else [])
    ++ (style.colour.map Colour.code).toList

def reset : String := "\x1b[0m"

def start (style : Style) : String := "\x1b[" ++ ";".intercalate style.codes ++ "m"

end Style

structure Span where
  text : String
  style : Style := {}
  /-- The number of characters that the text is filled up to with blanks. -/
  width : Nat := 0
deriving DecidableEq, Repr

/-- A text without style. -/
instance : Coe String Span := ⟨fun text => { text }⟩

def padded (width : Nat) (text : String) : String :=
  text ++ String.ofList (List.replicate (width - text.length) ' ')

namespace Span

def plain (s : Span) : String := padded s.width s.text

/-- The text in its style. A reset inside the text would end the style, so the style is started
again after it. -/
def styled (s : Span) : String :=
  if s.style.codes = [] then s.plain
  else
    let text := (Style.reset ++ s.style.start).intercalate (s.text.splitOn Style.reset)
    s.style.start ++ padded s.width text ++ Style.reset

end Span

abbrev Line := List Span

def Line.render (styles : Bool) (line : Line) : String :=
  String.join (line.map fun s => if styles then s.styled else s.plain)

def render (styles : Bool) (lines : List Line) : String :=
  String.join (lines.map fun line => line.render styles ++ "\n")

/-! ## Styles of reports -/

def heading (text : String) : Span := { text, style := { bold := true, colour := some .yellow } }

/-- The word that says what is going on. -/
def activity (text : String) : Span := { text, style := { bold := true, colour := some .cyan } }

def strong (text : String) : Span := { text, style := { bold := true, colour := some .white } }

def named (text : String) : Span := { text, style := { colour := some .white } }

def faint (text : String) : Span := { text, style := { dimmed := true } }

/-- The number of an item in a list, and a point. -/
def itemNumber (n : Nat) : String :=
  let digits := toString n
  String.ofList (List.replicate (2 - digits.length) ' ') ++ digits ++ "."

end Tabular.Report
