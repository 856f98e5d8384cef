import Tabular.Xml.Event

set_option autoImplicit false

/-! # Texts in workbook files

A text is held by an element as one plain part or as runs, which are formatted differently; it
may have hints on its pronunciation, which are no part of it. The texts of many cells are kept in
one document, and the cells refer to them by their numbers.

A loop is bounded by the events that it started with: it drops an event of its bound for each
part that it reads. Every reader ends at a closing tag, and a document that ends before it is
refused.
-/

namespace Tabular.Workbook

open Text Xml

/-- Reads the text up to a closing tag. Other tags are passed over. -/
def readTextUntil? (name : List Symbol) : List Event → Option (String × List Event)
  | [] | .fault :: _ => none
  | .text s :: rest => do
    let s ← unescape? s
    let (more, rest) ← readTextUntil? name rest
    some (s ++ more, rest)
  | .closing n :: rest => if n = name then some ("", rest) else readTextUntil? name rest
  | .opening .. :: rest => readTextUntil? name rest

/-- What follows the closing tag of an element, inside of which so many elements of the same name
are open. -/
def afterElement? (name : List Symbol) : (depth : Nat) → List Event → Option (List Event)
  | _, [] | _, .fault :: _ => none
  | depth, .text _ :: rest => afterElement? name depth rest
  | depth, .opening n _ :: rest => afterElement? name (if n = name then depth + 1 else depth) rest
  | 0, .closing n :: rest => if n = name then some rest else afterElement? name 0 rest
  | depth + 1, .closing n :: rest =>
    afterElement? name (if n = name then depth else depth + 1) rest

/-- Reads the text of an element: its first plain part, or its runs once one has been met. Gives
`none` as the text of an element without either. -/
def readTextWithin (name : List Symbol) :
    (bound : List Event) → (runs : Option String) → (pronunciation : Bool) → List Event →
      Option (Option String × List Event)
  | [], _, _, _ | _, _, _, [] | _, _, _, .fault :: _ => none
  | _ :: bound, runs, pronunciation, .text _ :: rest =>
    readTextWithin name bound runs pronunciation rest
  | _ :: bound, runs, pronunciation, .closing n :: rest =>
    if n = name then some (runs, rest)
    else readTextWithin name bound runs (pronunciation && !isLocal "rPh" n) rest
  | _ :: bound, runs, pronunciation, .opening n _ :: rest =>
    if isLocal "t" n && !pronunciation then do
      let (s, rest) ← readTextUntil? n rest
      match runs with
      | some run => readTextWithin name bound (some (run ++ s)) pronunciation rest
      | none => some (some s, ← afterElement? name 0 rest)
    else
      let runs := if isLocal "r" n then runs.or (some "") else runs
      readTextWithin name bound runs (pronunciation || isLocal "rPh" n) rest

def readText? (name : List Symbol) (events : List Event) : Option (Option String × List Event) :=
  readTextWithin name events none false events

/-- Reads the shared texts. An element without a text is not counted. -/
def sharedTextsWithin : (bound : List Event) → List Event → Option (List String)
  | [], _ | _, [] | _, .fault :: _ => none
  | _ :: bound, .text _ :: rest => sharedTextsWithin bound rest
  | _ :: bound, .closing n :: rest =>
    if isLocal "sst" n then some [] else sharedTextsWithin bound rest
  | _ :: bound, .opening n _ :: rest =>
    if isLocal "si" n then do
      let (s, rest) ← readText? n rest
      let more ← sharedTextsWithin bound rest
      some (s.toList ++ more)
    else sharedTextsWithin bound rest

def sharedTexts? (events : List Event) : Option (Array String) :=
  (sharedTextsWithin events events).map List.toArray

end Tabular.Workbook
