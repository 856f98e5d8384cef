import Tabular.Xml.Attribute

set_option autoImplicit false

/-! # Reading markup

A document is read as a list of events: opening tags, closing tags and texts. Declarations,
comments and marked sections are passed over. The list ends where the document ends, or with a
fault where it is no markup, so that a reader which stops earlier does not notice the fault.
Whether the tags match is left to the reader.
-/

namespace Tabular.Xml

open Text

/-- A part of a document. -/
inductive Event where
  | opening (name attributes : List Symbol)
  | closing (name : List Symbol)
  | text (content : List Symbol)
  | fault
deriving DecidableEq

/-! ## Names -/

/-- A name without what stands before its first colon, which only says whose name it is. -/
def localName (name : List Symbol) : List Symbol :=
  if some ':' ∈ name then (name.dropWhile (· ≠ some ':')).drop 1 else name

def isLocal (expected : String) (name : List Symbol) : Bool :=
  localName name == symbolsOf expected

/-! ## Parts that are passed over -/

/-- Splits before the first closing bracket at which the text before it, given backwards, can
end. -/
def splitClosing? (canEnd : List Symbol → Bool) (before : List Symbol) :
    List Symbol → Option (List Symbol × List Symbol)
  | [] => none
  | c :: rest =>
    if c = some '>' ∧ canEnd before then some (before.reverse, rest)
    else splitClosing? canEnd (c :: before) rest

/-- Two dashes end a comment, and they are not the first two. -/
def endsComment : List Symbol → Bool
  | some '-' :: some '-' :: _ :: _ :: _ => true
  | _ => false

/-- Two square brackets end a marked section. -/
def endsSection : List Symbol → Bool
  | some ']' :: some ']' :: _ => true
  | _ => false

/-- A type of documents ends where as many brackets have been closed as opened. -/
def endsType (before : List Symbol) : Bool := before.count (some '<') = before.count (some '>')

/-- A text starts with a word, in either case of its letters. -/
def startsWithWord (word : String) (s : List Symbol) : Bool :=
  (s.take word.length).map (Option.map Char.toLower) = (symbolsOf word).map (Option.map Char.toLower)

/-- What follows a comment, a marked section or a type of documents, which is given behind its
first bracket and its exclamation mark. -/
def afterDeclaration? (s : List Symbol) : Option (List Symbol) :=
  match s with
  | some '-' :: _ => do
    let (content, after) ← splitClosing? endsComment [] s
    if startsWithWord "--" content then some after else none
  | some '[' :: _ => do
    let (content, after) ← splitClosing? endsSection [] s
    if startsWithWord "[CDATA[" content then some after else none
  | some 'D' :: _ | some 'd' :: _ => do
    let (content, after) ← splitClosing? endsType [] s
    if startsWithWord "DOCTYPE" content ∧ !(content.drop 7).all isSpace then some after else none
  | _ => none

/-- What follows an instruction, which is given behind its first bracket and its question mark. It
ends at the first closing bracket and has a question mark before it. -/
def afterInstruction? (s : List Symbol) : Option (List Symbol) :=
  match (s.takeWhile (· ≠ some '>')).reverse with
  | some '?' :: _ :: _ => some ((s.dropWhile (· ≠ some '>')).drop 1)
  | _ => none

/-! ## Tags -/

/-- What is inside a tag and what follows it. A closing bracket between quotes does not end the
tag; the quote is `none` outside of quotes. -/
def splitTag (quote : Symbol) : List Symbol → List Symbol × List Symbol
  | [] => ([], [])
  | c :: rest =>
    if quote = none ∧ c = some '>' then ([], rest)
    else
      let isQuote := c = some '"' ∨ c = some '\''
      let next := if quote = none then (if isQuote then c else none)
        else if c = quote then none else quote
      let (content, after) := splitTag next rest
      (c :: content, after)

def openingOf (content : List Symbol) : Event :=
  let name := content.takeWhile fun c => !isSpace c
  .opening name (content.drop name.length)

/-- The events of the content of a tag: an element that is closed at once has two. -/
def tagEvents (content : List Symbol) : List Event :=
  if content.getLast? = some (some '/') then
    let tag := content.dropLast
    [openingOf tag, .closing (tag.takeWhile fun c => !isSpace c)]
  else [openingOf content]

/-- The name in a closing tag, without the blanks behind it. -/
def closingName (content : List Symbol) : List Symbol :=
  (content.reverse.dropWhile isSpace).reverse

/-! ## Documents -/

/-- Reads the events of a document. The loop drops a symbol of its bound for each part. -/
def eventsWithin : (bound : List Symbol) → List Symbol → List Event
  | [], _ | _, [] | _, [some '<'] => []
  | _ :: bound, some '<' :: some '!' :: rest => match afterDeclaration? rest with
    | some after => eventsWithin bound after
    | none => [.fault]
  | _ :: bound, some '<' :: some '?' :: rest => match afterInstruction? rest with
    | some after => eventsWithin bound after
    | none => [.fault]
  | _ :: bound, some '<' :: some '/' :: rest =>
    .closing (closingName (rest.takeWhile (· ≠ some '>')))
      :: eventsWithin bound ((rest.dropWhile (· ≠ some '>')).drop 1)
  | _ :: bound, some '<' :: rest =>
    let (content, after) := splitTag none rest
    tagEvents content ++ eventsWithin bound after
  | _ :: bound, s =>
    .text (s.takeWhile (· ≠ some '<')) :: eventsWithin bound (s.dropWhile (· ≠ some '<'))

def events (s : List Symbol) : List Event := eventsWithin s s

end Tabular.Xml
