set_option autoImplicit false

/-! # Markup

A document is an element: a name, attributes, and what is between its tags, elements and text.
`Xml.write` writes an element. A document that is read is not built as a whole: its reader takes
one tag or text after the other, as in `Tabular.Xml.Event`.
-/

namespace Tabular

/-- An element or a piece of text. -/
inductive Xml where
  | element (name : String) (attributes : List (String × String)) (children : List Xml)
  | text (s : String)
  /-- A text that is markup already. -/
  | verbatim (s : String)

namespace Xml

instance : Inhabited Xml := ⟨.text ""⟩

/-! ## Writing -/

def escaped (c : Char) : List Char :=
  if c = '&' then ['&', 'a', 'm', 'p', ';']
  else if c = '<' then ['&', 'l', 't', ';']
  else if c = '>' then ['&', 'g', 't', ';']
  else if c = '"' then ['&', 'q', 'u', 'o', 't', ';']
  else [c]

def escape (s : String) : String := String.ofList (s.toList.flatMap escaped)

def attributeText (a : String × String) : String := " " ++ a.1 ++ "=\"" ++ escape a.2 ++ "\""

mutual

def write : Xml → String
  | .text s => escape s
  | .verbatim s => s
  | .element name attributes children =>
    let tag := name ++ String.join (attributes.map attributeText)
    "<" ++ tag ++ ">" ++ writeAll children ++ "</" ++ name ++ ">"

def writeAll : List Xml → String
  | [] => ""
  | x :: rest => write x ++ writeAll rest

end

def documentText (root : Xml) : String :=
  "<?xml version=\"1.0\" encoding=\"UTF-8\" standalone=\"yes\"?>\n" ++ write root

end Xml

end Tabular
