import Tabular.Number.Layout

set_option autoImplicit false

/-! # JSON values

An object keeps its members as they were written, repeated keys included: whether a repeated key
is an error or replaces the earlier value is for the reader of the object to say
(`Json.merged`).
-/

namespace Tabular

namespace Json

/-- A JSON number: an integer written without point and power of ten that fits 64 bits, or a
floating-point number. -/
inductive Numeral where
  | whole (i : Int)
  | decimal (x : Number)
deriving DecidableEq

def Numeral.toNumber : Numeral → Number
  | .whole i => Number.ofInt i
  | .decimal x => x

end Json

inductive Json where
  | null
  | bool (b : Bool)
  | number (n : Json.Numeral)
  | string (s : String)
  | array (items : List Json)
  | object (members : List (String × Json))

/-- Why a JSON text could not be read. -/
inductive Json.Fault where
  /-- The text is not JSON. -/
  | malformed
  /-- The text ends too early. -/
  | ended
  /-- The text is JSON so far, but not of the expected shape. -/
  | shape
  /-- There is no text to read. -/
  | unreadable
deriving DecidableEq, Repr

namespace Json

instance : Inhabited Json := ⟨.null⟩

def string? : Json → Option String
  | .string s => some s
  | _ => none

def strings? : Json → Option (List String)
  | .array items => items.mapM string?
  | _ => none

/-- A value that may be left out or be null. -/
def optional {α : Type} (read : Json → Option α) : Option Json → Option (Option α)
  | none | some .null => some none
  | some j => (read j).map some

/-- A value that may be left out, with what it then is. -/
def orElse {α : Type} (read : Json → Option α) (default : α) : Option Json → Option α
  | none => some default
  | some j => read j

end Json

end Tabular
