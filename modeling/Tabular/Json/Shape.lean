import Tabular.Json.Value
import Tabular.Table

set_option autoImplicit false

/-! # Shapes of JSON values

A structure is written as an object and may also be given as an array of its fields in order.
Unknown members are passed over, a repeated field is refused. An alternative without content is
written as its name, and may also be given as an object that maps the name to nothing.
-/

namespace Tabular.Json

def valuesOf (key : String) (members : List (String × Json)) : List Json :=
  (members.filter fun m => m.1 = key).map Prod.snd

/-- The fields of a structure, by their names in order; `none` where a field is left out. -/
def fields? (names : List String) : Json → Option (List (Option Json))
  | .object members => names.mapM fun name =>
    match valuesOf name members with
    | [] => some none
    | [value] => some (some value)
    | _ => none
  | .array items =>
    if items.length ≤ names.length then
      some (items.map some ++ List.replicate (names.length - items.length) none)
    else none
  | _ => none

/-- The name of an alternative without content. -/
def variant? : Json → Option String
  | .string name => some name
  | .object [(name, .null)] | .object [(name, .object [])] => some name
  | _ => none

/-- The tag of a tagged alternative and what else it holds. -/
def tagged? (tag : String) : Json → Option (Json × Json)
  | .object members =>
    match valuesOf tag members with
    | [value] => some (value, .object (members.filter fun m => m.1 ≠ tag))
    | _ => none
  | .array (value :: rest) => some (value, .array rest)
  | _ => none

def required {α : Type} (read : Json → Option α) (field : Option Json) : Option α :=
  field.bind read

mutual

/-- The value with each repeated key in its first place and with its last value. -/
def merged : Json → Json
  | .array items => .array (mergedItems items)
  | .object members => .object (putPairs (mergedMembers members))
  | j => j

def mergedItems : List Json → List Json
  | [] => []
  | item :: rest => merged item :: mergedItems rest

def mergedMembers : List (String × Json) → List (String × Json)
  | [] => []
  | (key, value) :: rest => (key, merged value) :: mergedMembers rest

end

end Tabular.Json
