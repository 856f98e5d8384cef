import Tabular.Collation.Element
import Tabular.Text.Decomposition

set_option autoImplicit false

/-! # Collation

Texts are ordered by their letters, then by marks, then by case and form, then by punctuation,
and at last by code points. A *key* holds the weights of each level; a list of weights that is a
proper start of another is less.

Two texts that begin with plain letters and digits are compared without keys (`quick`): the
first different letter decides, whatever its case, a shorter text is less, and between texts of
one length the first difference in case, small before capital. Keys decide only when a character
of another kind is met before that.
-/

namespace Tabular.Collation

open Text

/-! ## Keys -/

/-- Drops the elements that do not count: those without primary weight after a variable element,
up to the next element with one, and those without any case weight. -/
def shift : (afterVariable : Bool) → List Element → List Element
  | _, [] => []
  | afterVariable, e :: rest =>
    if e.isVariable then e :: shift true rest
    else if e.primary = 0 then
      if afterVariable || e.tertiary = 0 then shift afterVariable rest
      else e :: shift afterVariable rest
    else e :: shift false rest

def weights (es : List Element) (weight : Element → Nat) : List Nat :=
  (es.map weight).filter (· ≠ 0)

/-- The weights of a text, level by level. -/
def key (s : List Char) : List (List Nat) :=
  let es := shift false (elements (decompose s))
  let plain := es.filter fun e => !e.isVariable
  [ weights plain Element.primary,
    weights plain Element.secondary,
    weights plain Element.tertiary,
    weights (es.filter fun e => e.isVariable || e.tertiary != 0) Element.primary,
    s.map Char.toNat ]

/-- Compares lists of weights; a proper start is less. -/
def compareWeights : List Nat → List Nat → Ordering
  | [], [] => .eq
  | [], _ :: _ => .lt
  | _ :: _, [] => .gt
  | x :: xs, y :: ys => (compare x y).then (compareWeights xs ys)

/-- Compares keys, the first level that differs deciding. -/
def compareKeys : List (List Nat) → List (List Nat) → Ordering
  | x :: xs, y :: ys => (compareWeights x y).then (compareKeys xs ys)
  | _, _ => .eq

/-! ## Plain letters and digits -/

/-- The order when one text has ended: the shorter is less, and then the case decides. -/
def atEnd (a b : List Char) (byCase : Ordering) : Ordering := (compare a.length b.length).then byCase

/-- Compares texts as far as they are plain letters and digits; `none` when another character
decides. `byCase` is the first difference in case, `eq` as long as there is none. The second
text is not looked at any more where the first one ends. -/
def quick (byCase : Ordering) : List Char → List Char → Option Ordering
  | [], b => some (atEnd [] b byCase)
  | x :: a, b =>
    if !x.isAlphanum then none
    else match b with
      | [] => some (atEnd (x :: a) [] byCase)
      | y :: b =>
        if !y.isAlphanum then none
        else if x = y then quick byCase a b
        else if x.toLower = y.toLower then
          quick (byCase.then (if x.isLower then .lt else .gt)) a b
        else some (compare x.toUpper.toNat y.toUpper.toNat)

/-- The order of two texts. -/
def collate (a b : List Char) : Ordering :=
  if a = b then .eq
  else (quick .eq a b).getD (compareKeys (key a) (key b))

end Tabular.Collation
