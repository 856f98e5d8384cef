import Tabular.Error
import Tabular.Number.Arithmetic
import Tabular.Table
import Tabular.Text.Case

set_option autoImplicit false

/-! # Aggregation

The rows are grouped by the text of one column; a blank cell belongs to the group `(Blank)`.
Each group gives one record, in the order in which groups first appear: the group's label, and a
number reduced from the cells of another column that stand for numbers.

All groups are counted in one pass over the rows, in a list of tallies under their labels.
-/

namespace Tabular

/-- How the numbers of a group are reduced. -/
inductive AggregateFunction where
  | count
  | sum
  | average
  | min
  | max
deriving DecidableEq, Repr

namespace AggregateFunction

def all : List AggregateFunction := [.count, .sum, .average, .min, .max]

def name : AggregateFunction → String
  | .count => "COUNT"
  | .sum => "SUM"
  | .average => "AVERAGE"
  | .min => "MIN"
  | .max => "MAX"

def ofExact? (name : String) : Option AggregateFunction := all.find? fun f => f.name = name

/-- The function of a name, in any case; the average has three names. -/
def ofName? (name : String) : Except Error AggregateFunction :=
  match Text.uppered (Text.trimmed name) with
  | "COUNT" => .ok .count
  | "SUM" => .ok .sum
  | "AVERAGE" | "AVG" | "MEAN" => .ok .average
  | "MIN" => .ok .min
  | "MAX" => .ok .max
  | _ => .error (.unknownFunction name)

/-- The result for a group of so many rows with these numbers. A group without numbers has no
least and no greatest one, and its average is zero. -/
def reduce (f : AggregateFunction) (rows : Nat) (numbers : List Number) : Option Number :=
  match f, numbers with
  | .count, _ => some (.ofNat rows)
  | .sum, numbers => some (Number.sum numbers)
  | .average, [] => some .zero
  | .average, numbers => some ((Number.sum numbers).div (.ofNat numbers.length))
  | .min, [] => none
  | .min, x :: rest => some (rest.foldl Number.min x)
  | .max, [] => none
  | .max, x :: rest => some (rest.foldl Number.max x)

theorem ofExact?_name (f : AggregateFunction) : ofExact? f.name = some f := by
  cases f <;> rfl

def column (f : AggregateFunction) (value : String) : String := f.name ++ "_" ++ value

end AggregateFunction

namespace Aggregate

/-- The label of the group of blank cells. -/
def blankLabel : String := "(Blank)"

/-- The label of the group that a cell puts its row in. -/
def label (c : Cell) : String := if c.isBlank then blankLabel else c.toText

/-- What is counted of a group: its rows, and their numbers, the last one first. -/
structure Tally where
  rows : Nat := 0
  numbers : List Number := []
deriving DecidableEq

/-- The tally with one more row, which may have a number. -/
def Tally.add (tally : Tally) (number? : Option Number) : Tally :=
  ⟨tally.rows + 1, number?.toList ++ tally.numbers⟩

/-- The tallies with one more row, which is added to the one of its label. A label that is new
goes to the end. -/
def count (group value : String) (tallies : List (String × Tally)) (r : Record) :
    List (String × Tally) :=
  let l := label (r.get group)
  putPair l (((tallies.lookup l).getD {}).add (r.get value).number?) tallies

def tallies (t : Table) (group value : String) : List (String × Tally) :=
  t.foldl (count group value) []

def resultCell : Option Number → Cell
  | some x => .number x
  | none => .empty

def groupRecord (group value : String) (f : AggregateFunction) (l : String) (tally : Tally) :
    Record :=
  (Record.empty.put group (.text l)).put (f.column value)
    (resultCell (f.reduce tally.rows tally.numbers.reverse))

end Aggregate

/-- One record for each group. -/
def Table.aggregate (t : Table) (group value : String) (f : AggregateFunction) : Table :=
  (Aggregate.tallies t group value).map fun p => Aggregate.groupRecord group value f p.1 p.2

end Tabular
