import Tabular.Text.Encoding

set_option autoImplicit false

/-! # Delimited text

A file is read byte by byte. A record ends at a carriage return or a line feed, and empty
lines are no records. A quote opens a quoted part only at the start of a field; inside it every
byte counts but the quote, which is written twice. What follows the closing quote up to the
next delimiter belongs to the field as well, and a quoted part that is never closed runs to the
end of the file.

The reader never fails: any bytes may stand in a field, also those of a character that a quote
cuts in two, and only a field as it was read has to be UTF-8 when its text is asked for
(`Field.text?`). The delimiter and the quote may be any bytes.

A file is written in characters. Fields are separated by the delimiter and each record ends in a
line feed. A field is put in quotes when it holds the delimiter, a quote, a carriage return or a
line feed; its quotes are then written twice. A record that would be an empty line is written as
two quotes.
-/

namespace Tabular.Delimited

open Text

/-! ## Reading -/

/-- The bytes with a meaning. -/
structure Dialect where
  delimiter : UInt8
  quote : UInt8
deriving DecidableEq

abbrev Field := List UInt8

def Field.text? (field : Field) : Option String := String.fromUTF8? field.toByteArray

/-- Where the reader stands. -/
inductive Stage where
  /-- Before the first byte of a record. -/
  | recordStart
  /-- Before the first byte of a further field. -/
  | fieldStart
  /-- In a field, outside quotes. -/
  | plain
  /-- Inside quotes. -/
  | quoted
  /-- After a quote inside quotes. -/
  | closed
deriving DecidableEq, Repr

/-- What has been read: the field and the record under way, and the finished records, all
backwards. -/
structure Reading where
  stage : Stage
  field : Field
  row : List Field
  rows : List (List Field)

/-- The two bytes that end a record. -/
def isRecordEnd (x : UInt8) : Bool := x = '\n' || x = '\r'

namespace Reading

def start : Reading := ⟨.recordStart, [], [], []⟩

def push (r : Reading) (x : UInt8) (stage : Stage) : Reading :=
  { r with stage := stage, field := x :: r.field }

def endField (r : Reading) : Reading :=
  { r with stage := .fieldStart, field := [], row := r.field.reverse :: r.row }

def endRecord (r : Reading) : Reading :=
  ⟨.recordStart, [], [], (r.field.reverse :: r.row).reverse :: r.rows⟩

/-- Outside quotes: the delimiter, the end of the record, or a byte of the field. -/
def stepPlain (d : Dialect) (r : Reading) (x : UInt8) : Reading :=
  if x = d.delimiter then r.endField
  else if isRecordEnd x then r.endRecord
  else r.push x .plain

/-- At the start of a field a quote opens. -/
def stepField (d : Dialect) (r : Reading) (x : UInt8) : Reading :=
  if x = d.quote then { r with stage := .quoted } else r.stepPlain d x

def step (d : Dialect) (r : Reading) (x : UInt8) : Reading :=
  match r.stage with
  | .recordStart => if isRecordEnd x then r else r.stepField d x
  | .fieldStart => r.stepField d x
  | .plain => r.stepPlain d x
  | .quoted => if x = d.quote then { r with stage := .closed } else r.push x .quoted
  | .closed => if x = d.quote then r.push x .quoted else r.stepPlain d x

/-- The records when the file ends here. -/
def finish (r : Reading) : List (List Field) :=
  match r.stage with
  | .recordStart => r.rows.reverse
  | _ => r.endRecord.rows.reverse

def steps (d : Dialect) (r : Reading) (s : List UInt8) : Reading := s.foldl (step d) r

theorem steps_append (d : Dialect) (r : Reading) (s t : List UInt8) :
    r.steps d (s ++ t) = (r.steps d s).steps d t := by
  simp [steps]

end Reading

/-- The byte order mark. -/
def mark : List UInt8 := [0xEF, 0xBB, 0xBF]

/-- A byte order mark at the start of a file is no part of its text. -/
def dropMark (s : List UInt8) : List UInt8 := if mark <+: s then s.drop mark.length else s

def records (d : Dialect) (s : List UInt8) : List (List Field) :=
  (Reading.start.steps d (dropMark s)).finish

@[simp] theorem records_nil (d : Dialect) : records d [] = [] := rfl

/-! ## Writing -/

def needsQuotes (delimiter : Char) (field : List Char) : Bool :=
  field.any fun c => c = delimiter || c = '"' || c = '\r' || c = '\n'

def quote (field : List Char) : List Char :=
  '"' :: field.flatMap (fun c => if c = '"' then ['"', '"'] else [c]) ++ ['"']

def fieldText (delimiter : Char) (field : List Char) : List Char :=
  if needsQuotes delimiter field then quote field else field

def recordText (delimiter : Char) (fields : List (List Char)) : List Char :=
  let line := [delimiter].intercalate (fields.map (fieldText delimiter))
  (if line = [] then ['"', '"'] else line) ++ ['\n']

def fileText (delimiter : Char) (records : List (List (List Char))) : List Char :=
  records.flatMap (recordText delimiter)

end Tabular.Delimited
