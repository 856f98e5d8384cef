import Tabular.Digest.Sha256
import Tabular.Files
import Tabular.Table
import Tabular.Text.Encoding

set_option autoImplicit false

/-! # Where a table came from

A loaded file is known by its name, its format, its size and its digest.
-/

namespace Tabular

inductive SourceFormat where
  | csv
  | tsv
  | semicolon
  | pipe
  | delimited
  | json
  | xlsx
deriving DecidableEq, Repr

namespace SourceFormat

def ofDelimiter (delimiter : UInt8) : SourceFormat :=
  if delimiter = ',' then .csv
  else if delimiter = '\t' then .tsv
  else if delimiter = ';' then .semicolon
  else if delimiter = '|' then .pipe
  else .delimited

/-- The name that is shown. -/
def name : SourceFormat → String
  | .csv => "csv"
  | .tsv => "tsv"
  | .semicolon => "csv-semicolon"
  | .pipe => "psv"
  | .delimited => "delimited"
  | .json => "json"
  | .xlsx => "xlsx"

/-- The name that is stored. -/
def tag : SourceFormat → String
  | .csv => "csv"
  | .tsv => "tsv"
  | .semicolon => "semicolon"
  | .pipe => "pipe"
  | .delimited => "delimited"
  | .json => "json"
  | .xlsx => "xlsx"

end SourceFormat

/-- What is known of a loaded file. -/
structure Source where
  file : String
  path : String
  hash : String
  size : Nat
  format : SourceFormat
  rows : Nat
  columns : Nat
deriving DecidableEq

def Source.describe (path : String) (bytes : ByteArray) (format : SourceFormat) (t : Table) :
    Source where
  file := (Path.fileName? path).getD ""
  path := path
  hash := "sha256:" ++ Sha256.hex bytes
  size := bytes.size
  format := format
  rows := t.length
  columns := t.headers.length

end Tabular
