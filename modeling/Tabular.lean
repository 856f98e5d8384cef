import Tabular.Main
import Tabular.Proofs.Session.Effect
import Tabular.Proofs.Session.History
import Tabular.Proofs.Pipeline.Sequence
import Tabular.Proofs.Session.Failure
import Tabular.Proofs.Session.RowSteps
import Tabular.Proofs.Pipeline.Failing
import Tabular.Proofs.Load.Rows
import Tabular.Proofs.Table.Sort
import Tabular.Proofs.Session.Columns
import Tabular.Proofs.Session.Report
import Tabular.Proofs.Number.Decimal
import Tabular.Proofs.Text.Utf8
import Tabular.Proofs.Number.Shortest
import Tabular.Proofs.Delimited.ReadBack
import Tabular.Proofs.Load.Names
import Tabular.Proofs.Load.Reload
import Tabular.Proofs.Load.ExportedTexts
import Tabular.Proofs.Delimited.Detection
import Tabular.Proofs.Load.DetectedExport
import Tabular.Proofs.Delimited.Separators
import Tabular.Proofs.Load.OwnNames
import Tabular.Proofs.Number.Exact
import Tabular.Proofs.Number.Monotone
import Tabular.Proofs.Number.Range
import Tabular.Proofs.Json.Scaling
import Tabular.Proofs.Json.NumberText
import Tabular.Proofs.Json.Reads
import Tabular.Proofs.Json.Containers
import Tabular.Proofs.Json.Table
import Tabular.Proofs.Load.JsonReload
import Tabular.Proofs.Files.Written
import Tabular.Proofs.Pipeline.Storing
import Tabular.Proofs.Table.Neighbours
import Tabular.Proofs.Load.Columns
import Tabular.Proofs.Load.WorkbookReload
import Tabular.Proofs.Load.Unreadable
import Tabular.Proofs.Files.Kept
import Tabular.Proofs.Export.Failing
import Tabular.Proofs.Workbook.Grid
import Tabular.Proofs.Program.Work
import Tabular.Proofs.Program.Output
import Tabular.Proofs.Text.Pattern
import Tabular.Proofs.Number.Spelling
import Tabular.Proofs.Number.LeadingPattern
import Tabular.Proofs.Number.Closest
import Tabular.Proofs.Number.Nearest
import Tabular.Proofs.Number.Denoted
import Tabular.Proofs.Table.Ordered
import Tabular.Proofs.Table.Stable
import Tabular.Proofs.Table.Arrangement
import Tabular.Proofs.Text.Collation
import Tabular.Proofs.Text.Joined
import Tabular.Proofs.Table.Duplicates
import Tabular.Proofs.Table.FirstSeen
import Tabular.Proofs.Hierarchy.Rows
import Tabular.Proofs.Hierarchy.Numbering
import Tabular.Proofs.Aggregate.Groups
import Tabular.Proofs.Aggregate.Reduction
import Tabular.Proofs.Aggregate.Labels
import Tabular.Proofs.Number.Reading
import Tabular.Proofs.Table.Readers
import Tabular.Proofs.Text.LowerCase
import Tabular.Proofs.Filter.Conjunction
import Tabular.Proofs.Filter.Literal
import Tabular.Proofs.Formula.Column
import Tabular.Proofs.Formula.Independence
import Tabular.Proofs.Number.Integer
import Tabular.Proofs.Formula.Counted
import Tabular.Proofs.Formula.Indeterminate
import Tabular.Proofs.Json.Scalars
import Tabular.Proofs.Json.Flat
import Tabular.Proofs.Load.JsonReadings
import Tabular.Proofs.Table.Collected
import Tabular.Proofs.Table.Transposed
import Tabular.Proofs.Number.Bits
import Tabular.Proofs.Table.Firsts
import Tabular.Proofs.Table.UniqueValues
import Tabular.Proofs.Formula.WholeNumbers
