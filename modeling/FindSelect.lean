import FindSelect.Session
import FindSelect.Main
import FindSelect.Proofs.Filter.Leaves
import FindSelect.Proofs.Filter.Canonical
import FindSelect.Proofs.Filter.Skeleton
import FindSelect.Proofs.Filter.Alike
import FindSelect.Proofs.Projection.Resolution
import FindSelect.Proofs.Decimal.Digits
import FindSelect.Proofs.Json.Scalars
import FindSelect.Proofs.Json.Numbers
import FindSelect.Proofs.Json.Shape
import FindSelect.Proofs.Json.Written
import FindSelect.Proofs.Json.Decoding
import FindSelect.Proofs.Json.Records
import FindSelect.Proofs.Statement.RoundTrip
import FindSelect.Proofs.Call.RoundTrip
import FindSelect.Proofs.Call.Parts
import FindSelect.Proofs.Call.Alike
import FindSelect.Proofs.Call.SchemaOrder
import FindSelect.Proofs.Call.SchemaGrowth
import FindSelect.Proofs.Call.Building
import FindSelect.Proofs.Overwriting
import FindSelect.Proofs.Session.Parts
import FindSelect.Proofs.Session.Closure
import FindSelect.Proofs.Text.Delimited
import FindSelect.Proofs.Statement.Literal
import FindSelect.Proofs.Statement.Unambiguous
import FindSelect.Proofs.Projection.Outcome
import FindSelect.Proofs.Filter.Keys
import FindSelect.Proofs.Json.Indented
import FindSelect.Proofs.Json.Results
import FindSelect.Proofs.Call.Reading
import FindSelect.Proofs.Toml.Settings
import FindSelect.Proofs.CommandLine.Outcome
import FindSelect.Proofs.CommandLine.Loading
import FindSelect.Proofs.CommandLine.Words
import FindSelect.Proofs.CommandLine.Spelling
import FindSelect.Proofs.CommandLine.Printed
import FindSelect.Proofs.Call.Document
import FindSelect.Proofs.CommandLine.EntryPoints
import FindSelect.Proofs.Schema.RoundTrip
import FindSelect.Proofs.CommandLine.Files
import FindSelect.Proofs.Filter.Regrouping
import FindSelect.Proofs.Sort.Forms
import FindSelect.Proofs.Text.EditDistance
import FindSelect.Proofs.Schema.Resolution
import FindSelect.Proofs.Statement.Quoting
