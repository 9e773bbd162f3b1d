import BoundQuery.BindValue
import BoundQuery.Calendar.Date
import BoundQuery.Calendar.Reader
import BoundQuery.Calendar.Timestamp
import BoundQuery.Clause.Cast
import BoundQuery.Clause.Dialect
import BoundQuery.Clause.Fault
import BoundQuery.Clause.Query
import BoundQuery.Clause.Scope
import BoundQuery.Clause.Where
import BoundQuery.CommandLine.Arguments
import BoundQuery.CommandLine.Files
import BoundQuery.CommandLine.Listing
import BoundQuery.CommandLine.Program
import BoundQuery.Decimal.Double
import BoundQuery.Decimal.Layout
import BoundQuery.Decimal.Power
import BoundQuery.Decimal.Reader
import BoundQuery.Decimal.Shortest
import BoundQuery.Json.Basic
import BoundQuery.Json.Fault
import BoundQuery.Json.Literal
import BoundQuery.Json.Printer
import BoundQuery.Json.Reader
import BoundQuery.Json.Source
import BoundQuery.Keyed
import BoundQuery.Main
import BoundQuery.Pipeline.Context
import BoundQuery.Pipeline.Output
import BoundQuery.Pipeline.Run
import BoundQuery.Pipeline.Sanitizer
import BoundQuery.Pipeline.Step
import BoundQuery.Pipeline.Store
import BoundQuery.Pipeline.Transform
import BoundQuery.Proofs.Binding.Filling
import BoundQuery.Proofs.Scan.Placeholder
import BoundQuery.Proofs.Scan.Region
import BoundQuery.Proofs.Scan.Token
import BoundQuery.Query.Model
import BoundQuery.Query.Words
import BoundQuery.Reading.Fault
import BoundQuery.Reading.Query
import BoundQuery.Reading.Record
import BoundQuery.Reading.Schema
import BoundQuery.Reading.Settings
import BoundQuery.Reading.Step
import BoundQuery.Schema.Cache
import BoundQuery.Schema.Column
import BoundQuery.Schema.Distance
import BoundQuery.Schema.Document
import BoundQuery.Schema.Table
import BoundQuery.Settings
import BoundQuery.Template.Binding
import BoundQuery.Template.Parameter
import BoundQuery.Template.Positional
import BoundQuery.Template.Reference
import BoundQuery.Template.Statement
import BoundQuery.Template.Token
import BoundQuery.Text.Blank
import BoundQuery.Text.Case
import BoundQuery.Text.CaseTable
import BoundQuery.Text.Letter
import BoundQuery.Text.Ranges
import BoundQuery.Text.Visible
import BoundQuery.Toml.Document
import BoundQuery.Toml.Moment
import BoundQuery.Toml.Number
import BoundQuery.Toml.Table
import BoundQuery.Toml.Text
import BoundQuery.Writing.Query
import BoundQuery.Writing.Schema
import BoundQuery.Writing.Settings
import BoundQuery.Writing.Step
import BoundQuery.Proofs.Binding.Placement
import BoundQuery.Proofs.Binding.Alignment
import BoundQuery.Proofs.Binding.RawText
import BoundQuery.Proofs.Pipeline.Event
import BoundQuery.Proofs.Pipeline.Protocol
import BoundQuery.Proofs.Pipeline.Balance
import BoundQuery.Proofs.Binding.EarlyEnd
import BoundQuery.Proofs.Scan.Append
import BoundQuery.Proofs.Pipeline.Ends
import BoundQuery.Proofs.Pipeline.Words
import BoundQuery.Proofs.Pipeline.RowCap
import BoundQuery.Proofs.Schema.History
import BoundQuery.Proofs.Schema.Freshness
import BoundQuery.Proofs.Schema.Spelling
import BoundQuery.Proofs.Binding.Mask
import BoundQuery.Proofs.Clause.Valid
import BoundQuery.Proofs.Clause.Tally
import BoundQuery.Proofs.Pipeline.Outputs
import BoundQuery.Proofs.Clause.Comparison
import BoundQuery.Proofs.Pipeline.Views
import BoundQuery.Proofs.Binding.Reference
import BoundQuery.Proofs.Pipeline.Preview
import BoundQuery.Proofs.Scan.Scanner
import BoundQuery.Proofs.Binding.Verbatim
import BoundQuery.Proofs.Scan.Numbered
import BoundQuery.Proofs.Reading.Canonical
import BoundQuery.Proofs.Reading.Field
import BoundQuery.Proofs.Reading.Query
import BoundQuery.Proofs.Reading.RoundTrip
import BoundQuery.Proofs.Clause.Sentinel
import BoundQuery.Proofs.Pipeline.Nesting
import BoundQuery.Proofs.Clause.Grouping
import BoundQuery.Proofs.Clause.Conjunction
import BoundQuery.Proofs.Binding.Symbol
import BoundQuery.Proofs.Binding.Interpolation
import BoundQuery.Proofs.Pipeline.Reads
import BoundQuery.Proofs.Clause.Growth
import BoundQuery.Proofs.Decimal.Digits
import BoundQuery.Proofs.Calendar.Days
import BoundQuery.Proofs.Calendar.Written
import BoundQuery.Proofs.Binding.Integer
import BoundQuery.Proofs.Text.Trim
import BoundQuery.Proofs.Text.Upper
import BoundQuery.Proofs.Schema.Distance
import BoundQuery.Proofs.Schema.Suggestion
import BoundQuery.Proofs.Schema.Listing
import BoundQuery.Proofs.Clause.Identifier
import BoundQuery.Proofs.Reading.Fields
import BoundQuery.Proofs.Clause.Respelling
import BoundQuery.Proofs.Binding.Splitting
import BoundQuery.Proofs.Pipeline.Path
