import IssueQuery.Analysis.Distinct
import IssueQuery.Analysis.Grouping
import IssueQuery.Analysis.Measure
import IssueQuery.Analysis.PerGroup
import IssueQuery.Analysis.Pipeline
import IssueQuery.Calendar.Date
import IssueQuery.Calendar.Day
import IssueQuery.Calendar.DayParts
import IssueQuery.Calendar.FreeForm
import IssueQuery.Calendar.Iso
import IssueQuery.Calendar.Names
import IssueQuery.Calendar.Piece
import IssueQuery.Calendar.Reader
import IssueQuery.Calendar.Reading
import IssueQuery.Calendar.ShortForm
import IssueQuery.Calendar.StandardReader
import IssueQuery.Calendar.Timestamp
import IssueQuery.Calendar.YearFirst
import IssueQuery.Command.Arguments
import IssueQuery.Command.Help
import IssueQuery.Command.Run
import IssueQuery.Fault
import IssueQuery.Intent.Basic
import IssueQuery.Intent.Model
import IssueQuery.Intent.Payload
import IssueQuery.Intent.Phrases
import IssueQuery.Intent.Prompt
import IssueQuery.Intent.Retry
import IssueQuery.Issue.Basic
import IssueQuery.Issue.Document
import IssueQuery.Issue.Field
import IssueQuery.Issue.Payload
import IssueQuery.Json.Basic
import IssueQuery.Json.Reader
import IssueQuery.Json.Writer
import IssueQuery.Number.Binary
import IssueQuery.Number.Fixed
import IssueQuery.Number.Power
import IssueQuery.Number.Quantity
import IssueQuery.Number.Reading
import IssueQuery.Number.Shortest
import IssueQuery.OrderedMap
import IssueQuery.Query.Clause
import IssueQuery.Query.Compiler
import IssueQuery.Query.Fragment
import IssueQuery.Report.Columns
import IssueQuery.Report.Format
import IssueQuery.Report.Frame
import IssueQuery.Report.Layout
import IssueQuery.Report.Section
import IssueQuery.Report.Structured
import IssueQuery.Report.Summary
import IssueQuery.Report.Table
import IssueQuery.Service
import IssueQuery.Settings
import IssueQuery.Text.Base64
import IssueQuery.Text.Basic
import IssueQuery.Text.Case
import IssueQuery.Text.CaseTable
import IssueQuery.Text.Class
import IssueQuery.Text.PrintTable
import IssueQuery.Text.Quoted
import IssueQuery.Text.Scan
import IssueQuery.Text.WordTable
import IssueQuery.Tracker.Condition
import IssueQuery.Tracker.Memory
import IssueQuery.Tracker.Remote
import IssueQuery.Tracker.Result
import IssueQuery.Tracker.Sample
import IssueQuery.Value
import IssueQuery.Yaml.Cursor
import IssueQuery.Yaml.Document
import IssueQuery.Yaml.Layout
import IssueQuery.Yaml.Loading
import IssueQuery.Yaml.Merge
import IssueQuery.Yaml.Node
import IssueQuery.Yaml.ReadFault
import IssueQuery.Yaml.Scalar
import IssueQuery.Yaml.ScalarReading
import IssueQuery.Yaml.ScalarText
import IssueQuery.Yaml.Tag
import IssueQuery.Yaml.Token
import IssueQuery.Main
import IssueQuery.Proofs.Query.Comparison
import IssueQuery.Proofs.Query.Canonical
import IssueQuery.Proofs.Query.Decoding
import IssueQuery.Proofs.Query.Conjunction
import IssueQuery.Proofs.Query.Lossless
import IssueQuery.Proofs.Text.Searching
import IssueQuery.Proofs.Query.Layout
import IssueQuery.Proofs.Tracker.Recognition
import IssueQuery.Proofs.Tracker.Guarded
import IssueQuery.Proofs.Tracker.Patterns
import IssueQuery.Proofs.Tracker.Phrases
import IssueQuery.Proofs.Tracker.Conditions
import IssueQuery.Proofs.Tracker.Testing
import IssueQuery.Proofs.Tracker.Agreement
import IssueQuery.Proofs.Number.Reading
import IssueQuery.Proofs.Calendar.DayText
import IssueQuery.Proofs.Calendar.Reader
import IssueQuery.Proofs.Intent.WellFormed
import IssueQuery.Proofs.Intent.Range
import IssueQuery.Proofs.Analysis.Forest
import IssueQuery.Proofs.Intent.Retry
import IssueQuery.Proofs.Intent.Reporting
import IssueQuery.Proofs.Intent.Absence
import IssueQuery.Proofs.Text.Words
import IssueQuery.Proofs.Intent.Keywords
import IssueQuery.Proofs.Query.Quoting
import IssueQuery.Proofs.Query.Values
import IssueQuery.Proofs.Intent.QuotedValues
import IssueQuery.Proofs.Analysis.Priority
import IssueQuery.Proofs.Analysis.Stages
import IssueQuery.Proofs.Json.Depth
import IssueQuery.Proofs.Issue.Frames
import IssueQuery.Proofs.Issue.Flaws
import IssueQuery.Proofs.Tracker.Replies
import IssueQuery.Proofs.Intent.Dialogue
import IssueQuery.Proofs.Analysis.Annotation
import IssueQuery.Proofs.Text.Lines
import IssueQuery.Proofs.Command.Failing
import IssueQuery.Proofs.Json.Scalars
import IssueQuery.Proofs.Json.RoundTrip
import IssueQuery.Proofs.Report.Restored
import IssueQuery.Proofs.Query.Gating
import IssueQuery.Proofs.Text.PrefixFree
import IssueQuery.Proofs.Calendar.ClockText
import IssueQuery.Proofs.Analysis.Labels
import IssueQuery.Proofs.OrderedMap
import IssueQuery.Proofs.Analysis.Lookup
import IssueQuery.Proofs.Analysis.Merging
import IssueQuery.Proofs.Analysis.PerGroup
import IssueQuery.Proofs.Analysis.Tally
import IssueQuery.Proofs.Analysis.RollUp
import IssueQuery.Proofs.Query.Meaning
import IssueQuery.Proofs.Intent.DateBounds
import IssueQuery.Proofs.Query.RenderedDays
import IssueQuery.Proofs.Number.Stored
import IssueQuery.Proofs.Number.Products
import IssueQuery.Proofs.Number.Rounding
import IssueQuery.Proofs.Number.Powers
import IssueQuery.Proofs.Number.Growth
import IssueQuery.Proofs.Intent.Delay
import IssueQuery.Proofs.Issue.PlainText
import IssueQuery.Proofs.Calendar.Clocks
import IssueQuery.Proofs.Analysis.Instants
import IssueQuery.Proofs.Report.Ranking
import IssueQuery.Proofs.Report.Tags
import IssueQuery.Proofs.Report.Configured
import IssueQuery.Proofs.Tracker.Windows
import IssueQuery.Proofs.Tracker.Questions
import IssueQuery.Proofs.Analysis.Nodes
import IssueQuery.Proofs.Report.Outline
