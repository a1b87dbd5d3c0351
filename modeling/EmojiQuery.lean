import EmojiQuery.CommandLine.Arguments
import EmojiQuery.CommandLine.Listing
import EmojiQuery.CommandLine.Report
import EmojiQuery.Dataset.Basic
import EmojiQuery.Dataset.Storage
import EmojiQuery.Dataset.Summary
import EmojiQuery.Debounce.Basic
import EmojiQuery.Debounce.Log
import EmojiQuery.Debounce.Session
import EmojiQuery.Debounce.Worker
import EmojiQuery.Json.Compound
import EmojiQuery.Json.Fault
import EmojiQuery.Json.Scalar
import EmojiQuery.Json.Skip
import EmojiQuery.Json.Writer
import EmojiQuery.Main
import EmojiQuery.Number.Binary64
import EmojiQuery.Number.Decimal
import EmojiQuery.Number.Numeral
import EmojiQuery.Number.Rounding
import EmojiQuery.Number.Scaled
import EmojiQuery.Number.Shortest
import EmojiQuery.Pattern.Basic
import EmojiQuery.Pattern.Bracket
import EmojiQuery.Pattern.Escape
import EmojiQuery.Pattern.Footprint
import EmojiQuery.Pattern.Mode
import EmojiQuery.Pattern.Reading
import EmojiQuery.Proofs.Lists
import EmojiQuery.Proofs.Number.Order
import EmojiQuery.Proofs.Query.Meaning
import EmojiQuery.Proofs.Record.Level
import EmojiQuery.Query.Basic
import EmojiQuery.Query.Clause
import EmojiQuery.Query.Columns
import EmojiQuery.Query.Field
import EmojiQuery.Query.Interval
import EmojiQuery.Query.Note
import EmojiQuery.Query.Predicate
import EmojiQuery.Record.Basic
import EmojiQuery.Record.Json
import EmojiQuery.Record.Level
import EmojiQuery.Record.Scores
import EmojiQuery.Search.Error
import EmojiQuery.Settings
import EmojiQuery.Text.Cut
import EmojiQuery.Text.Lines
import EmojiQuery.Text.Quoted
import EmojiQuery.Text.Utf8
import EmojiQuery.Time.Clock
import EmojiQuery.Time.Duration
import EmojiQuery.Unicode.AgeTable
import EmojiQuery.Unicode.BinaryTable
import EmojiQuery.Unicode.Blank
import EmojiQuery.Unicode.BreakTable
import EmojiQuery.Unicode.CaseFold
import EmojiQuery.Unicode.CaseTable
import EmojiQuery.Unicode.CategoryTable
import EmojiQuery.Unicode.CodepointSet
import EmojiQuery.Unicode.NamedSet
import EmojiQuery.Unicode.Printable
import EmojiQuery.Unicode.Property
import EmojiQuery.Unicode.ScriptExtensionTable
import EmojiQuery.Unicode.ScriptTable
import EmojiQuery.Proofs.Query.Evaluation
import EmojiQuery.Proofs.Query.Grammar
import EmojiQuery.Proofs.Debounce.History
import EmojiQuery.Proofs.Debounce.Results
import EmojiQuery.Proofs.Debounce.Firing
import EmojiQuery.Proofs.Query.Joining
import EmojiQuery.Proofs.Debounce.Barrier
import EmojiQuery.Proofs.Query.Values
import EmojiQuery.Proofs.Query.Writing
import EmojiQuery.Proofs.Debounce.Paused
import EmojiQuery.Proofs.Query.Faults
import EmojiQuery.Proofs.Query.Combining
import EmojiQuery.Proofs.Number.Rounding
import EmojiQuery.Proofs.Number.Scaling
import EmojiQuery.Proofs.Json.Number
import EmojiQuery.Proofs.Query.Literals
import EmojiQuery.Proofs.Json.Literal
import EmojiQuery.Proofs.Json.Consuming
import EmojiQuery.Proofs.Json.Structure
import EmojiQuery.Proofs.Record.Loading
import EmojiQuery.Proofs.Text.Utf8
import EmojiQuery.Proofs.Query.Bounds
import EmojiQuery.Proofs.Query.Single
import EmojiQuery.Proofs.Query.Notes
import EmojiQuery.Proofs.Record.Normal
import EmojiQuery.Proofs.Number.Numeral
import EmojiQuery.Proofs.Query.Integers
import EmojiQuery.Proofs.Dataset.Summary
import EmojiQuery.Proofs.Number.Nearest
import EmojiQuery.Proofs.Number.Shortest
import EmojiQuery.Proofs.Number.Overflow
import EmojiQuery.Proofs.Json.Real
import EmojiQuery.Proofs.Json.Written
import EmojiQuery.Proofs.Json.Escapes
import EmojiQuery.Proofs.Json.Nested
import EmojiQuery.Proofs.Number.Closeness
import EmojiQuery.Proofs.Number.Drift
import EmojiQuery.Proofs.Number.Signed
import EmojiQuery.Proofs.Record.Written
import EmojiQuery.Proofs.Dataset.Written
import EmojiQuery.Proofs.Query.Ranges
import EmojiQuery.Proofs.Dataset.Columns
import EmojiQuery.Proofs.Query.Steps
import EmojiQuery.Proofs.CommandLine.Asking
import EmojiQuery.Proofs.CommandLine.Ending
import EmojiQuery.Proofs.CommandLine.Runs
import EmojiQuery.Proofs.Query.Intersection
import EmojiQuery.Proofs.Dataset.Canonical
import EmojiQuery.Proofs.Dataset.Counts
import EmojiQuery.Proofs.Query.Scores
import EmojiQuery.Proofs.Query.Endpoints
import EmojiQuery.Proofs.Query.Defaults
import EmojiQuery.Proofs.Record.Label
import EmojiQuery.Proofs.Time.Sums
import EmojiQuery.Proofs.Debounce.Attempts
import EmojiQuery.Proofs.Debounce.Ticks
import EmojiQuery.Proofs.Query.Keys
import EmojiQuery.Proofs.Pattern.Rounds
import EmojiQuery.Proofs.Pattern.Matching
import EmojiQuery.Proofs.Pattern.Ways
import EmojiQuery.Proofs.Pattern.Runs
import EmojiQuery.Proofs.Query.Scanning
