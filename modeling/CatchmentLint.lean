import CatchmentLint.Binary64.Basic
import CatchmentLint.Binary64.Decimal
import CatchmentLint.Binary64.Shortest
import CatchmentLint.CommandLine.Arguments
import CatchmentLint.CommandLine.Config
import CatchmentLint.CommandLine.Help
import CatchmentLint.CommandLine.Run
import CatchmentLint.Executor.Run
import CatchmentLint.Executor.Schedule
import CatchmentLint.Executor.State
import CatchmentLint.Expression.Cache
import CatchmentLint.Expression.Check
import CatchmentLint.Expression.Function
import CatchmentLint.Expression.Reference
import CatchmentLint.Expression.Shortcut
import CatchmentLint.Expression.Token
import CatchmentLint.Expression.Validator
import CatchmentLint.Files.Path
import CatchmentLint.Files.Tree
import CatchmentLint.Json.Basic
import CatchmentLint.Lint.DocumentCache
import CatchmentLint.Lint.Duplicates
import CatchmentLint.Lint.InputFiles
import CatchmentLint.Lint.Issue
import CatchmentLint.Lint.Links
import CatchmentLint.Lint.Linter
import CatchmentLint.Lint.Nodes
import CatchmentLint.Lint.Sections
import CatchmentLint.Main
import CatchmentLint.Model.Basic
import CatchmentLint.Model.Line
import CatchmentLint.Model.Reader
import CatchmentLint.Model.Section
import CatchmentLint.Pattern.Automaton.Basic
import CatchmentLint.Pattern.Automaton.Bytes
import CatchmentLint.Pattern.Automaton.Extent
import CatchmentLint.Pattern.Automaton.Words
import CatchmentLint.Pattern.Basic
import CatchmentLint.Pattern.CharRanges
import CatchmentLint.Pattern.Layout
import CatchmentLint.Pattern.Meaning
import CatchmentLint.Pattern.Reader
import CatchmentLint.Pattern.Regex
import CatchmentLint.Pattern.Syntax
import CatchmentLint.Pattern.Unicode.Age
import CatchmentLint.Pattern.Unicode.Break
import CatchmentLint.Pattern.Unicode.CaseFold
import CatchmentLint.Pattern.Unicode.Category
import CatchmentLint.Pattern.Unicode.Digit
import CatchmentLint.Pattern.Unicode.Name
import CatchmentLint.Pattern.Unicode.Property
import CatchmentLint.Pattern.Unicode.Runs
import CatchmentLint.Pattern.Unicode.Script
import CatchmentLint.Pattern.Unicode.Word
import CatchmentLint.Pattern.Utf8
import CatchmentLint.Proofs.Expression.Lexeme
import CatchmentLint.Proofs.Text.Pieces
import CatchmentLint.Proofs.Text.Lines
import CatchmentLint.Report
import CatchmentLint.Schema.Basic
import CatchmentLint.Schema.Default
import CatchmentLint.Schema.Reader
import CatchmentLint.Severity
import CatchmentLint.Text.Basic
import CatchmentLint.Toml.Reader
import CatchmentLint.Toml.Record
import CatchmentLint.Toml.Scalar
import CatchmentLint.Toml.Value
import CatchmentLint.Proofs.Expression.Numeral
import CatchmentLint.Proofs.Expression.Reference
import CatchmentLint.Proofs.Expression.Shortcut
import CatchmentLint.Proofs.Executor.Freshness
import CatchmentLint.Proofs.Model.CommentScan
import CatchmentLint.Proofs.Model.LineRoles
import CatchmentLint.Proofs.Model.Reading
import CatchmentLint.Proofs.Model.Joining
import CatchmentLint.Proofs.Model.Latest
import CatchmentLint.Proofs.Lint.Clean
import CatchmentLint.Proofs.Expression.Precedence
import CatchmentLint.Proofs.Expression.Tree
import CatchmentLint.Proofs.Expression.Findings
import CatchmentLint.Proofs.Expression.Grammar
import CatchmentLint.Proofs.Executor.InFlight
import CatchmentLint.Proofs.Executor.Cancellation
import CatchmentLint.Proofs.Lint.Checks
import CatchmentLint.Proofs.Lint.Memory
import CatchmentLint.Proofs.Lint.Network
import CatchmentLint.Proofs.Lint.Retention
import CatchmentLint.Proofs.Lint.Session
import CatchmentLint.Proofs.Model.Printing
import CatchmentLint.Model.Index
import CatchmentLint.Proofs.Model.Views
import CatchmentLint.Proofs.Lint.Rules
import CatchmentLint.Proofs.Executor.Failures
import CatchmentLint.Proofs.Executor.IdleCancel
import CatchmentLint.Proofs.Executor.Shutdown
import CatchmentLint.Proofs.Lint.IssueLines
import CatchmentLint.Proofs.Json.Reader
import CatchmentLint.Proofs.Json.RoundTrip
import CatchmentLint.Proofs.Json.Report
import CatchmentLint.Proofs.Schema.Patterns
import CatchmentLint.Lint.Passes
import CatchmentLint.Proofs.Expression.Caching
import CatchmentLint.Proofs.Lint.Hidden
import CatchmentLint.Proofs.Lint.Passes
import CatchmentLint.Proofs.Lint.Outputs
import CatchmentLint.Proofs.Expression.Messages
import CatchmentLint.Proofs.Expression.Trace
import CatchmentLint.Proofs.Expression.Knowledge
import CatchmentLint.Proofs.Expression.Ending
import CatchmentLint.Proofs.Expression.Nesting
import CatchmentLint.Proofs.Expression.Division
import CatchmentLint.Proofs.Expression.Segments
import CatchmentLint.Proofs.Expression.Boundary
import CatchmentLint.Proofs.Expression.Partition
import CatchmentLint.Proofs.Expression.Spacing
import CatchmentLint.Proofs.Model.Comments
import CatchmentLint.Proofs.Model.Layout
import CatchmentLint.Proofs.Lint.NamedLinks
import CatchmentLint.Proofs.Pattern.Languages
import CatchmentLint.Proofs.Lint.Parameters
import CatchmentLint.Proofs.Schema.Numbers
import CatchmentLint.Proofs.Lint.Numbers
import CatchmentLint.Proofs.Lint.Sequences
import CatchmentLint.Proofs.Binary64.Rounding
import CatchmentLint.Proofs.Lint.Integers
import CatchmentLint.Lint.Readings
import CatchmentLint.Expression.Cursor
import CatchmentLint.Proofs.Lint.NodeNames
import CatchmentLint.Proofs.Lint.CacheLedger
import CatchmentLint.Proofs.Text.Unbroken
import CatchmentLint.Proofs.Model.Unbroken
import CatchmentLint.Proofs.Expression.Wording
import CatchmentLint.Proofs.Lint.ReportLines
import CatchmentLint.Proofs.Expression.Cursor
import CatchmentLint.Proofs.Expression.Progress
