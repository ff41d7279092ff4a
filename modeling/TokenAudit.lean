import TokenAudit.Audit
import TokenAudit.Binary64.Basic
import TokenAudit.Binary64.Decimal
import TokenAudit.Binary64.Shortest
import TokenAudit.Clock
import TokenAudit.Command
import TokenAudit.CommandLine.Arguments
import TokenAudit.CommandLine.Grammar
import TokenAudit.Datum
import TokenAudit.Display.Basic
import TokenAudit.Display.Console
import TokenAudit.Display.Markup
import TokenAudit.Display.Plain
import TokenAudit.Display.Rating
import TokenAudit.Display.Run
import TokenAudit.Document.Basic
import TokenAudit.Document.Printer
import TokenAudit.Document.Reader
import TokenAudit.Export
import TokenAudit.FileTree.Basic
import TokenAudit.FileTree.Discovery
import TokenAudit.FileTree.Edit
import TokenAudit.FileTree.Error
import TokenAudit.FileTree.Path
import TokenAudit.FileTree.Source
import TokenAudit.Finding
import TokenAudit.Grade
import TokenAudit.Main
import TokenAudit.Note
import TokenAudit.Pattern.Basic
import TokenAudit.Pattern.Spelling
import TokenAudit.Rule.Basic
import TokenAudit.Rule.Builtin
import TokenAudit.Run
import TokenAudit.Scan
import TokenAudit.Signal.Bundle
import TokenAudit.Signal.Percentage
import TokenAudit.Signal.Rating
import TokenAudit.Signal.Reports
import TokenAudit.Source
import TokenAudit.Summary.Basic
import TokenAudit.Summary.Comment
import TokenAudit.Summary.Role
import TokenAudit.Text.Blank
import TokenAudit.Text.Case
import TokenAudit.Text.CaseTable
import TokenAudit.Text.Digit
import TokenAudit.Text.Fold
import TokenAudit.Text.FoldTable
import TokenAudit.Text.Lines
import TokenAudit.Text.Numeral
import TokenAudit.Text.PrintTable
import TokenAudit.Text.Quoted
import TokenAudit.Text.Raw
import TokenAudit.Text.Span
import TokenAudit.Text.Utf8
import TokenAudit.Proofs.Audit.Bytes
import TokenAudit.Proofs.Audit.Ids
import TokenAudit.Proofs.Audit.LetterCase
import TokenAudit.Proofs.Audit.LineEnding
import TokenAudit.Proofs.Audit.Threshold
import TokenAudit.Proofs.Binary64.Nearest
import TokenAudit.Proofs.Binary64.Order
import TokenAudit.Proofs.Binary64.Rounding
import TokenAudit.Proofs.Binary64.Shortest
import TokenAudit.Proofs.Command.Ending
import TokenAudit.Proofs.Command.ExitCode
import TokenAudit.Proofs.Command.Extension
import TokenAudit.Proofs.Command.SignalFile
import TokenAudit.Proofs.Command.SignalOutputs
import TokenAudit.Proofs.Command.UnreadableSignals
import TokenAudit.Proofs.Display.Escaping
import TokenAudit.Proofs.Display.Printing
import TokenAudit.Proofs.Display.ShownTexts
import TokenAudit.Proofs.Document.Field
import TokenAudit.Proofs.Document.Joined
import TokenAudit.Proofs.Document.Limits
import TokenAudit.Proofs.Document.NumberText
import TokenAudit.Proofs.Document.Numbers
import TokenAudit.Proofs.Document.Places
import TokenAudit.Proofs.Document.Reading
import TokenAudit.Proofs.Document.RoundTrip
import TokenAudit.Proofs.Document.Text
import TokenAudit.Proofs.Document.Values
import TokenAudit.Proofs.FileTree.Discovery
import TokenAudit.Proofs.FileTree.Lookup
import TokenAudit.Proofs.FileTree.Outline
import TokenAudit.Proofs.FileTree.Path
import TokenAudit.Proofs.FileTree.Single
import TokenAudit.Proofs.FileTree.WellFormed
import TokenAudit.Proofs.FileTree.Writing
import TokenAudit.Proofs.Outcome
import TokenAudit.Proofs.Pattern.LetterCase
import TokenAudit.Proofs.Pattern.LineEnding
import TokenAudit.Proofs.Pattern.OneLine
import TokenAudit.Proofs.Pattern.Shape
import TokenAudit.Proofs.Run.Accounting
import TokenAudit.Proofs.Run.Counting
import TokenAudit.Proofs.Run.Coverage
import TokenAudit.Proofs.Run.Export
import TokenAudit.Proofs.Run.Failure
import TokenAudit.Proofs.Run.Independence
import TokenAudit.Proofs.Run.Outputs
import TokenAudit.Proofs.Run.Printing
import TokenAudit.Proofs.Run.WholeFile
import TokenAudit.Proofs.Scan.Calls
import TokenAudit.Proofs.Scan.Catalog
import TokenAudit.Proofs.Scan.Constructs
import TokenAudit.Proofs.Scan.Findings
import TokenAudit.Proofs.Scan.GatedMinting
import TokenAudit.Proofs.Scan.Joined
import TokenAudit.Proofs.Scan.RecordedLine
import TokenAudit.Proofs.Scan.Reports
import TokenAudit.Proofs.Scan.Roles
import TokenAudit.Proofs.Scan.Words
import TokenAudit.Proofs.Score
import TokenAudit.Proofs.Signal.EntryPaths
import TokenAudit.Proofs.Signal.Escape
import TokenAudit.Proofs.Signal.FailedLookup
import TokenAudit.Proofs.Signal.Finiteness
import TokenAudit.Proofs.Signal.Gathering
import TokenAudit.Proofs.Signal.KeySpelling
import TokenAudit.Proofs.Signal.Keys
import TokenAudit.Proofs.Signal.MissingFacts
import TokenAudit.Proofs.Signal.Numeral
import TokenAudit.Proofs.Signal.PercentageText
import TokenAudit.Proofs.Signal.Reading
import TokenAudit.Proofs.Signal.ReasonTexts
import TokenAudit.Proofs.Signal.ReasonTrail
import TokenAudit.Proofs.Signal.Reencoding
import TokenAudit.Proofs.Signal.Refusal
import TokenAudit.Proofs.Signal.ReportFaults
import TokenAudit.Proofs.Signal.RiskOrder
import TokenAudit.Proofs.Summary.CommentCount
import TokenAudit.Proofs.Summary.CommentGrade
import TokenAudit.Proofs.Summary.LineEnding
import TokenAudit.Proofs.Summary.SharedLine
import TokenAudit.Proofs.Text.Ascii
import TokenAudit.Proofs.Text.Case
import TokenAudit.Proofs.Text.Decoding
import TokenAudit.Proofs.Text.Encoding
import TokenAudit.Proofs.Text.Fold
import TokenAudit.Proofs.Text.LetterCase
import TokenAudit.Proofs.Text.LineEnding
import TokenAudit.Proofs.Text.LinePosition
