import ZeroError.Analysis.AtRisk
import ZeroError.Analysis.Event
import ZeroError.Analysis.Report
import ZeroError.Analysis.Run
import ZeroError.Analysis.Tracking
import ZeroError.Check
import ZeroError.Command.Arguments
import ZeroError.Command.Respond
import ZeroError.Decimal.Shortest
import ZeroError.Document.Fault
import ZeroError.Document.Json
import ZeroError.Document.Reader
import ZeroError.Document.Scanner
import ZeroError.Document.Tree
import ZeroError.Failure
import ZeroError.Files.Discovery
import ZeroError.Files.Path
import ZeroError.Files.Tree
import ZeroError.Glob
import ZeroError.Go.Children
import ZeroError.Go.Reading
import ZeroError.Go.Rendering
import ZeroError.Go.Syntax
import ZeroError.Go.TypeTable
import ZeroError.Go.Writing
import ZeroError.Main
import ZeroError.Presentation
import ZeroError.Settings.Basic
import ZeroError.Settings.Reading
import ZeroError.Settings.Writing
import ZeroError.Text.Hidden
import ZeroError.Text.Quoted
import ZeroError.Yaml.Cursor
import ZeroError.Yaml.Node
import ZeroError.Yaml.Number
import ZeroError.Yaml.Printer
import ZeroError.Yaml.Scalar
import ZeroError.Yaml.Token
import ZeroError.Proofs.Liveness
import ZeroError.Proofs.Attempts
import ZeroError.Proofs.Workers
import ZeroError.Proofs.Verdicts
import ZeroError.Proofs.Effects
import ZeroError.Proofs.Relabeling
import ZeroError.Proofs.Renumbering
import ZeroError.Proofs.SourceFiles
import ZeroError.Proofs.CheckOutcome
import ZeroError.Proofs.Chronicle
import ZeroError.Proofs.PackageTree
import ZeroError.Proofs.Records
import ZeroError.Proofs.Recovery
import ZeroError.Proofs.RoundTrip
import ZeroError.Proofs.Shapes
import ZeroError.Proofs.Rearranging
import ZeroError.Proofs.Flattening
import ZeroError.Proofs.Occurrences
import ZeroError.Proofs.Patterns
import ZeroError.Proofs.DirectorySearch
import ZeroError.Proofs.BlockScalars
import ZeroError.Proofs.QuotedScalars
import ZeroError.Proofs.ConfigurationRoundTrip
import ZeroError.Proofs.ErrorTypes
import ZeroError.Proofs.ReachedStates
import ZeroError.Proofs.Erasure
import ZeroError.Proofs.Grouping
import ZeroError.Proofs.PrintedText
import ZeroError.Proofs.Unprintable
import ZeroError.Proofs.Brackets
import ZeroError.Proofs.QuotedMessages
import ZeroError.Proofs.WorkShares
import ZeroError.Proofs.Assignments
import ZeroError.Proofs.FirstOccurrences
import ZeroError.Proofs.Discovery
import ZeroError.Proofs.CohortEvents
