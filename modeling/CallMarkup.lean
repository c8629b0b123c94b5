import CallMarkup.Unicode.Property
import CallMarkup.Unicode.CaseFolding
import CallMarkup.Span
import CallMarkup.Grammar.Basic
import CallMarkup.Grammar.Escape
import CallMarkup.Document.CallUnit
import CallMarkup.Document.Balance
import CallMarkup.Call.Bind
import CallMarkup.Call.Produce
import CallMarkup.Diagnostic
import CallMarkup.Document.Findings
import CallMarkup.Regex.CharSet
import CallMarkup.Regex.Expr
import CallMarkup.Regex.Pattern
import CallMarkup.Registry.Roster
import CallMarkup.Registry.Describe
import CallMarkup.Registry.Substitution
import CallMarkup.Data.Json
import CallMarkup.Data.Yaml.Scalar
import CallMarkup.Data.Yaml.Stream
import CallMarkup.Config.Read
import CallMarkup.Main
import CallMarkup.Proofs.Grammar.Escaping
import CallMarkup.Proofs.Document.Segments
import CallMarkup.Proofs.Document.Units
import CallMarkup.Proofs.Document.Delimiters
import CallMarkup.Proofs.Document.Resolution
import CallMarkup.Proofs.Call.Items
import CallMarkup.Proofs.Call.Binding
import CallMarkup.Proofs.Call.Production
import CallMarkup.Proofs.Processor.Matching
import CallMarkup.Proofs.Processor.RoundTrip
import CallMarkup.Proofs.Regex.Search
import CallMarkup.Proofs.Regex.Restart
import CallMarkup.Proofs.Regex.Matches
import CallMarkup.Proofs.Processor.Finding
import CallMarkup.Proofs.Registry.Selection
import CallMarkup.Proofs.Registry.Pass
import CallMarkup.Proofs.Registry.Passes
import CallMarkup.Proofs.Registry.Recording
import CallMarkup.Proofs.Registry.Greedy
import CallMarkup.Proofs.Document.Balance
import CallMarkup.Proofs.Registry.FixedPoint
import CallMarkup.Proofs.Call.Acceptance
import CallMarkup.Proofs.Document.Check
import CallMarkup.Proofs.Registry.Termination
import CallMarkup.Proofs.Registry.Operations
import CallMarkup.Proofs.Registry.Refinement
import CallMarkup.Proofs.Registry.Shadowing
import CallMarkup.Proofs.Registry.Accounting
import CallMarkup.Proofs.Registry.Failure
import CallMarkup.Proofs.Registry.SingleProcessor
import CallMarkup.Proofs.Registry.Rearrangement
import CallMarkup.Proofs.Document.LineBreaks
import CallMarkup.Proofs.Document.SelfContained
import CallMarkup.Proofs.Processor.WholeUnit
import CallMarkup.Proofs.Registry.Verbatim
import CallMarkup.Proofs.Registry.Stability
import CallMarkup.Proofs.Registry.ArgumentNames
import CallMarkup.Proofs.Grammar.Guarding
import CallMarkup.Proofs.Processor.Switchboard
import CallMarkup.Proofs.Call.Fitting
import CallMarkup.Proofs.Call.Agreement
import CallMarkup.Proofs.Document.Innermost
import CallMarkup.Proofs.Document.Nesting
import CallMarkup.Proofs.Document.Partners
import CallMarkup.Proofs.Call.Minimal
import CallMarkup.Proofs.Processor.NormalForm
import CallMarkup.Proofs.Document.InsideOut
import CallMarkup.Proofs.Regex.Runs
import CallMarkup.Proofs.Regex.Language
import CallMarkup.Proofs.Regex.Assembly
import CallMarkup.Proofs.Regex.Groups
import CallMarkup.Proofs.Regex.Naming
import CallMarkup.Proofs.Regex.Reading
import CallMarkup.Proofs.Processor.Capturing
import CallMarkup.Proofs.Processor.NamePattern
import CallMarkup.Proofs.Grammar.Splitting
import CallMarkup.Proofs.Span.Slicing
import CallMarkup.Proofs.Config.Reading
import CallMarkup.Proofs.Grammar.Unambiguous
import CallMarkup.Proofs.CommandLine.Selection
import CallMarkup.Proofs.CommandLine.ExitStatus
