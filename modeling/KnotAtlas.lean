import KnotAtlas.Age
import KnotAtlas.Atlas.Aged
import KnotAtlas.Atlas.Basic
import KnotAtlas.Atlas.Misfit
import KnotAtlas.Atlas.Queries
import KnotAtlas.Atlas.Session
import KnotAtlas.Cli.Arguments
import KnotAtlas.Cli.Command
import KnotAtlas.Cli.Console
import KnotAtlas.Cli.Execute
import KnotAtlas.Cli.Load
import KnotAtlas.Cli.LogFile
import KnotAtlas.Cli.Program
import KnotAtlas.Cli.Run
import KnotAtlas.Datum.Basic
import KnotAtlas.Datum.Date
import KnotAtlas.Datum.Display
import KnotAtlas.Decimal.Binary
import KnotAtlas.Decimal.DigitLimit
import KnotAtlas.Decimal.Layout
import KnotAtlas.Decimal.Reading
import KnotAtlas.Decimal.Rounded
import KnotAtlas.Decimal.Shortest
import KnotAtlas.Detect.Aged
import KnotAtlas.Detect.Detector
import KnotAtlas.Detect.FileStem
import KnotAtlas.Detect.Name
import KnotAtlas.Detect.Strategy
import KnotAtlas.Detect.Validated
import KnotAtlas.Digest.Sha256
import KnotAtlas.Engine.Attribute
import KnotAtlas.Engine.Basic
import KnotAtlas.Engine.Signal
import KnotAtlas.Engine.Speculation
import KnotAtlas.Files.Text
import KnotAtlas.Files.Tree
import KnotAtlas.Flow.Basic
import KnotAtlas.Flow.Reading
import KnotAtlas.Graph.Basic
import KnotAtlas.Graph.Neighbours
import KnotAtlas.Graph.Path
import KnotAtlas.Graph.Reach
import KnotAtlas.Graph.Structure
import KnotAtlas.Integrity.Checks
import KnotAtlas.Integrity.Report
import KnotAtlas.Json.Reader
import KnotAtlas.Json.Writer
import KnotAtlas.Log.Entry
import KnotAtlas.Log.Event
import KnotAtlas.Log.Record
import KnotAtlas.Log.Setup
import KnotAtlas.Log.Template
import KnotAtlas.Main
import KnotAtlas.OrderedMap
import KnotAtlas.Seconds
import KnotAtlas.Settings.Basic
import KnotAtlas.Settings.File
import KnotAtlas.Settings.Reading
import KnotAtlas.Source.Aged
import KnotAtlas.Source.Cache
import KnotAtlas.Source.Declaration
import KnotAtlas.Story.Build
import KnotAtlas.Story.Diagnostics
import KnotAtlas.Story.Document
import KnotAtlas.Story.Recording
import KnotAtlas.Story.Walk
import KnotAtlas.Text.Blank
import KnotAtlas.Text.CaseTable
import KnotAtlas.Text.CasedRanges
import KnotAtlas.Text.CloseMatch
import KnotAtlas.Text.Command
import KnotAtlas.Text.Digit
import KnotAtlas.Text.DigitZeros
import KnotAtlas.Text.Halves
import KnotAtlas.Text.Lines
import KnotAtlas.Text.Lowercase
import KnotAtlas.Text.Quoted
import KnotAtlas.Text.Ranges
import KnotAtlas.Text.UnprintableRanges
import KnotAtlas.Text.Utf8
import KnotAtlas.Text.Word
import KnotAtlas.Text.WordRanges
import KnotAtlas.Trail
import KnotAtlas.Value
import KnotAtlas.Value.Display
import KnotAtlas.View.Basic
import KnotAtlas.View.Dot
import KnotAtlas.View.Mermaid
import KnotAtlas.Wire.Checked
import KnotAtlas.Wire.IntegerText
import KnotAtlas.Wire.Reading
import KnotAtlas.Wire.Records
import KnotAtlas.Yaml.Cursor
import KnotAtlas.Yaml.Fault
import KnotAtlas.Yaml.Meaning
import KnotAtlas.Yaml.Merge
import KnotAtlas.Yaml.Node
import KnotAtlas.Yaml.Reader
import KnotAtlas.Yaml.Scalar.Kind
import KnotAtlas.Yaml.Scalar.Plain
import KnotAtlas.Yaml.Scalar.Quoted
import KnotAtlas.Yaml.Token.Basic
import KnotAtlas.Yaml.Token.Scan
import KnotAtlas.Proofs.Story.Trace
import KnotAtlas.Proofs.Story.Ledger
import KnotAtlas.Proofs.Story.Coverage
import KnotAtlas.Proofs.Story.Transitions
import KnotAtlas.Proofs.Json.DistinctKeys
import KnotAtlas.Proofs.Story.WellFormed
import KnotAtlas.Proofs.Story.Independence
import KnotAtlas.Proofs.Engine.Watched
import KnotAtlas.Proofs.Engine.Guarded
import KnotAtlas.Proofs.Detect.Verification
import KnotAtlas.Proofs.Detect.Checked
import KnotAtlas.Proofs.Detect.Rejection
import KnotAtlas.Proofs.Flow.Links
import KnotAtlas.Proofs.Flow.Reading
import KnotAtlas.Proofs.Atlas.Coherence
import KnotAtlas.Proofs.Atlas.Position
import KnotAtlas.Proofs.Story.Naming
import KnotAtlas.Proofs.Atlas.Acceptance
import KnotAtlas.Proofs.Atlas.Agreement
import KnotAtlas.Proofs.Detect.Order
import KnotAtlas.Proofs.Detect.Unchecked
import KnotAtlas.Proofs.Detect.Nameable
import KnotAtlas.Proofs.Integrity.Verdict
import KnotAtlas.Proofs.Cli.Validation
import KnotAtlas.Proofs.Trail
import KnotAtlas.Proofs.View.Dot
import KnotAtlas.Proofs.View.Mermaid
import KnotAtlas.Proofs.Atlas.Sources
import KnotAtlas.Proofs.Settings.Precedence
import KnotAtlas.Proofs.Graph.Path
import KnotAtlas.Proofs.Story.Branches
import KnotAtlas.Proofs.Story.Nesting
import KnotAtlas.Proofs.Story.References
import KnotAtlas.Proofs.Story.Termination
import KnotAtlas.Proofs.Graph.Closure
import KnotAtlas.Proofs.Graph.Cycle
import KnotAtlas.Proofs.Detect.Substitute
import KnotAtlas.Proofs.Detect.Outcome
import KnotAtlas.Proofs.Detect.Repetition
import KnotAtlas.Proofs.Engine.Independence
import KnotAtlas.Proofs.Detect.Spelling
import KnotAtlas.Proofs.Source.Grammar
import KnotAtlas.Proofs.Atlas.Placement
import KnotAtlas.Proofs.Atlas.Search
import KnotAtlas.Proofs.Atlas.Freshness
import KnotAtlas.Proofs.Settings.Errors
import KnotAtlas.Proofs.Settings.Loading
import KnotAtlas.Proofs.Cli.Path
import KnotAtlas.Proofs.Graph.Neighbours
import KnotAtlas.Proofs.Story.OrderMarks
import KnotAtlas.Proofs.Cli.Scan
import KnotAtlas.Proofs.Log.Entry
