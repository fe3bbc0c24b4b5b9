import Concordance.Binary64.Arithmetic
import Concordance.Binary64.Basic
import Concordance.Binary64.Order
import Concordance.Binary64.Rounding
import Concordance.CommandLine.Arguments
import Concordance.CommandLine.Comparison
import Concordance.CommandLine.Help
import Concordance.CommandLine.Options
import Concordance.CommandLine.Program
import Concordance.Comparison.Comparator
import Concordance.Comparison.Config
import Concordance.Comparison.Equivalences
import Concordance.Comparison.Report
import Concordance.Comparison.Statistics
import Concordance.Decimal.Basic
import Concordance.Decimal.Digits
import Concordance.Decimal.Reader
import Concordance.Decimal.Rounded
import Concordance.Decimal.Shortest
import Concordance.Decimal.Style
import Concordance.EquivalenceKey
import Concordance.Files.Journal
import Concordance.Files.Path
import Concordance.Files.Store
import Concordance.Files.System
import Concordance.Geometry.Scripted
import Concordance.Identifier
import Concordance.Json.Decoding
import Concordance.Json.Number
import Concordance.Json.Text
import Concordance.Json.Token
import Concordance.Json.Value
import Concordance.Log
import Concordance.Main
import Concordance.OrderedMap
import Concordance.Point
import Concordance.Scene.Basic
import Concordance.Scene.Document
import Concordance.Shape.Basic
import Concordance.Shape.Box
import Concordance.Text.Blank
import Concordance.Text.Extending
import Concordance.Text.Integer
import Concordance.Text.Printable
import Concordance.Text.Quoted
import Concordance.Text.Utf8
import Concordance.Trace.Binary
import Concordance.Trace.Lines
import Concordance.Trace.Reader
import Concordance.Trace.Source
import Concordance.Trace.Stream
import Concordance.Visualization.Export
import Concordance.Visualization.Texts
import Concordance.Proofs.Comparison.Classification
import Concordance.Proofs.Comparison.Runs
import Concordance.Proofs.Comparison.Recording
import Concordance.Proofs.Comparison.Histories
import Concordance.Proofs.Comparison.Survey
import Concordance.Proofs.Comparison.Plans
import Concordance.Proofs.Comparison.Coverage
import Concordance.Proofs.Comparison.Resumption
import Concordance.Proofs.Comparison.Reordering
import Concordance.Proofs.Comparison.Simulation
import Concordance.Proofs.Comparison.Tolerance
import Concordance.Proofs.Comparison.Naming
import Concordance.Proofs.Scene.Queries
import Concordance.Proofs.Binary64.Rounding
import Concordance.Proofs.Binary64.Words
import Concordance.Proofs.Decimal.Digits
import Concordance.Proofs.Decimal.Magnitude
import Concordance.Proofs.Text.Fields
import Concordance.Proofs.Text.Integer
import Concordance.Proofs.Text.Utf8
import Concordance.Proofs.Decimal.Reader
import Concordance.Proofs.Trace.Binary
import Concordance.Proofs.Trace.Acceptance
import Concordance.Proofs.Trace.Text
import Concordance.Proofs.Binary64.Arithmetic
import Concordance.Proofs.Binary64.Bounds
import Concordance.Proofs.Binary64.Exact
import Concordance.Proofs.CommandLine.Effects
import Concordance.Proofs.CommandLine.Stages
import Concordance.Proofs.Comparison.Distances
import Concordance.Proofs.Comparison.Report
import Concordance.Proofs.Decimal.Grammar
import Concordance.Proofs.Json.Documents
import Concordance.Proofs.Json.Doubles
import Concordance.Proofs.Json.Literals
import Concordance.Proofs.Json.Records
import Concordance.Proofs.Json.Rereading
import Concordance.Proofs.Json.Strings
import Concordance.Proofs.OrderedMap
import Concordance.Proofs.Scene.Distances
import Concordance.Proofs.Scene.RoundTrip
import Concordance.Proofs.Text.Numerals
import Concordance.Proofs.Trace.Account
import Concordance.Proofs.Trace.Calls
import Concordance.Proofs.Trace.LineGrammar
import Concordance.Proofs.Trace.Records
import Concordance.Proofs.Trace.Stream
import Concordance.Proofs.Shape.Surface
import Concordance.Proofs.Scene.Validation
import Concordance.Proofs.Scene.Priority
import Concordance.Proofs.Binary64.Cells
import Concordance.Proofs.Decimal.Rounding
import Concordance.Proofs.Decimal.Rounded
import Concordance.Proofs.Decimal.Leading
import Concordance.Proofs.Visualization.Dataset
import Concordance.Proofs.Comparison.Observations
import Concordance.Proofs.Comparison.CanonicalKeys
import Concordance.Proofs.Trace.LineNumbers
import Concordance.Proofs.Trace.Encodings
import Concordance.Proofs.Files.Path
import Concordance.Proofs.Visualization.Writing
import Concordance.Proofs.Visualization.Confinement
import Concordance.Proofs.Visualization.Agreement
import Concordance.Proofs.Comparison.Table
import Concordance.Proofs.CommandLine.Grammar
import Concordance.Proofs.CommandLine.Drafts
import Concordance.Proofs.CommandLine.Recognition
import Concordance.Proofs.CommandLine.Scanning
import Concordance.Proofs.CommandLine.Items
import Concordance.Proofs.CommandLine.Resolution
import Concordance.Proofs.CommandLine.Hyphens
import Concordance.Proofs.CommandLine.Configuration
import Concordance.Proofs.Trace.Delivery
import Concordance.Proofs.Binary64.Units
import Concordance.Proofs.Binary64.Numbers
import Concordance.Proofs.Comparison.KeyOrder
