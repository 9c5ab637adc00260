import TierSweep.Combination
import TierSweep.CommandLine
import TierSweep.Constraints
import TierSweep.Coverage
import TierSweep.Digest.Sha256
import TierSweep.Duration
import TierSweep.Entries
import TierSweep.Enumeration
import TierSweep.Execution
import TierSweep.Experiment
import TierSweep.Failure
import TierSweep.FileTree
import TierSweep.FileTree.Mode
import TierSweep.FileTree.Rearrangement
import TierSweep.Host.Executable
import TierSweep.Host.Machine
import TierSweep.Host.Procedure
import TierSweep.Host.Programs
import TierSweep.Host.Signal
import TierSweep.Host.Turn
import TierSweep.Identifier
import TierSweep.Invocation
import TierSweep.Json.Read
import TierSweep.Json.Sketch
import TierSweep.Json.Token
import TierSweep.Json.Tree
import TierSweep.Launcher
import TierSweep.Main
import TierSweep.Number.Binary64
import TierSweep.Number.Decimal
import TierSweep.Number.Power
import TierSweep.Number.Shortest
import TierSweep.Number.Style
import TierSweep.Outcome
import TierSweep.Path
import TierSweep.Plan
import TierSweep.Policy
import TierSweep.Proofs.Constraints.Composition
import TierSweep.Proofs.Constraints.Standard
import TierSweep.Proofs.Coverage.Foretelling
import TierSweep.Proofs.Coverage.Gaps
import TierSweep.Proofs.Coverage.Prediction
import TierSweep.Proofs.Coverage.Redundancy
import TierSweep.Proofs.Coverage.Uniqueness
import TierSweep.Proofs.Entries.Order
import TierSweep.Proofs.Enumeration.Counting
import TierSweep.Proofs.Enumeration.Draws
import TierSweep.Proofs.Enumeration.Places
import TierSweep.Proofs.Enumeration.Progress
import TierSweep.Proofs.Failure.Rendering
import TierSweep.Proofs.Files.Containment
import TierSweep.Proofs.Files.ResultFiles
import TierSweep.Proofs.Identifier.Characters
import TierSweep.Proofs.Identifier.Injectivity
import TierSweep.Proofs.Identifier.Splitting
import TierSweep.Proofs.Json.Canonical
import TierSweep.Proofs.Json.Decoding
import TierSweep.Proofs.Json.Fields
import TierSweep.Proofs.Json.Injectivity
import TierSweep.Proofs.Json.Integers
import TierSweep.Proofs.Json.Lines
import TierSweep.Proofs.Json.Reals
import TierSweep.Proofs.Json.Reordering
import TierSweep.Proofs.Json.Shape
import TierSweep.Proofs.Json.Strings
import TierSweep.Proofs.Json.Tokens
import TierSweep.Proofs.Json.Trees
import TierSweep.Proofs.Number.Characters
import TierSweep.Proofs.Number.Comparison
import TierSweep.Proofs.Number.Digits
import TierSweep.Proofs.Number.Exact
import TierSweep.Proofs.Number.Numerals
import TierSweep.Proofs.Number.Rounding
import TierSweep.Proofs.Number.Shortest
import TierSweep.Proofs.Number.Texts
import TierSweep.Proofs.Plan.Agreement
import TierSweep.Proofs.Plan.JsonLines
import TierSweep.Proofs.Plan.Printing
import TierSweep.Proofs.Plan.Reordering
import TierSweep.Proofs.Plan.TextLines
import TierSweep.Proofs.Run.Arguments
import TierSweep.Proofs.Run.Dependence
import TierSweep.Proofs.Run.Derivation
import TierSweep.Proofs.Run.Reading
import TierSweep.Proofs.Run.Validation
import TierSweep.Proofs.Session.Accounting
import TierSweep.Proofs.Session.Cancellation
import TierSweep.Proofs.Session.Classification
import TierSweep.Proofs.Session.Collision
import TierSweep.Proofs.Session.Course
import TierSweep.Proofs.Session.Exchanges
import TierSweep.Proofs.Session.Framing
import TierSweep.Proofs.Session.History
import TierSweep.Proofs.Session.Isolation
import TierSweep.Proofs.Session.Memory
import TierSweep.Proofs.Session.Verdict
import TierSweep.Proofs.Session.Visits
import TierSweep.Proofs.Session.WellFormedness
import TierSweep.Proofs.Spec.Building
import TierSweep.Proofs.Spec.Digest
import TierSweep.Proofs.Spec.Integers
import TierSweep.Proofs.Spec.Normalization
import TierSweep.Proofs.Supervision.Endings
import TierSweep.Proofs.Text.Encoding
import TierSweep.Proofs.Text.Lines
import TierSweep.Proofs.Text.Order
import TierSweep.Proofs.Time.Limits
import TierSweep.Proofs.Time.Rounding
import TierSweep.Proofs.Traversal
import TierSweep.Proofs.Yaml.Keys
import TierSweep.Report
import TierSweep.Run
import TierSweep.RunSetup
import TierSweep.Session
import TierSweep.Shell.Arithmetic
import TierSweep.Shell.Builtin
import TierSweep.Shell.Command
import TierSweep.Shell.CommandReader
import TierSweep.Shell.Evaluation
import TierSweep.Shell.Expansion
import TierSweep.Shell.Redirection
import TierSweep.Shell.Run
import TierSweep.Shell.Source
import TierSweep.Shell.Startup
import TierSweep.Shell.State
import TierSweep.Shell.WordReader
import TierSweep.Spec
import TierSweep.SpecFile
import TierSweep.Supervision
import TierSweep.Text.Glob
import TierSweep.Text.Hex
import TierSweep.Text.Octets
import TierSweep.Text.Printable
import TierSweep.Text.Regex
import TierSweep.Text.Utf8
import TierSweep.TimeLimit
import TierSweep.Utility.Catalog
import TierSweep.Utility.Condition
import TierSweep.Utility.Editing
import TierSweep.Utility.Expression
import TierSweep.Utility.Facts
import TierSweep.Utility.Files
import TierSweep.Utility.Format
import TierSweep.Utility.Lines
import TierSweep.Utility.Listing
import TierSweep.Utility.Options
import TierSweep.Utility.Reading
import TierSweep.Utility.Search
import TierSweep.Utility.Starting
import TierSweep.Value
import TierSweep.Yaml.Cursor
import TierSweep.Yaml.Document
import TierSweep.Yaml.Form
import TierSweep.Yaml.Node
import TierSweep.Yaml.Scalar
import TierSweep.Yaml.Text
import TierSweep.Yaml.Token
