import PropertyAudit.Access
import PropertyAudit.Assignments
import PropertyAudit.Association
import PropertyAudit.ClassAudit
import PropertyAudit.ClassFacts
import PropertyAudit.CommandLine.Arguments
import PropertyAudit.CommandLine.Run
import PropertyAudit.Correlation
import PropertyAudit.Decimal.Binary64
import PropertyAudit.Decimal.Shortest
import PropertyAudit.Declaration
import PropertyAudit.Disk
import PropertyAudit.Extension
import PropertyAudit.FactFile.Decoder
import PropertyAudit.FactFile.Encoder
import PropertyAudit.FactFile.Gather
import PropertyAudit.Failure
import PropertyAudit.Hierarchy
import PropertyAudit.Initialization
import PropertyAudit.Json.Buffered
import PropertyAudit.Json.Decoder
import PropertyAudit.Json.Fault
import PropertyAudit.Json.Printer
import PropertyAudit.Json.Reader
import PropertyAudit.Json.Value
import PropertyAudit.Main
import PropertyAudit.Options
import PropertyAudit.Path
import PropertyAudit.Pattern.CharSet
import PropertyAudit.Pattern.ClassProgram
import PropertyAudit.Pattern.Compiled
import PropertyAudit.Pattern.LiteralTree
import PropertyAudit.Pattern.Look
import PropertyAudit.Pattern.Parser
import PropertyAudit.Pattern.Program
import PropertyAudit.Pattern.Regex
import PropertyAudit.Pattern.Search
import PropertyAudit.Pattern.Tree
import PropertyAudit.Plan
import PropertyAudit.Proofs.Access.Candidates
import PropertyAudit.Proofs.Access.ClassReferences
import PropertyAudit.Proofs.Access.Owners
import PropertyAudit.Proofs.ClassAudit.Abandonment
import PropertyAudit.Proofs.ClassAudit.Constructors
import PropertyAudit.Proofs.ClassAudit.MoreEvidence
import PropertyAudit.Proofs.ClassAudit.OrderIndependence
import PropertyAudit.Proofs.ClassAudit.Outcome
import PropertyAudit.Proofs.ClassAudit.Presumption
import PropertyAudit.Proofs.ClassAudit.RepeatedDeclarations
import PropertyAudit.Proofs.ClassAudit.UnprovenAccesses
import PropertyAudit.Proofs.ClassAudit.Verdicts
import PropertyAudit.Proofs.ClassFacts.FirstDeclarations
import PropertyAudit.Proofs.CommandLine.OutputPaths
import PropertyAudit.Proofs.CommandLine.Runs
import PropertyAudit.Proofs.Correlation.Contributions
import PropertyAudit.Proofs.Disk.Locations
import PropertyAudit.Proofs.Disk.Writing
import PropertyAudit.Proofs.Extension.Questions
import PropertyAudit.Proofs.FactFile.Gathering
import PropertyAudit.Proofs.FactFile.InsertionOrder
import PropertyAudit.Proofs.FactFile.Listing
import PropertyAudit.Proofs.FactFile.Rearrangement
import PropertyAudit.Proofs.FactFile.Revisions
import PropertyAudit.Proofs.FactFile.RoundTrip
import PropertyAudit.Proofs.FactFile.Shapes
import PropertyAudit.Proofs.FactFile.TaggedFacts
import PropertyAudit.Proofs.FactFile.TaggedRevisions
import PropertyAudit.Proofs.FactFile.Undecodable
import PropertyAudit.Proofs.Hierarchy.Chains
import PropertyAudit.Proofs.Hierarchy.ParentOrder
import PropertyAudit.Proofs.Hierarchy.Parents
import PropertyAudit.Proofs.Hierarchy.Subclassing
import PropertyAudit.Proofs.Hierarchy.Undeclared
import PropertyAudit.Proofs.Initialization.Unassigned
import PropertyAudit.Proofs.Json.Containers
import PropertyAudit.Proofs.Json.Layout
import PropertyAudit.Proofs.Json.Mending
import PropertyAudit.Proofs.Json.Numerals
import PropertyAudit.Proofs.Json.Passing
import PropertyAudit.Proofs.Json.Payloads
import PropertyAudit.Proofs.Json.ReadBack
import PropertyAudit.Proofs.Json.ReadValues
import PropertyAudit.Proofs.Json.Readings
import PropertyAudit.Proofs.Json.Scalars
import PropertyAudit.Proofs.Json.Source
import PropertyAudit.Proofs.Json.SteadyDecoders
import PropertyAudit.Proofs.Json.SteadyNumbers
import PropertyAudit.Proofs.Json.SteadyPassing
import PropertyAudit.Proofs.Json.SteadyStrings
import PropertyAudit.Proofs.Json.Tokens
import PropertyAudit.Proofs.Members
import PropertyAudit.Proofs.Plan.Histories
import PropertyAudit.Proofs.Plan.Preloading
import PropertyAudit.Proofs.PropertyTable.Evidence
import PropertyAudit.Proofs.PropertyTable.Marking
import PropertyAudit.Proofs.Repetitions
import PropertyAudit.Proofs.Report.ReadBack
import PropertyAudit.Proofs.Results
import PropertyAudit.Proofs.Survey.Accounting
import PropertyAudit.Proofs.Survey.Batch
import PropertyAudit.Proofs.Survey.Bulkhead
import PropertyAudit.Proofs.Survey.ClassOrder
import PropertyAudit.Proofs.Survey.Ignoring
import PropertyAudit.Proofs.Survey.Repartition
import PropertyAudit.Proofs.Text.Characters
import PropertyAudit.Proofs.ValueType.Consensus
import PropertyAudit.Proofs.ValueType.Edits
import PropertyAudit.Proofs.ValueType.KnownText
import PropertyAudit.Proofs.ValueType.LaterEntries
import PropertyAudit.Proofs.ValueType.Leaves
import PropertyAudit.Proofs.ValueType.NullRemoval
import PropertyAudit.Proofs.ValueType.Ownership
import PropertyAudit.PropertyTable
import PropertyAudit.Report
import PropertyAudit.Rule
import PropertyAudit.Settings
import PropertyAudit.Settings.File
import PropertyAudit.Survey
import PropertyAudit.Text.ByteRange
import PropertyAudit.Text.Encoding
import PropertyAudit.Text.Matching
import PropertyAudit.Text.Quoted
import PropertyAudit.Text.Segments
import PropertyAudit.Toml.Document
import PropertyAudit.Toml.Scalar
import PropertyAudit.Toml.Tables
import PropertyAudit.Toml.Value
import PropertyAudit.Trinary
import PropertyAudit.Unicode.Additions
import PropertyAudit.Unicode.Age
import PropertyAudit.Unicode.CaseFolding
import PropertyAudit.Unicode.Category
import PropertyAudit.Unicode.Property
import PropertyAudit.Unicode.Ranges
import PropertyAudit.Unicode.Script
import PropertyAudit.Unicode.Segmentation
import PropertyAudit.Usage
import PropertyAudit.ValueType
import PropertyAudit.Verdict
