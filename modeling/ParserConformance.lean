import ParserConformance.Annotation.Lexer
import ParserConformance.Annotation.Reader
import ParserConformance.Annotation.Token
import ParserConformance.Check.Failure
import ParserConformance.Check.Trace
import ParserConformance.CommandLine.Arguments
import ParserConformance.CommandLine.Run
import ParserConformance.Config.Configuration
import ParserConformance.Config.RunSettings
import ParserConformance.Corpus.Block
import ParserConformance.Corpus.Discovery
import ParserConformance.Corpus.Fixture
import ParserConformance.Corpus.Format
import ParserConformance.Corpus.Splitting
import ParserConformance.Digest.Blake2b
import ParserConformance.Digest.Bytes
import ParserConformance.Digest.Md5
import ParserConformance.Digest.Sha1
import ParserConformance.Digest.Sha2
import ParserConformance.Files.Disk
import ParserConformance.Files.Path
import ParserConformance.Files.Trouble
import ParserConformance.Instances
import ParserConformance.Json.Reader
import ParserConformance.Json.Value
import ParserConformance.Keyed
import ParserConformance.Loader.Basic
import ParserConformance.Main
import ParserConformance.Outline.Basic
import ParserConformance.Outline.Comparison
import ParserConformance.Outline.Mismatch
import ParserConformance.Outline.OfParseTree
import ParserConformance.ParseTree.Basic
import ParserConformance.ParseTree.Wire
import ParserConformance.Parser.Artifact
import ParserConformance.Parser.Host
import ParserConformance.Parser.Program
import ParserConformance.Position
import ParserConformance.Proofs.Annotation.FaultPlaces
import ParserConformance.Proofs.Annotation.Grammar
import ParserConformance.Proofs.Annotation.Layout
import ParserConformance.Proofs.Annotation.Lexing
import ParserConformance.Proofs.Annotation.MissingKinds
import ParserConformance.Proofs.Annotation.Printing
import ParserConformance.Proofs.Annotation.Reading
import ParserConformance.Proofs.Annotation.Recognition
import ParserConformance.Proofs.Annotation.Spacing
import ParserConformance.Proofs.Annotation.Words
import ParserConformance.Proofs.Check.Levels
import ParserConformance.Proofs.Check.Nesting
import ParserConformance.Proofs.Check.Positions
import ParserConformance.Proofs.Check.PrintedExpectation
import ParserConformance.Proofs.Check.Ruling
import ParserConformance.Proofs.Check.Verdict
import ParserConformance.Proofs.Config.Lookups
import ParserConformance.Proofs.Corpus.Covering
import ParserConformance.Proofs.Corpus.Delimiters
import ParserConformance.Proofs.Corpus.Discovery
import ParserConformance.Proofs.Corpus.ExpectedLines
import ParserConformance.Proofs.Corpus.Replacing
import ParserConformance.Proofs.Corpus.UnclosedHeaders
import ParserConformance.Proofs.Corpus.Writing
import ParserConformance.Proofs.Files.Growth
import ParserConformance.Proofs.Files.Reordering
import ParserConformance.Proofs.Json.Reading
import ParserConformance.Proofs.List.Entries
import ParserConformance.Proofs.Loader.Accounts
import ParserConformance.Proofs.Loader.Memory
import ParserConformance.Proofs.Loader.Places
import ParserConformance.Proofs.Loader.Renewal
import ParserConformance.Proofs.Loader.Scene
import ParserConformance.Proofs.Loader.Sharing
import ParserConformance.Proofs.Loader.Stages
import ParserConformance.Proofs.Outline.Comparison
import ParserConformance.Proofs.Outline.Erasure
import ParserConformance.Proofs.Outline.ErrorPlaces
import ParserConformance.Proofs.Outline.FirstDivergence
import ParserConformance.Proofs.Outline.Places
import ParserConformance.Proofs.ParseTree.Depth
import ParserConformance.Proofs.ParseTree.Errors
import ParserConformance.Proofs.ParseTree.KeptNodes
import ParserConformance.Proofs.ParseTree.Nodes
import ParserConformance.Proofs.ParseTree.Wire
import ParserConformance.Proofs.Report.Agreement
import ParserConformance.Proofs.Report.Reading
import ParserConformance.Proofs.Report.Stream
import ParserConformance.Proofs.Suite.Board
import ParserConformance.Proofs.Suite.Outcomes
import ParserConformance.Proofs.Text.Lines
import ParserConformance.Proofs.Text.Quoted
import ParserConformance.Proofs.Text.Replacement
import ParserConformance.Proofs.Text.Utf8
import ParserConformance.Proofs.Toml.Keys
import ParserConformance.Proofs.Toml.Sections
import ParserConformance.Report.Run
import ParserConformance.Report.Suite
import ParserConformance.Report.Tap
import ParserConformance.Script.Arithmetic
import ParserConformance.Script.Awk.Format
import ParserConformance.Script.Awk.Lexer
import ParserConformance.Script.Awk.Program
import ParserConformance.Script.Awk.Progress
import ParserConformance.Script.Awk.Reader
import ParserConformance.Script.Awk.Run
import ParserConformance.Script.Awk.Start
import ParserConformance.Script.Awk.Streams
import ParserConformance.Script.Awk.Table
import ParserConformance.Script.Awk.Text
import ParserConformance.Script.Awk.Value
import ParserConformance.Script.Builtin
import ParserConformance.Script.Command
import ParserConformance.Script.Condition
import ParserConformance.Script.Decimal
import ParserConformance.Script.Expansion
import ParserConformance.Script.Fields
import ParserConformance.Script.Find.Expression
import ParserConformance.Script.Find.Reader
import ParserConformance.Script.Find.Search
import ParserConformance.Script.Launch
import ParserConformance.Script.Lookup
import ParserConformance.Script.Machine
import ParserConformance.Script.Mode
import ParserConformance.Script.Pattern
import ParserConformance.Script.Printing
import ParserConformance.Script.Reader
import ParserConformance.Script.Resumption
import ParserConformance.Script.Run
import ParserConformance.Script.Runner.Arguments
import ParserConformance.Script.Runner.Basic
import ParserConformance.Script.Runner.Limits
import ParserConformance.Script.Runner.Surroundings
import ParserConformance.Script.Schedule
import ParserConformance.Script.Sending
import ParserConformance.Script.Signal
import ParserConformance.Script.Start
import ParserConformance.Script.System
import ParserConformance.Script.Tool.Blocks
import ParserConformance.Script.Tool.Call
import ParserConformance.Script.Tool.Columns
import ParserConformance.Script.Tool.Comparing
import ParserConformance.Script.Tool.Count
import ParserConformance.Script.Tool.Counting
import ParserConformance.Script.Tool.Date
import ParserConformance.Script.Tool.Dialog
import ParserConformance.Script.Tool.Difference
import ParserConformance.Script.Tool.Difference.Files
import ParserConformance.Script.Tool.Difference.Manner
import ParserConformance.Script.Tool.Difference.Patch
import ParserConformance.Script.Tool.Difference.Patching
import ParserConformance.Script.Tool.Difference.Printer
import ParserConformance.Script.Tool.Digests
import ParserConformance.Script.Tool.Dump
import ParserConformance.Script.Tool.Encoding
import ParserConformance.Script.Tool.Expression
import ParserConformance.Script.Tool.Factors
import ParserConformance.Script.Tool.Filling
import ParserConformance.Script.Tool.Grep
import ParserConformance.Script.Tool.Listing
import ParserConformance.Script.Tool.Making
import ParserConformance.Script.Tool.Names
import ParserConformance.Script.Tool.Numbering
import ParserConformance.Script.Tool.Options
import ParserConformance.Script.Tool.Ownership
import ParserConformance.Script.Tool.Pairing
import ParserConformance.Script.Tool.Pieces
import ParserConformance.Script.Tool.Place
import ParserConformance.Script.Tool.Portion
import ParserConformance.Script.Tool.Quoting
import ParserConformance.Script.Tool.Regex
import ParserConformance.Script.Tool.Regex.Matching
import ParserConformance.Script.Tool.Regex.Perl
import ParserConformance.Script.Tool.Regex.Reader
import ParserConformance.Script.Tool.Removal
import ParserConformance.Script.Tool.Repeats
import ParserConformance.Script.Tool.Sections
import ParserConformance.Script.Tool.Sed
import ParserConformance.Script.Tool.Sed.Editor
import ParserConformance.Script.Tool.Sed.Program
import ParserConformance.Script.Tool.Sed.Reader
import ParserConformance.Script.Tool.Shuffling
import ParserConformance.Script.Tool.Small
import ParserConformance.Script.Tool.Sorting
import ParserConformance.Script.Tool.Status
import ParserConformance.Script.Tool.Tabs
import ParserConformance.Script.Tool.Time.Calendar
import ParserConformance.Script.Tool.Time.Reading
import ParserConformance.Script.Tool.Topology
import ParserConformance.Script.Tool.Transfer
import ParserConformance.Script.Tool.Translation
import ParserConformance.Script.Tool.Units
import ParserConformance.Script.Tool.Whole
import ParserConformance.Suite.Board
import ParserConformance.Suite.Run
import ParserConformance.Text.Blank
import ParserConformance.Text.Lines
import ParserConformance.Text.Quoted
import ParserConformance.Text.Utf8
import ParserConformance.Toml.Reader
import ParserConformance.Toml.Value
