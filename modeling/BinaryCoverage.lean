import BinaryCoverage.Branch.Analysis
import BinaryCoverage.Branch.Arms
import BinaryCoverage.Branch.Basic
import BinaryCoverage.Branch.Detect
import BinaryCoverage.CommandLine.Basic
import BinaryCoverage.CommandLine.Response
import BinaryCoverage.Configuration.Basic
import BinaryCoverage.Configuration.Json
import BinaryCoverage.Configuration.Load
import BinaryCoverage.Configuration.Yaml
import BinaryCoverage.Correlation.Basic
import BinaryCoverage.Correlation.Declarations
import BinaryCoverage.Correlation.Fallback
import BinaryCoverage.Correlation.Mapping
import BinaryCoverage.Correlation.Registry
import BinaryCoverage.Correlation.Search
import BinaryCoverage.Coverage.Basic
import BinaryCoverage.Coverage.File
import BinaryCoverage.Coverage.Json
import BinaryCoverage.Coverage.Merge
import BinaryCoverage.Decimal.Binary64
import BinaryCoverage.Decimal.Percent
import BinaryCoverage.Decimal.Shortest
import BinaryCoverage.Diagnostic
import BinaryCoverage.Disassembly.Basic
import BinaryCoverage.Disassembly.Line
import BinaryCoverage.Disassembly.Transcript
import BinaryCoverage.Failure
import BinaryCoverage.Files.Access
import BinaryCoverage.Files.Change
import BinaryCoverage.Files.Tree
import BinaryCoverage.Glob.Basic
import BinaryCoverage.Glob.Expand
import BinaryCoverage.Image.Basic
import BinaryCoverage.Image.Bytes
import BinaryCoverage.Image.Elf
import BinaryCoverage.Image.Functions
import BinaryCoverage.Image.Ranges
import BinaryCoverage.Json.Basic
import BinaryCoverage.Json.Decode
import BinaryCoverage.Json.Printer
import BinaryCoverage.Json.Raw
import BinaryCoverage.Main
import BinaryCoverage.Notice
import BinaryCoverage.Opcode
import BinaryCoverage.Path.Basic
import BinaryCoverage.Pattern.Basic
import BinaryCoverage.Pattern.Bracket
import BinaryCoverage.Pattern.CharSet
import BinaryCoverage.Pattern.Escape
import BinaryCoverage.Pattern.Fault
import BinaryCoverage.Pattern.Flags
import BinaryCoverage.Pattern.Match
import BinaryCoverage.Pattern.Reader
import BinaryCoverage.Proofs.Branch.Account
import BinaryCoverage.Proofs.Branch.Arm
import BinaryCoverage.Proofs.Branch.Heading
import BinaryCoverage.Proofs.Branch.Label
import BinaryCoverage.Proofs.Branch.Locality
import BinaryCoverage.Proofs.Branch.Masking
import BinaryCoverage.Proofs.Branch.MissingElse
import BinaryCoverage.Proofs.Branch.Monotone
import BinaryCoverage.Proofs.Branch.Selection
import BinaryCoverage.Proofs.Configuration.Exclusion
import BinaryCoverage.Proofs.Correlation.Again
import BinaryCoverage.Proofs.Correlation.Answer
import BinaryCoverage.Proofs.Correlation.Attribution
import BinaryCoverage.Proofs.Correlation.Commute
import BinaryCoverage.Proofs.Correlation.Consistency
import BinaryCoverage.Proofs.Correlation.Entry
import BinaryCoverage.Proofs.Correlation.Exactness
import BinaryCoverage.Proofs.Correlation.Excluded
import BinaryCoverage.Proofs.Correlation.Frame
import BinaryCoverage.Proofs.Correlation.Growth
import BinaryCoverage.Proofs.Correlation.History
import BinaryCoverage.Proofs.Correlation.Identity
import BinaryCoverage.Proofs.Correlation.Incremental
import BinaryCoverage.Proofs.Correlation.Index
import BinaryCoverage.Proofs.Correlation.Inquiry
import BinaryCoverage.Proofs.Correlation.Key
import BinaryCoverage.Proofs.Correlation.Merging
import BinaryCoverage.Proofs.Correlation.Observation
import BinaryCoverage.Proofs.Correlation.Outcome
import BinaryCoverage.Proofs.Correlation.Placement
import BinaryCoverage.Proofs.Correlation.Progress
import BinaryCoverage.Proofs.Correlation.Reachable
import BinaryCoverage.Proofs.Correlation.Recorded
import BinaryCoverage.Proofs.Correlation.Registry
import BinaryCoverage.Proofs.Correlation.Statistics
import BinaryCoverage.Proofs.Correlation.Steady
import BinaryCoverage.Proofs.Correlation.Total
import BinaryCoverage.Proofs.Correlation.Unmapped
import BinaryCoverage.Proofs.Coverage.Addition
import BinaryCoverage.Proofs.Coverage.Algebra
import BinaryCoverage.Proofs.Coverage.Growth
import BinaryCoverage.Proofs.Coverage.Lookup
import BinaryCoverage.Proofs.Coverage.Merge
import BinaryCoverage.Proofs.Coverage.Note
import BinaryCoverage.Proofs.Coverage.RoundTrip
import BinaryCoverage.Proofs.Disassembly.Attribution
import BinaryCoverage.Proofs.Disassembly.Reading
import BinaryCoverage.Proofs.Files.Spelling
import BinaryCoverage.Proofs.Files.Walk
import BinaryCoverage.Proofs.Image.Marks
import BinaryCoverage.Proofs.Image.Partition
import BinaryCoverage.Proofs.Image.Ranges
import BinaryCoverage.Proofs.Image.Sections
import BinaryCoverage.Proofs.Json.Depth
import BinaryCoverage.Proofs.Json.Layout
import BinaryCoverage.Proofs.Json.Record
import BinaryCoverage.Proofs.Json.Text
import BinaryCoverage.Proofs.Path.Below
import BinaryCoverage.Proofs.Report.Independence
import BinaryCoverage.Proofs.Report.Reading
import BinaryCoverage.Proofs.Report.Record
import BinaryCoverage.Proofs.Report.Summary
import BinaryCoverage.Proofs.Run.Entries
import BinaryCoverage.Proofs.Run.Identity
import BinaryCoverage.Proofs.Source.Bracket
import BinaryCoverage.Proofs.Source.Lexical
import BinaryCoverage.Proofs.Source.Offset
import BinaryCoverage.Proofs.Source.Order
import BinaryCoverage.Proofs.Source.Word
import BinaryCoverage.Proofs.Table
import BinaryCoverage.Proofs.Text.Lines
import BinaryCoverage.Proofs.Text.Number
import BinaryCoverage.Proofs.Trace.Aggregate
import BinaryCoverage.Proofs.Trace.Load
import BinaryCoverage.Proofs.Trace.Selection
import BinaryCoverage.Report.Basic
import BinaryCoverage.Report.Record
import BinaryCoverage.Report.Summary
import BinaryCoverage.Run.Basic
import BinaryCoverage.Run.Tools
import BinaryCoverage.Shell.Basic
import BinaryCoverage.Shell.Choice
import BinaryCoverage.Shell.Reader
import BinaryCoverage.Shell.Run
import BinaryCoverage.Shell.State
import BinaryCoverage.Shell.Token
import BinaryCoverage.Shell.Written
import BinaryCoverage.Source.Basic
import BinaryCoverage.Source.Mask
import BinaryCoverage.Source.Scan
import BinaryCoverage.Table
import BinaryCoverage.Text.Blank
import BinaryCoverage.Text.Lines
import BinaryCoverage.Text.Number
import BinaryCoverage.Text.Utf8
import BinaryCoverage.Tool.Basic
import BinaryCoverage.Tool.Chain
import BinaryCoverage.Tool.Status
import BinaryCoverage.Trace.Load
import BinaryCoverage.Trace.Record
import BinaryCoverage.Trace.Store
import BinaryCoverage.Unicode.Age
import BinaryCoverage.Unicode.Binary
import BinaryCoverage.Unicode.Break
import BinaryCoverage.Unicode.Category
import BinaryCoverage.Unicode.CodeSet
import BinaryCoverage.Unicode.Folding
import BinaryCoverage.Unicode.Script
import BinaryCoverage.Unicode.ScriptExtension
import BinaryCoverage.Unicode.Word
import BinaryCoverage.Yaml.Cursor
import BinaryCoverage.Yaml.Decode
import BinaryCoverage.Yaml.Document
import BinaryCoverage.Yaml.Lexer
import BinaryCoverage.Yaml.Plain
import BinaryCoverage.Yaml.Scalar
import BinaryCoverage.Yaml.Tag
import BinaryCoverage.Yaml.Token
import BinaryCoverage.Yaml.Tree
