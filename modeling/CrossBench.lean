import CrossBench.Affinity
import CrossBench.Build.Gate
import CrossBench.CommandLine.Basic
import CrossBench.CommandLine.Help
import CrossBench.CommandLine.Parse
import CrossBench.Decimal.Binary
import CrossBench.Decimal.Notation
import CrossBench.Decimal.Shortest
import CrossBench.Digest.Chained
import CrossBench.Digest.Octad
import CrossBench.Error
import CrossBench.Files.Edit
import CrossBench.Files.Node
import CrossBench.Files.Permission
import CrossBench.Files.Resolve
import CrossBench.Files.Walk
import CrossBench.Json.Value
import CrossBench.Main
import CrossBench.Os.Error
import CrossBench.Os.Kernel
import CrossBench.Os.Program
import CrossBench.Os.WaitStatus
import CrossBench.Path
import CrossBench.Process
import CrossBench.Program
import CrossBench.Proofs.Build.Decision
import CrossBench.Proofs.Build.Presence
import CrossBench.Proofs.CommandLine.Items
import CrossBench.Proofs.CommandLine.Reading
import CrossBench.Proofs.CommandLine.Spelling
import CrossBench.Proofs.CommandLine.Writing
import CrossBench.Proofs.Decimal.Rounded
import CrossBench.Proofs.Decimal.Shortest
import CrossBench.Proofs.Doubles.Arithmetic
import CrossBench.Proofs.Doubles.Error
import CrossBench.Proofs.Doubles.Interval
import CrossBench.Proofs.Doubles.Order
import CrossBench.Proofs.Doubles.Rounding
import CrossBench.Proofs.Doubles.Statistics
import CrossBench.Proofs.Files.Descent
import CrossBench.Proofs.Files.Enumeration
import CrossBench.Proofs.Files.Extension
import CrossBench.Proofs.Json.Numeral
import CrossBench.Proofs.Json.Reader
import CrossBench.Proofs.Json.RoundTrip
import CrossBench.Proofs.Process.Trace
import CrossBench.Proofs.Program.ExitCode
import CrossBench.Proofs.Program.Reliance
import CrossBench.Proofs.Registry.Bindings
import CrossBench.Proofs.Registry.Invocable
import CrossBench.Proofs.Report.Colours
import CrossBench.Proofs.Report.Filling
import CrossBench.Proofs.Report.Printed
import CrossBench.Proofs.Report.Reading
import CrossBench.Proofs.Report.Rows
import CrossBench.Proofs.Report.Session
import CrossBench.Proofs.Report.Shown
import CrossBench.Proofs.Report.Telling
import CrossBench.Proofs.Report.Unescaped
import CrossBench.Proofs.Run.Commands
import CrossBench.Proofs.Run.Course
import CrossBench.Proofs.Run.Endings
import CrossBench.Proofs.Run.Formats
import CrossBench.Proofs.Run.Gaps
import CrossBench.Proofs.Run.Limit
import CrossBench.Proofs.Run.ReadBack
import CrossBench.Proofs.Run.Reuse
import CrossBench.Proofs.Run.Samples
import CrossBench.Proofs.Run.Starts
import CrossBench.Proofs.Run.Times
import CrossBench.Proofs.Settings.Layers
import CrossBench.Proofs.Suites.Listing
import CrossBench.Proofs.Suites.Naming
import CrossBench.Proofs.Suites.Obstruction
import CrossBench.Proofs.Summary.Mean
import CrossBench.Proofs.Summary.Sorting
import CrossBench.Proofs.Text.Utf8
import CrossBench.Registry
import CrossBench.Report.Csv
import CrossBench.Report.Document
import CrossBench.Report.Event
import CrossBench.Report.Human
import CrossBench.Report.Reporter
import CrossBench.Report.Sink
import CrossBench.Run
import CrossBench.Sampling
import CrossBench.Settings.Basic
import CrossBench.Settings.Load
import CrossBench.Shell.Arithmetic.Basic
import CrossBench.Shell.Arithmetic.Extended
import CrossBench.Shell.Arithmetic.Plain
import CrossBench.Shell.Braces
import CrossBench.Shell.Builtin
import CrossBench.Shell.Bytes
import CrossBench.Shell.Command.Arguments
import CrossBench.Shell.Command.Complete
import CrossBench.Shell.Command.Control
import CrossBench.Shell.Command.Declare
import CrossBench.Shell.Command.Directory
import CrossBench.Shell.Command.Input
import CrossBench.Shell.Command.Jobs
import CrossBench.Shell.Command.Lookup
import CrossBench.Shell.Command.Process
import CrossBench.Shell.Complaint
import CrossBench.Shell.Expand
import CrossBench.Shell.External
import CrossBench.Shell.Fields
import CrossBench.Shell.Host
import CrossBench.Shell.Jobs
import CrossBench.Shell.Launch
import CrossBench.Shell.Parameters
import CrossBench.Shell.Parser
import CrossBench.Shell.Pattern
import CrossBench.Shell.Print.Escape
import CrossBench.Shell.Print.Format
import CrossBench.Shell.Quoting
import CrossBench.Shell.Redirect
import CrossBench.Shell.Run
import CrossBench.Shell.Script
import CrossBench.Shell.Session
import CrossBench.Shell.Simple
import CrossBench.Shell.Source
import CrossBench.Shell.Start
import CrossBench.Shell.Statement
import CrossBench.Shell.Test
import CrossBench.Shell.Trap
import CrossBench.Shell.Unparse
import CrossBench.Shell.Word
import CrossBench.Suites
import CrossBench.Summary
import CrossBench.Table
import CrossBench.Tag
import CrossBench.Text.Calendar
import CrossBench.Text.Changes
import CrossBench.Text.Layout
import CrossBench.Text.Letters
import CrossBench.Text.Radix
import CrossBench.Text.Reader
import CrossBench.Text.Regex
import CrossBench.Text.Regex.Backtrack
import CrossBench.Text.Regex.Read
import CrossBench.Text.TimeWords
import CrossBench.Text.Utf8
import CrossBench.Text.Version
import CrossBench.Text.Zone
import CrossBench.Toml.Document
import CrossBench.Toml.Number
import CrossBench.Toml.Text
import CrossBench.Toml.Value
import CrossBench.Tool.Account
import CrossBench.Tool.Arguments
import CrossBench.Tool.Batch
import CrossBench.Tool.Compare
import CrossBench.Tool.Compute
import CrossBench.Tool.Condition
import CrossBench.Tool.Copy
import CrossBench.Tool.Count
import CrossBench.Tool.Difference
import CrossBench.Tool.Difference.Beside
import CrossBench.Tool.Difference.Form
import CrossBench.Tool.Digest
import CrossBench.Tool.Dump
import CrossBench.Tool.Editor.Run
import CrossBench.Tool.Editor.Script
import CrossBench.Tool.Environment
import CrossBench.Tool.Filling
import CrossBench.Tool.Input
import CrossBench.Tool.Join
import CrossBench.Tool.Letters
import CrossBench.Tool.List
import CrossBench.Tool.List.Style
import CrossBench.Tool.Make
import CrossBench.Tool.Moment
import CrossBench.Tool.Name
import CrossBench.Tool.Order
import CrossBench.Tool.Part
import CrossBench.Tool.Print
import CrossBench.Tool.Quantity
import CrossBench.Tool.Records.Evaluate
import CrossBench.Tool.Records.Machine
import CrossBench.Tool.Records.Main
import CrossBench.Tool.Records.Number
import CrossBench.Tool.Records.Parser
import CrossBench.Tool.Records.Pattern
import CrossBench.Tool.Records.Stream
import CrossBench.Tool.Records.Syntax
import CrossBench.Tool.Records.Table
import CrossBench.Tool.Records.Token
import CrossBench.Tool.Search
import CrossBench.Tool.Shuffle
import CrossBench.Tool.Split
import CrossBench.Tool.Start
import CrossBench.Tool.Stat
import CrossBench.Tool.Table
import CrossBench.Tool.Transfer
import CrossBench.Tool.Usage
import CrossBench.Tool.Walk
import CrossBench.Tool.Walk.Expression
import CrossBench.Tool.Walk.Read
