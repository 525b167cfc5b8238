import ModWeave.Cancellation
import ModWeave.CommandLine.Arguments
import ModWeave.CommandLine.Perform
import ModWeave.CommandLine.Run
import ModWeave.Decimal.Binary
import ModWeave.Decimal.Free
import ModWeave.Decimal.FreeFloat
import ModWeave.Decimal.Literal
import ModWeave.Decimal.Shortest
import ModWeave.Definition
import ModWeave.Definition.Reading
import ModWeave.Distinct
import ModWeave.Entity
import ModWeave.EntityOrder
import ModWeave.Files.Fault
import ModWeave.Files.Publishing
import ModWeave.Files.Session
import ModWeave.Files.Tree
import ModWeave.IdRange
import ModWeave.IdRange.Search
import ModWeave.Line.Command
import ModWeave.Line.Kind
import ModWeave.Line.Readable
import ModWeave.Line.Shape
import ModWeave.Line.Token
import ModWeave.Log
import ModWeave.Main
import ModWeave.Merge
import ModWeave.MergeOrder
import ModWeave.ModFile
import ModWeave.OrderedMap
import ModWeave.Output.Block
import ModWeave.Output.Body
import ModWeave.Output.Ends
import ModWeave.Output.Renumbered
import ModWeave.Output.Stream
import ModWeave.Path
import ModWeave.Proofs.CommandLine.Effects
import ModWeave.Proofs.CommandLine.Rerun
import ModWeave.Proofs.Definition.Content
import ModWeave.Proofs.Definition.Declarative
import ModWeave.Proofs.Definition.PassedOver
import ModWeave.Proofs.Definition.Places
import ModWeave.Proofs.Definition.Regions
import ModWeave.Proofs.Definition.Run
import ModWeave.Proofs.Definition.Stops
import ModWeave.Proofs.Definition.Yields
import ModWeave.Proofs.Files.Discovery
import ModWeave.Proofs.Files.Frame
import ModWeave.Proofs.Files.Publishing
import ModWeave.Proofs.Line.Breaks
import ModWeave.Proofs.Line.Exchange
import ModWeave.Proofs.Line.Grammar
import ModWeave.Proofs.Line.Keyword
import ModWeave.Proofs.Line.Kinds
import ModWeave.Proofs.Line.Plain
import ModWeave.Proofs.Line.ReadBack
import ModWeave.Proofs.Line.Recognition
import ModWeave.Proofs.Line.Span
import ModWeave.Proofs.Merge.Cutoff
import ModWeave.Proofs.Merge.InputOrder
import ModWeave.Proofs.Merge.Joining
import ModWeave.Proofs.Merge.Tolerance
import ModWeave.Proofs.Merge.Writable
import ModWeave.Proofs.MergeOrder
import ModWeave.Proofs.Output.BodyYields
import ModWeave.Proofs.Output.Branches
import ModWeave.Proofs.Output.Faults
import ModWeave.Proofs.Output.Lockstep
import ModWeave.Proofs.Output.OpenBlocks
import ModWeave.Proofs.Output.RepeatedEnds
import ModWeave.Proofs.Output.Reread
import ModWeave.Proofs.Output.Rewritten
import ModWeave.Proofs.Output.SecondPass
import ModWeave.Proofs.Registry.Allocation
import ModWeave.Proofs.Registry.Dangling
import ModWeave.Proofs.Registry.Exhaustion
import ModWeave.Proofs.Registry.FinalIds
import ModWeave.Proofs.Registry.IdClass
import ModWeave.Proofs.Registry.Independence
import ModWeave.Proofs.Registry.Ledger
import ModWeave.Proofs.Registry.Outcome
import ModWeave.Proofs.Registry.Owners
import ModWeave.Proofs.Registry.Runs
import ModWeave.Proofs.Registry.Warnings
import ModWeave.Proofs.Settings.Header
import ModWeave.Proofs.Settings.Overrides
import ModWeave.Registry
import ModWeave.Remap
import ModWeave.Report
import ModWeave.Report.Stored
import ModWeave.Report.Workbook
import ModWeave.ScanState
import ModWeave.Settings
import ModWeave.Settings.Loading
import ModWeave.Settings.Ranges
import ModWeave.Sorting
import ModWeave.SpellBlock
import ModWeave.Text.Blank
import ModWeave.Text.CodeRanges
import ModWeave.Text.Digit
import ModWeave.Text.Lines
import ModWeave.Text.Lower
import ModWeave.Text.Lower.Table
import ModWeave.Text.Pieces
import ModWeave.Text.Printable
import ModWeave.Text.Quoted
import ModWeave.Text.Utf8
import ModWeave.Text.Word
import ModWeave.Toml.Document
import ModWeave.Toml.Entry
import ModWeave.Toml.Fault
import ModWeave.Toml.Key
import ModWeave.Toml.Layout
import ModWeave.Toml.Moment
import ModWeave.Toml.Number
import ModWeave.Toml.Parts
import ModWeave.Toml.Quoted
import ModWeave.Toml.Section
import ModWeave.Toml.Value
import ModWeave.Warning
