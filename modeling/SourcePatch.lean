import SourcePatch.Command.Arguments
import SourcePatch.Command.Basic
import SourcePatch.Command.Output
import SourcePatch.Command.Preparation
import SourcePatch.Command.Report
import SourcePatch.Command.Scan
import SourcePatch.Decimal.Binary64
import SourcePatch.Decimal.Shortest
import SourcePatch.Diff.Basic
import SourcePatch.Diff.Script
import SourcePatch.Diff.Search
import SourcePatch.Diff.Slide
import SourcePatch.Digest.Xxh3
import SourcePatch.Disk.Basic
import SourcePatch.Disk.Lookup
import SourcePatch.Disk.Operations
import SourcePatch.Edit.Basic
import SourcePatch.Edit.Verification
import SourcePatch.Engine.Outcome
import SourcePatch.Engine.Plan
import SourcePatch.Json.Value
import SourcePatch.Main
import SourcePatch.PatchSet.Basic
import SourcePatch.PatchSet.Builtin
import SourcePatch.PatchSet.Loading
import SourcePatch.PatchSet.Run
import SourcePatch.PatchSet.Schema
import SourcePatch.PatchSet.Selection
import SourcePatch.PatchSet.Validation
import SourcePatch.Path
import SourcePatch.Proofs.Command.Agreement
import SourcePatch.Proofs.Command.Discovery
import SourcePatch.Proofs.Command.Prepared
import SourcePatch.Proofs.Command.Requested
import SourcePatch.Proofs.Command.Tally
import SourcePatch.Proofs.Command.Verify
import SourcePatch.Proofs.Disk.Absence
import SourcePatch.Proofs.Disk.Dig
import SourcePatch.Proofs.Disk.Directories
import SourcePatch.Proofs.Disk.Entry
import SourcePatch.Proofs.Disk.Missing
import SourcePatch.Proofs.Disk.Parent
import SourcePatch.Proofs.Disk.Persists
import SourcePatch.Proofs.Disk.Reordered
import SourcePatch.Proofs.Disk.Shape
import SourcePatch.Proofs.Disk.Straight
import SourcePatch.Proofs.Disk.Travel
import SourcePatch.Proofs.Edit.Atomic
import SourcePatch.Proofs.Edit.Ending
import SourcePatch.Proofs.Edit.Interruption
import SourcePatch.Proofs.Edit.Replace
import SourcePatch.Proofs.Edit.Verification
import SourcePatch.Proofs.Engine.Alone
import SourcePatch.Proofs.Engine.Beside
import SourcePatch.Proofs.Engine.Commit
import SourcePatch.Proofs.Engine.Confinement
import SourcePatch.Proofs.Engine.Effect
import SourcePatch.Proofs.Engine.Failure
import SourcePatch.Proofs.Engine.GuardedAppend
import SourcePatch.Proofs.Engine.MissingTarget
import SourcePatch.Proofs.Engine.NewFile
import SourcePatch.Proofs.Engine.Plan
import SourcePatch.Proofs.Engine.Redirected
import SourcePatch.Proofs.Engine.Refinement
import SourcePatch.Proofs.Engine.Removal
import SourcePatch.Proofs.Engine.Rerun
import SourcePatch.Proofs.Engine.SecondRun
import SourcePatch.Proofs.Engine.Settled
import SourcePatch.Proofs.Engine.StalePlan
import SourcePatch.Proofs.Engine.Steps
import SourcePatch.Proofs.Json.Lexer
import SourcePatch.Proofs.Json.Reader
import SourcePatch.Proofs.PatchSet.Apart
import SourcePatch.Proofs.PatchSet.Applied
import SourcePatch.Proofs.PatchSet.DryRun
import SourcePatch.Proofs.PatchSet.Frame
import SourcePatch.Proofs.PatchSet.Isolation
import SourcePatch.Proofs.PatchSet.Issues
import SourcePatch.Proofs.PatchSet.Order
import SourcePatch.Proofs.PatchSet.RunAgain
import SourcePatch.Proofs.PatchSet.Selection
import SourcePatch.Proofs.PatchSet.Structural
import SourcePatch.Proofs.PatchSet.Validation
import SourcePatch.Proofs.PatchSet.WellFormed
import SourcePatch.Proofs.Path
import SourcePatch.Proofs.Path.Name
import SourcePatch.Proofs.Regex.Leads
import SourcePatch.Proofs.Regex.Parts
import SourcePatch.Proofs.Regex.Reach
import SourcePatch.Proofs.Regex.Search
import SourcePatch.Proofs.Regex.Ways
import SourcePatch.Proofs.Report.Json
import SourcePatch.Proofs.Report.Tally
import SourcePatch.Proofs.Rule.Block
import SourcePatch.Proofs.Rule.BlockRegex
import SourcePatch.Proofs.Rule.Compile
import SourcePatch.Proofs.Rule.Escaped
import SourcePatch.Proofs.Rule.Removal
import SourcePatch.Proofs.Rule.Set
import SourcePatch.Proofs.Rule.Shortcut
import SourcePatch.Proofs.Text.Join
import SourcePatch.Proofs.Text.Literal
import SourcePatch.Proofs.Text.Newline
import SourcePatch.Proofs.Text.Scan
import SourcePatch.Proofs.Tree.Beside
import SourcePatch.Proofs.Tree.Find
import SourcePatch.Proofs.Tree.Lexical
import SourcePatch.Proofs.Tree.Linkless
import SourcePatch.Proofs.Tree.Resolve
import SourcePatch.Proofs.Tree.Standing
import SourcePatch.Proofs.Tree.Target
import SourcePatch.Regex.Basic
import SourcePatch.Regex.Form
import SourcePatch.Regex.Look
import SourcePatch.Regex.Mode
import SourcePatch.Regex.Pattern
import SourcePatch.Regex.Reader
import SourcePatch.Regex.Template
import SourcePatch.Report.Run
import SourcePatch.Report.Summary
import SourcePatch.Rule.Basic
import SourcePatch.Rule.Set
import SourcePatch.Text.Blank
import SourcePatch.Text.Decoding
import SourcePatch.Text.Hex
import SourcePatch.Text.Literal
import SourcePatch.Text.Newline
import SourcePatch.Text.Occurrence
import SourcePatch.Text.Quoted
import SourcePatch.Text.Similarity
import SourcePatch.Toml.Reader
import SourcePatch.Toml.Scalar
import SourcePatch.Toml.Text
import SourcePatch.Toml.Value
import SourcePatch.Tree.Guard
import SourcePatch.Tree.Locate
import SourcePatch.Unicode.BinaryProperty
import SourcePatch.Unicode.CaseFolding
import SourcePatch.Unicode.Category
import SourcePatch.Unicode.CharSet
import SourcePatch.Unicode.Property
import SourcePatch.Unicode.Script
import SourcePatch.Unicode.ScriptExtension
import SourcePatch.Unicode.Table
