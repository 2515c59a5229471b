import IncludeScan.CommandLine.Arguments
import IncludeScan.CommandLine.Run
import IncludeScan.Config
import IncludeScan.Entry
import IncludeScan.Error
import IncludeScan.FileSystem.Basic
import IncludeScan.FileSystem.Changes
import IncludeScan.FileSystem.Unlinked
import IncludeScan.FileSystem.Visible
import IncludeScan.Index.Basic
import IncludeScan.Index.Memory
import IncludeScan.Index.Open
import IncludeScan.Index.PositionTable
import IncludeScan.Index.RowText
import IncludeScan.Index.Rows
import IncludeScan.Index.StoreName
import IncludeScan.Json.Token
import IncludeScan.Json.Value
import IncludeScan.Level
import IncludeScan.Main
import IncludeScan.Path
import IncludeScan.Pattern
import IncludeScan.Proofs.CommandLine.Deletion
import IncludeScan.Proofs.FileSystem.Canonical
import IncludeScan.Proofs.FileSystem.Edits
import IncludeScan.Proofs.FileSystem.Joined
import IncludeScan.Proofs.FileSystem.Visible
import IncludeScan.Proofs.Index.Lookups
import IncludeScan.Proofs.Index.Memory
import IncludeScan.Proofs.Index.OutOfRange
import IncludeScan.Proofs.Index.Rows
import IncludeScan.Proofs.Json.Lexing
import IncludeScan.Proofs.Json.Reading
import IncludeScan.Proofs.Pattern.Selector
import IncludeScan.Proofs.Regex.Steps
import IncludeScan.Proofs.Removal
import IncludeScan.Proofs.Removal.Lines
import IncludeScan.Proofs.Scan.LatestUnit
import IncludeScan.Proofs.Scan.Levels
import IncludeScan.Proofs.Scan.Names
import IncludeScan.Proofs.Scan.Needed
import IncludeScan.Proofs.Scan.Outcome
import IncludeScan.Proofs.Scan.Reordering
import IncludeScan.Proofs.Scan.Safety
import IncludeScan.Proofs.Scan.Stored
import IncludeScan.Proofs.Scan.Uncached
import IncludeScan.Proofs.Scan.Visits
import IncludeScan.Proofs.Snapshot.RoundTrip
import IncludeScan.Proofs.Tree.Ancestry
import IncludeScan.Proofs.Tree.Build
import IncludeScan.Proofs.Tree.Calls
import IncludeScan.Proofs.Tree.Choice
import IncludeScan.Proofs.Tree.DirectIncludes
import IncludeScan.Proofs.Tree.Growth
import IncludeScan.Proofs.Tree.Marking
import IncludeScan.Proofs.Tree.RootTracing
import IncludeScan.Proofs.Tree.TwoRounds
import IncludeScan.Proofs.Tree.UniqueParents
import IncludeScan.Proofs.Tree.UsedNodes
import IncludeScan.Proofs.Workspace.Folder
import IncludeScan.Proofs.Workspace.Interleaving
import IncludeScan.Regex.Bracket
import IncludeScan.Regex.ByteRange
import IncludeScan.Regex.Class
import IncludeScan.Regex.Compile
import IncludeScan.Regex.Escape
import IncludeScan.Regex.Expr
import IncludeScan.Regex.Flags
import IncludeScan.Regex.Footprint
import IncludeScan.Regex.Fragment
import IncludeScan.Regex.Match
import IncludeScan.Regex.Matcher
import IncludeScan.Regex.Needle
import IncludeScan.Regex.Parse
import IncludeScan.Regex.Plan
import IncludeScan.Regex.Program
import IncludeScan.Regex.Property
import IncludeScan.Removal
import IncludeScan.Report
import IncludeScan.Scan
import IncludeScan.Snapshot.Basic
import IncludeScan.Snapshot.Decode
import IncludeScan.Snapshot.Encode
import IncludeScan.Symbol.Kind
import IncludeScan.Symbol.Occurrence
import IncludeScan.Symbol.Roles
import IncludeScan.Text.Age
import IncludeScan.Text.Alphabetic
import IncludeScan.Text.BinaryProperty
import IncludeScan.Text.Blank
import IncludeScan.Text.Break
import IncludeScan.Text.Bytes
import IncludeScan.Text.CaseFold
import IncludeScan.Text.Category
import IncludeScan.Text.Distinct
import IncludeScan.Text.Fields
import IncludeScan.Text.Ranges
import IncludeScan.Text.Script
import IncludeScan.Text.Word
import IncludeScan.Tree.Attach
import IncludeScan.Tree.Basic
import IncludeScan.Tree.Usage
import IncludeScan.Workspace
