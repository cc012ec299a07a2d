import FenceCheck.Cli.Run
import FenceCheck.Report.Pool
import FenceCheck.Proofs.Fence.Reading
import FenceCheck.Proofs.Report.Collection
import FenceCheck.Proofs.Report.Documents
import FenceCheck.Report.Race
import FenceCheck.Proofs.FileTree.Basic
import FenceCheck.Proofs.FileTree.Walk
import FenceCheck.Proofs.FileTree.Workspace
import FenceCheck.Proofs.FileTree.Directories
import FenceCheck.Proofs.Report.Ground
import FenceCheck.Proofs.Report.Race
import FenceCheck.Proofs.Report.Exchange
import FenceCheck.Proofs.Report.Reader
import FenceCheck.Proofs.Failure
import FenceCheck.Proofs.Report.Acceptance
import FenceCheck.Proofs.Report.Conformity
import FenceCheck.Proofs.Report.Effect
import FenceCheck.Proofs.Text.Utf8
import FenceCheck.Proofs.Json.Equality
import FenceCheck.Proofs.Json.Strings
import FenceCheck.Proofs.Json.RoundTrip
import FenceCheck.Proofs.Report.RoundTrip
import FenceCheck.Proofs.Settings.Errors
import FenceCheck.Proofs.Cli.Scan
import FenceCheck.Proofs.Number.Digits
import FenceCheck.Proofs.Settings.Values
import FenceCheck.Proofs.Toml.Tables
import FenceCheck.Proofs.Settings.Layers
import FenceCheck.Proofs.Settings.Loading
import FenceCheck.Proofs.Settings.Answers
import FenceCheck.Proofs.FileTree.Kinds
import FenceCheck.Proofs.Discovery.Names
import FenceCheck.Proofs.Discovery.Listing
import FenceCheck.Proofs.FileTree.Canonical
import FenceCheck.Proofs.Discovery.Documents
import FenceCheck.Proofs.Report.Blame
import FenceCheck.Proofs.Json.Styles
import FenceCheck.Proofs.FileTree.Entries
import FenceCheck.Proofs.Report.Rerun
import FenceCheck.Proofs.FileTree.Alike
import FenceCheck.Proofs.Report.Writable
import FenceCheck.Proofs.Language.Checkers
import FenceCheck.Proofs.Discovery.Places
import FenceCheck.Proofs.Cli.Skipping
import FenceCheck.Proofs.Text.Lines
import FenceCheck.Proofs.Fence.Appending
import FenceCheck.Proofs.Fence.Origin
import FenceCheck.Proofs.Fence.Sections
import FenceCheck.Proofs.Fence.Words
import FenceCheck.Proofs.Fence.Content
import FenceCheck.Proofs.Json.OneLine
import FenceCheck.Proofs.Log.Lines
import FenceCheck.Proofs.Cli.Running
import FenceCheck.Proofs.Report.Checking
import FenceCheck.Proofs.Cli.Validation
import FenceCheck.Proofs.Text.Lowercase
import FenceCheck.Proofs.Number.Value
import FenceCheck.Proofs.Settings.Accepted
import FenceCheck.Proofs.Cli.Words
import FenceCheck.Proofs.Cli.Recognised
import FenceCheck.Proofs.Cli.Format
import FenceCheck.Proofs.Settings.Overriding
import FenceCheck.Proofs.Text.LineEnds
import FenceCheck.Proofs.Json.Members
import FenceCheck.Proofs.Log.Records
import FenceCheck.Proofs.Report.Journal
import FenceCheck.Proofs.Report.Logging
import FenceCheck.Proofs.Cli.Failing
import FenceCheck.Proofs.Report.LineEnds
import FenceCheck.Proofs.Report.Inert
import FenceCheck.Proofs.Json.Grammar
import FenceCheck.Proofs.Json.Acceptance
import FenceCheck.Proofs.Language.Json
import FenceCheck.Proofs.Discovery.Outline
import FenceCheck.Proofs.Settings.Respelled
import FenceCheck.Proofs.Cli.Respelled
