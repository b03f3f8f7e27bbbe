import Flowline.Data.Value
import Flowline.Unicode.Tables
import Flowline.Unicode.Chars
import Flowline.Data.Decode
import Flowline.Number.Shortest
import Flowline.Number.Round
import Flowline.Number.Scale
import Flowline.Number.Layout
import Flowline.Json.Tree
import Flowline.Json.Writer
import Flowline.Json.Reader
import Flowline.Yaml.Node
import Flowline.Yaml.Parser
import Flowline.Error
import Flowline.Log
import Flowline.Disk
import Flowline.Flow.Node
import Flowline.Flow.Document
import Flowline.Flow.Storage
import Flowline.Data.Text
import Flowline.Flow.Issue
import Flowline.Step.Contract
import Flowline.Step.Script
import Flowline.Step.Definition
import Flowline.Step.Registry
import Flowline.Step.Builtin
import Flowline.Config
import Flowline.Flow.Validation
import Flowline.Data.Path
import Flowline.Run.Time
import Flowline.Run.Instance
import Flowline.Run.Cursor
import Flowline.Run.Event
import Flowline.Run.Tree
import Flowline.Run.Report
import Flowline.Run.Codec
import Flowline.Run.Pause
import Flowline.Run.World
import Flowline.Run.Perform
import Flowline.Run.Engine
import Flowline.Yaml.Writer
import Flowline.Regex.CharSet
import Flowline.Regex.Syntax
import Flowline.Regex.Nesting
import Flowline.Regex.Diagnostic
import Flowline.Regex.Hir
import Flowline.Regex.Translate
import Flowline.Regex.Utf8
import Flowline.Regex.Budget
import Flowline.Regex.Program
import Flowline.Regex.Pattern
import Flowline.Cli.Options
import Flowline.Cli.LogFilter
import Flowline.Cli.Screen
import Flowline.Cli.Program
import Flowline.Main
import Flowline.Proofs.Arena
import Flowline.Proofs.Lineage
import Flowline.Proofs.Walk
import Flowline.Proofs.Unwind
import Flowline.Proofs.Propagation
import Flowline.Proofs.Soundness
import Flowline.Proofs.Safety
import Flowline.Proofs.WrittenForm
import Flowline.Proofs.Throws
import Flowline.Proofs.Resumption
import Flowline.Proofs.Sessions
import Flowline.Proofs.Statuses
import Flowline.Proofs.Settling
import Flowline.Proofs.Entries
import Flowline.Proofs.Edges
import Flowline.Proofs.Calls
import Flowline.Proofs.Coverage
import Flowline.Proofs.Absorption
import Flowline.Proofs.TreeOrder
import Flowline.Proofs.Invariant
import Flowline.Proofs.EventStream
import Flowline.Proofs.Records
import Flowline.Proofs.PausedRecords
import Flowline.Proofs.Tickets
import Flowline.Proofs.Tampering
import Flowline.Proofs.Fitting
import Flowline.Proofs.Token
import Flowline.Proofs.Cancellation
import Flowline.Proofs.Rounds
import Flowline.Proofs.Iterations
import Flowline.Proofs.Paths
import Flowline.Proofs.Merging
import Flowline.Proofs.Scopes
import Flowline.Proofs.Aliases
import Flowline.Proofs.Parameters
import Flowline.Proofs.Origins
import Flowline.Proofs.LoopIndex
import Flowline.Proofs.ArenaLayout
import Flowline.Proofs.Comparisons
import Flowline.Proofs.Counting
import Flowline.Proofs.Calendar
import Flowline.Proofs.InstantText
import Flowline.Proofs.StoredForm
