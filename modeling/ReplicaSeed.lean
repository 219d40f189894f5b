import ReplicaSeed.Agent.Coordinator
import ReplicaSeed.Agent.Error
import ReplicaSeed.Agent.Feed
import ReplicaSeed.Agent.Identity
import ReplicaSeed.Agent.Request
import ReplicaSeed.Artifact.BinlogInfo
import ReplicaSeed.Artifact.DumpHeader
import ReplicaSeed.Artifact.DumpMetadata
import ReplicaSeed.Artifact.Fault
import ReplicaSeed.Artifact.Sidecar
import ReplicaSeed.Command.Line
import ReplicaSeed.Command.Masking
import ReplicaSeed.Command.Quoting
import ReplicaSeed.Command.Template
import ReplicaSeed.Command.Token
import ReplicaSeed.Config.Basic
import ReplicaSeed.Config.Check
import ReplicaSeed.Config.Reader
import ReplicaSeed.Config.Summary
import ReplicaSeed.ControlPlane.Address
import ReplicaSeed.ControlPlane.Client
import ReplicaSeed.ControlPlane.Heartbeat
import ReplicaSeed.Database.Call
import ReplicaSeed.Database.Client
import ReplicaSeed.Database.Error
import ReplicaSeed.Database.Pool
import ReplicaSeed.Database.Row
import ReplicaSeed.Execution.Errno
import ReplicaSeed.Execution.Error
import ReplicaSeed.Execution.FileFault
import ReplicaSeed.Execution.FileTree
import ReplicaSeed.Execution.Flow
import ReplicaSeed.Execution.Output
import ReplicaSeed.Execution.Pipeline
import ReplicaSeed.Execution.Process
import ReplicaSeed.Execution.Runner
import ReplicaSeed.Http.Error
import ReplicaSeed.Http.Pattern
import ReplicaSeed.Http.Percent
import ReplicaSeed.Http.Response
import ReplicaSeed.Http.Router
import ReplicaSeed.Http.Status
import ReplicaSeed.Http.Url
import ReplicaSeed.Json.Basic
import ReplicaSeed.Json.Decode
import ReplicaSeed.Json.Reader
import ReplicaSeed.Main
import ReplicaSeed.Method.ClonePlugin
import ReplicaSeed.Method.Error
import ReplicaSeed.Method.Lvm
import ReplicaSeed.Method.Mydumper
import ReplicaSeed.Method.Mysqldump
import ReplicaSeed.Method.Procedure
import ReplicaSeed.Method.Registry
import ReplicaSeed.Method.SeedMethod
import ReplicaSeed.Method.Site
import ReplicaSeed.Method.Work
import ReplicaSeed.Method.Xtrabackup
import ReplicaSeed.Operation.Phase
import ReplicaSeed.Operation.Record
import ReplicaSeed.Operation.Request
import ReplicaSeed.Operation.Wire
import ReplicaSeed.Proofs.Agent.Abort
import ReplicaSeed.Proofs.Agent.Alike
import ReplicaSeed.Proofs.Agent.Answer
import ReplicaSeed.Proofs.Agent.Aside
import ReplicaSeed.Proofs.Agent.Change
import ReplicaSeed.Proofs.Agent.Decision
import ReplicaSeed.Proofs.Agent.Duplicate
import ReplicaSeed.Proofs.Agent.Finality
import ReplicaSeed.Proofs.Agent.HeldOperation
import ReplicaSeed.Proofs.Agent.LiveProcess
import ReplicaSeed.Proofs.Agent.Metadata
import ReplicaSeed.Proofs.Agent.Number
import ReplicaSeed.Proofs.Agent.OperationSide
import ReplicaSeed.Proofs.Agent.Performance
import ReplicaSeed.Proofs.Agent.Publication
import ReplicaSeed.Proofs.Agent.Scene
import ReplicaSeed.Proofs.Agent.SideChannel
import ReplicaSeed.Proofs.Agent.StageOutcome
import ReplicaSeed.Proofs.Agent.Unnumbered
import ReplicaSeed.Proofs.Artifact.BinlogInfo
import ReplicaSeed.Proofs.Artifact.HeaderEnd
import ReplicaSeed.Proofs.Artifact.HeaderLines
import ReplicaSeed.Proofs.Artifact.HeaderText
import ReplicaSeed.Proofs.Artifact.MetadataBlock
import ReplicaSeed.Proofs.Artifact.MetadataText
import ReplicaSeed.Proofs.Artifact.Sidecar
import ReplicaSeed.Proofs.Artifact.WrittenSet
import ReplicaSeed.Proofs.Command.Composition
import ReplicaSeed.Proofs.Command.Grammar
import ReplicaSeed.Proofs.Command.Masked
import ReplicaSeed.Proofs.Command.Reading
import ReplicaSeed.Proofs.Command.RoundTrip
import ReplicaSeed.Proofs.Config.Soundness
import ReplicaSeed.Proofs.Contracts
import ReplicaSeed.Proofs.ControlPlane.Contact
import ReplicaSeed.Proofs.ControlPlane.Logbook
import ReplicaSeed.Proofs.ControlPlane.Schedule
import ReplicaSeed.Proofs.Database.SqlText
import ReplicaSeed.Proofs.Execution.Destination
import ReplicaSeed.Proofs.Execution.Ending
import ReplicaSeed.Proofs.Execution.Face
import ReplicaSeed.Proofs.Execution.FilePlace
import ReplicaSeed.Proofs.Execution.Redirection
import ReplicaSeed.Proofs.Http.Authentication
import ReplicaSeed.Proofs.Http.PathForm
import ReplicaSeed.Proofs.Http.Query
import ReplicaSeed.Proofs.Http.StatusEndpoint
import ReplicaSeed.Proofs.Json.Decode
import ReplicaSeed.Proofs.Json.RoundTrip
import ReplicaSeed.Proofs.Method.AsidePath
import ReplicaSeed.Proofs.Method.Behaviour
import ReplicaSeed.Proofs.Method.Catalogue
import ReplicaSeed.Proofs.Method.CloneStatement
import ReplicaSeed.Proofs.Method.Commands
import ReplicaSeed.Proofs.Method.Exchanges
import ReplicaSeed.Proofs.Method.Following
import ReplicaSeed.Proofs.Method.Leftovers
import ReplicaSeed.Proofs.Method.ModeRestored
import ReplicaSeed.Proofs.Method.OldData
import ReplicaSeed.Proofs.Method.Outline
import ReplicaSeed.Proofs.Method.Password
import ReplicaSeed.Proofs.Method.Path
import ReplicaSeed.Proofs.Method.Plan
import ReplicaSeed.Proofs.Method.Registered
import ReplicaSeed.Proofs.Method.SidecarRecovery
import ReplicaSeed.Proofs.Method.SnapshotLock
import ReplicaSeed.Proofs.Method.SourceSide
import ReplicaSeed.Proofs.Method.Storage
import ReplicaSeed.Proofs.Operation.WellFormed
import ReplicaSeed.Proofs.Operation.Wire
import ReplicaSeed.Proofs.Seed.Wire
import ReplicaSeed.Proofs.Text.Blank
import ReplicaSeed.Proofs.Text.FilePath
import ReplicaSeed.Proofs.Text.Lines
import ReplicaSeed.Proofs.Text.Lossy
import ReplicaSeed.Proofs.Text.Numeral
import ReplicaSeed.Proofs.Text.Search
import ReplicaSeed.Proofs.Text.Utf8
import ReplicaSeed.Proofs.Time.Calendar
import ReplicaSeed.Proofs.Time.Instant
import ReplicaSeed.Proofs.Toolbox.Job
import ReplicaSeed.Proofs.Toolbox.Tee
import ReplicaSeed.Rehearsal.Double
import ReplicaSeed.Rehearsal.Heartbeat
import ReplicaSeed.Rehearsal.Reception
import ReplicaSeed.Rehearsal.Recorder
import ReplicaSeed.Rehearsal.Schedule
import ReplicaSeed.Rehearsal.Server
import ReplicaSeed.Rehearsal.Session
import ReplicaSeed.Rehearsal.Sql
import ReplicaSeed.Rehearsal.World
import ReplicaSeed.Seed.Coordinates
import ReplicaSeed.Seed.Descriptor
import ReplicaSeed.Seed.Engine
import ReplicaSeed.Seed.Id
import ReplicaSeed.Seed.Method
import ReplicaSeed.Seed.Name
import ReplicaSeed.Seed.Side
import ReplicaSeed.Seed.Stage
import ReplicaSeed.Seed.Wire
import ReplicaSeed.Text.Blank
import ReplicaSeed.Text.FilePath
import ReplicaSeed.Text.Lossy
import ReplicaSeed.Text.Numeral
import ReplicaSeed.Text.Printable
import ReplicaSeed.Text.Quoted
import ReplicaSeed.Text.Search
import ReplicaSeed.Time.Calendar
import ReplicaSeed.Time.Instant
import ReplicaSeed.Time.Span
import ReplicaSeed.Toml.Document
import ReplicaSeed.Toml.Quoted
import ReplicaSeed.Toml.Reader
import ReplicaSeed.Toml.Scalar
import ReplicaSeed.Toolbox.Host
import ReplicaSeed.Toolbox.Job
import ReplicaSeed.Toolbox.Shell.Reader
import ReplicaSeed.Toolbox.Shell.Run
import ReplicaSeed.Toolbox.Shell.Script
import ReplicaSeed.Toolbox.Tool.Copy
import ReplicaSeed.Toolbox.Tool.Cut
import ReplicaSeed.Toolbox.Tool.Escape
import ReplicaSeed.Toolbox.Tool.Options
import ReplicaSeed.Toolbox.Tool.Print
import ReplicaSeed.Toolbox.Tool.Sort
import ReplicaSeed.Toolbox.Tool.Transliterate
import ReplicaSeed.Toolbox.Tool.Wait
