import Unlinger.Common.Interaction
import Unlinger.Common.Text
import Unlinger.Common.OrdMap
import Unlinger.Common.Table
import Unlinger.Common.Fallible
import Unlinger.Core.Model.Process
import Unlinger.Core.Model.Incident
import Unlinger.Core.Model.Fingerprint
import Unlinger.Core.Model.Cleanup
import Unlinger.Core.Model.Executor
import Unlinger.Core.Model.Trace
import Unlinger.Core.Helpers.Trace
import Unlinger.Core.Helpers.Lineage
import Unlinger.Common.Chain
import Unlinger.Core.Helpers.Traversal
import Unlinger.Core.Helpers.Plan
import Unlinger.Core.Helpers.Invariant
import Unlinger.Core.Helpers.Observe
import Unlinger.Core.Helpers.Signal
import Unlinger.Core.Helpers.Stages
import Unlinger.Core.Helpers.Terminal
import Unlinger.Core.Helpers.Execute
import Unlinger.Core.Helpers.Attribution
import Unlinger.Core.Journal
import Unlinger.Core.Stop
import Unlinger.Core.Signals
import Unlinger.Core.Reclaim
import Unlinger.Core.Model.Graph
import Unlinger.Core.Model.Session
import Unlinger.Rules.Model.Pack
import Unlinger.Rules.Model.Match
import Unlinger.Rules.Model.Analyzer
import Unlinger.Rules.Helpers.Reports
import Unlinger.Rules.Revalidation
import Unlinger.Rules.Traversal
import Unlinger.Rules.Isolation
import Unlinger.Rules.Enumeration
import Unlinger.Rules.Protections
import Unlinger.Rules.Revival
import Unlinger.Daemon.Model.Schema
import Unlinger.Daemon.Model.Journal
import Unlinger.Daemon.Model.Lifecycle
import Unlinger.Daemon.Model.Owner
import Unlinger.Daemon.Model.Store
import Unlinger.Daemon.Model.Engine
import Unlinger.Daemon.Model.History
import Unlinger.Daemon.Helpers.Journal
import Unlinger.Daemon.Helpers.Lifecycle
import Unlinger.Daemon.Helpers.Effect
import Unlinger.Daemon.Helpers.Store
import Unlinger.Daemon.Helpers.References
import Unlinger.Daemon.Helpers.History
import Unlinger.Daemon.Lifecycle
import Unlinger.Daemon.Retention
import Unlinger.Daemon.Settlement
import Unlinger.Daemon.Mutations
import Unlinger.Daemon.Cooling
import Unlinger.Daemon.Protection
import Unlinger.Daemon.Recovery
import Unlinger.Daemon.Completion
import Unlinger.Daemon.Attribution
import Unlinger.Common.RunLength
import Unlinger.Daemon.Observations
import Unlinger.Daemon.Model.Open
import Unlinger.Daemon.Open
import Unlinger.Daemon.Reconcile
import Unlinger.Common.Transition
import Unlinger.Daemon.Model.Control
import Unlinger.Daemon.Model.Attention
import Unlinger.Daemon.Model.Tasks
import Unlinger.Daemon.Helpers.Tasks
import Unlinger.Daemon.Tasks
import Unlinger.Daemon.Model.SessionOwners
import Unlinger.Daemon.Model.ToolCache
import Unlinger.Daemon.Helpers.SessionOwners
import Unlinger.Daemon.SessionOwners
import Unlinger.Daemon.ToolCache
import Unlinger.Daemon.Model.Service
import Unlinger.Daemon.Helpers.Service
import Unlinger.Daemon.FailClose
import Unlinger.Daemon.Failure
import Unlinger.Daemon.Leases
import Unlinger.Daemon.Attention
import Unlinger.Daemon.PolicyGate
import Unlinger.Macos.Model.StorageResidue
import Unlinger.Macos.Helpers.StorageResidue
import Unlinger.Macos.CloneRemoval
import Unlinger.Macos.Helpers.Result
import Unlinger.Daemon.Model.StorageLedger
import Unlinger.Daemon.Helpers.StorageLedger
import Unlinger.Daemon.StorageLedger
import Unlinger.Daemon.Model.StorageSchedule
import Unlinger.Daemon.StorageSchedule
import Unlinger.Daemon.Model.Cycle
import Unlinger.Daemon.Helpers.Cycle
import Unlinger.Daemon.Dispatch
import Unlinger.Daemon.Model.Ownership
import Unlinger.Daemon.Ownership
import Unlinger.Common.Actor
import Unlinger.Daemon.Model.PublicIpc
import Unlinger.App.Model.Mutation
import Unlinger.App.Model.State
import Unlinger.App.Model.Notifications
import Unlinger.App.Helpers.Notifications
import Unlinger.App.Helpers.Coordinator
import Unlinger.App.Notifications
import Unlinger.App.Helpers.Ledger
import Unlinger.App.Ledger
import Unlinger.App.Helpers.Phase
import Unlinger.App.Helpers.Protocol
import Unlinger.App.Helpers.Journal
import Unlinger.App.Helpers.Sending
import Unlinger.App.Journal
import Unlinger.App.Helpers.Delivery
import Unlinger.App.Delivery
import Unlinger.Rules.Versions
import Unlinger.Core.Helpers.Fingerprint
import Unlinger.Rules.Fingerprints
import Unlinger.Daemon.CacheFormat
import Unlinger.Daemon.Helpers.NodeCompileCache
import Unlinger.Daemon.CacheRemoval
import Unlinger.Common.Utf8
import Unlinger.Macos.Procargs
import Unlinger.Common.Shared
import Unlinger.Macos.Helpers.Artifacts
import Unlinger.Macos.ArtifactRemoval
import Unlinger.Macos.Helpers.ArtifactFailure
import Unlinger.Macos.ArtifactFailure
import Unlinger.Cli.Helpers.Commands
import Unlinger.Cli.Helpers.Progress
import Unlinger.Cli.Recovery
import Unlinger.Cli.Decisions
import Unlinger.Cli.Modes
import Unlinger.Cli.Uninstall
import Unlinger.Daemon.Model.Served
import Unlinger.Daemon.Served
