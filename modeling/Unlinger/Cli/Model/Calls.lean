import Unlinger.Cli.Model.Transaction
import Unlinger.Common.Interaction

/-!
# What the service commands ask of their surroundings

Every file operation, every `launchctl` and `plutil` run and every request
to the daemon of `unlinger-cli/src/service.rs` is a call of its own, with
what the source checks of a path's kind, owner and mode in its answer. A
loop that polls until something is reached is the last thing it polled.

Two functions that stop a daemon, and two that bring one back report-only,
are calls here too: they change none of the files the transaction is
about.
-/

namespace Unlinger

open Interaction

namespace Cli

/-! ## What is observed -/

/-- `LaunchdState`. -/
structure LaunchdState where
  loaded : Bool
  pid : Option Nat
  deriving DecidableEq

/-- The status of the daemon as the service reads it. -/
structure DaemonStatus extends Unlinger.ServiceStatus where
  pid : Nat
  lastScanAtUnixMillis : Option Nat
  deriving DecidableEq

/-- `ServiceStatusReport`, as far as it is read again. -/
structure ServiceStatusReport where
  installed : Bool
  loaded : Bool
  healthy : Bool
  expectedMode : Option DaemonMode
  activeGeneration : Option Nat
  launchdPid : Option Nat
  daemonStatus : Option DaemonStatus
  pidMatches : Bool
  generationMatches : Bool
  binaryMatches : Bool
  permissionsOk : Bool
  errors : List String
  deriving DecidableEq

/-- The files beside the database that belong to it. -/
inductive DatabaseComponent
  | main
  | wal
  | shm
  | journal
  deriving DecidableEq

/-- The components, in the order the source walks them. -/
def DatabaseComponent.all : List DatabaseComponent := [.main, .wal, .shm, .journal]

/-- The components beside the database itself. -/
def DatabaseComponent.sidecars : List DatabaseComponent := [.wal, .shm, .journal]

/-- What `database_sidecar` puts behind the database's path. -/
def DatabaseComponent.suffix : DatabaseComponent → String
  | .main => ""
  | .wal => "-wal"
  | .shm => "-shm"
  | .journal => "-journal"

/-- The files of `ServiceLayout` and `LocalPaths` that the service manages. -/
inductive ManagedPath
  | launchAgent
  | activeManifest
  | transaction
  | databaseBackup
  | databaseBackupPending
  | daemonBinary
  | cliBinary
  | database (component : DatabaseComponent)
  deriving DecidableEq

/-- A generation's directory: the manifest in it, and whether all of it has
the modes and the owner of a sealed one. -/
structure GenerationDir where
  manifest : GenerationManifest
  isSealed : Bool
  deriving DecidableEq

/-- An entry of the directory of generations. -/
structure GenerationEntry where
  name : String
  isDirectory : Bool
  deriving DecidableEq

/-- The steps that make a staging directory and fill it, before it is
published. -/
inductive StageStep
  | createDirectory
  | protectDirectory
  | copyDaemon
  | copyCli
  | validateDaemon
  | validateCli
  | writeManifest
  | validateStaged
  | sealDaemon
  | sealCli
  | sealManifest
  | syncSealed
  | syncDirectory
  deriving DecidableEq

/-- The steps that make the directory. -/
def StageStep.opening : List StageStep := [.createDirectory, .protectDirectory]

/-- The steps that fill it, in their order. -/
def StageStep.filling : List StageStep :=
  [.copyDaemon, .copyCli, .validateDaemon, .validateCli, .writeManifest, .validateStaged,
    .sealDaemon, .sealCli, .sealManifest, .syncSealed, .syncDirectory]

inductive QuiescePolicy
  | stableOrFailed
  | transactionRollback
  deriving DecidableEq

/-- What a loop polls the service for. -/
inductive Awaited
  | mode (mode : DaemonMode)
  | generationReady (generation : Nat)
  | runtimeReportOnly (generation : Nat)
  deriving DecidableEq

/-! ## Reports -/

/-- The daemon of a report is managed, of the generation, and the process
`launchd` runs. -/
def ServiceStatusReport.identifies (report : ServiceStatusReport) (generation : Nat) : Bool :=
  report.installed && report.loaded && report.activeGeneration == some generation
    && report.pidMatches && report.generationMatches && report.binaryMatches
    && report.permissionsOk
    && report.daemonStatus.any fun status =>
      status.managed && status.activationGeneration == some generation
        && report.launchdPid == some status.pid && status.instanceId != ""

/-- `generation_runtime_is_ready_report_only_for_restart`. -/
def ServiceStatusReport.readyReportOnlyForRestart (report : ServiceStatusReport)
    (generation : Nat) : Bool :=
  report.identifies generation && report.daemonStatus.any fun status =>
    status.healthy && status.ready && status.startupState == .readyReportOnly
      && status.requestedMode == .reportOnly && status.effectiveMode == .reportOnly
      && status.armedGeneration.isNone && status.enforcementEpoch.isNone && !status.draining
      && !status.cleanupInProgress

/-- `generation_runtime_is_ready_report_only`. -/
def ServiceStatusReport.readyReportOnly (report : ServiceStatusReport) (generation : Nat) : Bool :=
  report.readyReportOnlyForRestart generation
    && report.daemonStatus.any fun status => !status.scanInProgress

/-- The report is the one that is waited for. -/
def Awaited.reached : Awaited → ServiceStatusReport → Bool
  | .mode wanted, report =>
      report.healthy && report.expectedMode == some wanted
        && report.launchdPid == report.daemonStatus.map fun status => status.pid
  | .generationReady generation, report =>
      report.healthy && report.expectedMode == some .reportOnly
        && report.readyReportOnly generation
  | .runtimeReportOnly generation, report => report.readyReportOnly generation

/-- The errors of a report, or what is said where it has none. -/
def ServiceStatusReport.errorText (report : ServiceStatusReport) (otherwise : String) : String :=
  let errors := String.intercalate "; " report.errors
  if errors = "" then otherwise else errors

/-! ## Calls -/

inductive Call
  | mutationUid
  | prepareInstallDirectories
  | acquireServiceLock
  | readTransaction
  | readManifest
  | readLaunchAgent
  | readLaunchAgentText
  | plutil (contents : String)
  | writeTransaction (transaction : InstallTransaction)
  | writeManifest (manifest : ActiveServiceManifest)
  | writeLaunchAgent (contents : String)
  | pathEntryExists (path : ManagedPath)
  | isFile (path : ManagedPath)
  | removeFile (path : ManagedPath)
  | validateReplaceableFile (path : ManagedPath)
  | generationEntries
  | generationExists (generation : Nat)
  | stage (generation : Nat) (step : StageStep)
  | discardStage (generation : Nat)
  | publishGeneration (generation : Nat)
  | sealGeneration (generation : Nat)
  | syncGeneration (generation : Nat)
  | discardGeneration (generation : Nat)
  | inspectGeneration (generation : Nat)
  | removeGenerationEntry (name : String)
  | removeGenerationRoot
  | databaseComponent (component : DatabaseComponent)
  | inspectDatabaseFile (path : ManagedPath)
  | vacuumInto
  | protectPending
  | publishBackup
  | discardPending
  | syncSupport
  | validateSqlite (path : ManagedPath)
  | schemaVersion (path : ManagedPath)
  | createEvidence (generation : Nat)
  | moveToEvidence (component : DatabaseComponent) (evidence : String)
  | copyBackup
  | launchdState
  | ipcStatusForLaunchd (pid : Option Nat)
  | bootstrap
  | bootoutAndWait
  | proveDaemonOffline
  | dropDaemonLock
  | quiesceLoadedService (launchd : LaunchdState) (status : Option DaemonStatus)
      (policy : QuiescePolicy)
  | drainRollbackSelectedService (transaction : InstallTransaction)
  | restoreGenerationReportOnly (generation : Nat)
  | emergencyRestartGenerationReportOnly (generation : Nat) (reason : String)
  | status
  | awaitStatus (awaited : Awaited)
  | awaitLegacy
  | requestArm (status : DaemonStatus)
  | requestDisarm (status : DaemonStatus)
  deriving DecidableEq

/-- What they return. -/
abbrev Answer : Call → Type
  | .mutationUid => Except ServiceError Nat
  | .readTransaction => Except ServiceError (Option InstallTransaction)
  | .readManifest => Except ServiceError (Option ActiveServiceManifest)
  | .readLaunchAgent | .readLaunchAgentText => Except ServiceError (Option String)
  | .plutil _ => Except ServiceError LaunchAgentDocument
  | .pathEntryExists _ | .databaseComponent _ => Except ServiceError Bool
  | .generationEntries => Except ServiceError (List GenerationEntry)
  | .isFile _ | .generationExists _ => Bool
  | .discardStage _ | .discardGeneration _ | .discardPending | .dropDaemonLock => Unit
  | .inspectGeneration _ => Except ServiceError GenerationDir
  | .schemaVersion _ => Except ServiceError Nat
  | .createEvidence _ => Except ServiceError String
  | .launchdState => Except ServiceError LaunchdState
  | .ipcStatusForLaunchd _ => Except ServiceError (Option DaemonStatus)
  | .status | .awaitStatus _ => Except ServiceError ServiceStatusReport
  | .awaitLegacy => Except ServiceError (LaunchdState × Option DaemonStatus)
  | .requestArm _ | .requestDisarm _ => Except ServiceError DaemonStatus
  | _ => Except ServiceError Unit

/-- A command of the service. -/
abbrev ServiceProg := Prog Answer ServiceError

/-- A call that can fail, whose failure ends the command. -/
def orFail {α : Type} (p : ServiceProg (Except ServiceError α)) : ServiceProg α :=
  p >>= Prog.orThrow id

/-- A check, whose failure ends the command. -/
def check {α : Type} (x : Except ServiceError α) : ServiceProg α := Prog.orThrow id x

end Cli

end Unlinger
