import Unlinger.Cli.Model.Install

/-!
# Changing the mode, restarting, uninstalling

`set_mode`, `restart_report_only` and `uninstall` of
`unlinger-cli/src/service.rs`. Each begins by recovering what an earlier
command left, and none goes on with a candidate that waits for a decision.
-/

namespace Unlinger

open Interaction

namespace Cli

variable (paths : LocalPaths)

/-! ## Checks of the daemon's answers -/

/-- `validate_managed_identity`. -/
def validateManagedIdentity (status : DaemonStatus) (generation : Nat) :
    Except ServiceError Unit :=
  require (status.managed = true ∧ status.activationGeneration = some generation
      ∧ status.instanceId ≠ "")
    ⟨"daemon lifecycle identity does not match the active generation"⟩

/-- `validate_disarmed_response`. -/
def validateDisarmedResponse (status : DaemonStatus) (generation : Nat) (instanceId : String) :
    Except ServiceError Unit := do
  validateManagedIdentity status generation
  require (status.instanceId = instanceId ∧ status.requestedMode = .reportOnly
      ∧ status.effectiveMode = .reportOnly ∧ status.armedGeneration = none
      ∧ status.enforcementEpoch = none)
    ⟨"daemon did not confirm an exact disarmed lifecycle state"⟩

/-- `validate_report_only_response`. -/
def validateReportOnlyResponse (status : DaemonStatus) (generation : Nat) (instanceId : String) :
    Except ServiceError Unit := do
  validateDisarmedResponse status generation instanceId
  require (status.ready = true ∧ status.draining = false ∧ status.startupState = .readyReportOnly)
    ⟨"daemon did not confirm a ready report-only lifecycle state"⟩

/-- `validate_enforce_response`. -/
def validateEnforceResponse (status : DaemonStatus) (generation : Nat) (instanceId : String) :
    Except ServiceError Unit := do
  validateManagedIdentity status generation
  require (status.instanceId = instanceId ∧ status.ready = true ∧ status.requestedMode = .enforce
      ∧ status.effectiveMode = .enforce ∧ status.armedGeneration = some generation
      ∧ (status.enforcementEpoch.any fun epoch => epoch != "") = true ∧ status.draining = false
      ∧ status.startupState = .readyEnforce)
    ⟨"daemon did not confirm generation-bound enforcement"⟩

/-! ## Selections -/

/-- `validate_exact_generation_selection`. -/
def validateExactGenerationSelection (generation : Nat) : ServiceProg Unit := do
  match ← readOptionalManifest with
  | none => Prog.throw ⟨"active manifest disappeared during exact-generation validation"⟩
  | some active =>
      check (require (active.activeGeneration = generation)
        ⟨"active manifest no longer selects the expected generation"⟩)
      let installed ← installedGeneration paths
      check (require (installed = some generation)
        ⟨"LaunchAgent no longer selects the expected generation"⟩)
      let _ ← validateGeneration generation

/-- `arm_preflight`. -/
def armPreflight (generation : Nat) : ServiceProg DaemonStatus := do
  let report ← orFail (Prog.ask Call.status)
  let _ ← validateGeneration generation
  check (require (report.installed = true ∧ report.loaded = true
      ∧ report.activeGeneration = some generation ∧ report.launchdPid.isSome = true
      ∧ report.pidMatches = true ∧ report.generationMatches = true ∧ report.binaryMatches = true
      ∧ report.permissionsOk = true)
    ⟨"managed generation failed exact pre-arm identity checks: "
      ++ String.intercalate "; " report.errors⟩)
  match report.daemonStatus with
  | none => Prog.throw ⟨"managed generation has no daemon status for pre-arm validation"⟩
  | some daemon =>
      check (validateReportOnlyResponse daemon generation daemon.instanceId)
      check (require (daemon.healthy = true ∧ report.launchdPid = some daemon.pid)
        ⟨"managed daemon is not healthy under its exact launchd identity"⟩)
      return daemon

/-- `validate_ready_enforce_report`. -/
def validateReadyEnforceReport (report : ServiceStatusReport) (generation : Nat) :
    Except ServiceError Unit := do
  require (report.healthy = true ∧ report.installed = true ∧ report.loaded = true
      ∧ report.expectedMode = some .enforce ∧ report.activeGeneration = some generation
      ∧ report.launchdPid.isSome = true ∧ report.pidMatches = true
      ∧ report.generationMatches = true ∧ report.binaryMatches = true
      ∧ report.permissionsOk = true)
    ⟨"managed generation failed exact enforce identity checks: "
      ++ String.intercalate "; " report.errors⟩
  let daemon ← found report.daemonStatus
    ⟨"managed generation has no daemon status for enforce validation"⟩
  validateEnforceResponse daemon generation daemon.instanceId
  require (daemon.healthy = true ∧ daemon.lastScanAtUnixMillis.isSome = true
      ∧ report.launchdPid = some daemon.pid)
    ⟨"managed daemon is not healthy under its exact enforced launchd identity"⟩

/-! ## Setting the mode -/

inductive SetModeRoute
  | reportOnlyContainment
  | enforceOnline (pid : Nat)
  | rejectEnforce
  deriving DecidableEq

/-- `set_mode_route`. -/
def setModeRoute (mode : DaemonMode) (state : LaunchdState) : SetModeRoute :=
  match mode, state.loaded, state.pid with
  | .reportOnly, _, _ => .reportOnlyContainment
  | .enforce, true, some pid => .enforceOnline pid
  | .enforce, _, _ => .rejectEnforce

/-- `recover_then_publish_report_only`. -/
def recoverThenPublishReportOnly (manifest : ActiveServiceManifest) : ServiceProg Unit := do
  orFail (Prog.ask (Call.restoreGenerationReportOnly manifest.activeGeneration))
  orFail (Prog.ask (Call.writeManifest { manifest with desiredMode := .reportOnly }))

/-- Ask the daemon to enforce no more, and look at its answer. -/
def disarmAndConfirm (generation : Nat) (current : DaemonStatus) : ServiceProg Unit := do
  let response ← orFail (Prog.ask (Call.requestDisarm current))
  check (validateReportOnlyResponse response generation current.instanceId)

/-- Disarm a daemon that enforces where the manifest does not want it to. -/
def disarmUnexpected (manifest : ActiveServiceManifest) (current : DaemonStatus) :
    ServiceProg Unit :=
  if ¬ (manifest.desiredMode = .reportOnly ∧ current.effectiveMode = .enforce) then return ()
  else do
  match ← (disarmAndConfirm manifest.activeGeneration current).attempt with
  | .ok () => return ()
  | .error disarmError =>
      match ← Prog.ask (Call.restoreGenerationReportOnly manifest.activeGeneration) with
      | .ok () => return ()
      | .error restoreError =>
          Prog.throw ⟨"unexpected enforcement could not be disarmed: " ++ disarmError.message
            ++ "; fail-closed report-only recovery failed: " ++ restoreError.message⟩

/-- Ask the daemon to enforce, and look at its answer. -/
def armAndConfirm (generation : Nat) (current : DaemonStatus) : ServiceProg Unit := do
  let response ← orFail (Prog.ask (Call.requestArm current))
  check (validateEnforceResponse response generation current.instanceId)

/-- Arm the daemon of the manifest. The manifest is written first: a crash
before the request leaves the daemon report-only. -/
def armManifest (uid : Nat) (manifest : ActiveServiceManifest) :
    ServiceProg ServiceStatusReport := do
  let current ← armPreflight manifest.activeGeneration
  let manifest := { manifest with desiredMode := .enforce }
  orFail (Prog.ask (Call.writeManifest manifest))
  match ← (armAndConfirm manifest.activeGeneration current).attempt with
  | .ok () => waitForMode uid .enforce
  | .error error =>
      match ← (recoverThenPublishReportOnly manifest).attempt with
      | .ok () =>
          Prog.throw ⟨"arming failed and the service was restored report-only: "
            ++ error.message⟩
      | .error restoreError =>
          Prog.throw ⟨"arming failed: " ++ error.message
            ++ "; fail-closed report-only recovery failed: " ++ restoreError.message⟩

/-- The way of `set_mode_locked` that enforces. -/
def enforceOnline (uid pid : Nat) (manifest : ActiveServiceManifest) :
    ServiceProg ServiceStatusReport := do
  match ← orFail (Prog.ask (Call.ipcStatusForLaunchd (some pid))) with
  | none => Prog.throw ⟨"managed daemon IPC is unavailable; mode was not changed"⟩
  | some current =>
      check (validateManagedIdentity current manifest.activeGeneration)
      disarmUnexpected manifest current
      if current.effectiveMode = .enforce ∧ manifest.desiredMode = .enforce
          ∧ current.ready = true ∧ current.draining = false then
        let report ← orFail (Prog.ask Call.status)
        check (validateReadyEnforceReport report manifest.activeGeneration)
        return report
      else armManifest uid manifest

/-- `set_mode_locked`. -/
def setModeLocked (mode : DaemonMode) : ServiceProg ServiceStatusReport := do
  let uid ← orFail (Prog.ask Call.mutationUid)
  match ← readOptionalManifest with
  | none =>
      Prog.throw
        ⟨"managed service metadata is unavailable; reinstall before changing mode"⟩
  | some manifest =>
      let launchd ← orFail (Prog.ask Call.launchdState)
      match setModeRoute mode launchd with
      | .reportOnlyContainment =>
          recoverThenPublishReportOnly manifest
          waitForMode uid .reportOnly
      | .enforceOnline pid => enforceOnline uid pid manifest
      | .rejectEnforce =>
          Prog.throw
            ⟨"managed LaunchAgent has no running daemon; enforcement was not requested"⟩

/-- `set_mode`. -/
def setMode (mode : DaemonMode) : ServiceProg ServiceStatusReport := do
  let uid ← beginMutation
  recoverIncompleteInstall paths uid
  setModeLocked mode

/-! ## Restarting -/

/-- `validate_candidate_restart_state`. -/
def validateCandidateRestartState (transaction : InstallTransaction) : ServiceProg Unit := do
  requireRollbackMaterial paths transaction
  validateExactGenerationSelection paths transaction.candidateGeneration
  match ← readOptionalManifest with
  | none => Prog.throw ⟨"candidate active manifest is missing"⟩
  | some manifest =>
      check (require (manifest.desiredMode = .reportOnly)
        ⟨"candidate restart requires a report-only active manifest"⟩)

/-- What `restart_report_only` does about a transaction before it restarts. -/
def settleBeforeRestart (uid : Nat) : ServiceProg Unit := do
  match ← readOptionalTransaction with
  | none => return ()
  | some transaction =>
      match transaction.phase with
      | .candidateReadyReportOnly => validateCandidateRestartState paths transaction
      | .accepted => finalizeAcceptedLease transaction
      | _ =>
          recoverIncompleteInstall paths uid
          Prog.throw ⟨"the incomplete candidate transaction was rolled back before restart"⟩

/-- `restart_report_only`. -/
def restartReportOnly : ServiceProg ServiceStatusReport := do
  let uid ← beginMutation
  settleBeforeRestart paths uid
  match ← readOptionalManifest with
  | none => Prog.throw ⟨"managed service manifest is missing"⟩
  | some manifest =>
      check (require (manifest.desiredMode = .reportOnly)
        ⟨"restart-report-only refuses a service whose desired mode is enforce"⟩)
      orFail (Prog.ask (Call.emergencyRestartGenerationReportOnly manifest.activeGeneration
        "explicit report-only acceptance restart"))
      waitForGenerationReady uid manifest.activeGeneration

/-! ## Uninstalling -/

/-- Stop what runs. -/
def quiesceForUninstall (launchd : LaunchdState) : ServiceProg Unit :=
  match launchd.loaded, launchd.pid with
  | true, some pid => do
      let status ← orFail (Prog.ask (Call.ipcStatusForLaunchd (some pid)))
      orFail (Prog.ask (Call.quiesceLoadedService launchd status .stableOrFailed))
  | true, none => orFail (Prog.ask Call.bootoutAndWait)
  | false, _ => return ()

/-- Remove the files, in their order. -/
def removeFiles : List ManagedPath → ServiceProg Unit
  | [] => return ()
  | path :: managed => do
      orFail (Prog.ask (Call.removeFile path))
      removeFiles managed

/-- The entries of `remove_generation_tree`, each checked before it is
removed. -/
def removeGenerationEntries : List GenerationEntry → ServiceProg Unit
  | [] => return ()
  | entry :: entries => do
      check (require ((Text.parseU64 entry.name).isOk = true
          ∨ Text.isInfix ".stage.".toList entry.name.toList = true)
        ⟨"refusing to remove unexpected generation entry " ++ entry.name⟩)
      check (require (entry.isDirectory = true)
        ⟨"refusing to remove non-directory generation entry " ++ entry.name⟩)
      orFail (Prog.ask (Call.removeGenerationEntry entry.name))
      removeGenerationEntries entries

/-- `remove_generation_tree`. -/
def removeGenerationTree : ServiceProg Unit := do
  let entries ← orFail (Prog.ask Call.generationEntries)
  removeGenerationEntries entries
  orFail (Prog.ask Call.removeGenerationRoot)

/-- `uninstall`. -/
def uninstall : ServiceProg ServiceStatusReport := do
  let uid ← beginMutation
  recoverIncompleteInstall paths uid
  let launchd ← orFail (Prog.ask Call.launchdState)
  quiesceForUninstall launchd
  orFail (Prog.ask Call.proveDaemonOffline)
  removeFiles [.launchAgent, .activeManifest, .transaction, .daemonBinary, .cliBinary]
  removeGenerationTree
  Prog.ask Call.dropDaemonLock
  orFail (Prog.ask Call.status)

/-! ## The commands -/

/-- What may be run on an installation, and the recovery all of it begins
with. -/
inductive Command
  | install (mode : DaemonMode)
  | acceptCandidate
  | rollbackCandidate
  | setMode (mode : DaemonMode)
  | restartReportOnly
  | uninstall
  | recoverIncompleteInstall (uid : Nat)
  deriving DecidableEq

/-- The program of a command, for its effects alone. -/
def Command.program : Command → ServiceProg Unit
  | .install mode => do let _ ← Cli.install paths mode
  | .acceptCandidate => do let _ ← Cli.acceptCandidate paths
  | .rollbackCandidate => do let _ ← Cli.rollbackCandidate paths
  | .setMode mode => do let _ ← Cli.setMode paths mode
  | .restartReportOnly => do let _ ← Cli.restartReportOnly paths
  | .uninstall => do let _ ← Cli.uninstall paths
  | .recoverIncompleteInstall uid => Cli.recoverIncompleteInstall paths uid

end Cli

end Unlinger
