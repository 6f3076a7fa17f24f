import Unlinger.Cli.Model.Calls

/-!
# Installing, accepting, rolling back

`install`, `accept_candidate`, `rollback_candidate` and what they rest on,
from `unlinger-cli/src/service.rs`. The transaction is written before each
kind of change it describes, and `recover_incomplete_install` reads from it
alone what is left to do.
-/

namespace Unlinger

open Interaction

namespace Cli

variable (paths : LocalPaths)

/-! ## Records -/

/-- `read_optional_transaction`. -/
def readOptionalTransaction : ServiceProg (Option InstallTransaction) := do
  match ← orFail (Prog.ask Call.readTransaction) with
  | none => return none
  | some transaction =>
      check (require (transaction.schemaVersion = serviceTransactionSchemaVersion)
        ⟨"unsupported service transaction schema " ++ Text.decimal transaction.schemaVersion⟩)
      return some transaction

/-- `read_optional_manifest`. -/
def readOptionalManifest : ServiceProg (Option ActiveServiceManifest) := do
  match ← orFail (Prog.ask Call.readManifest) with
  | none => return none
  | some manifest =>
      check (require (manifest.schemaVersion = serviceManifestSchemaVersion)
        ⟨"unsupported active service manifest schema " ++ Text.decimal manifest.schemaVersion⟩)
      return some manifest

/-- `persist_transaction`. -/
def persistTransaction (transaction : InstallTransaction) : ServiceProg Unit :=
  orFail (Prog.ask (Call.writeTransaction transaction))

/-- `remove_file_durable`. -/
def removeFileDurable (path : ManagedPath) : ServiceProg Unit :=
  orFail (Prog.ask (Call.removeFile path))

/-! ## The LaunchAgent -/

/-- `parse_launch_agent_bytes`. -/
def parseLaunchAgent (contents : String) : ServiceProg LaunchAgentDocument :=
  orFail (Prog.ask (Call.plutil contents))

/-- `installed_generation_result`. -/
def installedGeneration : ServiceProg (Option Nat) := do
  match ← orFail (Prog.ask Call.readLaunchAgent) with
  | none => return none
  | some contents =>
      let document ← parseLaunchAgent contents
      check (document.installedGeneration paths)

/-- `validate_plist_bytes`. -/
def validatePlist (contents expectedProgram : String) (expectation : LaunchAgentExpectation) :
    ServiceProg Unit := do
  let document ← parseLaunchAgent contents
  check (document.validate expectedProgram expectation)

/-- `report_only_rollback_plist`. -/
def reportOnlyRollbackPlist (contents : String) : ServiceProg String := do
  let document ← parseLaunchAgent contents
  check (document.reportOnlyText contents)

/-- `validate_report_only_rollback_plist`. -/
def validateReportOnlyRollbackPlist (transaction : InstallTransaction) (priorPlist : String) :
    ServiceProg String := do
  let reportOnlyPlist ← reportOnlyRollbackPlist priorPlist
  let (expectedProgram, expectation) := transaction.rollbackExpectation paths
  validatePlist reportOnlyPlist expectedProgram expectation
  return reportOnlyPlist

/-! ## Generations -/

/-- `validate_generation`. -/
def validateGeneration (generation : Nat) : ServiceProg GenerationDir := do
  let directory ← orFail (Prog.ask (Call.inspectGeneration generation))
  check (require (directory.manifest = .new generation)
    ⟨"generation manifest does not match its immutable directory"⟩)
  return directory

/-- `validate_rollback_generation`. -/
def validateRollbackGeneration (generation : Nat) : ServiceProg Unit := do
  let directory ← validateGeneration generation
  check (require (directory.isSealed = true)
    ⟨"rollback generation has unsafe ownership, type, or permissions"⟩)

/-- The number of an entry: one that is none is passed over, and one that is
no directory ends the search. -/
def GenerationEntry.number (entry : GenerationEntry) : Except ServiceError (Option Nat) :=
  match Text.parseU64 entry.name with
  | .error _ => .ok none
  | .ok number =>
      if entry.isDirectory then .ok (some number)
      else .error ⟨"numbered generation is not a directory: " ++ entry.name⟩

/-- The largest number of the entries, and of `maximum`. -/
def maximumGeneration (maximum : Nat) : List GenerationEntry → Except ServiceError Nat
  | [] => .ok maximum
  | entry :: entries => do
      match ← entry.number with
      | none => maximumGeneration maximum entries
      | some number => maximumGeneration (max maximum number) entries

/-- `next_generation`. -/
def nextGeneration : ServiceProg Nat := do
  let entries ← orFail (Prog.ask Call.generationEntries)
  let maximum ← check (maximumGeneration 0 entries)
  check (require (maximum + 1 < 2 ^ 64) ⟨"activation generation space is exhausted"⟩)
  return maximum + 1

/-- The steps, one after the other. -/
def stageSteps (generation : Nat) : List StageStep → ServiceProg Unit
  | [] => return ()
  | step :: steps => do
      orFail (Prog.ask (Call.stage generation step))
      stageSteps generation steps

/-- What `create_generation` does once it is published: seal it, and look at
it again. -/
def sealPublished (generation : Nat) : ServiceProg Unit := do
  orFail (Prog.ask (Call.sealGeneration generation))
  orFail (Prog.ask (Call.syncGeneration generation))
  let _ ← validateGeneration generation

/-- `create_generation`. What was staged, or published, and not promoted is
dropped with its guard. -/
def createGeneration (generation : Nat) : ServiceProg Unit := do
  if ← Prog.ask (Call.generationExists generation) then
    Prog.throw ⟨"activation generation already exists: " ++ Text.decimal generation⟩
  else
    stageSteps generation StageStep.opening
    match ← (stageSteps generation StageStep.filling).attempt with
    | .error error =>
        Prog.ask (Call.discardStage generation)
        Prog.throw error
    | .ok () =>
    match ← Prog.ask (Call.publishGeneration generation) with
    | .error error =>
        Prog.ask (Call.discardStage generation)
        Prog.throw error
    | .ok () =>
    match ← (sealPublished generation).attempt with
    | .error error =>
        Prog.ask (Call.discardGeneration generation)
        Prog.throw error
    | .ok () => return ()

/-! ## The database -/

/-- `validate_managed_database_path`. -/
def validateManagedDatabasePath : Except ServiceError Unit :=
  require (paths.database = Text.joinPath paths.applicationSupport "history.sqlite3")
    ⟨"refusing database transaction outside the managed history path: " ++ paths.database⟩

/-- The components of the list that are there, all of them safe. -/
def presentComponents : List DatabaseComponent → ServiceProg (List DatabaseComponent)
  | [] => return []
  | component :: components => do
      let present ← orFail (Prog.ask (Call.databaseComponent component))
      let rest ← presentComponents components
      return if present then component :: rest else rest

/-- The closure of `backup_database`. -/
def snapshotDatabase : ServiceProg Unit := do
  orFail (Prog.ask Call.vacuumInto)
  orFail (Prog.ask Call.protectPending)
  orFail (Prog.ask (Call.validateSqlite .databaseBackupPending))
  orFail (Prog.ask (Call.validateReplaceableFile .databaseBackup))
  orFail (Prog.ask Call.publishBackup)
  orFail (Prog.ask Call.syncSupport)

/-- `backup_database`. -/
def backupDatabase : ServiceProg Bool := do
  check (validateManagedDatabasePath paths)
  let present ← orFail (Prog.ask (Call.databaseComponent .main))
  if present = false then
    removeFileDurable .databaseBackup
    removeFileDurable .databaseBackupPending
    return false
  else
    let _ ← presentComponents DatabaseComponent.sidecars
    removeFileDurable .databaseBackup
    removeFileDurable .databaseBackupPending
    match ← snapshotDatabase.attempt with
    | .error error =>
        Prog.ask Call.discardPending
        Prog.throw error
    | .ok () => return true

/-- Move the components to the evidence, one after the other. -/
def moveComponents (evidence : String) : List DatabaseComponent → ServiceProg Unit
  | [] => return ()
  | component :: components => do
      orFail (Prog.ask (Call.moveToEvidence component evidence))
      moveComponents evidence components

/-- `preserve_failed_database`. -/
def preserveFailedDatabase (failedGeneration : Nat) : ServiceProg (Option String) := do
  check (validateManagedDatabasePath paths)
  let present ← presentComponents DatabaseComponent.all
  if present = [] then return none
  else
    let evidence ← orFail (Prog.ask (Call.createEvidence failedGeneration))
    moveComponents evidence present
    orFail (Prog.ask Call.syncSupport)
    return some evidence

/-- No component is left in the way. -/
def requireNoComponents : List DatabaseComponent → ServiceProg Unit
  | [] => return ()
  | component :: components => do
      if ← orFail (Prog.ask (Call.pathEntryExists (.database component))) then
        Prog.throw ⟨"database component remained after evidence preservation: "
          ++ paths.database ++ component.suffix⟩
      else requireNoComponents components

/-- `restore_database_backup_files`. -/
def restoreDatabaseBackupFiles (failedGeneration : Nat) : ServiceProg (Option String) := do
  check (validateManagedDatabasePath paths)
  orFail (Prog.ask (Call.inspectDatabaseFile .databaseBackup))
  orFail (Prog.ask (Call.validateSqlite .databaseBackup))
  let evidence ← preserveFailedDatabase paths failedGeneration
  requireNoComponents paths DatabaseComponent.all
  orFail (Prog.ask Call.copyBackup)
  orFail (Prog.ask Call.syncSupport)
  orFail (Prog.ask (Call.validateSqlite (.database .main)))
  return evidence

/-! ## Rolling back -/

/-- `mark_rollback_in_progress`. -/
def markRollbackInProgress (transaction : InstallTransaction) : ServiceProg InstallTransaction := do
  persistTransaction transaction.inRollback
  return transaction.inRollback

/-- `validate_committed_rollback_backup`. -/
def validateCommittedRollbackBackup (transaction : InstallTransaction) : ServiceProg Unit := do
  if transaction.databaseBackedUp = false then
    if ← orFail (Prog.ask (Call.pathEntryExists .databaseBackup)) then
      Prog.throw ⟨"rollback backup exists without a committed database snapshot"⟩
    else return ()
  else
    orFail (Prog.ask (Call.inspectDatabaseFile .databaseBackup))
    orFail (Prog.ask (Call.validateSqlite .databaseBackup))
    match transaction.databaseBackupSchemaVersion with
    | none => return ()
    | some expected =>
        let actual ← orFail (Prog.ask (Call.schemaVersion .databaseBackup))
        check (require (actual = expected) ⟨"rollback backup schema changed: expected "
          ++ Text.decimal expected ++ ", found " ++ Text.decimal actual⟩)

/-- The LaunchAgent selects a generation of the transaction, or none. -/
def validateLaunchAgentScope (transaction : InstallTransaction) : ServiceProg Unit := do
  match ← installedGeneration paths with
  | none => return ()
  | some generation =>
      check (require (transaction.allowsGeneration generation = true)
        ⟨"LaunchAgent selection is outside the rollback transaction"⟩)
      validateRollbackGeneration generation

/-- And so does the active manifest. -/
def validateManifestScope (transaction : InstallTransaction) : ServiceProg Unit := do
  match ← readOptionalManifest with
  | none => return ()
  | some manifest =>
      check (require (transaction.allowsGeneration manifest.activeGeneration = true)
        ⟨"active manifest selection is outside the rollback transaction"⟩)
      validateRollbackGeneration manifest.activeGeneration

/-- `validate_rollback_selection_scope`. -/
def validateRollbackSelectionScope (transaction : InstallTransaction) : ServiceProg Unit := do
  validateLaunchAgentScope paths transaction
  validateManifestScope transaction

/-- `service_domain`. -/
def serviceDomain (uid : Nat) : String := "gui/" ++ Text.decimal uid

/-- `wait_for_generation_ready`. -/
def waitForGenerationReady (uid generation : Nat) : ServiceProg ServiceStatusReport := do
  let report ← orFail (Prog.ask (Call.awaitStatus (.generationReady generation)))
  if (Awaited.generationReady generation).reached report then return report
  else
    Prog.throw ⟨"generation " ++ Text.decimal generation ++ " did not become ready in "
      ++ serviceDomain uid ++ ": " ++ report.errorText "candidate never reached ready report-only"⟩

/-- `wait_for_mode`. -/
def waitForMode (uid : Nat) (mode : DaemonMode) : ServiceProg ServiceStatusReport := do
  let report ← orFail (Prog.ask (Call.awaitStatus (.mode mode)))
  if (Awaited.mode mode).reached report then return report
  else
    Prog.throw ⟨"LaunchAgent did not become healthy in " ++ serviceDomain uid ++ ": "
      ++ report.errorText "no healthy service report was produced"⟩

/-- The legacy daemon that was waited for. -/
def legacyRestored (polled : LaunchdState × Option DaemonStatus) : Bool :=
  polled.1.loaded && polled.2.any fun status =>
    !status.managed && status.effectiveMode == .reportOnly && status.healthy
      && status.lastScanAtUnixMillis.isSome && !status.cleanupInProgress

/-- `wait_for_restored_report_only`. -/
def waitForRestoredReportOnly (uid : Nat) (manifest : Option ActiveServiceManifest) :
    ServiceProg ServiceStatusReport := do
  match manifest with
  | some manifest => waitForGenerationReady uid manifest.activeGeneration
  | none =>
      let polled ← orFail (Prog.ask Call.awaitLegacy)
      if legacyRestored polled then orFail (Prog.ask Call.status)
      else
        Prog.throw ⟨"prior report-only service did not recover in " ++ serviceDomain uid⟩

/-- Put the database back to what it was before the candidate. -/
def rollbackDatabase (transaction : InstallTransaction) : ServiceProg Unit := do
  if transaction.rollbackDatabaseRestore then
    if transaction.databaseBackedUp then
      let _ ← restoreDatabaseBackupFiles paths transaction.candidateGeneration
    else
      if ← orFail (Prog.ask (Call.pathEntryExists .databaseBackup)) then
        Prog.throw ⟨"candidate may have touched history but its transaction did not commit the "
          ++ "existing database backup"⟩
      else
        let _ ← preserveFailedDatabase paths transaction.candidateGeneration
  else removeFileDurable .databaseBackup

/-- The prior manifest, report-only, or none. -/
def publishPriorManifest (transaction : InstallTransaction) : ServiceProg Unit :=
  match transaction.priorManifest with
  | some prior => orFail (Prog.ask (Call.writeManifest prior.rollbackFloor))
  | none => removeFileDurable .activeManifest

/-- Start the prior service where it ran. -/
def restartPrior (uid : Nat) (transaction : InstallTransaction) : ServiceProg Unit :=
  if transaction.priorWasLoaded then do
    Prog.ask Call.dropDaemonLock
    orFail (Prog.ask Call.bootstrap)
    let _ ← waitForRestoredReportOnly uid transaction.priorManifest
  else return ()

/-- Publish the prior selection, report-only, and start it. -/
def republishPrior (uid : Nat) (transaction : InstallTransaction)
    (reportOnlyPriorPlist : Option String) : ServiceProg Unit :=
  match reportOnlyPriorPlist with
  | some reportOnlyPlist => do
      orFail (Prog.ask (Call.writeLaunchAgent reportOnlyPlist))
      publishPriorManifest transaction
      restartPrior uid transaction
  | none => do
      removeFileDurable .launchAgent
      removeFileDurable .activeManifest

/-- The LaunchAgent a transaction rolls back to, validated. -/
def rollbackTarget (transaction : InstallTransaction) : ServiceProg (Option String) :=
  match transaction.priorPlist with
  | none => return none
  | some priorPlist => do
      let reportOnlyPlist ← validateReportOnlyRollbackPlist paths transaction priorPlist
      return some reportOnlyPlist

/-- `rollback_install_transaction`. -/
def rollbackInstallTransaction (uid : Nat) (transaction : InstallTransaction) :
    ServiceProg Unit := do
  let reportOnlyPriorPlist ← rollbackTarget paths transaction
  validateRollbackSelectionScope paths transaction
  validateCommittedRollbackBackup transaction
  let transaction ← markRollbackInProgress transaction
  orFail (Prog.ask (Call.drainRollbackSelectedService transaction))
  orFail (Prog.ask Call.proveDaemonOffline)
  removeFileDurable .databaseBackupPending
  rollbackDatabase paths transaction
  republishPrior uid transaction reportOnlyPriorPlist
  removeFileDurable .transaction
  removeFileDurable .databaseBackup
  removeFileDurable .databaseBackupPending
  Prog.ask Call.dropDaemonLock

/-- `finalize_accepted_lease`. -/
def finalizeAcceptedLease (transaction : InstallTransaction) : ServiceProg Unit := do
  check (require (transaction.phase = .accepted)
    ⟨"candidate is not durably accepted; rollback material must be retained"⟩)
  removeFileDurable .daemonBinary
  removeFileDurable .cliBinary
  removeFileDurable .databaseBackup
  removeFileDurable .databaseBackupPending
  removeFileDurable .transaction

/-- `recover_incomplete_install`. -/
def recoverIncompleteInstall (uid : Nat) : ServiceProg Unit := do
  match ← readOptionalTransaction with
  | none =>
      removeFileDurable .databaseBackup
      removeFileDurable .databaseBackupPending
  | some transaction =>
      match transaction.phase.recoveryDisposition with
      | .holdForExplicitDecision =>
          Prog.throw ⟨"generation " ++ Text.decimal transaction.candidateGeneration
            ++ " is ready report-only with rollback retained; use service accept-candidate or "
            ++ "service rollback-candidate"⟩
      | .finalizeAccepted => finalizeAcceptedLease transaction
      | .rollbackPrior => rollbackInstallTransaction paths uid transaction

/-! ## Installing -/

/-- `validate_acceptance_install_mode`. -/
def validateAcceptanceInstallMode (mode : DaemonMode) : Except ServiceError Unit :=
  require (mode ≠ .enforce)
    ⟨"candidate installation is report-only; install first, verify the candidate, then "
      ++ "explicitly accept or roll it back"⟩

/-- Who calls, the directories, and the lock: how every command begins. -/
def beginMutation : ServiceProg Nat := do
  let uid ← orFail (Prog.ask Call.mutationUid)
  orFail (Prog.ask Call.prepareInstallDirectories)
  orFail (Prog.ask Call.acquireServiceLock)
  return uid

/-- The status of the daemon that `launchd` runs, where it runs one. -/
def priorStatus (launchd : LaunchdState) : ServiceProg (Option DaemonStatus) :=
  match launchd.loaded, launchd.pid with
  | true, some pid => orFail (Prog.ask (Call.ipcStatusForLaunchd (some pid)))
  | _, _ => return none

/-- A daemon that is not running is proved offline at once; one that is, is
left for later. -/
def proveOfflineUnlessRunning (launchd : LaunchdState) : ServiceProg Bool :=
  match launchd.loaded, launchd.pid with
  | true, none => do
      orFail (Prog.ask Call.bootoutAndWait)
      orFail (Prog.ask Call.proveDaemonOffline)
      return true
  | false, _ => do
      orFail (Prog.ask Call.proveDaemonOffline)
      return true
  | true, some _ => return false

/-- Quiesce the daemon that runs, and prove it offline. -/
def drainPrior (launchd : LaunchdState) (status : Option DaemonStatus) (offline : Bool) :
    ServiceProg Unit := do
  if launchd.loaded ∧ launchd.pid.isSome then
    orFail (Prog.ask (Call.quiesceLoadedService launchd status .stableOrFailed))
    orFail (Prog.ask Call.proveDaemonOffline)
  else
    check (require (offline = true)
      ⟨"daemon offline proof was lost before installation mutation"⟩)

/-- Snapshot the database, and read the snapshot's schema. -/
def backUp (transaction : InstallTransaction) : ServiceProg InstallTransaction := do
  if ← backupDatabase paths then
    let version ← orFail (Prog.ask (Call.schemaVersion .databaseBackup))
    return { transaction with
      databaseBackedUp := true
      databaseBackupSchemaVersion := some version
      phase := .databaseBackedUp }
  else
    return { transaction with
      databaseBackedUp := false
      databaseBackupSchemaVersion := none
      phase := .databaseBackedUp }

/-- The closure of `install`. -/
def installCandidate (uid : Nat) (launchd : LaunchdState) (status : Option DaemonStatus)
    (offline : Bool) (transaction : InstallTransaction) : ServiceProg Unit := do
  let generation := transaction.candidateGeneration
  createGeneration generation
  persistTransaction { transaction with phase := .candidateDurable }
  let plist := launchAgentPlist paths generation
  validatePlist plist (paths.generationDaemon generation) (.managed generation)
  drainPrior launchd status offline
  persistTransaction { transaction with phase := .priorDrained }
  let transaction ← backUp paths { transaction with phase := .priorDrained }
  persistTransaction transaction
  orFail (Prog.ask (Call.writeLaunchAgent plist))
  orFail (Prog.ask (Call.writeManifest (.new generation .reportOnly)))
  persistTransaction { transaction with phase := .candidateSelected }
  Prog.ask Call.dropDaemonLock
  orFail (Prog.ask Call.bootstrap)
  let _ ← waitForGenerationReady uid generation
  persistTransaction { transaction with phase := .candidateReadyReportOnly }

/-- What is known of the prior installation before anything is changed. -/
def openTransaction (launchd : LaunchdState) : ServiceProg InstallTransaction := do
  let priorManifest ← readOptionalManifest
  let priorPlist ← orFail (Prog.ask Call.readLaunchAgentText)
  let generation ← nextGeneration
  let transaction := InstallTransaction.new generation priorManifest priorPlist launchd.loaded
  check (require (¬ (priorPlist = none ∧ (priorManifest.isSome ∨ launchd.loaded = true)))
    ⟨"prior service has no durable LaunchAgent rollback material; installation was not started"⟩)
  let _ ← rollbackTarget paths transaction
  return transaction

/-- `install`. -/
def install (mode : DaemonMode) : ServiceProg ServiceStatusReport := do
  check (validateAcceptanceInstallMode mode)
  let uid ← beginMutation
  recoverIncompleteInstall paths uid
  let launchd ← orFail (Prog.ask Call.launchdState)
  let status ← priorStatus launchd
  let offline ← proveOfflineUnlessRunning launchd
  let transaction ← openTransaction paths launchd
  persistTransaction transaction
  let result ← (installCandidate paths uid launchd status offline transaction).attempt
  Prog.ask Call.dropDaemonLock
  match result with
  | .ok () => waitForMode uid .reportOnly
  | .error error =>
      match ← (recoverIncompleteInstall paths uid).attempt with
      | .ok () =>
          Prog.throw ⟨"candidate installation failed: " ++ error.message
            ++ "; prior service restored report-only"⟩
      | .error recoveryError =>
          Prog.throw ⟨"candidate installation failed: " ++ error.message
            ++ "; report-only recovery failed: " ++ recoveryError.message⟩

/-! ## Deciding about a candidate -/

/-- `ServiceAcceptanceReport`, as far as it is read again. -/
structure AcceptanceReport where
  phase : String
  candidateGeneration : Nat
  rollbackAvailable : Bool
  deriving DecidableEq

/-- A part that may fail, for whether it did not. -/
def succeeds {α : Type} (p : ServiceProg α) : ServiceProg Bool := do
  match ← p.attempt with
  | .ok _ => return true
  | .error _ => return false

/-- Is the snapshot there that the transaction committed, or none where it
committed none? -/
def rollbackDatabaseAvailable (transaction : InstallTransaction) (present : Bool) :
    ServiceProg Bool :=
  if transaction.databaseBackedUp = false then return !present
  else if present = false then return false
  else do
    if ← succeeds (orFail (Prog.ask (Call.validateSqlite .databaseBackup))) then
      match transaction.databaseBackupSchemaVersion with
      | none => return true
      | some expected =>
          match ← (orFail (Prog.ask (Call.schemaVersion .databaseBackup))).attempt with
          | .ok actual => return actual == expected
          | .error _ => return false
    else return false

/-- Is the prior's LaunchAgent still what can be rolled back to? -/
def rollbackPlistAvailable (transaction : InstallTransaction) : ServiceProg Bool :=
  match transaction.priorPlist with
  | some plist => succeeds (validateReportOnlyRollbackPlist paths transaction plist)
  | none => return transaction.priorManifest.isNone && !transaction.priorWasLoaded

/-- Is the prior's generation, or its legacy binary, still there? -/
def rollbackGenerationAvailable (transaction : InstallTransaction) : ServiceProg Bool :=
  match transaction.priorManifest with
  | some manifest => succeeds (validateRollbackGeneration manifest.activeGeneration)
  | none =>
      if transaction.priorPlist = none then return true
      else Prog.ask (Call.isFile .daemonBinary)

/-- `inspect_acceptance_lease`. -/
def inspectAcceptanceLease : ServiceProg (Option AcceptanceReport) := do
  match ← readOptionalTransaction with
  | none => return none
  | some transaction =>
      let present ← orFail (Prog.ask (Call.pathEntryExists .databaseBackup))
      let database ← rollbackDatabaseAvailable transaction present
      let plist ← rollbackPlistAvailable paths transaction
      let generation ← rollbackGenerationAvailable transaction
      return some {
        phase := transaction.phase.name
        candidateGeneration := transaction.candidateGeneration
        rollbackAvailable :=
          transaction.phase != .accepted && database && plist && generation }

/-- The lease is the transaction's, and can be rolled back. -/
def requireRollbackMaterial (transaction : InstallTransaction) : ServiceProg Unit := do
  match ← inspectAcceptanceLease paths with
  | none => Prog.throw ⟨"candidate acceptance lease disappeared"⟩
  | some acceptance =>
      check (require (acceptance.candidateGeneration = transaction.candidateGeneration
          ∧ acceptance.phase = transaction.phase.name ∧ acceptance.rollbackAvailable = true)
        ⟨"candidate rollback material is incomplete or inconsistent"⟩)

/-- `validate_candidate_acceptance_state`. -/
def validateCandidateAcceptanceState (transaction : InstallTransaction) :
    ServiceProg ServiceStatusReport := do
  requireRollbackMaterial paths transaction
  let report ← orFail (Prog.ask Call.status)
  check (require (report.healthy = true ∧ report.expectedMode = some .reportOnly
      ∧ report.readyReportOnly transaction.candidateGeneration = true)
    ⟨"generation " ++ Text.decimal transaction.candidateGeneration
      ++ " is not a stable, quiescent report-only candidate"⟩)
  return report

/-- The closure of `accept_candidate`. -/
def commitAcceptance (transaction : InstallTransaction) : ServiceProg Unit := do
  let _ ← validateCandidateAcceptanceState paths transaction
  persistTransaction { transaction with phase := .accepted }

/-- `accept_candidate`. -/
def acceptCandidate : ServiceProg ServiceStatusReport := do
  let uid ← beginMutation
  match ← readOptionalTransaction with
  | none => Prog.throw ⟨"there is no candidate acceptance lease"⟩
  | some transaction =>
  match transaction.phase with
  | .accepted =>
      finalizeAcceptedLease transaction
      orFail (Prog.ask Call.status)
  | .candidateReadyReportOnly =>
      let _ ← validateCandidateAcceptanceState paths transaction
      let transaction := { transaction with phase := .acceptanceInProgress }
      persistTransaction transaction
      match ← (commitAcceptance paths transaction).attempt with
      | .error error =>
          match ← (recoverIncompleteInstall paths uid).attempt with
          | .ok () =>
              let report ← orFail (Prog.ask Call.status)
              if report.readyReportOnly transaction.candidateGeneration then return report
              else
                Prog.throw ⟨"candidate acceptance failed: " ++ error.message
                  ++ "; prior service restored report-only"⟩
          | .error recoveryError =>
              Prog.throw ⟨"candidate acceptance failed: " ++ error.message
                ++ "; report-only recovery failed: " ++ recoveryError.message⟩
      | .ok () =>
          match ← (finalizeAcceptedLease { transaction with phase := .accepted }).attempt with
          | .ok () => orFail (Prog.ask Call.status)
          | .error error =>
              Prog.throw ⟨"candidate acceptance is durable, but rollback-material cleanup is "
                ++ "incomplete: " ++ error.message⟩
  | _ =>
      recoverIncompleteInstall paths uid
      Prog.throw ⟨"the incomplete candidate transaction was rolled back instead of accepted"⟩

/-- `rollback_candidate`. -/
def rollbackCandidate : ServiceProg ServiceStatusReport := do
  let uid ← beginMutation
  match ← readOptionalTransaction with
  | none => Prog.throw ⟨"there is no candidate acceptance lease"⟩
  | some transaction =>
      if transaction.phase = .accepted then
        finalizeAcceptedLease transaction
        Prog.throw
          ⟨"candidate acceptance is already durable; rollback material has been retired"⟩
      else
        rollbackInstallTransaction paths uid transaction
        orFail (Prog.ask Call.status)

end Cli

end Unlinger
