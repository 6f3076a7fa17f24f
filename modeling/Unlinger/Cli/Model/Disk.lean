import Unlinger.Cli.Model.Mode
import Unlinger.Common.Crash
import Unlinger.Common.OrdMap

/-!
# What is on disk

The files the service commands work on, and how a call is answered from
them and leaves them. A write, a rename and a removal is one step, which
happened or did not when the call fails; a copy, a `VACUUM INTO` and the
removal of a directory may stop in the middle. What a call looks at it
sees as it is, unless it fails.

What SQLite keeps in a database, and how `plutil` reads a text, are
parameters. The daemon writes to its database too, between any two calls.
-/

namespace Unlinger

open Interaction

namespace Cli

variable {H : Type}

/-! ## Files -/

/-- A database file: as SQLite would open it, or stopped in the middle of
being written. -/
inductive DatabaseFile (H : Type)
  | whole (contents : H)
  | torn
  deriving DecidableEq

/-- The database, with what its journal files add in it, and whether they
are there. -/
structure Database (H : Type) where
  main : Option (DatabaseFile H)
  wal : Bool
  shm : Bool
  journal : Bool
  deriving DecidableEq

namespace Database

/-- No component at all. -/
def absent : Database H := ⟨none, false, false, false⟩

/-- Is the component there? -/
def present (database : Database H) : DatabaseComponent → Bool
  | .main => database.main.isSome
  | .wal => database.wal
  | .shm => database.shm
  | .journal => database.journal

/-- The database without a component. -/
def without (database : Database H) : DatabaseComponent → Database H
  | .main => { database with main := none }
  | .wal => { database with wal := false }
  | .shm => { database with shm := false }
  | .journal => { database with journal := false }

/-- What a component holds: the database, or what belongs to it. -/
def contents (database : Database H) : DatabaseComponent → Option (DatabaseFile H)
  | .main => database.main
  | _ => none

end Database

/-- A component that was moved away, and where to. -/
structure Evidence (H : Type) where
  directory : String
  component : DatabaseComponent
  contents : Option (DatabaseFile H)
  deriving DecidableEq

/-- The files a transaction is about. -/
structure Records (H : Type) where
  transaction : Option InstallTransaction
  launchAgent : Option String
  activeManifest : Option ActiveServiceManifest
  generations : OrdMap Nat GenerationDir
  databaseBackup : Option (DatabaseFile H)
  deriving DecidableEq

/-- All files of the service. -/
structure Disk (H : Type) extends Records H where
  databaseBackupPending : Option (DatabaseFile H)
  database : Database H
  failedGenerations : List (Evidence H)
  stages : List String
  daemonBinary : Bool
  cliBinary : Bool
  deriving DecidableEq

namespace Disk

/-- Is there an entry at the path? -/
def pathExists (d : Disk H) : ManagedPath → Bool
  | .launchAgent => d.launchAgent.isSome
  | .activeManifest => d.activeManifest.isSome
  | .transaction => d.transaction.isSome
  | .databaseBackup => d.databaseBackup.isSome
  | .databaseBackupPending => d.databaseBackupPending.isSome
  | .daemonBinary => d.daemonBinary
  | .cliBinary => d.cliBinary
  | .database component => d.database.present component

/-- The disk without the file. -/
def remove (d : Disk H) : ManagedPath → Disk H
  | .launchAgent => { d with launchAgent := none }
  | .activeManifest => { d with activeManifest := none }
  | .transaction => { d with transaction := none }
  | .databaseBackup => { d with databaseBackup := none }
  | .databaseBackupPending => { d with databaseBackupPending := none }
  | .daemonBinary => { d with daemonBinary := false }
  | .cliBinary => { d with cliBinary := false }
  | .database component => { d with database := d.database.without component }

/-- The database file at a path. -/
def databaseFile (d : Disk H) : ManagedPath → Option (DatabaseFile H)
  | .databaseBackup => d.databaseBackup
  | .databaseBackupPending => d.databaseBackupPending
  | .database component => d.database.contents component
  | _ => none

/-- The entries of the directory of generations. -/
def generationEntries (d : Disk H) : List GenerationEntry :=
  d.generations.keys.map (fun generation => ⟨Text.decimal generation, true⟩)
    ++ d.stages.map fun name => ⟨name, true⟩

/-- A component moved to the evidence. -/
def moveAway (d : Disk H) (component : DatabaseComponent) (directory : String) : Disk H :=
  { d with
    database := d.database.without component
    failedGenerations :=
      d.failedGenerations ++ [⟨directory, component, d.database.contents component⟩] }

/-! ## How calls are answered -/

/-- A call that only looks: what it answers is true. -/
def Looks {α : Type} (d : Disk H) (r : Except ServiceError α) (d' : Disk H) (truth : α) : Prop :=
  d' = d ∧ ∀ a, r = .ok a → a = truth

/-- A call that changes something in one step: it did, or it failed and did
not. -/
def Changes (d : Disk H) (r : Except ServiceError Unit) (d' after : Disk H) : Prop :=
  d' = after ∨ (d' = d ∧ ∃ e, r = .error e)

/-- Only the generation may have another directory than it had, and none
that is sealed. -/
def Unseals (d : Disk H) (generation : Nat) (d' : Disk H) : Prop :=
  ∃ generations : OrdMap Nat GenerationDir,
    d' = { d with generations := generations }
      ∧ (∀ g, g ≠ generation → generations.lookup g = d.generations.lookup g)
      ∧ ∀ dir, generations.lookup generation = some dir →
        d.generations.lookup generation = some dir ∨ dir.isSealed = false

/-- A staged generation gets its name; a directory that is there is not
replaced. -/
def Publishes (d : Disk H) (generation : Nat) (r : Except ServiceError Unit) (d' : Disk H) :
    Prop :=
  if d.generations.contains generation then d' = d ∧ ∃ e, r = .error e
  else ∃ stages, Changes d r d' { d with
    generations := d.generations.insert generation ⟨.new generation, false⟩
    stages := stages }

/-- The pending backup becomes the backup. -/
def PublishesBackup (d : Disk H) (r : Except ServiceError Unit) (d' : Disk H) : Prop :=
  if d.databaseBackupPending.isNone then d' = d ∧ ∃ e, r = .error e
  else Changes d r d' { d with
    databaseBackup := d.databaseBackupPending
    databaseBackupPending := none }

/-- The backup is copied to the database's place; a file that is there is
not replaced. -/
def CopiesBackup (d : Disk H) (r : Except ServiceError Unit) (d' : Disk H) : Prop :=
  if d.database.main.isSome || d.databaseBackup.isNone then d' = d ∧ ∃ e, r = .error e
  else (∃ main, d' = { d with database := { d.database with main := main } })
    ∧ (r = .ok () → d'.database.main = d.databaseBackup)

variable (plutil : String → Except ServiceError LaunchAgentDocument) (schema : H → Nat)

/-- How a call is answered, and what it leaves. -/
def answers (d : Disk H) : (c : Call) → Answer c → Disk H → Prop
  | .readTransaction, r, d' => Looks d r d' d.transaction
  | .readManifest, r, d' => Looks d r d' d.activeManifest
  | .readLaunchAgent, r, d' => Looks d r d' d.launchAgent
  | .readLaunchAgentText, r, d' => Looks d r d' d.launchAgent
  | .plutil contents, r, d' => d' = d ∧ ∀ document, r = .ok document → plutil contents = r
  | .writeTransaction t, r, d' => Changes d r d' { d with transaction := some t }
  | .writeManifest m, r, d' => Changes d r d' { d with activeManifest := some m }
  | .writeLaunchAgent contents, r, d' => Changes d r d' { d with launchAgent := some contents }
  | .pathEntryExists path, r, d' => Looks d r d' (d.pathExists path)
  | .isFile path, r, d' => d' = d ∧ (r = true → d.pathExists path = true)
  | .removeFile path, r, d' => Changes d r d' (d.remove path)
  | .generationEntries, r, d' => Looks d r d' d.generationEntries
  | .generationExists generation, r, d' =>
      d' = d ∧ (r = true → d.generations.contains generation = true)
  | .stage _ _, _, d' => ∃ stages, d' = { d with stages := stages }
  | .discardStage _, _, d' => ∃ stages, d' = { d with stages := stages }
  | .publishGeneration generation, r, d' => Publishes d generation r d'
  | .sealGeneration generation, r, d' =>
      Changes d r d' { d with
        generations := match d.generations.lookup generation with
          | some dir => d.generations.insert generation { dir with isSealed := true }
          | none => d.generations }
  | .discardGeneration generation, _, d' => Unseals d generation d'
  | .inspectGeneration generation, r, d' =>
      d' = d ∧ ∀ dir, r = .ok dir → d.generations.lookup generation = some dir
  | .removeGenerationEntry name, r, d' =>
      ∃ generations stages, d' = { d with generations := generations, stages := stages }
        ∧ (∀ g, Text.decimal g ≠ name → generations.lookup g = d.generations.lookup g)
        ∧ (r = .ok () → ∀ g, Text.decimal g = name → generations.lookup g = none)
  | .databaseComponent component, r, d' => Looks d r d' (d.database.present component)
  | .inspectDatabaseFile path, r, d' => d' = d ∧ (r = .ok () → d.pathExists path = true)
  | .vacuumInto, r, d' =>
      (∃ pending, d' = { d with databaseBackupPending := pending })
        ∧ (r = .ok () → d'.databaseBackupPending = d.database.main)
  | .publishBackup, r, d' => PublishesBackup d r d'
  | .discardPending, _, d' => d' = d ∨ d' = { d with databaseBackupPending := none }
  | .validateSqlite path, r, d' =>
      d' = d ∧ (r = .ok () → ∃ h, d.databaseFile path = some (.whole h))
  | .schemaVersion path, r, d' =>
      d' = d ∧ ∀ n h, r = .ok n → d.databaseFile path = some (.whole h) → n = schema h
  | .moveToEvidence component directory, r, d' => Changes d r d' (d.moveAway component directory)
  | .copyBackup, r, d' => CopiesBackup d r d'
  | _, _, d' => d' = d

/-- The same, with what a daemon wrote to the database before. -/
def serves : Crash.Serves Answer (Disk H) := fun d c r d' =>
  ∃ database, answers plutil schema { d with database := database } c r d'

/-! ## Where nothing fails -/

/-- The call does what it is asked to, as far as the files allow it. -/
def Obliges (d : Disk H) : (c : Call) → Answer c → Prop
  | .plutil contents, r => r = plutil contents
  | .isFile path, r => r = d.pathExists path
  | .generationExists generation, r => r = d.generations.contains generation
  | .inspectGeneration generation, r =>
      d.generations.contains generation = true → ∃ dir, r = .ok dir
  | .inspectDatabaseFile path, r => d.pathExists path = true → r = .ok ()
  | .validateSqlite path, r => (∃ h, d.databaseFile path = some (.whole h)) → r = .ok ()
  | .schemaVersion path, r => (∃ h, d.databaseFile path = some (.whole h)) → ∃ n, r = .ok n
  | .publishGeneration generation, r => d.generations.contains generation = false → r = .ok ()
  | .publishBackup, r => d.databaseBackupPending.isSome = true → r = .ok ()
  | .copyBackup, r => d.database.main = none → d.databaseBackup.isSome = true → r = .ok ()
  | .awaitStatus awaited, r => ∃ report, r = .ok report ∧ awaited.reached report = true
  | .awaitLegacy, r => ∃ polled, r = .ok polled ∧ legacyRestored polled = true
  | .mutationUid, r => ∃ uid, r = .ok uid
  | .readTransaction, r => ∃ t, r = .ok t
  | .readManifest, r => ∃ m, r = .ok m
  | .readLaunchAgent, r | .readLaunchAgentText, r => ∃ contents, r = .ok contents
  | .pathEntryExists _, r | .databaseComponent _, r => ∃ present, r = .ok present
  | .generationEntries, r => ∃ entries, r = .ok entries
  | .createEvidence _, r => ∃ directory, r = .ok directory
  | .launchdState, r => ∃ state, r = .ok state
  | .ipcStatusForLaunchd _, r => ∃ status, r = .ok status
  | .status, r => ∃ report, r = .ok report
  | .requestArm _, r | .requestDisarm _, r => ∃ status, r = .ok status
  | .discardStage _, _ | .discardGeneration _, _ | .discardPending, _ | .dropDaemonLock, _ => True
  | .prepareInstallDirectories, r | .acquireServiceLock, r | .writeTransaction _, r
  | .writeManifest _, r | .writeLaunchAgent _, r | .removeFile _, r
  | .validateReplaceableFile _, r | .stage _ _, r | .sealGeneration _, r | .syncGeneration _, r
  | .removeGenerationEntry _, r | .removeGenerationRoot, r | .vacuumInto, r | .protectPending, r
  | .syncSupport, r | .moveToEvidence _ _, r | .bootstrap, r | .bootoutAndWait, r
  | .proveDaemonOffline, r | .quiesceLoadedService _ _ _, r | .drainRollbackSelectedService _, r
  | .restoreGenerationReportOnly _, r | .emergencyRestartGenerationReportOnly _ _, r =>
      r = .ok ()

/-- How calls are answered where nothing fails and no daemon writes. -/
def obeys : Crash.Serves Answer (Disk H) := fun d c r d' =>
  answers plutil schema d c r d' ∧ Obliges plutil d c r

/-- The status of a daemon that is ready in the mode. -/
def readyStatus (generation : Option Nat) (mode : DaemonMode) : DaemonStatus where
  toServiceStatus := { ServiceStatus.new mode "instance" with
    managed := generation.isSome
    activationGeneration := generation
    startupState := if mode = .enforce then .readyEnforce else .readyReportOnly
    ready := true
    armedGeneration := if mode = .enforce then generation else none
    enforcementEpoch := if mode = .enforce then some "epoch" else none
    healthy := true }
  pid := 1
  lastScanAtUnixMillis := some 0

/-- And its report. -/
def readyReport (generation : Option Nat) (mode : DaemonMode) : ServiceStatusReport where
  installed := true
  loaded := true
  healthy := true
  expectedMode := some mode
  activeGeneration := generation
  launchdPid := some 1
  daemonStatus := some (readyStatus generation mode)
  pidMatches := true
  generationMatches := true
  binaryMatches := true
  permissionsOk := true
  errors := []

/-- What is waited for comes. -/
def comeReady (d : Disk H) : Awaited → ServiceStatusReport
  | .mode mode => readyReport (d.activeManifest.map fun m => m.activeGeneration) mode
  | .generationReady generation | .runtimeReportOnly generation =>
      readyReport (some generation) .reportOnly

/-- Where there is one, its answer. -/
def answerOr {α : Type} (o : Option α) : Except ServiceError α := found o ⟨"no such file"⟩

/-- A service that does what it is asked to. -/
def comply (d : Disk H) : (c : Call) → Answer c × Disk H
  | .mutationUid => (.ok 0, d)
  | .readTransaction => (.ok d.transaction, d)
  | .readManifest => (.ok d.activeManifest, d)
  | .readLaunchAgent | .readLaunchAgentText => (.ok d.launchAgent, d)
  | .plutil contents => (plutil contents, d)
  | .writeTransaction t => (.ok (), { d with transaction := some t })
  | .writeManifest m => (.ok (), { d with activeManifest := some m })
  | .writeLaunchAgent contents => (.ok (), { d with launchAgent := some contents })
  | .pathEntryExists path => (.ok (d.pathExists path), d)
  | .isFile path => (d.pathExists path, d)
  | .removeFile path => (.ok (), d.remove path)
  | .generationEntries => (.ok d.generationEntries, d)
  | .generationExists generation => (d.generations.contains generation, d)
  | .discardStage _ | .discardGeneration _ | .dropDaemonLock => ((), d)
  | .publishGeneration generation =>
      if d.generations.contains generation then (.error ⟨"the generation exists"⟩, d)
      else (.ok (), { d with
        generations := d.generations.insert generation ⟨.new generation, false⟩ })
  | .sealGeneration generation =>
      (.ok (), { d with
        generations := match d.generations.lookup generation with
          | some dir => d.generations.insert generation { dir with isSealed := true }
          | none => d.generations })
  | .inspectGeneration generation => (answerOr (d.generations.lookup generation), d)
  | .removeGenerationEntry name =>
      (.ok (), { d with
        generations := d.generations.filterKeys fun g => Text.decimal g != name })
  | .databaseComponent component => (.ok (d.database.present component), d)
  | .inspectDatabaseFile path => (require (d.pathExists path = true) ⟨"no such file"⟩, d)
  | .vacuumInto => (.ok (), { d with databaseBackupPending := d.database.main })
  | .publishBackup =>
      if d.databaseBackupPending.isNone then (.error ⟨"no such file"⟩, d)
      else (.ok (), { d with
        databaseBackup := d.databaseBackupPending
        databaseBackupPending := none })
  | .discardPending => ((), { d with databaseBackupPending := none })
  | .validateSqlite path =>
      match d.databaseFile path with
      | some (.whole _) => (.ok (), d)
      | _ => (.error ⟨"not a database"⟩, d)
  | .schemaVersion path =>
      match d.databaseFile path with
      | some (.whole h) => (.ok (schema h), d)
      | _ => (.error ⟨"not a database"⟩, d)
  | .createEvidence generation => (.ok ("generation-" ++ Text.decimal generation), d)
  | .moveToEvidence component directory => (.ok (), d.moveAway component directory)
  | .copyBackup =>
      if d.database.main.isSome || d.databaseBackup.isNone then (.error ⟨"no such file"⟩, d)
      else (.ok (), { d with database := { d.database with main := d.databaseBackup } })
  | .launchdState => (.ok ⟨false, none⟩, d)
  | .ipcStatusForLaunchd _ => (.ok none, d)
  | .status => (.ok (readyReport (d.activeManifest.map fun m => m.activeGeneration) .reportOnly), d)
  | .awaitStatus awaited => (.ok (d.comeReady awaited), d)
  | .awaitLegacy => (.ok (⟨true, some 1⟩, some (readyStatus none .reportOnly)), d)
  | .requestArm status => (.ok status, d)
  | .requestDisarm status => (.ok status, d)
  | .prepareInstallDirectories | .acquireServiceLock | .validateReplaceableFile _ | .stage _ _
  | .syncGeneration _ | .removeGenerationRoot | .protectPending | .syncSupport | .bootstrap
  | .bootoutAndWait | .proveDaemonOffline | .quiesceLoadedService _ _ _
  | .drainRollbackSelectedService _ | .restoreGenerationReportOnly _
  | .emergencyRestartGenerationReportOnly _ _ => (.ok (), d)

end Disk

end Cli

end Unlinger
