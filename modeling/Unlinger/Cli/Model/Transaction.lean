import Unlinger.Daemon.Model.Service

/-!
# The install transaction

The records of `unlinger-cli/src/service.rs`: the manifest that selects a
generation, the transaction that is kept beside an installation until it
is accepted or rolled back, and the LaunchAgent a generation is started
by, as text and as `plutil` reads it. The paths are those of
`unlinger-daemon/src/paths.rs`.
-/

namespace Unlinger

namespace Cli

/-- `ServiceError`. -/
structure ServiceError where
  message : String
  deriving DecidableEq

/-- `ServiceError::context`. -/
def ServiceError.context (context error : String) : ServiceError := ⟨context ++ ": " ++ error⟩

/-! ## Paths -/

/-- `LAUNCH_AGENT_LABEL`. -/
def launchAgentLabel : String := "app.unlinger.daemon"

/-- `LocalPaths`. -/
structure LocalPaths where
  applicationSupport : String
  binaryDirectory : String
  cacheDirectory : String
  runtimeDirectory : String
  logsDirectory : String
  database : String
  socket : String
  daemonBinary : String
  cliBinary : String
  launchAgent : String
  errorLog : String
  serviceLock : String
  daemonLock : String
  deriving DecidableEq

/-- The paths below a home directory. -/
def LocalPaths.below (home : String) : LocalPaths :=
  let library := Text.joinPath home "Library"
  let applicationSupport := Text.joinPath (Text.joinPath library "Application Support") "Unlinger"
  let binaryDirectory := Text.joinPath applicationSupport "bin"
  let cacheDirectory := Text.joinPath (Text.joinPath library "Caches") "Unlinger"
  let runtimeDirectory := Text.joinPath applicationSupport "run"
  let logsDirectory := Text.joinPath (Text.joinPath library "Logs") "Unlinger"
  { applicationSupport := applicationSupport
    binaryDirectory := binaryDirectory
    cacheDirectory := cacheDirectory
    runtimeDirectory := runtimeDirectory
    logsDirectory := logsDirectory
    database := Text.joinPath applicationSupport "history.sqlite3"
    socket := Text.joinPath runtimeDirectory "unlingerd.sock"
    daemonBinary := Text.joinPath binaryDirectory "unlingerd"
    cliBinary := Text.joinPath binaryDirectory "unlinger"
    launchAgent := Text.joinPath (Text.joinPath library "LaunchAgents")
      (launchAgentLabel ++ ".plist")
    errorLog := Text.joinPath logsDirectory "unlingerd.log"
    serviceLock := Text.joinPath applicationSupport "service.lock"
    daemonLock := Text.joinPath runtimeDirectory "daemon.lock" }

/-- The daemon's binary of a generation: `ServiceLayout::generation`. -/
def LocalPaths.generationDaemon (paths : LocalPaths) (generation : Nat) : String :=
  Text.joinPath (Text.joinPath (Text.joinPath paths.applicationSupport "generations")
    (Text.decimal generation)) "unlingerd"

/-! ## Manifests -/

/-- `SERVICE_MANIFEST_SCHEMA_VERSION`. -/
def serviceManifestSchemaVersion : Nat := 1

/-- `SERVICE_TRANSACTION_SCHEMA_VERSION`. -/
def serviceTransactionSchemaVersion : Nat := 2

/-- `ActiveServiceManifest`. -/
structure ActiveServiceManifest where
  schemaVersion : Nat
  activeGeneration : Nat
  desiredMode : DaemonMode
  deriving DecidableEq

/-- `ActiveServiceManifest::new`. -/
def ActiveServiceManifest.new (activeGeneration : Nat) (desiredMode : DaemonMode) :
    ActiveServiceManifest :=
  ⟨serviceManifestSchemaVersion, activeGeneration, desiredMode⟩

/-- `ActiveServiceManifest::rollback_floor`. -/
def ActiveServiceManifest.rollbackFloor (m : ActiveServiceManifest) : ActiveServiceManifest :=
  .new m.activeGeneration .reportOnly

/-- `GenerationManifest`. -/
structure GenerationManifest where
  schemaVersion : Nat
  activationGeneration : Nat
  daemonFile : String
  cliFile : String
  deriving DecidableEq

/-- `GenerationManifest::new`. -/
def GenerationManifest.new (activationGeneration : Nat) : GenerationManifest :=
  ⟨serviceManifestSchemaVersion, activationGeneration, "unlingerd", "unlinger"⟩

/-! ## The transaction -/

inductive TransactionPhase
  | prepared
  | candidateDurable
  | priorDrained
  | databaseBackedUp
  | candidateSelected
  | candidateReadyReportOnly
  | acceptanceInProgress
  | rollbackInProgress
  | accepted
  deriving DecidableEq

inductive TransactionRecoveryDisposition
  | rollbackPrior
  | holdForExplicitDecision
  | finalizeAccepted
  deriving DecidableEq

/-- `transaction_recovery_disposition`. -/
def TransactionPhase.recoveryDisposition : TransactionPhase → TransactionRecoveryDisposition
  | .prepared | .candidateDurable | .priorDrained | .databaseBackedUp | .candidateSelected
  | .acceptanceInProgress | .rollbackInProgress => .rollbackPrior
  | .candidateReadyReportOnly => .holdForExplicitDecision
  | .accepted => .finalizeAccepted

/-- `transaction_phase_name`. -/
def TransactionPhase.name : TransactionPhase → String
  | .prepared => "prepared"
  | .candidateDurable => "candidate_durable"
  | .priorDrained => "prior_drained"
  | .databaseBackedUp => "database_backed_up"
  | .candidateSelected => "candidate_selected"
  | .candidateReadyReportOnly => "candidate_ready_report_only"
  | .acceptanceInProgress => "acceptance_in_progress"
  | .rollbackInProgress => "rollback_in_progress"
  | .accepted => "accepted"

/-- `candidate_database_may_have_changed`. -/
def TransactionPhase.databaseMayHaveChanged : TransactionPhase → Bool
  | .databaseBackedUp | .candidateSelected | .candidateReadyReportOnly | .acceptanceInProgress
  | .rollbackInProgress => true
  | _ => false

/-- `InstallTransaction`. -/
structure InstallTransaction where
  schemaVersion : Nat
  phase : TransactionPhase
  candidateGeneration : Nat
  priorManifest : Option ActiveServiceManifest
  priorPlist : Option String
  priorWasLoaded : Bool
  databaseBackedUp : Bool
  databaseBackupSchemaVersion : Option Nat
  rollbackDatabaseRestore : Bool
  deriving DecidableEq

namespace InstallTransaction

/-- `InstallTransaction::new`. -/
def new (candidateGeneration : Nat) (priorManifest : Option ActiveServiceManifest)
    (priorPlist : Option String) (priorWasLoaded : Bool) : InstallTransaction where
  schemaVersion := serviceTransactionSchemaVersion
  phase := .prepared
  candidateGeneration := candidateGeneration
  priorManifest := priorManifest
  priorPlist := priorPlist
  priorWasLoaded := priorWasLoaded
  databaseBackedUp := false
  databaseBackupSchemaVersion := none
  rollbackDatabaseRestore := false

/-- `transaction_allows_generation`. -/
def allowsGeneration (t : InstallTransaction) (generation : Nat) : Bool :=
  generation == t.candidateGeneration
    || t.priorManifest.any fun prior => prior.activeGeneration == generation

/-- What `mark_rollback_in_progress` makes of the transaction. -/
def inRollback (t : InstallTransaction) : InstallTransaction :=
  { t with
    rollbackDatabaseRestore := t.rollbackDatabaseRestore || t.phase.databaseMayHaveChanged
    phase := .rollbackInProgress }

end InstallTransaction

/-! ## The LaunchAgent -/

/-- `LaunchAgentDocument`. -/
structure LaunchAgentDocument where
  label : String
  program : String
  programArguments : List String
  deriving DecidableEq

inductive LaunchAgentExpectation
  | managed (generation : Nat)
  | legacy (mode : DaemonMode)
  deriving DecidableEq

namespace LaunchAgentDocument

/-- `validate_launch_agent_base`. -/
def validateBase (document : LaunchAgentDocument) : Except ServiceError Unit := do
  require (document.label = launchAgentLabel)
    ⟨"LaunchAgent Label must be exactly " ++ launchAgentLabel⟩
  require (document.program ≠ "" ∧ document.programArguments.head? = some document.program)
    ⟨"LaunchAgent Program must be non-empty and equal ProgramArguments[0]"⟩

/-- `managed_generation_from_document`. -/
def managedGeneration (document : LaunchAgentDocument) : Except ServiceError (Option Nat) := do
  document.validateBase
  if document.programArguments.any fun argument =>
      argument == "--managed" || argument == "--activation-generation" then
    match document.programArguments with
    | [_, "--managed", "--activation-generation", generation] =>
        match Text.parseU64 generation with
        | .ok generation => return some generation
        | .error error =>
            .error (.context "managed LaunchAgent generation is not numeric" error)
    | _ =>
        .error ⟨"managed LaunchAgent ProgramArguments must be exactly Program, --managed, "
          ++ "--activation-generation, generation"⟩
  else return none

/-- `legacy_mode_from_document`. -/
def legacyMode (document : LaunchAgentDocument) (expectedProgram : Option String) :
    Except ServiceError DaemonMode := do
  document.validateBase
  match document.programArguments with
  | [_, mode] =>
      require (expectedProgram.all fun expected => document.program == expected)
        ⟨"legacy LaunchAgent Program does not match the managed daemon path"⟩
      if mode = "--report-only" then return .reportOnly
      else if mode = "--enforce" then return .enforce
      else .error ⟨"legacy LaunchAgent must declare exactly one of --report-only or --enforce"⟩
  | _ =>
      .error ⟨"legacy LaunchAgent ProgramArguments must be exactly Program and one mode argument"⟩

/-- `validate_launch_agent_document`. -/
def validate (document : LaunchAgentDocument) (expectedProgram : String) :
    LaunchAgentExpectation → Except ServiceError Unit
  | .managed expectedGeneration => do
      document.validateBase
      require (document.program = expectedProgram)
        ⟨"LaunchAgent Program does not match the exact selected daemon binary"⟩
      let actual ← found (← document.managedGeneration)
        ⟨"LaunchAgent does not declare the managed lifecycle contract"⟩
      require (actual = expectedGeneration)
        ⟨"LaunchAgent activation generation does not match the selected generation"⟩
  | .legacy expectedMode => do
      document.validateBase
      require (document.program = expectedProgram)
        ⟨"LaunchAgent Program does not match the exact selected daemon binary"⟩
      let actual ← document.legacyMode (some expectedProgram)
      require (actual = expectedMode)
        ⟨"legacy LaunchAgent mode does not match the required recovery floor"⟩

/-- `installed_generation_result`, of a document. -/
def installedGeneration (paths : LocalPaths) (document : LaunchAgentDocument) :
    Except ServiceError (Option Nat) := do
  match ← document.managedGeneration with
  | none => return none
  | some generation =>
      document.validate (paths.generationDaemon generation) (.managed generation)
      return some generation

/-- What `report_only_rollback_plist` makes of a text that reads so. -/
def reportOnlyText (document : LaunchAgentDocument) (contents : String) :
    Except ServiceError String := do
  match ← document.managedGeneration with
  | some _ => return contents
  | none =>
      match ← document.legacyMode none with
      | .reportOnly => return contents
      | .enforce =>
          return Text.replace contents "<string>--enforce</string>"
            "<string>--report-only</string>"

end LaunchAgentDocument

/-- What a transaction rolls its LaunchAgent back to: the program and the
way it is started. -/
def InstallTransaction.rollbackExpectation (t : InstallTransaction) (paths : LocalPaths) :
    String × LaunchAgentExpectation :=
  match t.priorManifest with
  | some prior => (paths.generationDaemon prior.activeGeneration, .managed prior.activeGeneration)
  | none => (paths.daemonBinary, .legacy .reportOnly)

/-- `xml_escape`. -/
def xmlEscape (value : String) : String :=
  let value := Text.replace value "&" "&amp;"
  let value := Text.replace value "<" "&lt;"
  let value := Text.replace value ">" "&gt;"
  let value := Text.replace value "\"" "&quot;"
  Text.replace value "'" "&apos;"

/-- `launch_agent_plist`. -/
def launchAgentPlist (paths : LocalPaths) (generation : Nat) : String :=
  let program := xmlEscape (paths.generationDaemon generation)
  let errorLog := xmlEscape paths.errorLog
  "<?xml version=\"1.0\" encoding=\"UTF-8\"?>\n"
    ++ "<!DOCTYPE plist PUBLIC \"-//Apple//DTD PLIST 1.0//EN\" "
    ++ "\"http://www.apple.com/DTDs/PropertyList-1.0.dtd\">\n"
    ++ "<plist version=\"1.0\">\n"
    ++ "<dict>\n"
    ++ "  <key>Label</key>\n"
    ++ "  <string>" ++ launchAgentLabel ++ "</string>\n"
    ++ "  <key>Program</key>\n"
    ++ "  <string>" ++ program ++ "</string>\n"
    ++ "  <key>ProgramArguments</key>\n"
    ++ "  <array>\n"
    ++ "    <string>" ++ program ++ "</string>\n"
    ++ "    <string>--managed</string>\n"
    ++ "    <string>--activation-generation</string>\n"
    ++ "    <string>" ++ Text.decimal generation ++ "</string>\n"
    ++ "  </array>\n"
    ++ "  <key>KeepAlive</key>\n"
    ++ "  <true/>\n"
    ++ "  <key>ProcessType</key>\n"
    ++ "  <string>Background</string>\n"
    ++ "  <key>LowPriorityIO</key>\n"
    ++ "  <true/>\n"
    ++ "  <key>ThrottleInterval</key>\n"
    ++ "  <integer>10</integer>\n"
    ++ "  <key>ExitTimeOut</key>\n"
    ++ "  <integer>120</integer>\n"
    ++ "  <key>Umask</key>\n"
    ++ "  <string>077</string>\n"
    ++ "  <key>StandardErrorPath</key>\n"
    ++ "  <string>" ++ errorLog ++ "</string>\n"
    ++ "</dict>\n"
    ++ "</plist>\n"

end Cli

end Unlinger
