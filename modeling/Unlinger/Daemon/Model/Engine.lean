import Unlinger.Daemon.Model.Service
import Unlinger.Rules.Model.Analyzer

/-!
# The reconciliation engine

From `unlinger-daemon/src/engine.rs`: the values of a cycle, and what the
engine computes from them: what it makes of a settled receipt, how it
marks an incident its owner protects, and which processes a snapshot
shows alive.
-/

namespace Unlinger

/-! ## Receipts and reports -/

/-- Does the receipt of a cleanup that ended fail the daemon closed? -/
def receiptRequiresGlobalFailClose (receipt : CleanupReceipt) : Bool :=
  let uncertain := receipt.actions.any (fun action => action.disposition == .deliveryUnknown)
    || receipt.artifactActions.any (fun action => action.disposition == .deliveryUnknown)
  let deliveredSideEffect := receipt.actions.any (fun action => action.disposition == .delivered)
    || receipt.artifactActions.any (fun action => action.disposition == .removed)
  if uncertain then true
  else if receipt.outcome.overall = .clearedWithResidue then false
  else receipt.state ≠ .cleared && deliveredSideEffect

/-- The report of an incident its owner protects. -/
def applyOwnerProtection (report : IncidentReport) : IncidentReport :=
  let report := { report with
    state := .protectedState, gates := { report.gates with noProtectionRule := false } }
  if report.evidence.any fun e => e.id == "protection.owner_exact_incident" then report
  else
    let item : EvidenceItem :=
      ⟨"protection.owner_exact_incident", .protection, some report.root.pid⟩
    { report with
      evidence := (report.evidence ++ [item]).insertionSort fun x y => evidenceLe x y = true }

/-- The fingerprints of the processes a snapshot identifies exactly. -/
def exactLiveIdentityFingerprints (snapshot : Snapshot) : List String :=
  (snapshot.processes.filter fun p =>
    decide (0 < p.identity.startedAtUnixMicros) && p.identity.executableDevice.isSome
      && p.identity.executableInode.isSome).map fun p => fingerprintProcessIdentity p.identity

/-- A report as the retry blocks are reconciled with it. -/
def ObservedIncidentIdentity.of (report : IncidentReport) : ObservedIncidentIdentity :=
  ⟨report.incidentId, report.trackingKey, report.root.identityFingerprint, report.memberFingerprint⟩

/-! ## Clocks -/

/-- A clock sample with what the executor does not read. -/
structure RuntimeClockSample extends ClockSample where
  continuousMillis : Nat
  bootSessionFingerprint : String
  deriving DecidableEq

/-- The clock a cycle cools by. -/
def coolingClock (sample : RuntimeClockSample) (enforcementEpoch : String) : CoolingClock where
  wallUnixMillis := sample.wallUnixMillis
  continuousMillis := sample.continuousMillis
  bootSessionFingerprint := sample.bootSessionFingerprint
  enforcementEpoch := enforcementEpoch

/-! ## Configuration and errors -/

/-- The configuration of the engine, its durations in milliseconds. -/
structure EngineConfig where
  observationGap : Nat := 15 * 1000
  abandonmentGrace : Nat := 90 * 1000
  coolingContinuityGap : Nat := 120 * 1000
  exactAbsenceRetention : Nat := 14 * 24 * 60 * 60 * 1000
  cleanupPolicy : CleanupPolicy := .default
  retentionPolicy : RetentionPolicy := {}
  deriving DecidableEq

/-- Why a cycle failed. -/
inductive EngineError
  | runtime (error : RuntimeFailure)
  | rules (error : RuleError)
  | graph (error : GraphError)
  | store (error : StoreError)
  | control (error : ControlError)
  | plan (error : CleanupPlanError)
  | cleanup (error : CleanupError)
  | postDeliveryFailure (incidentId : String)
  | config (message : String)
  | worker (message : String)
  deriving DecidableEq

/-- The text of a snapshot without a graph. -/
def GraphError.text : GraphError → String
  | .duplicatePid pid => "snapshot contains duplicate PID " ++ Text.decimal pid

/-- The text of a failed classification. -/
def RuleError.text : RuleError → String
  | .invalidGraph e => "invalid process graph: " ++ e.text

/-- Why there is no plan, as a text. -/
def CleanupPlanError.text : CleanupPlanError → String
  | .notConfirmed => "incident is not cleanup-eligible CONFIRMED"
  | .noTargets => "incident has no frozen targets"
  | .missingSessionFingerprint => "incident has no revival/session fingerprint"
  | .duplicateTarget pid => "duplicate target PID " ++ Text.decimal pid
  | .incompleteIdentity pid => "target PID " ++ Text.decimal pid ++ " has incomplete identity"
  | .rootMissing => "incident root is missing from frozen targets"
  | .noPrimaryTarget => "incident has no controller or browser root target"
  | .tooManyArtifacts => "incident has more than one 0.1 runtime artifact"
  | .duplicateArtifact => "incident has a duplicate artifact"
  | .artifactSessionMismatch => "runtime artifact does not belong to the incident session"

/-- The text of a cleanup that failed. -/
def CleanupError.text : CleanupError → String
  | .runtime e _ => "cleanup runtime failed: " ++ e.message
  | .attemptOpen e _ _ => "cleanup action remains open: " ++ e.message

/-- The receipt of an error that ended the attempt. -/
def CleanupError.terminalReceipt : CleanupError → Option CleanupReceipt
  | .runtime _ r => some r
  | .attemptOpen _ _ _ => none

/-- The text of a cycle that failed. -/
def EngineError.text : EngineError → String
  | .runtime e => "snapshot runtime failed: " ++ e.message
  | .rules e => "classification failed: " ++ e.text
  | .graph e => "process graph failed: " ++ e.text
  | .store e => "history store failed: " ++ e.text
  | .control e => "daemon control failed: " ++ e.message
  | .plan e => "cleanup plan failed: " ++ e.text
  | .cleanup e => "cleanup execution failed: " ++ e.text
  | .postDeliveryFailure incidentId => "cleanup " ++ incidentId
      ++ " ended with an uncertain or incomplete delivered side effect"
  | .config message => "engine configuration failed: " ++ message
  | .worker message => "cleanup worker failed: " ++ message

/-- A duration as a number of 64 bits. -/
def durationMillis (duration : Nat) : Except EngineError Nat :=
  if duration < 2 ^ 64 then .ok duration
  else .error (.config "duration overflowed u64 milliseconds")

/-! ## What a cycle hands on -/

/-- A cleanup, frozen with what it was decided on. -/
structure FrozenCleanup where
  analyzer : Analyzer
  attempt : CleanupAttemptHandle
  plan : CleanupPlan
  policy : CleanupPolicy
  enforcementEpoch : String
  cleanupPolicyRevision : Nat
  startedAtUnixMillis : Nat
  deriving DecidableEq

/-- A cleanup that runs on a thread of its own, until it is joined. -/
structure BackgroundCleanup where
  startedAtUnixMillis : Nat
  deriving DecidableEq

/-- What a joined worker leaves. -/
structure CleanupCompletion where
  completedAtUnixMillis : Nat
  result : Except EngineError CleanupReceipt

/-- The report of a cycle. -/
structure CycleReport where
  schemaVersion : Nat
  observedTwice : Bool
  incidents : List IncidentReport
  cleanupReceipts : List CleanupReceipt

/-- The engine. Where it runs its cleanups in the background, `worker` is
the one whose handle it holds. -/
structure ReconciliationEngine where
  rules : RuleSet
  config : EngineConfig
  selfPid : Option Pid
  backgroundCleanup : Bool
  worker : Option BackgroundCleanup

end Unlinger
