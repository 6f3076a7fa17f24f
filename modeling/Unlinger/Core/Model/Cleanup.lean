import Unlinger.Core.Model.Incident
import Unlinger.Core.Model.Fingerprint

/-!
# Cleanup plans and receipts

The types of `unlinger-core/src/cleanup.rs`: the plan a confirmed report
is frozen into, the actions a cleanup journals, and the receipt it ends
with. `outcome` reads the process verdict back from a receipt's state,
reason and dispositions.
-/

namespace Unlinger

/-- The two signals a cleanup sends. -/
inductive CleanupSignal
  | term
  | kill
  deriving DecidableEq

/-- How a signal action ended. -/
inductive SignalDisposition
  | delivered
  | alreadyExited
  | identityMismatch
  | rejected
  | cancelledBeforeDelivery
  | deliveryUnknown
  deriving DecidableEq

/-- The three signal stages, in order. -/
inductive CleanupStage
  | primaryTerm
  | memberTerm
  | exactKill
  deriving DecidableEq

/-- What a signal action is about to do. -/
structure CleanupActionIntent where
  stage : CleanupStage
  pid : Pid
  identityFingerprint : String
  signal : CleanupSignal
  deriving DecidableEq

/-- What a signal action did. -/
structure CleanupAction where
  stage : CleanupStage
  pid : Pid
  identityFingerprint : String
  signal : CleanupSignal
  disposition : SignalDisposition
  deriving DecidableEq

/-- An intent with the disposition it ended with. -/
def CleanupActionIntent.completed (i : CleanupActionIntent) (d : SignalDisposition) :
    CleanupAction :=
  ⟨i.stage, i.pid, i.identityFingerprint, i.signal, d⟩

/-- An artifact intent with the disposition it ended with. -/
def ArtifactActionIntent.completed (i : ArtifactActionIntent) (d : ArtifactDisposition) :
    ArtifactAction :=
  ⟨i.kind, i.artifactFingerprint, d⟩

/-- Process count and memory of the plan's targets at one snapshot. -/
structure ResourceSnapshot where
  processCount : Nat
  residentMemoryBytes : Nat
  deriving DecidableEq

/-- The resources a cleanup measured. -/
structure CleanupResources where
  before : Option ResourceSnapshot := none
  after : Option ResourceSnapshot := none
  estimatedReclaimedMemoryBytes : Option Nat := none
  deriving DecidableEq

/-- The result of a cleanup. -/
structure CleanupReceipt where
  incidentId : String
  state : IncidentState
  reasonId : Option String
  actions : List CleanupAction
  artifactActions : List ArtifactAction
  survivorPids : List Pid
  revivalChecksCompleted : Nat
  resources : CleanupResources
  deriving DecidableEq

/-- What became of the processes. -/
inductive ProcessOutcome
  | cleared
  | revived
  | failed
  | deliveryUnknown
  deriving DecidableEq

/-- What became of the artifacts. -/
inductive ArtifactOutcome
  | notApplicable
  | reconciled
  | residue
  | deliveryUnknown
  deriving DecidableEq

/-- What became of the whole plan. -/
inductive OverallOutcome
  | cleared
  | clearedWithResidue
  | revived
  | failed
  deriving DecidableEq

/-- The independent outcomes of a receipt. -/
structure CleanupOutcome where
  process : ProcessOutcome
  artifact : ArtifactOutcome
  overall : OverallOutcome
  attentionRequired : Bool
  deriving DecidableEq

namespace CleanupReceipt

/-- Some signal action is uncertain. -/
def signalDeliveryUnknown (r : CleanupReceipt) : Bool :=
  r.actions.any fun a => a.disposition == .deliveryUnknown

/-- Some artifact action is uncertain, or the reason says so. -/
def artifactDeliveryUnknown (r : CleanupReceipt) : Bool :=
  (r.artifactActions.any fun a => a.disposition == .deliveryUnknown)
    || r.reasonId == some "cleanup.artifact_delivery_unknown"

/-- The reason is one of the known artifact refusals. -/
def artifactResidueReason (r : CleanupReceipt) : Bool :=
  r.reasonId == some "cleanup.artifact_identity_changed"
    || r.reasonId == some "cleanup.artifact_live_reference"
    || r.reasonId == some "cleanup.artifact_unsafe"
    || r.reasonId == some "cleanup.artifact_rejected"

/-- The process half of the outcome. -/
def processOutcome (r : CleanupReceipt) : ProcessOutcome :=
  if r.signalDeliveryUnknown then .deliveryUnknown
  else if r.state = .revived then .revived
  else if r.state = .cleared || r.artifactResidueReason || r.artifactDeliveryUnknown then .cleared
  else .failed

/-- The artifact half of the outcome. -/
def artifactOutcome (r : CleanupReceipt) : ArtifactOutcome :=
  if r.artifactDeliveryUnknown then .deliveryUnknown
  else if r.artifactResidueReason || r.artifactActions.any fun a => !a.disposition.completedCleanup
    then .residue
  else if r.artifactActions.isEmpty then .notApplicable
  else .reconciled

/-- Both halves together. -/
def overallOutcome : ProcessOutcome → ArtifactOutcome → OverallOutcome
  | .deliveryUnknown, _ => .failed
  | _, .deliveryUnknown => .failed
  | .failed, _ => .failed
  | .cleared, .notApplicable => .cleared
  | .cleared, .reconciled => .cleared
  | .cleared, .residue => .clearedWithResidue
  | .revived, _ => .revived

/-- The process and artifact facts of a receipt. -/
def outcome (r : CleanupReceipt) : CleanupOutcome :=
  let overall := overallOutcome r.processOutcome r.artifactOutcome
  ⟨r.processOutcome, r.artifactOutcome, overall, overall != .cleared⟩

/-- The processes are gone, and a delivered signal of ours precedes it. -/
def provesProcessReclaim (r : CleanupReceipt) : Bool :=
  r.outcome.process == .cleared && r.actions.any fun a => a.disposition == .delivered

/-- The processes are gone without anything of ours. -/
def endedWithoutIntervention (r : CleanupReceipt) : Bool :=
  r.state == .cleared && r.outcome.overall == .cleared && !r.provesProcessReclaim
    && r.artifactActions.isEmpty

end CleanupReceipt

/-! ## Plans -/

/-- A confirmed incident, frozen. -/
structure CleanupPlan where
  incidentId : String
  trackingKey : String
  sessionFingerprint : String
  signaturePack : String
  signatureVersion : String
  rootIdentity : ProcessIdentity
  memberFingerprint : String
  targets : List ProcessTarget
  artifacts : List RuntimeArtifactCandidate
  deriving DecidableEq

/-- Why a report is not a plan. -/
inductive CleanupPlanError
  | notConfirmed
  | noTargets
  | missingSessionFingerprint
  | duplicateTarget (pid : Pid)
  | incompleteIdentity (pid : Pid)
  | rootMissing
  | noPrimaryTarget
  | tooManyArtifacts
  | duplicateArtifact
  | artifactSessionMismatch
  deriving DecidableEq

namespace CleanupPlan

/-- No pid twice, and every executable known. -/
def checkTargets (seen : List Pid) : List ProcessTarget → Except CleanupPlanError Unit
  | [] => .ok ()
  | t :: ts =>
      if t.identity.pid ∈ seen then .error (.duplicateTarget t.identity.pid)
      else if t.identity.executableDevice.isNone || t.identity.executableInode.isNone then
        .error (.incompleteIdentity t.identity.pid)
      else checkTargets (t.identity.pid :: seen) ts

/-- Every artifact belongs to the session, and none is named twice. -/
def checkArtifacts (session : String) (seen : List String) :
    List RuntimeArtifactCandidate → Except CleanupPlanError Unit
  | [] => .ok ()
  | a :: as =>
      if a.sessionFingerprint ≠ session then .error .artifactSessionMismatch
      else if a.artifactFingerprint ∈ seen then .error .duplicateArtifact
      else checkArtifacts session (a.artifactFingerprint :: seen) as

/-- Freeze a confirmed report. -/
def fromConfirmed (report : IncidentReport) : Except CleanupPlanError CleanupPlan := do
  if report.state ≠ .confirmed || !report.gates.cleanupEligible then throw .notConfirmed
  if report.targets.isEmpty then throw .noTargets
  if Text.isBlank report.sessionFingerprint then throw .missingSessionFingerprint
  checkTargets [] report.targets
  if 1 < report.runtimeArtifacts.length then throw .tooManyArtifacts
  checkArtifacts report.sessionFingerprint [] report.runtimeArtifacts
  match report.targets.find? fun t => t.identity.pid == report.root.pid with
  | none => throw .rootMissing
  | some root =>
      if !report.targets.any fun t => t.role == .controller || t.role == .browserRoot then
        throw .noPrimaryTarget
      return {
        incidentId := report.incidentId
        trackingKey := report.trackingKey
        sessionFingerprint := report.sessionFingerprint
        signaturePack := report.signaturePack
        signatureVersion := report.signatureVersion
        rootIdentity := root.identity
        memberFingerprint := report.memberFingerprint
        targets := report.targets
        artifacts := report.runtimeArtifacts }

/-- The targets signalled first: the controllers, or the browser roots
where there is no controller. -/
def primaryTargets (plan : CleanupPlan) : List ProcessTarget :=
  let controllers := plan.targets.filter fun t => t.role == .controller
  if controllers.isEmpty then plan.targets.filter fun t => t.role == .browserRoot
  else controllers

end CleanupPlan

/-- The waits of a cleanup, in milliseconds. -/
structure CleanupPolicy where
  primaryTermGrace : Nat
  memberTermGrace : Nat
  killGrace : Nat
  revivalWindows : List Nat
  deriving DecidableEq

/-- The policy the daemon runs with. -/
def CleanupPolicy.default : CleanupPolicy := ⟨3000, 3000, 1000, [15000, 60000]⟩

end Unlinger
