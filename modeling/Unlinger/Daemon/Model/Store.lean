import Unlinger.Daemon.Model.Lifecycle
import Unlinger.Daemon.Model.Owner

/-!
# Cooling, retention and the whole store

The cooling candidates and the pruning of `unlinger-daemon/src/store.rs`,
and the store as a system: every operation on it is a `StoreOp`, and the
stores there can be are the ones a sequence of operations leads to. An
operation that fails changes nothing.
-/

namespace Unlinger

/-! ## Cooling -/

/-- When and under which boot and epoch a cycle observed. -/
structure CoolingClock where
  wallUnixMillis : Nat
  continuousMillis : Nat
  bootSessionFingerprint : String
  enforcementEpoch : String
  deriving DecidableEq

/-- The wall clock and the continuous clock went on alike. -/
def wallContinuityIsPlausible (wall previousWall continuous previousContinuous tolerance : Nat) :
    Bool :=
  decide (previousWall ≤ wall) && decide (previousContinuous ≤ continuous)
    && decide ((wall - previousWall) - (continuous - previousContinuous) ≤ tolerance)
    && decide ((continuous - previousContinuous) - (wall - previousWall) ≤ tolerance)

/-- The candidate goes on with this observation. -/
def CoolingCandidate.continues (c : CoolingCandidate) (report : IncidentReport) (clock : CoolingClock)
    (gap : Nat) : Bool :=
  c.rootIdentityFingerprint == report.root.identityFingerprint
    && c.memberFingerprint == report.memberFingerprint
    && c.bootSessionFingerprint == clock.bootSessionFingerprint
    && c.enforcementEpoch == clock.enforcementEpoch
    && c.signaturePack == report.signaturePack && c.signatureVersion == report.signatureVersion
    && decide (c.lastContinuous ≤ clock.continuousMillis) && decide (c.lastWall ≤ clock.wallUnixMillis)
    && decide (clock.continuousMillis - c.lastContinuous ≤ gap)
    && wallContinuityIsPlausible clock.wallUnixMillis c.lastWall clock.continuousMillis
        c.lastContinuous gap

/-- How much history is kept. -/
structure RetentionPolicy where
  maxAgeMillis : Nat := 14 * 24 * 60 * 60 * 1000
  maxEvents : Nat := 10000
  deriving DecidableEq

/-- Cleanup events and impacts are kept at least so long. -/
def cleanupDetailRetentionMillis : Nat := 14 * 24 * 60 * 60 * 1000

/-- What a pruning removed. -/
structure PruneResult where
  removedEvents : Nat
  remainingEvents : Nat
  deriving DecidableEq

namespace Store

/-- Advance the cooling of an incident, or start it again; has it lasted
the grace? -/
def trackCooling (s : Store) (report : IncidentReport) (clock : CoolingClock) (grace gap : Nat) :
    Except StoreError (Store × Bool) := do
  require (report.state = .cooling)
    (.invalid "only COOLING incidents can advance abandonment grace")
  require (Text.isBlank clock.bootSessionFingerprint = false
      ∧ Text.isBlank clock.enforcementEpoch = false)
    (.invalid "cooling clock requires boot and enforcement epoch fingerprints")
  let wall ← sqliteMillis clock.wallUnixMillis "cooling wall timestamp"
  let continuous ← sqliteMillis clock.continuousMillis "cooling continuous timestamp"
  let first : Nat × Nat :=
    match s.coolingCandidates.lookup report.trackingKey with
    | some c => if c.continues report clock gap then (c.firstContinuous, c.firstWall)
        else (continuous, wall)
    | none => (continuous, wall)
  if h : first.1 ≤ continuous then
    let row : CoolingCandidate :=
      { firstContinuous := first.1
        lastContinuous := continuous
        firstWall := first.2
        lastWall := wall
        rootIdentityFingerprint := report.root.identityFingerprint
        memberFingerprint := report.memberFingerprint
        bootSessionFingerprint := clock.bootSessionFingerprint
        enforcementEpoch := clock.enforcementEpoch
        signaturePack := report.signaturePack
        signatureVersion := report.signatureVersion
        inOrder := h }
    return ({ s with coolingCandidates := s.coolingCandidates.insert report.trackingKey row },
      decide (grace ≤ continuous - first.1))
  else .error (.sqlite "cooling_candidates")

/-- Forget every candidate but the active ones. -/
def retainCooling (s : Store) (activeTrackingKeys : List String) : Store :=
  { s with coolingCandidates := s.coolingCandidates.filter fun key _ =>
      activeTrackingKeys.contains key }

/-! ## Pruning -/

/-- The numbers of the newest observations. -/
def newestObservations (s : Store) (n : Nat) : List Nat :=
  (((s.events.entries.filter fun e => !e.2.payload.isCleanup).insertionSort fun a b =>
    b.2.occurredAt < a.2.occurredAt ∨ b.2.occurredAt = a.2.occurredAt ∧ b.1 ≤ a.1).take n).map
      Prod.fst

/-- An attempt that ended, of which no event, block or impact is left. -/
def forgotten (s : Store) (attemptId : Nat) (attempt : CleanupAttempt) : Bool :=
  attempt.ended.isSome
    && (s.events.entries.all fun e => e.2.attemptId != some attemptId)
    && (s.retryBlocks.entries.all fun e => e.2.sourceAttemptId != attemptId)
    && (s.impacts.entries.all fun e => e.2.attemptId != attemptId)

/-- The attempt of a number is forgotten. -/
def forgottenId (s : Store) (attemptId : Nat) : Bool :=
  (s.attempts.get attemptId).any (s.forgotten attemptId)

/-- Delete the observations that are too old or too many. -/
def pruneObservations (s : Store) (cutoff maxEvents : Nat) : Store :=
  let s := { s with events := s.events.filter fun _ e =>
    e.payload.isCleanup || decide (cutoff ≤ e.occurredAt) }
  let newest := s.newestObservations maxEvents
  { s with events := s.events.filter fun id e => e.payload.isCleanup || newest.contains id }

/-- Delete the impacts that are too old, and the cleanup events that are
and no impact refers to. -/
def pruneCleanups (s : Store) (cutoff : Nat) : Store :=
  let s := { s with impacts := s.impacts.filter fun _ i => decide (cutoff ≤ i.occurredAt) }
  { s with events := s.events.filter fun id e =>
      !e.payload.isCleanup || decide (cutoff ≤ e.occurredAt)
        || s.impacts.entries.any fun i => i.2.eventId == id }

/-- Delete the receipts whose time is over; where some are, later requests
come under a new namespace. -/
def pruneReceipts (s : Store) (now : Nat) (fresh : NamespaceToken) : Store :=
  let kept := s.mutationReceipts.filter fun _ r => decide (now < r.receipt.retainUntilUnixMillis)
  { s with
    mutationReceipts := kept
    namespaceToken :=
      if kept.entries.length < s.mutationReceipts.entries.length then fresh else s.namespaceToken }

/-- Delete the forgotten attempts with their actions. -/
def pruneAttempts (s : Store) : Store :=
  { s with
    actions := s.actions.filter fun _ r => !s.forgottenId r.attemptId
    artifactActions := s.artifactActions.filter fun _ r => !s.forgottenId r.attemptId
    attempts := s.attempts.filter fun id a => !s.forgotten id a }

/-- **Prune what the policy does not keep.** `fresh` is the token drawn
where the namespace changes. -/
def prune (s : Store) (now : Nat) (policy : RetentionPolicy) (fresh : NamespaceToken) :
    Except StoreError (Store × PruneResult) := do
  let cutoff ← sqliteMillis (now - policy.maxAgeMillis) "retention cutoff"
  -- cleanup details outlive a shorter policy
  let cleanupCutoff ← sqliteMillis (now - max policy.maxAgeMillis cleanupDetailRetentionMillis)
    "cleanup retention cutoff"
  let maxEvents ← sqliteMillis policy.maxEvents "retention event limit"
  let pruned := (s.pruneObservations cutoff maxEvents).pruneCleanups cleanupCutoff
  let cooling := pruned.coolingCandidates.filter fun _ c => decide (cutoff ≤ c.lastWall)
  let now ← sqliteMillis now "mutation receipt prune timestamp"
  let pruned := { pruned with coolingCandidates := cooling }
  let pruned := (pruned.pruneReceipts now fresh).pruneAttempts
  return (pruned, ⟨s.events.entries.length - pruned.events.entries.length,
    pruned.events.entries.length⟩)

/-- The statements of a pruning, one by one in their order. -/
def pruneStatements (now cutoff cleanupCutoff maxEvents : Nat) (fresh : NamespaceToken) :
    List (Store → Store) :=
  [fun s => { s with events := s.events.filter fun _ e =>
      e.payload.isCleanup || decide (cutoff ≤ e.occurredAt) },
    fun s => { s with events := s.events.filter fun id e =>
      e.payload.isCleanup || (s.newestObservations maxEvents).contains id },
    fun s => { s with impacts := s.impacts.filter fun _ i => decide (cleanupCutoff ≤ i.occurredAt) },
    fun s => { s with events := s.events.filter fun id e =>
      !e.payload.isCleanup || decide (cleanupCutoff ≤ e.occurredAt)
        || s.impacts.entries.any fun i => i.2.eventId == id },
    fun s => { s with
      coolingCandidates := s.coolingCandidates.filter fun _ c => decide (cutoff ≤ c.lastWall) },
    fun s => s.pruneReceipts now fresh,
    fun s => { s with actions := s.actions.filter fun _ r => !s.forgottenId r.attemptId },
    fun s => { s with
      artifactActions := s.artifactActions.filter fun _ r => !s.forgottenId r.attemptId },
    fun s => { s with attempts := s.attempts.filter fun id a => !s.forgotten id a }]

/-- The store after some statements. -/
def executed (s : Store) (statements : List (Store → Store)) : Store :=
  statements.foldl (fun s statement => statement s) s

end Store

/-! ## The store as a system -/

/-- An operation on the store, with its arguments. -/
inductive StoreOp
  | recordObservation (occurredAt : Nat) (report : IncidentReport)
  | recordObservationBatch (occurredAt : Nat) (reports : List IncidentReport)
  | beginCleanupAttempt (occurredAt : Nat) (report : IncidentReport) (enforcementEpoch : String)
  | prepareCleanupAction (attempt : CleanupAttemptHandle) (sequence occurredAt : Nat)
      (intent : CleanupActionIntent)
  | completeCleanupAction (prepared : PreparedActionHandle) (occurredAt : Nat)
      (disposition : SignalDisposition)
  | prepareCleanupArtifactAction (attempt : CleanupAttemptHandle) (sequence occurredAt : Nat)
      (intent : ArtifactActionIntent)
  | completeCleanupArtifactAction (prepared : PreparedArtifactActionHandle) (occurredAt : Nat)
      (disposition : ArtifactDisposition)
  | completeCleanupAttempt (attempt : CleanupAttemptHandle) (occurredAt : Nat)
      (receipt : CleanupReceipt)
  | recoverIncompleteAttempts (occurredAt : Nat)
  | authorizeRetry (incidentId : String) (occurredAt : Nat)
  | protectIncident (incidentId : String) (now : Nat)
  | unprotectIncident (incidentId : String)
  | reconcileRetryBlocks (view : CycleView) (now retention : Nat)
  | reconcileIncidentProtections (view : CycleView) (now retention : Nat)
  | setPauseUntil (pauseUntil : Option Nat)
  | commitPublicOrdinaryMutation (context : MutationContext) (mutation : OrdinaryMutation)
      (runtime : RuntimePolicyFacts) (committedAt : Nat)
  | trackCooling (report : IncidentReport) (clock : CoolingClock) (grace gap : Nat)
  | retainCooling (activeTrackingKeys : List String)
  | prune (now : Nat) (policy : RetentionPolicy) (fresh : NamespaceToken)
  | managed (op : ManagedOp)

/-- The store after an operation. -/
def Store.perform (s : Store) : StoreOp → Except StoreError Store
  | .recordObservation at_ report => (s.recordObservation at_ report).map Prod.fst
  | .recordObservationBatch at_ reports => (s.recordObservationBatch at_ reports).map Prod.fst
  | .beginCleanupAttempt at_ report epoch => (s.beginCleanupAttempt at_ report epoch).map Prod.fst
  | .prepareCleanupAction attempt sequence at_ intent =>
      (s.prepareCleanupAction attempt sequence at_ intent).map Prod.fst
  | .completeCleanupAction prepared at_ disposition =>
      s.completeCleanupAction prepared at_ disposition
  | .prepareCleanupArtifactAction attempt sequence at_ intent =>
      (s.prepareCleanupArtifactAction attempt sequence at_ intent).map Prod.fst
  | .completeCleanupArtifactAction prepared at_ disposition =>
      s.completeCleanupArtifactAction prepared at_ disposition
  | .completeCleanupAttempt attempt at_ receipt =>
      (s.completeCleanupAttempt attempt at_ receipt).map Prod.fst
  | .recoverIncompleteAttempts at_ => (s.recoverIncompleteAttempts at_).map Prod.fst
  | .authorizeRetry incidentId at_ => (s.authorizeRetry incidentId at_).map Prod.fst
  | .protectIncident incidentId now => (s.protectIncident incidentId now).map Prod.fst
  | .unprotectIncident incidentId => .ok (s.unprotectIncident incidentId).1
  | .reconcileRetryBlocks view now retention =>
      (s.reconcileRetryBlocks view now retention).map Prod.fst
  | .reconcileIncidentProtections view now retention =>
      (s.reconcileIncidentProtections view now retention).map Prod.fst
  | .setPauseUntil pauseUntil => s.setPauseUntil pauseUntil
  | .commitPublicOrdinaryMutation context mutation runtime at_ =>
      (s.commitPublicOrdinaryMutation context mutation runtime at_).map Prod.fst
  | .trackCooling report clock grace gap => (s.trackCooling report clock grace gap).map Prod.fst
  | .retainCooling keys => .ok (s.retainCooling keys)
  | .prune now policy fresh => (s.prune now policy fresh).map Prod.fst
  | .managed op => (s.performManaged op).map Prod.fst

/-- The store after operations that all succeed. -/
def Store.run (s : Store) (ops : List StoreOp) : Except StoreError Store := ops.foldlM Store.perform s

/-- The store after an operation of some thread; one that fails changes
nothing. -/
def Store.committed (s : Store) (op : StoreOp) : Store := (s.perform op).toOption.getD s

/-- The store after operations of which some may fail. -/
def Store.ran (token : NamespaceToken) (ops : List StoreOp) : Store :=
  ops.foldl Store.committed (Store.empty token)

/-- The stores there can be. -/
inductive Store.Reachable : Store → Prop
  | empty (token : NamespaceToken) : Reachable (Store.empty token)
  | perform {s s' : Store} (op : StoreOp) (h : Reachable s) (hop : s.perform op = .ok s') :
      Reachable s'

end Unlinger
