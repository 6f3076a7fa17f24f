import Mathlib.Data.Prod.Lex
import Mathlib.Data.String.Basic
import Unlinger.Common.Fallible
import Unlinger.Common.Table
import Unlinger.Core.Model.Cleanup

/-!
# The tables of the history store

The tables of `SCHEMA_SQL` in `unlinger-daemon/src/store.rs` that cleanup
and the owner's commands use. A `CHECK` that compares columns of a row is
a field of the row, so a row that violates it cannot be built, and a
statement that would write one fails. Columns the schema sets together or
leaves `NULL` together are one optional value. Texts the source stores as
JSON are the values themselves.
-/

namespace Unlinger

/-- Why a store operation failed. -/
inductive StoreError
  /-- A constraint of a table. -/
  | sqlite (table : String)
  | corrupt (message : String)
  | range (message : String)
  | invalid (message : String)
  | conflict (message : String)
  | authorityLost (message : String)
  | capacity (message : String)
  deriving DecidableEq

/-- A number that fits the signed 64 bits of a column. -/
def sqliteMillis (value : Nat) (label : String) : Except StoreError Nat :=
  if value < 2 ^ 63 then .ok value else .error (.range (label ++ " overflowed i64"))

/-- A text in quotation marks. -/
def quoted (s : String) : String := "\"" ++ s ++ "\""

/-! ## Attempts and their actions -/

/-- The states a cleanup attempt ends in. -/
def IncidentState.isTerminal : IncidentState → Bool
  | .cleared | .failed | .revived => true
  | _ => false

/-- The columns an attempt gets when it ends. -/
structure AttemptEnd where
  completedAt : Nat
  state : IncidentState
  reasonId : Option String
  survivorPids : List Pid
  revivalChecksCompleted : Nat
  resources : CleanupResources
  deriving DecidableEq

/-- A row of `cleanup_attempts`. -/
structure CleanupAttempt where
  incidentId : String
  trackingKey : String
  rootIdentityFingerprint : String
  memberFingerprint : String
  enforcementEpoch : String
  startedAt : Nat
  signaturePack : String
  signatureVersion : String
  observedProcessCount : Nat
  observedResidentMemoryBytes : Nat
  ended : Option AttemptEnd
  inOrder : ∀ e ∈ ended, startedAt ≤ e.completedAt
  terminal : ∀ e ∈ ended, e.state.isTerminal = true
  deriving DecidableEq

/-- A row of `cleanup_actions` or `cleanup_artifact_actions`: what was
intended, and when and how it ended. -/
structure JournalRow (ι δ : Type) where
  attemptId : Nat
  sequence : Nat
  preparedAt : Nat
  intent : ι
  completed : Option (Nat × δ)
  inOrder : ∀ c ∈ completed, preparedAt ≤ c.1
  deriving DecidableEq

/-- A row of `cleanup_actions`. -/
abbrev ActionRow := JournalRow CleanupActionIntent SignalDisposition

/-- A row of `cleanup_artifact_actions`. -/
abbrev ArtifactActionRow := JournalRow ArtifactActionIntent ArtifactDisposition

/-- End an attempt that has not ended. -/
def CleanupAttempt.finish (a : CleanupAttempt) (e : AttemptEnd) : Except StoreError CleanupAttempt :=
  if h : a.startedAt ≤ e.completedAt ∧ e.state.isTerminal = true then
    .ok { a with ended := some e, inOrder := by simpa using h.1, terminal := by simpa using h.2 }
  else .error (.sqlite "cleanup_attempts")

/-- End an action of a table. -/
def JournalRow.complete {ι δ : Type} (r : JournalRow ι δ) (table : String) (completedAt : Nat)
    (disposition : δ) : Except StoreError (JournalRow ι δ) :=
  if h : r.preparedAt ≤ completedAt then
    .ok { r with completed := some (completedAt, disposition), inOrder := by simpa using h }
  else .error (.sqlite table)

/-! ## Exact presence -/

/-- What `cleanup_retry_blocks` and `incident_protections` know of their
root process: since when the row is there, when the root was last seen
exactly, and since when it is proved absent. -/
structure Presence where
  since : Nat
  lastExactObservedAt : Option Nat
  absenceSince : Option Nat
  observedInOrder : ∀ t ∈ lastExactObservedAt, since ≤ t
  absentInOrder : ∀ t ∈ absenceSince, since ≤ t
  deriving DecidableEq

/-- A new row has seen nothing yet. -/
def Presence.fresh (since : Nat) : Presence := ⟨since, none, none, by simp, by simp⟩

/-- A row of `cleanup_retry_blocks`; `presence.since` is
`blocked_at_ms`. -/
structure RetryBlock where
  trackingKey : String
  reasonId : Option String
  sourceAttemptId : Nat
  presence : Presence
  deriving DecidableEq

/-- A row of `incident_protections`; `presence.since` is
`protected_at_ms`. -/
structure IncidentProtection where
  rootIdentityFingerprint : String
  memberFingerprint : String
  presence : Presence
  deriving DecidableEq

/-! ## Events and impacts -/

/-- An observed report, redacted. -/
structure ObservationRecord where
  incidentId : String
  signaturePack : String
  signatureVersion : String
  state : IncidentState
  root : RootSummary
  memberCount : Nat
  residentMemoryBytes : Nat
  memberFingerprint : String
  roles : List ProcessRoleCount
  evidence : List EvidenceItem
  gates : GateLedger
  deriving DecidableEq

/-- The redacted record of a report. -/
def ObservationRecord.of (r : IncidentReport) : ObservationRecord :=
  ⟨r.incidentId, r.signaturePack, r.signatureVersion, r.state, r.root, r.memberCount,
    r.residentMemoryBytes, r.memberFingerprint, r.roles, r.evidence, r.gates⟩

/-- What an event is about. -/
inductive EventPayload
  | observation (report : ObservationRecord)
  | cleanup (receipt : CleanupReceipt)
  deriving DecidableEq

/-- An event of a cleanup. -/
def EventPayload.isCleanup : EventPayload → Bool
  | .observation _ => false
  | .cleanup _ => true

/-- A row of `events`; the kind is the payload's. -/
structure EventRow where
  attemptId : Option Nat
  incidentId : String
  firstOccurredAt : Nat
  occurredAt : Nat
  observationCount : Nat
  state : IncidentState
  payload : EventPayload
  inOrder : firstOccurredAt ≤ occurredAt
  counted : 1 ≤ observationCount
  single : payload.isCleanup = true → firstOccurredAt = occurredAt ∧ observationCount = 1
  deriving DecidableEq

/-- A row of `cleanup_impacts`. -/
structure CleanupImpact where
  attemptId : Nat
  eventId : Nat
  incidentId : String
  family : String
  familyVersion : String
  occurredAt : Nat
  state : IncidentState
  process : ProcessOutcome
  artifact : ArtifactOutcome
  overall : OverallOutcome
  processCount : Option Nat
  estimatedReclaimedMemoryBytes : Option Nat
  revivalChecksCompleted : Nat
  deriving DecidableEq

/-- The totals of `impact_authority`. -/
structure ImpactAuthority where
  terminalCleanupCount : Nat := 0
  provedReclaimCount : Nat := 0
  reclaimedProcessCount : Nat := 0
  reclaimedProcessMeasurementCount : Nat := 0
  estimatedReclaimedMemoryBytes : Nat := 0
  reclaimedMemoryMeasurementCount : Nat := 0
  deriving DecidableEq

/-- A row of `cooling_candidates`. -/
structure CoolingCandidate where
  firstContinuous : Nat
  lastContinuous : Nat
  firstWall : Nat
  lastWall : Nat
  rootIdentityFingerprint : String
  memberFingerprint : String
  bootSessionFingerprint : String
  enforcementEpoch : String
  signaturePack : String
  signatureVersion : String
  inOrder : firstContinuous ≤ lastContinuous
  deriving DecidableEq

/-! ## Owner mutations -/

/-- What an owner may ask for. -/
inductive OrdinaryMutation
  | pause (durationMillis : Nat)
  | resume
  | retryFailedCleanup (incidentId : String)
  | protectIncident (incidentId : String)
  | unprotectIncident (incidentId : String)
  deriving DecidableEq

/-- A mutation without its arguments. -/
inductive MutationKind
  | pause
  | resume
  | retryFailedCleanup
  | protectIncident
  | unprotectIncident
  deriving DecidableEq

/-- The kind of a mutation. -/
def OrdinaryMutation.kind : OrdinaryMutation → MutationKind
  | .pause _ => .pause
  | .resume => .resume
  | .retryFailedCleanup _ => .retryFailedCleanup
  | .protectIncident _ => .protectIncident
  | .unprotectIncident _ => .unprotectIncident

/-- What the owner is told of a protection. -/
structure ProtectionSummary where
  incidentId : String
  protectedAtUnixMillis : Nat
  lastExactObservedAtUnixMillis : Option Nat
  exactAbsenceSinceUnixMillis : Option Nat
  deriving DecidableEq

/-- What an applied mutation did. -/
inductive MutationResult
  | paused (untilUnixMillis : Nat)
  | resumed
  | retryScheduled (incidentId : String)
  | incidentProtected (protection : ProtectionSummary)
  | incidentUnprotected (incidentId : String)
  deriving DecidableEq

/-- How a mutation ended. -/
inductive MutationOutcome
  | applied (result : MutationResult)
  | noChange (reasonId : String)
  | rejected (reasonId : String)
  deriving DecidableEq

/-- Which request a mutation is. -/
structure MutationContext where
  namespaceToken : String
  mutationId : String
  deriving DecidableEq

/-- The durable answer to a request. -/
structure MutationReceipt where
  namespaceToken : String
  mutationId : String
  kind : MutationKind
  committedAtUnixMillis : Nat
  retainUntilUnixMillis : Nat
  policyRevisionAfter : Nat
  outcome : MutationOutcome
  deriving DecidableEq

/-- A row of `ordinary_mutation_receipts`. -/
structure ReceiptRow where
  command : OrdinaryMutation
  receipt : MutationReceipt
  deriving DecidableEq

/-- Thirty-two lower-case hexadecimal digits. -/
def isValidNamespaceToken (value : String) : Bool :=
  value.length == 32 && value.toList.all fun c =>
    (48 ≤ c.toNat && c.toNat ≤ 57) || (97 ≤ c.toNat && c.toNat ≤ 102)

/-- A token as `lower(hex(randomblob(16)))` draws it. -/
structure NamespaceToken where
  value : String
  valid : isValidNamespaceToken value = true
  deriving DecidableEq

/-! ## Managed lifecycle -/

/-- How far a managed daemon has started. -/
inductive ManagedStartupPhase
  | recovering
  | firstScanReportOnly
  | readyReportOnly
  | readyEnforce
  | draining
  | failed
  deriving DecidableEq

/-- The lifecycle as the store returns it from a transition. -/
structure ManagedLifecycle where
  activationGeneration : Nat
  instanceId : String
  requestedEnforce : Bool
  effectiveEnforce : Bool
  armedGeneration : Option Nat
  enforcementEpoch : Option String
  ready : Bool
  draining : Bool
  startupPhase : ManagedStartupPhase
  deriving DecidableEq

/-- The `CHECK`s of `managed_lifecycle`. A comparison with `NULL` is not
false, so an armed generation that is not set passes the last one. -/
def ManagedLifecycle.checks (l : ManagedLifecycle) : Bool :=
  decide (0 < l.activationGeneration) && (l.armedGeneration.all fun g => decide (0 < g))
    && ((!l.effectiveEnforce && l.armedGeneration.isNone && l.enforcementEpoch.isNone)
      || (l.effectiveEnforce && l.requestedEnforce
        && (l.armedGeneration.all fun g => g == l.activationGeneration)
        && l.enforcementEpoch.isSome && l.ready && !l.draining))

/-- The row of `managed_lifecycle`. -/
structure ManagedRow where
  lifecycle : ManagedLifecycle
  updatedAt : Nat
  checked : lifecycle.checks = true
  deriving DecidableEq

/-- **The store.** -/
structure Store where
  attempts : Table CleanupAttempt
  actions : Table ActionRow
  artifactActions : Table ArtifactActionRow
  retryBlocks : OrdMap String RetryBlock
  events : Table EventRow
  pauseUntil : Option Nat
  coolingCandidates : OrdMap String CoolingCandidate
  protections : OrdMap String IncidentProtection
  impacts : Table CleanupImpact
  impactAuthority : ImpactAuthority
  namespaceToken : NamespaceToken
  cleanupPolicyRevision : Nat
  mutationReceipts : OrdMap (String ×ₗ String) ReceiptRow
  managedLifecycle : Option ManagedRow
  revised : 1 ≤ cleanupPolicyRevision

/-- The store `SCHEMA_SQL` creates, with the token it draws. -/
def Store.empty (token : NamespaceToken) : Store where
  attempts := Table.empty
  actions := Table.empty
  artifactActions := Table.empty
  retryBlocks := OrdMap.empty
  events := Table.empty
  pauseUntil := none
  coolingCandidates := OrdMap.empty
  protections := OrdMap.empty
  impacts := Table.empty
  impactAuthority := {}
  namespaceToken := token
  cleanupPolicyRevision := 1
  mutationReceipts := OrdMap.empty
  managedLifecycle := none
  revised := le_rfl

end Unlinger
