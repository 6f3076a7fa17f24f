import Unlinger.Daemon.Model.Journal

/-!
# Observations and the owner's commands

The operations of `HistoryStore` in `unlinger-daemon/src/store.rs` that
record what a cycle observed, keep retry blocks and protections while
their root may live, and carry out what the owner asks for, with the
policy of `public_action_policy.rs`. The reconciliation of retry blocks
and of protections is one definition on the presence columns the two
tables share.
-/

namespace Unlinger

/-! ## Observations -/

/-- The newest event; of two at one time the later row. -/
def latestOf (events : List (Nat × EventRow)) : Option (Nat × EventRow) :=
  events.foldl (fun best e =>
    match best with
    | none => some e
    | some b => if b.2.occurredAt ≤ e.2.occurredAt then some e else some b) none

/-- The two observations say the same but for the memory. -/
def observationsSemanticallyEqual (previous current : ObservationRecord) : Bool :=
  previous.incidentId == current.incidentId && previous.signaturePack == current.signaturePack
    && previous.signatureVersion == current.signatureVersion && previous.state == current.state
    && previous.root == current.root && previous.memberCount == current.memberCount
    && previous.memberFingerprint == current.memberFingerprint && previous.roles == current.roles
    && previous.evidence == current.evidence && previous.gates == current.gates

/-- The span of an observation that goes on: a later time, one more
observation, the newest record. -/
def EventRow.extend (e : EventRow) (occurredAt : Nat) (report : ObservationRecord)
    (h : e.occurredAt ≤ occurredAt) : EventRow :=
  { e with
    occurredAt := occurredAt
    observationCount := e.observationCount + 1
    payload := .observation report
    inOrder := le_trans e.inOrder h
    counted := Nat.le_add_left 1 e.observationCount
    single := fun hc => by cases hc }

namespace Store

/-- Extend the incident's newest event where it is the same observation,
or append a new one. -/
def upsertObservationSpan (s : Store) (occurredAt : Nat) (report : ObservationRecord) :
    Except StoreError (Store × Nat) := do
  let at_ ← sqliteMillis occurredAt "observation timestamp"
  let appended := s.insertEvent none occurredAt report.incidentId report.state (.observation report)
  match latestOf (s.events.entries.filter fun e => e.2.incidentId == report.incidentId) with
  | none => appended
  | some (id, latest) =>
      match latest.payload with
      | .cleanup _ => appended
      | .observation previous =>
          -- a clock set back starts a new span
          if latest.occurredAt ≤ at_ ∧ observationsSemanticallyEqual previous report = true then
            let events ← s.events.update fun i e =>
              .ok (if hi : i = id ∧ e.occurredAt ≤ at_ then e.extend at_ report hi.2 else e)
            return ({ s with events := events }, id)
          else appended

/-- Record one observation. -/
def recordObservation (s : Store) (occurredAt : Nat) (report : IncidentReport) :
    Except StoreError (Store × Nat) :=
  s.upsertObservationSpan occurredAt (.of report)

/-- Record the observations of a cycle, all or none. -/
def recordObservationBatch (s : Store) (occurredAt : Nat) (reports : List IncidentReport) :
    Except StoreError (Store × List Nat) :=
  reports.foldlM (fun (recorded : Store × List Nat) report => do
    let (s, id) ← recorded.1.recordObservation occurredAt report
    return (s, recorded.2 ++ [id])) (s, [])

/-- The newest observation of an incident. -/
def latestObservation (s : Store) (incidentId : String) : Option EventRow :=
  (latestOf (s.events.entries.filter fun e =>
    e.2.incidentId == incidentId && !e.2.payload.isCleanup)).map Prod.snd

/-! ## Retry blocks and protections -/

/-- The incident is blocked. -/
def cleanupBlocked (s : Store) (incidentId : String) : Bool := s.retryBlocks.contains incidentId

/-- Lift the block of an incident, and forget how long it has cooled. -/
def authorizeRetry (s : Store) (incidentId : String) (occurredAt : Nat) :
    Except StoreError (Store × Bool) := do
  let _ ← sqliteMillis occurredAt "retry authorization timestamp"
  match s.retryBlocks.lookup incidentId with
  | none => return (s, false)
  | some block =>
      return ({ s with
        retryBlocks := s.retryBlocks.erase incidentId
        coolingCandidates := s.coolingCandidates.erase block.trackingKey }, true)

/-- An identifier of plain characters, or what stands for it. -/
def projectIdentifier (value fallback : String) : String :=
  if value ≠ "" ∧ value.length ≤ 192
      ∧ (value.toList.all fun c => c.isAlphanum || c == '.' || c == '_' || c == '-') = true then
    value
  else fallback

/-- What the owner is told of an incident's protection. -/
def protectionSummary (s : Store) (incidentId : String) : Option ProtectionSummary :=
  (s.protections.lookup incidentId).map fun p =>
    ⟨projectIdentifier incidentId "redacted-incident", p.presence.since,
      p.presence.lastExactObservedAt, p.presence.absenceSince⟩

/-- Protect an incident as it was last observed. A protection of the same
processes stays as it is; one of others starts anew. -/
def protectIncident (s : Store) (incidentId : String) (now : Nat) :
    Except StoreError (Store × Option ProtectionSummary) := do
  let at_ ← sqliteMillis now "incident protection timestamp"
  match s.latestObservation incidentId with
  | none => return (s, s.protectionSummary incidentId)
  | some event =>
      match event.payload with
      | .cleanup _ => .error (.corrupt "observation index selected a non-observation payload")
      | .observation report =>
          require (report.incidentId = incidentId)
            (.corrupt "observation incident ID disagrees with its index")
          let fresh : IncidentProtection :=
            ⟨report.root.identityFingerprint, report.memberFingerprint, Presence.fresh at_⟩
          let row :=
            match s.protections.lookup incidentId with
            -- the `CASE` of the upsert: the same processes keep what is known of them
            | some old =>
                if old.rootIdentityFingerprint = fresh.rootIdentityFingerprint
                    ∧ old.memberFingerprint = fresh.memberFingerprint then old
                else fresh
            | none => fresh
          let s := { s with protections := s.protections.insert incidentId row }
          return (s, s.protectionSummary incidentId)

/-- Take the protection of an incident away. -/
def unprotectIncident (s : Store) (incidentId : String) : Store × Bool :=
  ({ s with protections := s.protections.erase incidentId }, s.protections.contains incidentId)

/-- The report's very processes are protected. -/
def isIncidentProtected (s : Store) (report : IncidentReport) : Bool :=
  match s.protections.lookup report.incidentId with
  | some p =>
      p.rootIdentityFingerprint == report.root.identityFingerprint
        && p.memberFingerprint == report.memberFingerprint
  | none => false

end Store

/-! ## Reconciliation -/

/-- What a reconciliation counted. -/
structure Reconciliation where
  observedCount : Nat
  unprovenCount : Nat
  absentCount : Nat
  retiredCount : Nat
  deriving DecidableEq

/-- The absence has lasted. -/
def Presence.retires (p : Presence) (now retention : Nat) : Bool :=
  p.absenceSince.any fun since => decide (retention ≤ now - since)

/-- Reconcile one row with a snapshot taken by `now`: seen, absence not
proved, absent from now on, retired, or absent for longer already. -/
def Presence.reconcile (p : Presence) (table : String) (observed absenceProven : Bool)
    (now retention : Nat) : Except StoreError (Option Presence) :=
  if observed then
    -- `CHECK (last_exact_observed_at_ms >= …)`: the row may be younger than the cycle
    if h : p.since ≤ now then
      .ok (some { p with
        lastExactObservedAt := some now
        absenceSince := none
        observedInOrder := by simpa using h
        absentInOrder := by simp })
    else .error (.sqlite table)
  else if !absenceProven then .ok (some { p with absenceSince := none, absentInOrder := by simp })
  else if p.absenceSince = none then
    if h : p.since ≤ now then
      .ok (some { p with absenceSince := some now, absentInOrder := by simpa using h })
    else .error (.sqlite table)
  else if p.retires now retention then .ok none
  else .ok (some p)

/-- Count the rows, each with whether its root was seen. -/
def Reconciliation.of (rows : List (Bool × Presence)) (absenceProven : Bool) (now retention : Nat) :
    Reconciliation where
  observedCount := rows.countP fun r => r.1
  unprovenCount := rows.countP fun r => !r.1 && !absenceProven
  absentCount := rows.countP fun r => !r.1 && absenceProven
  retiredCount := rows.countP fun r => !r.1 && absenceProven && r.2.retires now retention

/-- An incident as a cycle observed it. -/
structure ObservedIncidentIdentity where
  incidentId : String
  trackingKey : String
  rootIdentityFingerprint : String
  memberFingerprint : String
  deriving DecidableEq

/-- What a cycle saw of live processes. -/
structure CycleView where
  observed : List ObservedIncidentIdentity
  liveRootIdentityFingerprints : List String
  absenceProven : Bool
  deriving DecidableEq

namespace Store

/-- The blocked incident was observed, or its root is live; `none` where
the attempt that blocked it is gone. -/
def blockObserved (s : Store) (view : CycleView) (incidentId : String) (block : RetryBlock) :
    Option Bool :=
  (s.attempts.get block.sourceAttemptId).map fun attempt =>
    view.observed.contains ⟨incidentId, block.trackingKey, attempt.rootIdentityFingerprint,
        attempt.memberFingerprint⟩
      || view.liveRootIdentityFingerprints.contains attempt.rootIdentityFingerprint

/-- Reconcile the retry blocks with a cycle. -/
def reconcileRetryBlocks (s : Store) (view : CycleView) (now retention : Nat) :
    Except StoreError (Store × Reconciliation) := do
  require (retention ≠ 0) (.invalid "retry block exact-absence retention must be non-zero")
  let now ← sqliteMillis now "retry block reconciliation timestamp"
  let retention ← sqliteMillis retention "retry block exact-absence retention"
  let blocks ← s.retryBlocks.rewrite fun incidentId block =>
    match s.blockObserved view incidentId block with
    -- the join finds no attempt, so no statement touches the row
    | none => .ok (some block)
    | some observed =>
        (block.presence.reconcile "cleanup_retry_blocks" observed view.absenceProven now
          retention).map fun p => p.map fun p => { block with presence := p }
  let rows := s.retryBlocks.entries.filterMap fun e =>
    (s.blockObserved view e.1 e.2).map fun observed => (observed, e.2.presence)
  return ({ s with retryBlocks := blocks }, .of rows view.absenceProven now retention)

/-- The root of a protection is live. -/
def protectionObserved (view : CycleView) (protection : IncidentProtection) : Bool :=
  view.liveRootIdentityFingerprints.contains protection.rootIdentityFingerprint

/-- Reconcile the protections with a cycle. -/
def reconcileIncidentProtections (s : Store) (view : CycleView) (now retention : Nat) :
    Except StoreError (Store × Reconciliation) := do
  require (retention ≠ 0) (.invalid "protection exact-absence retention must be non-zero")
  let now ← sqliteMillis now "protection reconciliation timestamp"
  let retention ← sqliteMillis retention "protection exact-absence retention"
  let protections ← s.protections.rewrite fun _ protection =>
    (protection.presence.reconcile "incident_protections" (protectionObserved view protection)
      view.absenceProven now retention).map fun p => p.map fun p => { protection with presence := p }
  let rows := s.protections.entries.map fun e => (protectionObserved view e.2, e.2.presence)
  return ({ s with protections := protections }, .of rows view.absenceProven now retention)

/-- Pause until a deadline, or not at all. -/
def setPauseUntil (s : Store) (pauseUntil : Option Nat) : Except StoreError Store := do
  match pauseUntil with
  | some deadline =>
      require (deadline < 2 ^ 63) (.range "pause deadline overflowed SQLite integer")
      return { s with pauseUntil := some deadline }
  | none => return { s with pauseUntil := none }

end Store

/-! ## Ordinary mutations -/

/-- The daemon's own state, as far as the policy asks. -/
structure RuntimePolicyFacts where
  draining : Bool := false
  failed : Bool := false
  deriving DecidableEq

/-- The store's, likewise. -/
structure StorePolicyFacts where
  paused : Bool := false
  cleanupBlocked : Bool := false
  incidentObserved : Bool := false
  incidentProtected : Bool := false
  deriving DecidableEq

/-- May an action go ahead? -/
inductive PolicyDecision
  | allow
  | noChange (reasonId : String)
  | reject (reasonId : String)
  deriving DecidableEq

/-- The one policy of ordinary actions. -/
def evaluateAction (runtime : RuntimePolicyFacts) (store : StorePolicyFacts)
    (mutation : OrdinaryMutation) : PolicyDecision :=
  if runtime.draining then .reject "action.daemon_draining"
  else if runtime.failed then .reject "action.daemon_failed"
  else
    match mutation with
    | .pause _ => .allow
    | .resume => if store.paused then .allow else .noChange "action.not_paused"
    | .retryFailedCleanup _ =>
        if store.cleanupBlocked then .allow else .reject "action.no_blocked_cleanup"
    | .protectIncident _ =>
        if !store.incidentObserved then .reject "action.incident_not_observed"
        else if store.incidentProtected then .noChange "action.already_protected"
        else .allow
    | .unprotectIncident _ =>
        if store.incidentProtected then .allow else .noChange "action.not_protected"

/-- The incident a mutation is about. -/
def OrdinaryMutation.incident? : OrdinaryMutation → Option String
  | .pause _ | .resume => none
  | .retryFailedCleanup id | .protectIncident id | .unprotectIncident id => some id

/-- What a commit returns. -/
structure MutationCommit where
  receipt : MutationReceipt
  newlyCommitted : Bool
  stateChanged : Bool
  deriving DecidableEq

/-- How many receipts are kept. -/
def maxMutationReceipts : Nat := 10000

/-- How long a receipt is kept. -/
def mutationReconciliationWindowMillis : Nat := 14 * 24 * 60 * 60 * 1000

namespace Store

/-- The durable facts about a mutation. -/
def policyFacts (s : Store) (mutation : OrdinaryMutation) (now : Nat) :
    Except StoreError StorePolicyFacts := do
  let now ← sqliteMillis now "policy evaluation timestamp"
  let paused := s.pauseUntil.any fun deadline => decide (now < deadline)
  match mutation.incident? with
  | none => return { paused := paused }
  | some incidentId =>
      return {
        paused := paused
        cleanupBlocked := s.retryBlocks.contains incidentId
        incidentObserved := (s.latestObservation incidentId).isSome
        incidentProtected := s.protections.contains incidentId }

/-- Carry an allowed mutation out. -/
def applyOrdinaryMutation (s : Store) (mutation : OrdinaryMutation) (committedAt : Nat) :
    Except StoreError (Store × MutationResult) := do
  let at_ ← sqliteMillis committedAt "mutation timestamp"
  match mutation with
  | .pause duration =>
      require (committedAt + duration < 2 ^ 64) (.range "pause deadline overflowed u64")
      let deadline ← sqliteMillis (committedAt + duration) "pause deadline"
      return ({ s with pauseUntil := some deadline }, .paused deadline)
  | .resume =>
      require (s.pauseUntil.isSome = true)
        (.corrupt "resume policy allowed without an exact durable pause")
      return ({ s with pauseUntil := none }, .resumed)
  | .retryFailedCleanup incidentId =>
      let block ← found (s.retryBlocks.lookup incidentId)
        (.corrupt "retry policy allowed without an exact cleanup block")
      return ({ s with
        retryBlocks := s.retryBlocks.erase incidentId
        coolingCandidates := s.coolingCandidates.erase block.trackingKey },
        .retryScheduled incidentId)
  | .protectIncident incidentId =>
      let event ← found (s.latestObservation incidentId)
        (.corrupt "protection policy allowed without an exact observation")
      match event.payload with
      | .cleanup _ => .error (.corrupt "observation index selected a non-observation payload")
      | .observation report =>
          require (report.incidentId = incidentId)
            (.corrupt "observation incident ID disagrees with its index")
          require (s.protections.contains incidentId = false) (.sqlite "incident_protections")
          let row : IncidentProtection :=
            ⟨report.root.identityFingerprint, report.memberFingerprint, Presence.fresh at_⟩
          let s := { s with protections := s.protections.insert incidentId row }
          let protection ← found (s.protectionSummary incidentId)
            (.corrupt "incident protection disappeared during creation")
          return (s, .incidentProtected protection)
  | .unprotectIncident incidentId =>
      require (s.protections.contains incidentId = true)
        (.corrupt "unprotect policy allowed without an exact protection")
      return ({ s with protections := s.protections.erase incidentId },
        .incidentUnprotected incidentId)

/-- What the policy makes of a mutation: the store after it, how it ended,
and whether it changed anything. -/
def decideMutation (s : Store) (mutation : OrdinaryMutation) (committedAt : Nat) :
    PolicyDecision → Except StoreError (Store × MutationOutcome × Bool)
  | .allow => do
      let (s, result) ← s.applyOrdinaryMutation mutation committedAt
      return (s, .applied result, true)
  | .noChange reasonId => return (s, .noChange reasonId, false)
  | .reject reasonId => return (s, .rejected reasonId, false)

/-- The durable policy revision after a mutation. -/
def revise (s : Store) (stateChanged : Bool) : Except StoreError Store := do
  if stateChanged then
    require (s.cleanupPolicyRevision + 1 < 2 ^ 64) (.range "cleanup policy revision overflowed u64")
    let _ ← sqliteMillis (s.cleanupPolicyRevision + 1) "cleanup policy revision"
    return { s with
      cleanupPolicyRevision := s.cleanupPolicyRevision + 1
      revised := Nat.le_add_left 1 s.cleanupPolicyRevision }
  else return s

/-- The receipt of a request that has one: its first answer again. -/
def replayReceipt (row : ReceiptRow) (context : MutationContext) (mutation : OrdinaryMutation) :
    Except StoreError MutationCommit := do
  require (row.command = mutation)
    (.conflict "mutation ID was already committed for a different canonical request")
  require (row.receipt.namespaceToken = context.namespaceToken
      ∧ row.receipt.mutationId = context.mutationId ∧ row.receipt.kind = mutation.kind
      ∧ row.receipt.committedAtUnixMillis ≤ row.receipt.retainUntilUnixMillis)
    (.corrupt
      "stored mutation receipt disagrees with its durable index or canonical request")
  return ⟨row.receipt, false, false⟩

/-- Commit a request that has no receipt yet. -/
def commitFresh (s : Store) (context : MutationContext) (mutation : OrdinaryMutation)
    (runtime : RuntimePolicyFacts) (committedAt retainUntil : Nat) :
    Except StoreError (Store × MutationCommit) := do
  require (s.namespaceToken.value = context.namespaceToken)
    (.authorityLost "request namespace is no longer current and has no retained receipt")
  require (s.mutationReceipts.entries.length < maxMutationReceipts)
    (.capacity ("the mutation receipt authority has reached its "
      ++ Text.decimal maxMutationReceipts ++ "-receipt admission limit"))
  let facts ← s.policyFacts mutation committedAt
  let (s, outcome, stateChanged) ←
    s.decideMutation mutation committedAt (evaluateAction runtime facts mutation)
  let s ← s.revise stateChanged
  let receipt : MutationReceipt :=
    { namespaceToken := context.namespaceToken
      mutationId := context.mutationId
      kind := mutation.kind
      committedAtUnixMillis := committedAt
      retainUntilUnixMillis := retainUntil
      policyRevisionAfter := s.cleanupPolicyRevision
      outcome := outcome }
  require (context.mutationId.length = 36) (.sqlite "ordinary_mutation_receipts")
  let key := toLex (context.namespaceToken, context.mutationId)
  return ({ s with mutationReceipts := s.mutationReceipts.insert key ⟨mutation, receipt⟩ },
    ⟨receipt, true, stateChanged⟩)

/-- **Commit an ordinary mutation, once**: a request that has a receipt
gets it again. -/
def commitPublicOrdinaryMutation (s : Store) (context : MutationContext)
    (mutation : OrdinaryMutation) (runtime : RuntimePolicyFacts) (committedAt : Nat) :
    Except StoreError (Store × MutationCommit) := do
  let _ ← sqliteMillis committedAt "mutation timestamp"
  require (committedAt + mutationReconciliationWindowMillis < 2 ^ 64)
    (.range "mutation retention deadline overflowed u64")
  let retainUntil ← sqliteMillis (committedAt + mutationReconciliationWindowMillis)
    "mutation retention deadline"
  match s.mutationReceipts.lookup (toLex (context.namespaceToken, context.mutationId)) with
  | some row =>
      let commit ← replayReceipt row context mutation
      return (s, commit)
  | none => s.commitFresh context mutation runtime committedAt retainUntil

end Store

end Unlinger
