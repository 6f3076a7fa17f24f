import Mathlib.Data.List.Sort
import Unlinger.Daemon.Model.Schema

/-!
# The cleanup journal

The operations of `HistoryStore` in `unlinger-daemon/src/store.rs` that
open a cleanup attempt, journal its actions, end it, and recover what a
crash left open. Each is one transaction: it returns the new store, or an
error that leaves the store as it was. The two kinds of action are one
definition with its table's name and texts as parameters.
-/

namespace Unlinger

/-- An attempt as its owner holds it. -/
structure CleanupAttemptHandle where
  id : Nat
  incidentId : String
  deriving DecidableEq

/-- A prepared action as its journal holds it. -/
structure PreparedActionHandle where
  id : Nat
  attemptId : Nat
  sequence : Nat
  deriving DecidableEq

/-- A prepared artifact action. -/
abbrev PreparedArtifactActionHandle := PreparedActionHandle

/-- The stored name of a disposition. -/
def signalDispositionName : SignalDisposition → String
  | .delivered => "delivered"
  | .alreadyExited => "already_exited"
  | .identityMismatch => "identity_mismatch"
  | .rejected => "rejected"
  | .cancelledBeforeDelivery => "cancelled_before_delivery"
  | .deliveryUnknown => "delivery_unknown"

/-- The stored name of an artifact disposition. -/
def artifactDispositionName : ArtifactDisposition → String
  | .removed => "removed"
  | .alreadyAbsent => "already_absent"
  | .identityMismatch => "identity_mismatch"
  | .referenced => "referenced"
  | .unsafeArtifact => "unsafe"
  | .rejected => "rejected"
  | .cancelledBeforeDelivery => "cancelled_before_delivery"
  | .deliveryUnknown => "delivery_unknown"

/-- The stored name of a state. -/
def stateName : IncidentState → String
  | .protectedState => "PROTECTED"
  | .active => "ACTIVE"
  | .cooling => "COOLING"
  | .confirmed => "CONFIRMED"
  | .ambiguous => "AMBIGUOUS"
  | .reclaiming => "RECLAIMING"
  | .cleared => "CLEARED"
  | .revived => "REVIVED"
  | .failed => "FAILED"

/-- A short fingerprint of plain characters, marked as an artifact's. -/
def validArtifactFingerprint (value : String) : Bool :=
  Text.startsWith value "art-" && decide (value.length ≤ 192)
    && value.toList.all fun c => c.isAlphanum || c == '.' || c == '_' || c == '-'

/-! ## Actions -/

section Rows

variable {ι δ : Type}

/-- Insert a prepared action; an attempt has each sequence once. -/
def prepareRow (t : Table (JournalRow ι δ)) (table : String) (attemptId sequence preparedAt : Nat)
    (intent : ι) : Except StoreError (Table (JournalRow ι δ)) := do
  require ((t.entries.all fun e => e.2.attemptId != attemptId || e.2.sequence != sequence) = true)
    (.sqlite table)
  return t.insert ⟨attemptId, sequence, preparedAt, intent, none, by simp⟩

/-- Complete a prepared action, once; the same disposition again changes
nothing. -/
def completeRow [DecidableEq δ] (t : Table (JournalRow ι δ)) (table action : String)
    (name : δ → String) (prepared : PreparedActionHandle) (completedAt : Nat) (disposition : δ) :
    Except StoreError (Table (JournalRow ι δ)) := do
  let stored ← found (t.get prepared.id) (.invalid ("prepared " ++ action ++ " does not exist"))
  require (stored.attemptId = prepared.attemptId ∧ stored.sequence = prepared.sequence)
    (.invalid ("prepared " ++ action ++ " handle does not match storage"))
  match stored.completed with
  -- a completion that was journalled before its answer was lost
  | some (_, existing) =>
      require (existing = disposition)
        (.invalid (action ++ " has conflicting disposition: stored " ++ name existing
          ++ ", requested " ++ name disposition))
      return t
  | none =>
      t.update fun id r =>
        if id = prepared.id ∧ r.completed.isNone then r.complete table completedAt disposition
        else .ok r

/-- The rows of an attempt, by sequence. -/
def rowsOf (t : Table (JournalRow ι δ)) (attemptId : Nat) : List (JournalRow ι δ) :=
  ((t.entries.map Prod.snd).filter fun r => r.attemptId == attemptId).insertionSort
    fun a b => a.sequence ≤ b.sequence

/-- How many actions of an attempt are prepared and not completed. -/
def preparedCount (t : Table (JournalRow ι δ)) (attemptId : Nat) : Nat :=
  (t.entries.map Prod.snd).countP fun r => r.attemptId == attemptId && r.completed.isNone

/-- Some action of an attempt ended with the disposition. -/
def endedWith [DecidableEq δ] (t : Table (JournalRow ι δ)) (attemptId : Nat) (disposition : δ) :
    Bool :=
  t.entries.any fun e =>
    e.2.attemptId == attemptId && (e.2.completed.any fun c => c.2 == disposition)

/-- Complete every prepared action of an attempt as unknown. -/
def completeUnknown (t : Table (JournalRow ι δ)) (table : String) (attemptId completedAt : Nat)
    (unknown : δ) : Except StoreError (Table (JournalRow ι δ)) :=
  t.update fun _ r =>
    if r.attemptId = attemptId ∧ r.completed.isNone then r.complete table completedAt unknown
    else .ok r

end Rows

namespace Store

/-- The attempts that have not ended, by number. -/
def openAttempts (s : Store) : List (Nat × CleanupAttempt) :=
  s.attempts.entries.filter fun e => e.2.ended.isNone

/-- The signal actions of an attempt, all of which have ended. -/
def actionsForAttempt (s : Store) (attemptId : Nat) : Except StoreError (List CleanupAction) :=
  (rowsOf s.actions attemptId).mapM fun r =>
    match r.completed with
    | none => .error (.corrupt ("cleanup attempt " ++ Text.decimal attemptId
        ++ " still contains a PREPARED action"))
    | some (_, disposition) => .ok (r.intent.completed disposition)

/-- The artifact actions of an attempt, all of which have ended. -/
def artifactActionsForAttempt (s : Store) (attemptId : Nat) :
    Except StoreError (List ArtifactAction) :=
  (rowsOf s.artifactActions attemptId).mapM fun r =>
    match r.completed with
    | none => .error (.corrupt ("cleanup attempt " ++ Text.decimal attemptId
        ++ " still contains a PREPARED artifact action"))
    | some (_, disposition) =>
        if validArtifactFingerprint r.intent.artifactFingerprint then
          .ok (r.intent.completed disposition)
        else .error (.corrupt ("cleanup attempt " ++ Text.decimal attemptId
          ++ " contains an invalid artifact fingerprint"))

/-- Append an event. -/
def insertEvent (s : Store) (attemptId : Option Nat) (occurredAt : Nat) (incidentId : String)
    (state : IncidentState) (payload : EventPayload) : Except StoreError (Store × Nat) := do
  let at_ ← sqliteMillis occurredAt "event timestamp"
  let row : EventRow :=
    ⟨attemptId, incidentId, at_, at_, 1, state, payload, Nat.le_refl _, Nat.le_refl _,
      fun _ => ⟨rfl, rfl⟩⟩
  return ({ s with events := s.events.insert row }, s.events.nextId)

/-- The attempt of a handle, where it is still open. -/
def requireOpen (s : Store) (attempt : CleanupAttemptHandle) : Except StoreError Unit := do
  let stored ← found (s.attempts.get attempt.id) (.invalid "cleanup attempt does not exist")
  require (stored.incidentId = attempt.incidentId)
    (.invalid "cleanup attempt handle incident does not match storage")
  require (stored.ended.isNone = true) (.invalid "cleanup attempt is already terminal")

/-! ## Attempts -/

/-- Open an attempt for a confirmed incident that is not blocked, where
no other attempt is open. -/
def beginCleanupAttempt (s : Store) (occurredAt : Nat) (report : IncidentReport)
    (enforcementEpoch : String) : Except StoreError (Store × CleanupAttemptHandle) := do
  require (report.state = .confirmed ∧ report.gates.cleanupEligible = true)
    (.invalid "cleanup attempts require an eligible CONFIRMED incident")
  require (Text.isBlank enforcementEpoch = false)
    (.invalid "cleanup attempts require a non-empty enforcement epoch")
  let at_ ← sqliteMillis occurredAt "cleanup attempt timestamp"
  require ((s.retryBlocks.lookup report.incidentId).isNone = true)
    (.invalid ("cleanup retry is blocked for incident " ++ quoted report.incidentId))
  require (s.openAttempts.isEmpty = true)
    (.invalid ("cleanup attempt for incident "
      ++ quoted ((s.openAttempts.head?.map fun e => e.2.incidentId).getD "") ++ " is already open"))
  let count ← sqliteMillis report.memberCount "cleanup process count"
  let memory ← sqliteMillis report.residentMemoryBytes "cleanup observed resident memory"
  let row : CleanupAttempt :=
    { incidentId := report.incidentId
      trackingKey := report.trackingKey
      rootIdentityFingerprint := report.root.identityFingerprint
      memberFingerprint := report.memberFingerprint
      enforcementEpoch := enforcementEpoch
      startedAt := at_
      signaturePack := report.signaturePack
      signatureVersion := report.signatureVersion
      observedProcessCount := count
      observedResidentMemoryBytes := memory
      ended := none
      inOrder := by simp
      terminal := by simp }
  let id := s.attempts.nextId
  let (s, _) ← insertEvent { s with attempts := s.attempts.insert row } (some id) occurredAt
    report.incidentId .reclaiming
    (.cleanup ⟨report.incidentId, .reclaiming, none, [], [], [], 0, {}⟩)
  return (s, ⟨id, report.incidentId⟩)

/-- Journal a signal before it is sent. -/
def prepareCleanupAction (s : Store) (attempt : CleanupAttemptHandle) (sequence occurredAt : Nat)
    (intent : CleanupActionIntent) : Except StoreError (Store × PreparedActionHandle) := do
  require (Text.isBlank intent.identityFingerprint = false)
    (.invalid "cleanup action requires a redacted identity fingerprint")
  let seq ← sqliteMillis sequence "cleanup action sequence"
  let at_ ← sqliteMillis occurredAt "action preparation timestamp"
  s.requireOpen attempt
  require (0 < intent.pid) (.sqlite "cleanup_actions")
  let actions ← prepareRow s.actions "cleanup_actions" attempt.id seq at_ intent
  return ({ s with actions := actions }, ⟨s.actions.nextId, attempt.id, sequence⟩)

/-- Journal how a signal ended. -/
def completeCleanupAction (s : Store) (prepared : PreparedActionHandle) (occurredAt : Nat)
    (disposition : SignalDisposition) : Except StoreError Store := do
  let at_ ← sqliteMillis occurredAt "action disposition timestamp"
  let _ ← sqliteMillis prepared.sequence "cleanup action sequence"
  let actions ← completeRow s.actions "cleanup_actions" "cleanup action" signalDispositionName
    prepared at_ disposition
  return { s with actions := actions }

/-- Journal the removal of an artifact before it is tried. -/
def prepareCleanupArtifactAction (s : Store) (attempt : CleanupAttemptHandle)
    (sequence occurredAt : Nat) (intent : ArtifactActionIntent) :
    Except StoreError (Store × PreparedArtifactActionHandle) := do
  require (validArtifactFingerprint intent.artifactFingerprint = true)
    (.invalid "artifact action requires a bounded redacted artifact fingerprint")
  let seq ← sqliteMillis sequence "cleanup artifact action sequence"
  let at_ ← sqliteMillis occurredAt "artifact action preparation timestamp"
  s.requireOpen attempt
  let rows ← prepareRow s.artifactActions "cleanup_artifact_actions" attempt.id seq at_ intent
  return ({ s with artifactActions := rows }, ⟨s.artifactActions.nextId, attempt.id, sequence⟩)

/-- Journal how the removal ended. -/
def completeCleanupArtifactAction (s : Store) (prepared : PreparedArtifactActionHandle)
    (occurredAt : Nat) (disposition : ArtifactDisposition) : Except StoreError Store := do
  let at_ ← sqliteMillis occurredAt "artifact action disposition timestamp"
  let _ ← sqliteMillis prepared.sequence "cleanup artifact action sequence"
  let rows ← completeRow s.artifactActions "cleanup_artifact_actions" "cleanup artifact action"
    artifactDispositionName prepared at_ disposition
  return { s with artifactActions := rows }

/-! ## Ends -/

/-- End an open attempt. -/
def finishAttempt (s : Store) (attemptId : Nat) (ended : AttemptEnd) : Except StoreError Store := do
  let attempts ← s.attempts.update fun id a =>
    if id = attemptId ∧ a.ended.isNone then a.finish ended else .ok a
  return { s with attempts := attempts }

/-- Block the retry of an incident; a block it had is replaced. -/
def insertRetryBlock (s : Store) (incidentId trackingKey : String) (blockedAt : Nat)
    (reasonId : Option String) (sourceAttemptId : Nat) : Store :=
  let block : RetryBlock := ⟨trackingKey, reasonId, sourceAttemptId, Presence.fresh blockedAt⟩
  { s with retryBlocks := s.retryBlocks.insert incidentId block }

/-- A name, or `unknown` where it is empty. -/
def orUnknown (name : String) : String := if name = "" then "unknown" else name

/-- The processes are gone, and a signal of the attempt was delivered. -/
def attributed (s : Store) (attemptId : Nat) (receipt : CleanupReceipt) : Bool :=
  receipt.outcome.process == .cleared && endedWith s.actions attemptId .delivered

/-- The processes an impact counts: those measured, or else those
observed. -/
def impactProcessCount (attributed : Bool) (receipt : CleanupReceipt) (attempt : CleanupAttempt) :
    Except StoreError (Option Nat) :=
  if attributed then
    match receipt.resources.before with
    | some resources => (sqliteMillis resources.processCount "cleanup impact process count").map some
    | none => .ok (some attempt.observedProcessCount)
  else .ok none

/-- The memory an impact claims. -/
def impactMemory (attributed : Bool) (receipt : CleanupReceipt) : Except StoreError (Option Nat) :=
  if attributed then
    match receipt.resources.estimatedReclaimedMemoryBytes with
    | some bytes => (sqliteMillis bytes "cleanup impact reclaimed memory").map some
    | none => .ok none
  else .ok none

/-- The totals after one more ended attempt. -/
def ImpactAuthority.add (totals : ImpactAuthority) (attributed : Bool)
    (processCount memory : Option Nat) : ImpactAuthority where
  terminalCleanupCount := totals.terminalCleanupCount + 1
  provedReclaimCount := totals.provedReclaimCount + attributed.toNat
  reclaimedProcessCount := totals.reclaimedProcessCount + processCount.getD 0
  reclaimedProcessMeasurementCount :=
    totals.reclaimedProcessMeasurementCount + processCount.isSome.toNat
  estimatedReclaimedMemoryBytes := totals.estimatedReclaimedMemoryBytes + memory.getD 0
  reclaimedMemoryMeasurementCount := totals.reclaimedMemoryMeasurementCount + memory.isSome.toNat

/-- Record the impact of an attempt that ended, once. -/
def insertCleanupImpact (s : Store) (attemptId eventId occurredAt : Nat) (receipt : CleanupReceipt) :
    Except StoreError Store := do
  let attempt ← found (s.attempts.get attemptId) (.sqlite "cleanup_attempts")
  let outcome := receipt.outcome
  let attributed := s.attributed attemptId receipt
  let processCount ← impactProcessCount attributed receipt attempt
  let memory ← impactMemory attributed receipt
  let at_ ← sqliteMillis occurredAt "cleanup impact timestamp"
  let checks ← sqliteMillis receipt.revivalChecksCompleted "cleanup impact revival count"
  require (receipt.state.isTerminal = true) (.sqlite "cleanup_impacts")
  require ((s.impacts.entries.all fun e => e.2.attemptId != attemptId && e.2.eventId != eventId)
    = true) (.sqlite "cleanup_impacts")
  let row : CleanupImpact :=
    { attemptId := attemptId
      eventId := eventId
      incidentId := receipt.incidentId
      family := orUnknown attempt.signaturePack
      familyVersion := orUnknown attempt.signatureVersion
      occurredAt := at_
      state := receipt.state
      process := outcome.process
      artifact := outcome.artifact
      overall := outcome.overall
      processCount := processCount
      estimatedReclaimedMemoryBytes := memory
      revivalChecksCompleted := checks }
  return { s with
    impacts := s.impacts.insert row
    impactAuthority := ImpactAuthority.add s.impactAuthority attributed processCount memory }

/-- The receipt of an attempt that has ended, with its actions and
resources as they are stored. -/
def terminalReceiptForAttempt (s : Store) (attemptId : Nat) : Except StoreError CleanupReceipt := do
  let terminal := s.events.entries.filter fun e =>
    e.2.attemptId == some attemptId && e.2.state.isTerminal
  let event ← found terminal.getLast? (.corrupt ("terminal cleanup attempt "
    ++ Text.decimal attemptId ++ " has no terminal event"))
  match event.2.payload with
  | .observation _ => .error (.corrupt ("terminal cleanup attempt " ++ Text.decimal attemptId
      ++ " points to an observation"))
  | .cleanup receipt =>
      let actions ← s.actionsForAttempt attemptId
      let artifactActions ← s.artifactActionsForAttempt attemptId
      let resources := (((s.attempts.get attemptId).bind CleanupAttempt.ended).map
        AttemptEnd.resources).getD receipt.resources
      return { receipt with
        actions := actions, artifactActions := artifactActions, resources := resources }

/-- The receipt as it is stored: a session that ended by itself is nobody's
reclaim. -/
def projectReceipt (receipt : CleanupReceipt) : CleanupReceipt :=
  if receipt.endedWithoutIntervention then
    { receipt with
      reasonId := some "cleanup.tree_gone_without_signal"
      resources := { receipt.resources with estimatedReclaimedMemoryBytes := none } }
  else receipt

/-- What every ended attempt leaves: its row, a retry block unless it
cleared, a terminal event and an impact. -/
def settleAttempt (s : Store) (attemptId : Nat) (trackingKey : String) (completedAt : Nat)
    (receipt : CleanupReceipt) : Except StoreError Store := do
  let s ← s.finishAttempt attemptId
    { completedAt := completedAt
      state := receipt.state
      reasonId := receipt.reasonId
      survivorPids := receipt.survivorPids
      revivalChecksCompleted := receipt.revivalChecksCompleted
      resources := receipt.resources }
  -- what did not clear is not tried again until the owner says so
  let s := if receipt.state = .cleared then s
    else s.insertRetryBlock receipt.incidentId trackingKey completedAt receipt.reasonId attemptId
  let (s, eventId) ← s.insertEvent (some attemptId) completedAt receipt.incidentId receipt.state
    (.cleanup receipt)
  s.insertCleanupImpact attemptId eventId completedAt receipt

/-- End an attempt with a receipt; an attempt that ended in the same state
returns the receipt it ended with. -/
def completeCleanupAttempt (s : Store) (attempt : CleanupAttemptHandle) (occurredAt : Nat)
    (terminalReceipt : CleanupReceipt) : Except StoreError (Store × CleanupReceipt) := do
  require (terminalReceipt.state.isTerminal = true)
    (.invalid "cleanup attempt terminal state must be CLEARED, FAILED, or REVIVED")
  require (terminalReceipt.incidentId = attempt.incidentId)
    (.invalid "cleanup receipt incident does not match attempt handle")
  let at_ ← sqliteMillis occurredAt "attempt completion timestamp"
  let stored ← found (s.attempts.get attempt.id) (.invalid "cleanup attempt does not exist")
  require (stored.incidentId = attempt.incidentId)
    (.invalid "cleanup attempt handle incident does not match storage")
  match stored.ended with
  -- the attempt was settled before: by the same call, or by a recovery
  | some ended =>
      require (ended.state = terminalReceipt.state)
        (.invalid ("cleanup attempt is already terminal as " ++ stateName ended.state))
      let receipt ← s.terminalReceiptForAttempt attempt.id
      return (s, receipt)
  | none =>
      let prepared := preparedCount s.actions attempt.id
      let preparedArtifacts := preparedCount s.artifactActions attempt.id
      require (prepared = 0 ∧ preparedArtifacts = 0)
        (.invalid ("cleanup attempt " ++ Text.decimal attempt.id ++ " still has "
          ++ Text.decimal prepared ++ " PREPARED process action(s) and "
          ++ Text.decimal preparedArtifacts ++ " PREPARED artifact action(s); "
          ++ "startup recovery must resolve delivery uncertainty"))
      let actions ← s.actionsForAttempt attempt.id
      let artifactActions ← s.artifactActionsForAttempt attempt.id
      let projected := projectReceipt { terminalReceipt with
        incidentId := attempt.incidentId, actions := actions, artifactActions := artifactActions }
      let _ ← sqliteMillis projected.revivalChecksCompleted "revival check count"
      let s ← s.settleAttempt attempt.id stored.trackingKey at_ projected
      return (s, projected)

/-! ## Recovery -/

/-- What a recovered attempt says of itself. -/
def interruptedReason (s : Store) (attemptId : Nat) : String :=
  if 0 < preparedCount s.actions attemptId ∨ 0 < preparedCount s.artifactActions attemptId
      ∨ endedWith s.actions attemptId .deliveryUnknown = true
      ∨ endedWith s.artifactActions attemptId .deliveryUnknown = true then
    "cleanup.interrupted_delivery_unknown"
  else if endedWith s.actions attemptId .delivered = true
      ∨ endedWith s.artifactActions attemptId .removed = true then
    "cleanup.interrupted_after_delivery"
  else "cleanup.interrupted_before_signal"

/-- Recover one attempt that was left open: what it prepared is unknown,
and it failed. -/
def recoverAttempt (occurredAt : Nat) (recovered : Store × List CleanupReceipt)
    (openAttempt : Nat × CleanupAttempt) : Except StoreError (Store × List CleanupReceipt) := do
  let (s, receipts) := recovered
  let (attemptId, attempt) := openAttempt
  let actions ← completeUnknown s.actions "cleanup_actions" attemptId occurredAt .deliveryUnknown
  let artifactActions ← completeUnknown s.artifactActions "cleanup_artifact_actions" attemptId
    occurredAt .deliveryUnknown
  -- the reason is of the rows as the crash left them
  let reason := s.interruptedReason attemptId
  let s := { s with actions := actions, artifactActions := artifactActions }
  let processActions ← s.actionsForAttempt attemptId
  let removals ← s.artifactActionsForAttempt attemptId
  let receipt : CleanupReceipt :=
    ⟨attempt.incidentId, .failed, some reason, processActions, removals, [], 0, {}⟩
  let s ← s.settleAttempt attemptId attempt.trackingKey occurredAt receipt
  return (s, receipts ++ [receipt])

/-- **Recover every attempt that was left open.** -/
def recoverIncompleteAttempts (s : Store) (occurredAt : Nat) :
    Except StoreError (Store × List CleanupReceipt) := do
  let at_ ← sqliteMillis occurredAt "attempt recovery timestamp"
  s.openAttempts.foldlM (recoverAttempt at_) (s, [])

end Store

end Unlinger
