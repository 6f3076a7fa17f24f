import Unlinger.Daemon.Model.Control

/-!
# What needs the owner's attention

The retry-blocked cleanups as the owner is shown them: the projection
`attention_projection` of `unlinger-daemon/src/store.rs`, and the two
places of `ipc.rs` that cannot do without it, the restoring of a control
plane and its status. The public token of an event is drawn with its row,
one for each, so here it is the number of the row.
-/

namespace Unlinger

/-- A reason of plain characters, or what stands for it. -/
def projectReasonId : Option String → String
  | none => "cleanup.unclassified_failure"
  | some value =>
      if value ≠ "" ∧ value.length ≤ 128
          ∧ (value.toList.all fun c => c.isAlphanum || c == '.' || c == '_' || c == '-') = true then
        value
      else "cleanup.unclassified_failure"

/-- A blocked cleanup as the owner sees it. -/
structure BlockedCleanupSummary where
  eventToken : Option Nat
  incidentId : String
  state : IncidentState
  blockedAtUnixMillis : Nat
  reasonId : String
  outcome : CleanupOutcome
  lastExactObservedAtUnixMillis : Option Nat
  exactAbsenceSinceUnixMillis : Option Nat
  deriving DecidableEq

/-- All of them counted, and the newest listed. -/
structure StoreAttentionProjection where
  blockedCleanupCount : Nat
  blockedCleanups : List BlockedCleanupSummary
  deriving DecidableEq

/-- At most so many are listed. -/
def maxAttentionSummaries : Nat := 50

/-- A status lists so many. -/
def maxStatusAttentionItems : Nat := 16

namespace Store

/-- The blocks, the newest first; of two at one time by incident. -/
def blocksByAge (s : Store) : List (String × RetryBlock) :=
  s.retryBlocks.entries.insertionSort fun a b =>
    b.2.presence.since < a.2.presence.since
      ∨ b.2.presence.since = a.2.presence.since ∧ a.1 ≤ b.1

/-- The newest cleanup event of an attempt in a state. -/
def cleanupEvent (s : Store) (attemptId : Nat) (state : IncidentState) : Option (Nat × EventRow) :=
  latestOf (s.events.entries.filter fun e =>
    e.2.attemptId == some attemptId && e.2.payload.isCleanup && e.2.state == state)

/-- A block with the attempt it comes from, as it is shown. -/
def blockedCleanupSummary (s : Store) (row : (String × RetryBlock) × CleanupAttempt) :
    Except StoreError BlockedCleanupSummary := do
  let ((incidentId, block), attempt) := row
  -- a state that is not set is no text
  let ended ← found attempt.ended (.sqlite "cleanup_attempts")
  require (ended.state = .failed ∨ ended.state = .revived)
    (.corrupt ("retry block references non-blocking terminal state " ++ stateName ended.state))
  let event ← found (s.cleanupEvent block.sourceAttemptId ended.state)
    (.corrupt "retry block has no matching terminal cleanup event")
  match event.2.payload with
  | .observation _ => .error (.corrupt "retry block selected a non-cleanup event payload")
  | .cleanup receipt =>
      return {
        eventToken := some event.1
        incidentId := projectIdentifier incidentId "redacted-incident"
        state := ended.state
        blockedAtUnixMillis := block.presence.since
        reasonId := projectReasonId block.reasonId
        outcome := receipt.outcome
        lastExactObservedAtUnixMillis := block.presence.lastExactObservedAt
        exactAbsenceSinceUnixMillis := block.presence.absenceSince }

/-- **The blocked cleanups for the owner.** -/
def attentionProjection (s : Store) (limit : Nat) : Except StoreError StoreAttentionProjection := do
  let count := s.retryBlocks.entries.length
  let limit := min limit maxAttentionSummaries
  if limit = 0 then return ⟨count, []⟩
  else
    let rows := s.blocksByAge.filterMap fun e =>
      (s.attempts.get e.2.sourceAttemptId).map fun attempt => (e, attempt)
    let blockedCleanups ← (rows.take limit).mapM s.blockedCleanupSummary
    return ⟨count, blockedCleanups⟩

end Store

/-- The attention a restored control plane starts with; without it there is
no plane. -/
def restoredAttention (s : Store) : Except ControlError StoreAttentionProjection :=
  (s.attentionProjection maxStatusAttentionItems).mapError fun e => .store e

/-- The attention of a status; without it there is no status. -/
def statusAttention (p : ControlPlane) : Except ControlError StoreAttentionProjection :=
  (p.store.attentionProjection maxStatusAttentionItems).mapError mapStoreError

end Unlinger
