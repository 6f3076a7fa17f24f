import Mathlib.Algebra.GroupWithZero.Nat
import Unlinger.Daemon.Model.Store

/-!
# The store with its past

What the store forgets when it is pruned is remembered beside it: every
settlement as the call that settled the attempt returned it, and every
terminal event and impact that ever got a row. None of this is in the
program; it is what statements about whole runs are made of.
-/

namespace Unlinger

/-- An attempt became terminal: how many processes it had observed, when it
settled, and the receipt that was returned. -/
structure Settlement where
  attemptId : Nat
  observedProcessCount : Nat
  occurredAt : Nat
  receipt : CleanupReceipt
  deriving DecidableEq

namespace Settlement

/-- The processes it reclaimed: those measured before it, or else those
observed. -/
def processCount (σ : Settlement) : Option Nat :=
  if σ.receipt.provesProcessReclaim then
    some ((σ.receipt.resources.before.map ResourceSnapshot.processCount).getD
      σ.observedProcessCount)
  else none

/-- The memory it reclaimed, where it was measured. -/
def memory (σ : Settlement) : Option Nat :=
  if σ.receipt.provesProcessReclaim then σ.receipt.resources.estimatedReclaimedMemoryBytes else none

/-- What the totals should be after some settlements. -/
def tally (settled : List Settlement) : ImpactAuthority where
  terminalCleanupCount := settled.length
  provedReclaimCount := settled.countP fun σ => σ.receipt.provesProcessReclaim
  reclaimedProcessCount := (settled.map fun σ => σ.processCount.getD 0).sum
  reclaimedProcessMeasurementCount := settled.countP fun σ => σ.processCount.isSome
  estimatedReclaimedMemoryBytes := (settled.map fun σ => σ.memory.getD 0).sum
  reclaimedMemoryMeasurementCount := settled.countP fun σ => σ.memory.isSome

end Settlement

/-- The attempts an operation settles, with the receipts it returns. -/
def Store.settlements (s : Store) : StoreOp → List Settlement
  | .completeCleanupAttempt attempt at_ receipt =>
      match s.completeCleanupAttempt attempt at_ receipt, s.attempts.get attempt.id with
      -- an attempt that had ended is not settled again
      | .ok (_, returned), some a =>
          if a.ended.isNone then [⟨attempt.id, a.observedProcessCount, at_, returned⟩] else []
      | _, _ => []
  | .recoverIncompleteAttempts at_ =>
      match s.recoverIncompleteAttempts at_ with
      | .ok (_, receipts) => (s.openAttempts.zip receipts).map fun e =>
          ⟨e.1.1, e.1.2.observedProcessCount, at_, e.2⟩
      | .error _ => []
  | _ => []

/-- The rows a table got. -/
def newRows {ρ : Type} (old new : Table ρ) : List (Nat × ρ) :=
  (new.rows.filter fun id _ => (old.get id).isNone).entries

/-- The event that an attempt ended. -/
def EventRow.isTerminal (e : EventRow) : Bool := e.attemptId.isSome && e.state.isTerminal

/-- **A store and its past.** -/
structure History where
  store : Store
  settled : List Settlement := []
  terminalEvents : List (Nat × EventRow) := []
  impacts : List (Nat × CleanupImpact) := []

namespace History

/-- One more operation, which may fail. -/
def step (h : History) (op : StoreOp) : History :=
  let store := h.store.committed op
  { store := store
    settled := h.settled ++ h.store.settlements op
    terminalEvents := h.terminalEvents
      ++ (newRows h.store.events store.events).filter fun e => e.2.isTerminal
    impacts := h.impacts ++ newRows h.store.impacts store.impacts }

/-- The history of a run from the empty store. -/
def ran (token : NamespaceToken) (ops : List StoreOp) : History :=
  ops.foldl step { store := Store.empty token }

end History

end Unlinger
