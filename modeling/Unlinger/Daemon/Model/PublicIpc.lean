import Mathlib.Data.List.Basic
import Unlinger.Daemon.Model.Control

/-!
# Public requests about mutations

`mutation_status` and the five mutations of `handle_at` in
`unlinger-daemon/src/public_ipc.rs`, with `ControlPlane::mutation_lookup` and
`HistoryStore::mutation_lookup`.
-/

namespace Unlinger

/-- Thirty-six bytes: hexadecimal digits, and hyphens where a UUID has
them. -/
def isValidMutationId (value : String) : Bool :=
  value.length == 36 && value.toList.zipIdx.all fun e =>
    if e.2 = 8 ∨ e.2 = 13 ∨ e.2 = 18 ∨ e.2 = 23 then e.1 == '-'
    else e.1.isDigit || ('a' ≤ e.1 && e.1 ≤ 'f') || ('A' ≤ e.1 && e.1 ≤ 'F')

/-- What an error is called. -/
def ControlError.code : ControlError → String
  | .invalidArgument _ => "invalid_argument"
  | .conflict _ => "conflict"
  | .notFound _ => "not_found"
  | .authorityLost _ => "authority_lost"
  | .store _ | .storeMessage _ => "store_error"
  | .unavailable _ => "unavailable"

/-- What is known of a mutation. -/
inductive MutationLookup
  | committed (receipt : MutationReceipt)
  | notFound
  | authorityLost
  deriving DecidableEq

/-- Look a mutation up: by its receipt, and else by its namespace. -/
def Store.mutationLookup (s : Store) (context : MutationContext) :
    Except StoreError MutationLookup := do
  match s.mutationReceipts.lookup (toLex (context.namespaceToken, context.mutationId)) with
  | some row =>
      require (row.receipt.namespaceToken = context.namespaceToken
          ∧ row.receipt.mutationId = context.mutationId
          ∧ row.receipt.committedAtUnixMillis ≤ row.receipt.retainUntilUnixMillis)
        (.corrupt
          "stored mutation receipt disagrees with its durable index or canonical request")
      return .committed row.receipt
  | none =>
      return if s.namespaceToken.value = context.namespaceToken then .notFound else .authorityLost

/-- The requests about mutations. -/
inductive PublicCommand
  | mutationStatus (context : MutationContext)
  | mutation (context : MutationContext) (mutation : OrdinaryMutation)
  deriving DecidableEq

/-- What is known of a mutation, as its owner is told. -/
inductive MutationStatus
  | notFound (context : MutationContext)
  | authorityLost (context : MutationContext)
  | committed (receipt : MutationReceipt)
  deriving DecidableEq

/-- The answers to them. -/
inductive PublicPayload
  | mutationStatus (status : MutationStatus)
  | mutationCommitted (receipt : MutationReceipt)
  deriving DecidableEq

def maxPublicPauseMillis : Nat := 30 * 24 * 60 * 60 * 1000

def validateMutationContext (context : MutationContext) : Except ControlError Unit := do
  require (isValidNamespaceToken context.namespaceToken = true)
    (.invalidArgument
      "mutation namespace must use the canonical 32-byte opaque token representation")
  require (isValidMutationId context.mutationId = true)
    (.invalidArgument "mutation ID must use canonical 36-byte UUID representation")

/-- What a mutation must be before it is committed. -/
def validateMutation : OrdinaryMutation → Except ControlError Unit
  | .pause duration =>
      require (duration ≠ 0 ∧ duration ≤ maxPublicPauseMillis)
        (.invalidArgument ("pause duration must be between 1 and "
          ++ Text.decimal maxPublicPauseMillis ++ " milliseconds"))
  | .resume => .ok ()
  | .retryFailedCleanup incidentId | .protectIncident incidentId | .unprotectIncident incidentId =>
      validateIncidentId incidentId

/-- A request is checked before anything is done about it. -/
def PublicCommand.validate : PublicCommand → Except ControlError Unit
  | .mutationStatus context => validateMutationContext context
  | .mutation context ordinary => do
      validateMutationContext context
      validateMutation ordinary

namespace ControlPlane

/-- Look a mutation up, between two mutations. -/
def mutationLookup (p : ControlPlane) (context : MutationContext) :
    Except ControlError MutationStatus := do
  match ← orStoreError (p.store.mutationLookup context) with
  | .committed receipt => return .committed receipt
  | .notFound => return .notFound context
  | .authorityLost => return .authorityLost context

/-- **Carry out a public request.** -/
def handlePublic (p : ControlPlane) (command : PublicCommand) (now : Nat) :
    ControlPlane × Except ControlError PublicPayload :=
  match command.validate with
  | .error e => (p, .error e)
  | .ok () =>
      match command with
      | .mutationStatus context => (p, (p.mutationLookup context).map .mutationStatus)
      | .mutation context mutation =>
          let (p, result) := p.commitPublicMutation context mutation now
          (p, result.map fun commit => .mutationCommitted commit.receipt)

end ControlPlane

end Unlinger
