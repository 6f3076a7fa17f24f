import Mathlib.Data.String.Basic
import Unlinger.Daemon.Model.PublicIpc

/-!
# Mutations of the App

The mutation a user asks for and its record in the journal
(`UnlingerKit/State/Mutation.swift`), what a client can tell of it
(`ClientError.swift`), and the answers as the App decodes them.
-/

namespace Unlinger

namespace App

/-! ## The record -/

inductive Mutation
  | pause (durationMillis : Nat) (label : String)
  | resume
  | retryFailedCleanup (incidentID : String)
  | protect (incidentID : String)
  | unprotect (incidentID : String)
deriving DecidableEq

namespace Mutation

def kind : Mutation → MutationKind
  | .pause _ _ => .pause
  | .resume => .resume
  | .retryFailedCleanup _ => .retryFailedCleanup
  | .protect _ => .protectIncident
  | .unprotect _ => .unprotectIncident

def semanticKey : Mutation → String
  | .pause duration _ => "pause|" ++ Text.decimal duration
  | .resume => "resume"
  | .retryFailedCleanup incidentID => "retry|" ++ incidentID
  | .protect incidentID => "protect|" ++ incidentID
  | .unprotect incidentID => "unprotect|" ++ incidentID

/-- The mutation as the daemon reads it. -/
def ordinary : Mutation → OrdinaryMutation
  | .pause duration _ => .pause duration
  | .resume => .resume
  | .retryFailedCleanup incidentID => .retryFailedCleanup incidentID
  | .protect incidentID => .protectIncident incidentID
  | .unprotect incidentID => .unprotectIncident incidentID

end Mutation

structure PendingMutation where
  context : MutationContext
  mutation : Mutation
  semanticLockKey : String
  createdAtUnixMillis : Nat
  visualDismissed : Bool
deriving DecidableEq

namespace PendingMutation

def mutationID (pending : PendingMutation) : String := pending.context.mutationId

/-- A mutation the user has just asked for. -/
def new (context : MutationContext) (mutation : Mutation) (createdAt : Nat) : PendingMutation :=
  ⟨context, mutation, mutation.semanticKey, createdAt, false⟩

end PendingMutation

/-! ## What the App is told -/

/-- The outcome of a receipt; a word the App does not know is unknown. -/
inductive ReceiptOutcome
  | applied (result : Option MutationResult)
  | noChange (reasonID : String)
  | rejected (reasonID : String)
  | unknown (wire : String)
deriving DecidableEq

structure Receipt where
  namespaceToken : String
  mutationId : String
  /-- No kind where the App does not know it. -/
  kind : Option MutationKind
  committedAtUnixMillis : Nat
  retainUntilUnixMillis : Nat
  outcome : ReceiptOutcome
deriving DecidableEq

/-- The outcome as the App decodes it. -/
def ReceiptOutcome.decoded : MutationOutcome → ReceiptOutcome
  | .applied result => .applied (some result)
  | .noChange reasonId => .noChange reasonId
  | .rejected reasonId => .rejected reasonId

/-- A receipt of the daemon as the App decodes it. -/
def Receipt.decoded (receipt : MutationReceipt) : Receipt :=
  ⟨receipt.namespaceToken, receipt.mutationId, some receipt.kind, receipt.committedAtUnixMillis,
    receipt.retainUntilUnixMillis, .decoded receipt.outcome⟩

/-- What became of a mutation, as the daemon knows it. -/
inductive Lookup
  | notFound (context : MutationContext)
  | authorityLost (context : MutationContext)
  | committed (receipt : Receipt)
deriving DecidableEq

def Lookup.decoded : MutationStatus → Lookup
  | .notFound context => .notFound context
  | .authorityLost context => .authorityLost context
  | .committed receipt => .committed (.decoded receipt)

inductive ClientError
  | unavailable
  | failedBeforeSend (reasonID : String)
  | deliveryUncertain
  | incompatibleDaemon (reason : String)
  | serverError (code : String)
  | protocolError (reason : String)
deriving DecidableEq

namespace PendingMutation

/-- The result of a receipt is one of the mutation. -/
def matchesResult : Mutation → Option MutationResult → Bool
  | .pause _ _, some (.paused _) => true
  | .resume, some .resumed => true
  | .retryFailedCleanup expected, some (.retryScheduled actual) => expected == actual
  | .protect expected, some (.incidentProtected value) => expected == value.incidentId
  | .unprotect expected, some (.incidentUnprotected actual) => expected == actual
  | _, _ => false

def validateContext (pending : PendingMutation) (context : MutationContext) :
    Except ClientError Unit :=
  if context = pending.context then .ok () else .error (.protocolError "mutation context mismatch")

/-- A receipt is of this mutation, and of no other. -/
def validate (pending : PendingMutation) (receipt : Receipt) : Except ClientError Unit :=
  if receipt.namespaceToken = pending.context.namespaceToken
      ∧ receipt.mutationId = pending.mutationID ∧ receipt.kind = some pending.mutation.kind
      ∧ receipt.committedAtUnixMillis ≤ receipt.retainUntilUnixMillis then
    match receipt.outcome with
    | .applied result =>
        if matchesResult pending.mutation result then .ok () else .error .deliveryUncertain
    | .unknown _ => .error .deliveryUncertain
    | .noChange _ | .rejected _ => .ok ()
  else .error .deliveryUncertain

end PendingMutation

/-! ## The journal -/

inductive MutationJournalError
  | occupied
  | invalidRecord
  /-- The file cannot be used, or was perhaps changed all the same. -/
  | failure (changed : Bool)
deriving DecidableEq

namespace MutationJournal

/-- A UUID as `UUID().uuidString.lowercased()` writes it. -/
def validMutationID (value : String) : Bool :=
  isValidMutationId value && value.toList.all fun c => !c.isUpper

/-- The record can be in the journal. -/
def validRecord (pending : PendingMutation) : Bool :=
  pending.semanticLockKey == pending.mutation.semanticKey
    && isValidNamespaceToken pending.context.namespaceToken && validMutationID pending.mutationID

/-- How loading ends: `fault` is a file that cannot be read. -/
def load (record : Option PendingMutation) (fault : Option Bool) :
    Except MutationJournalError (Option PendingMutation) :=
  match fault with
  | some _ => .error (.failure false)
  | none => if record.all validRecord then .ok record else .error .invalidRecord

/-- How persisting ends: `fault` is a write that fails, and whether it has
replaced the file. -/
def persist (record : Option PendingMutation) (pending : PendingMutation) (fault : Option Bool) :
    Except MutationJournalError Unit :=
  if validRecord pending = false then .error .invalidRecord
  else if record.any fun existing => existing.mutationID != pending.mutationID then .error .occupied
  else
    match fault with
    | some changed => .error (.failure changed)
    | none => .ok ()

/-- How removing ends; where there is no record it does nothing. -/
def remove (record : Option PendingMutation) (expectedMutationID : String) (fault : Option Bool) :
    Except MutationJournalError Unit :=
  match record with
  | none => if fault.isSome then .error (.failure false) else .ok ()
  | some existing =>
      if existing.mutationID ≠ expectedMutationID then .error .occupied
      else
        match fault with
        | some changed => .error (.failure changed)
        | none => .ok ()

/-- The write was carried out, whether or not it failed. -/
def took : Except MutationJournalError Unit → Bool
  | .ok () => true
  | .error (.failure changed) => changed
  | .error _ => false

end MutationJournal

end App

end Unlinger
