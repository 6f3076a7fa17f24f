import Unlinger.Daemon.Model.Store

/-!
# The control plane

The part of `ControlPlane` in `unlinger-daemon/src/ipc.rs` that stands
between the owner and the cleanup: the gate a cycle passes before it opens
an attempt and before every signal, the commands of the operator, and the
public mutations. Every call holds the lock of the status, so each is one
step. The policy revision is an atomic counter of 64 bits beside it, and
the store has a durable one of its own.
-/

namespace Unlinger

/-! ## Status -/

/-- What the daemon may do. -/
inductive DaemonMode
  | reportOnly
  | enforce
  deriving DecidableEq

/-- How far the daemon has started. -/
inductive StartupState
  | legacy
  | booting
  | recovering
  | firstScanReportOnly
  | readyReportOnly
  | readyEnforce
  | draining
  | failed
  deriving DecidableEq

/-- The owner of a cleanup that is not of processes; once cancelled it stays
so. -/
structure PromptActivity where
  token : String
  epoch : String
  cancelRequested : Bool
  deriving DecidableEq

/-- The status, without what only tells the owner about history. -/
structure DaemonStatus where
  lifecycleSchemaVersion : Nat
  managed : Bool
  instanceId : String
  ready : Bool
  startupState : StartupState
  mode : DaemonMode
  requestedMode : DaemonMode
  storedEffectiveMode : DaemonMode
  activationGeneration : Option Nat
  armedGeneration : Option Nat
  enforcementEpoch : Option String
  draining : Bool
  cacheActivity : Option PromptActivity
  storageActivity : Option PromptActivity
  pausedUntilUnixMillis : Option Nat
  deriving DecidableEq

namespace DaemonStatus

/-- The status of a daemon that starts. -/
def new (mode : DaemonMode) (instanceId : String) : DaemonStatus where
  lifecycleSchemaVersion := 1
  managed := false
  instanceId := instanceId
  ready := false
  startupState := .booting
  mode := mode
  requestedMode := mode
  storedEffectiveMode := mode
  activationGeneration := none
  armedGeneration := none
  enforcementEpoch := if mode = .enforce then some "unmanaged-explicit-1" else none
  draining := false
  cacheActivity := none
  storageActivity := none
  pausedUntilUnixMillis := none

/-- The mode in effect; a status without a lifecycle has only one. -/
def effectiveMode (s : DaemonStatus) : DaemonMode :=
  if s.lifecycleSchemaVersion = 0 then s.mode else s.storedEffectiveMode

/-- Set the mode in effect. -/
def setEffectiveMode (s : DaemonStatus) (mode : DaemonMode) : DaemonStatus :=
  { s with mode := mode, storedEffectiveMode := mode }

/-- Cancel an activity, for good. -/
def cancel (activity : Option PromptActivity) : Option PromptActivity :=
  activity.map fun a => { a with cancelRequested := true }

/-- Cancel what runs beside the cleanup of processes. -/
def cancelPromptActivities (s : DaemonStatus) : DaemonStatus :=
  { s with cacheActivity := cancel s.cacheActivity, storageActivity := cancel s.storageActivity }

/-- The status is armed for the very epoch. -/
def signalGateMatches (s : DaemonStatus) (enforcementEpoch : String) : Bool :=
  if s.draining || s.effectiveMode != .enforce || s.enforcementEpoch != some enforcementEpoch then
    false
  else
    !s.managed || (s.ready && s.activationGeneration.isSome
      && s.armedGeneration == s.activationGeneration)

/-- The facts the policy asks of the status. -/
def runtimeFacts (s : DaemonStatus) : RuntimePolicyFacts where
  draining := s.draining || s.startupState == .draining
  failed := s.startupState == .failed

end DaemonStatus

/-! ## Managed lifecycle -/

/-- The startup state of a phase. -/
def ManagedStartupPhase.startupState : ManagedStartupPhase → StartupState
  | .recovering => .recovering
  | .firstScanReportOnly => .firstScanReportOnly
  | .readyReportOnly => .readyReportOnly
  | .readyEnforce => .readyEnforce
  | .draining => .draining
  | .failed => .failed

/-- The mode of a flag. -/
def DaemonMode.ofEnforce (enforce : Bool) : DaemonMode := if enforce then .enforce else .reportOnly

/-- Take a lifecycle over into the status. -/
def applyManagedLifecycle (status : DaemonStatus) (lifecycle : ManagedLifecycle) : DaemonStatus :=
  let status := if lifecycle.effectiveEnforce then status else status.cancelPromptActivities
  let status := status.setEffectiveMode (.ofEnforce lifecycle.effectiveEnforce)
  { status with
    managed := true
    activationGeneration := some lifecycle.activationGeneration
    instanceId := lifecycle.instanceId
    requestedMode := .ofEnforce lifecycle.requestedEnforce
    armedGeneration := lifecycle.armedGeneration
    enforcementEpoch := lifecycle.enforcementEpoch
    ready := lifecycle.ready
    draining := lifecycle.draining
    startupState := lifecycle.startupPhase.startupState }

/-! ## Requests -/

/-- Why a request failed. -/
inductive ControlError
  | invalidArgument (message : String)
  | conflict (message : String)
  | notFound (message : String)
  | authorityLost (message : String)
  /-- A failure of the store, told by its text. -/
  | store (error : StoreError)
  /-- The same with a text of the plane's own. -/
  | storeMessage (message : String)
  | unavailable (message : String)
  deriving DecidableEq

/-- At most 512 characters. -/
def boundedMessage (message : String) : String := String.ofList (message.toList.take 512)

/-- What the owner is told of a failure of the store. -/
def mapStoreError : StoreError → ControlError
  | .invalid message | .range message => .invalidArgument (boundedMessage message)
  | .conflict message => .conflict (boundedMessage message)
  | .authorityLost message => .authorityLost (boundedMessage message)
  | .capacity message => .unavailable (boundedMessage message)
  | .sqlite table => .store (.sqlite table)
  | .corrupt message => .store (.corrupt message)

/-- The commands of the operator that change the policy. -/
inductive IpcCommand
  | pause (durationMillis : Nat)
  | resume
  | retryFailedCleanup (incidentId : String)
  | protectIncident (incidentId : String)
  | unprotectIncident (incidentId : String)
  deriving DecidableEq

/-- The answers to them. -/
inductive IpcPayload
  | pause (untilUnixMillis : Nat)
  | resumed
  | retryScheduled (incidentId : String)
  | incidentProtected (protection : ProtectionSummary)
  | incidentUnprotected (incidentId : String)
  deriving DecidableEq

/-- The longest pause. -/
def maxPauseMillis : Nat := 30 * 24 * 60 * 60 * 1000

/-- An incident is named by 1 to 128 bytes. -/
def validateIncidentId (incidentId : String) : Except ControlError Unit :=
  require (incidentId ≠ "" ∧ incidentId.utf8ByteSize ≤ 128)
    (.invalidArgument "incident ID must contain 1 to 128 bytes")

/-- A failure of the store, as the operator is told of it. -/
def orStoreError {α : Type} (x : Except StoreError α) : Except ControlError α :=
  x.mapError .store

/-! ## The plane -/

/-- **The control plane.** -/
structure ControlPlane where
  store : Store
  status : DaemonStatus
  cleanupPolicyRevision : Nat

namespace ControlPlane

/-- The plane over a store: the pause and the revision are restored. -/
def new (store : Store) (status : DaemonStatus) : ControlPlane where
  store := store
  status := { status with pausedUntilUnixMillis := store.pauseUntil }
  cleanupPolicyRevision := store.cleanupPolicyRevision

/-- Advance the counter, which wraps. -/
def advanceRevision (p : ControlPlane) : ControlPlane :=
  { p with cleanupPolicyRevision := (p.cleanupPolicyRevision + 1) % 2 ^ 64 }

/-- Does the gate refuse what was frozen under the epoch and revision? -/
def actionGateClosed (p : ControlPlane) (enforcementEpoch : String) (frozenPolicyRevision : Nat) :
    Bool :=
  !p.status.signalGateMatches enforcementEpoch || p.cleanupPolicyRevision != frozenPolicyRevision

/-- Open an attempt, if the gate is. -/
def beginCleanupAttemptIfArmed (p : ControlPlane) (now : Nat) (report : IncidentReport)
    (enforcementEpoch : String) (frozenPolicyRevision : Nat) :
    Except ControlError (ControlPlane × Option CleanupAttemptHandle) :=
  if !p.status.signalGateMatches enforcementEpoch
      || p.cleanupPolicyRevision != frozenPolicyRevision then
    .ok (p, none)
  else
    match p.store.beginCleanupAttempt now report enforcementEpoch with
    | .ok (store, attempt) => .ok ({ p with store := store }, some attempt)
    | .error e => .error (mapStoreError e)

/-- Deliver a signal, if the gate is open. -/
def deliverSignalIfArmed (p : ControlPlane) (enforcementEpoch : String)
    (frozenPolicyRevision : Nat) (deliver : Unit → SignalDisposition) : SignalDisposition :=
  if !p.status.signalGateMatches enforcementEpoch
      || p.cleanupPolicyRevision != frozenPolicyRevision then .cancelledBeforeDelivery
  else deliver ()

/-- Carry out a command of the operator. -/
def handleAt (p : ControlPlane) (command : IpcCommand) (now : Nat) :
    Except ControlError (ControlPlane × IpcPayload) := do
  match command with
  | .pause duration =>
      require (duration ≠ 0 ∧ duration ≤ maxPauseMillis)
        (.invalidArgument ("pause duration must be between 1 millisecond and "
          ++ Text.decimal maxPauseMillis ++ " milliseconds"))
      require (now + duration < 2 ^ 64) (.invalidArgument "pause deadline overflowed u64")
      let deadline := now + duration
      let store ← orStoreError (p.store.setPauseUntil (some deadline))
      let status := { p.status with pausedUntilUnixMillis := some deadline }.cancelPromptActivities
      return (advanceRevision { p with store := store, status := status }, .pause deadline)
  | .resume =>
      let store ← orStoreError (p.store.setPauseUntil none)
      let status := { p.status with pausedUntilUnixMillis := none }
      return (advanceRevision { p with store := store, status := status }, .resumed)
  | .retryFailedCleanup incidentId =>
      validateIncidentId incidentId
      let (store, authorized) ← orStoreError (p.store.authorizeRetry incidentId now)
      require (authorized = true)
        (.notFound ("incident " ++ quoted incidentId ++ " has no blocked cleanup to retry"))
      return (advanceRevision { p with store := store }, .retryScheduled incidentId)
  | .protectIncident incidentId =>
      validateIncidentId incidentId
      let (store, protection) ← orStoreError (p.store.protectIncident incidentId now)
      -- a protection without an observation is still told
      let protection ← found protection
        (.notFound ("incident " ++ quoted incidentId ++ " has no observation to protect"))
      return (advanceRevision { p with store := store }, .incidentProtected protection)
  | .unprotectIncident incidentId =>
      validateIncidentId incidentId
      let (store, removed) := p.store.unprotectIncident incidentId
      require (removed = true)
        (.notFound ("incident " ++ quoted incidentId ++ " has no exact protection override"))
      return (advanceRevision { p with store := store }, .incidentUnprotected incidentId)

/-- The status after a mutation was applied. -/
def applyResult (status : DaemonStatus) : MutationResult → DaemonStatus
  | .paused untilUnixMillis =>
      { status with pausedUntilUnixMillis := some untilUnixMillis }.cancelPromptActivities
  | .resumed => { status with pausedUntilUnixMillis := none }
  | .retryScheduled _ | .incidentProtected _ | .incidentUnprotected _ => status

/-- Commit a public mutation: the counter takes the revision of the
receipt, whichever receipt that is. -/
def commitPublicMutation (p : ControlPlane) (context : MutationContext)
    (mutation : OrdinaryMutation) (now : Nat) : ControlPlane × Except ControlError MutationCommit :=
  match p.store.commitPublicOrdinaryMutation context mutation p.status.runtimeFacts now with
  | .error e => (p, .error (mapStoreError e))
  | .ok (store, commit) =>
      -- also for a replay, and where nothing changed
      let p := { p with
        store := store, cleanupPolicyRevision := commit.receipt.policyRevisionAfter }
      if commit.stateChanged then
        match commit.receipt.outcome with
        | .applied result => ({ p with status := applyResult p.status result }, .ok commit)
        | .noChange _ | .rejected _ => (p, .error (.storeMessage
            "a state-changing mutation receipt lacked an applied result"))
      else (p, .ok commit)

/-- A pause whose time has come is over. -/
def expirePause (p : ControlPlane) (now : Nat) : ControlPlane :=
  if p.status.pausedUntilUnixMillis.any fun deadline => decide (deadline ≤ now) then
    let status := { p.status with pausedUntilUnixMillis := none }
    { p with store := { p.store with pauseUntil := none }, status := status }
  else p

end ControlPlane

/-! ## The daemon as a system -/

/-- What a cycle froze, and whether the owner has changed the policy
since. -/
structure FrozenCycle where
  enforcementEpoch : String
  policyRevision : Nat
  superseded : Bool
  deriving DecidableEq

/-- A running daemon, with every cycle it froze. -/
structure Daemon where
  plane : ControlPlane
  frozen : List FrozenCycle

/-- What happens in a daemon. -/
inductive DaemonStep
  /-- A cycle freezes an epoch it read and the revision. -/
  | freeze (enforcementEpoch : String)
  | operator (command : IpcCommand) (now : Nat)
  | publicMutation (context : MutationContext) (mutation : OrdinaryMutation) (now : Nat)
  /-- Cycles, cleanups and retention work on the store. -/
  | storeWork (op : StoreOp)
  /-- The managed lifecycle moves on. -/
  | lifecycle (lifecycle : ManagedLifecycle)
  | expirePause (now : Nat)

namespace Daemon

/-- The daemon over a plane, before any cycle. -/
def start (plane : ControlPlane) : Daemon := ⟨plane, []⟩

/-- An acknowledged change supersedes whatever was frozen. -/
def supersede (frozen : List FrozenCycle) : List FrozenCycle :=
  frozen.map fun f => { f with superseded := true }

/-- The daemon after a step. A step that fails is not acknowledged. -/
def step (d : Daemon) : DaemonStep → Daemon
  | .freeze epoch => { d with frozen := ⟨epoch, d.plane.cleanupPolicyRevision, false⟩ :: d.frozen }
  | .operator command now =>
      match d.plane.handleAt command now with
      | .ok (plane, _) => ⟨plane, supersede d.frozen⟩
      | .error _ => d
  | .publicMutation context mutation now =>
      match d.plane.commitPublicMutation context mutation now with
      | (plane, .ok commit) =>
          ⟨plane, if commit.stateChanged then supersede d.frozen else d.frozen⟩
      | (plane, .error _) => { d with plane := plane }
  | .storeWork op => { d with plane := { d.plane with store := d.plane.store.committed op } }
  | .lifecycle lifecycle =>
      { d with plane := { d.plane with status := applyManagedLifecycle d.plane.status lifecycle } }
  | .expirePause now => { d with plane := d.plane.expirePause now }

/-- The daemon after steps. -/
def run (d : Daemon) (steps : List DaemonStep) : Daemon := steps.foldl step d

end Daemon

end Unlinger
