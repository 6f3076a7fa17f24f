import Unlinger.Common.Transition
import Unlinger.Daemon.Model.Cycle

/-!
# Owners beside a cycle

What `handle_owner_peer_at` of `unlinger-daemon/src/ipc.rs` makes of a
request about an ordinary session, and a cycle of the engine interleaved
with such requests and with the worker it started. Of all the state only
the session owners' registry is followed through the moments: what a call
of it finds is what the moments before it left.
-/

namespace Unlinger

open Interaction

/-! ## Requests -/

/-- What a peer asks about an ordinary session. -/
inductive SessionOwnerRequest
  | declare (sessionName registryNamespace controllerVersion : String)
  | activate (leaseId capability : String) (ownerPid : Pid)
  | release (leaseId capability : String)

/-- What the handler of a request finds. -/
structure OwnerPeer where
  pid : Pid
  /-- The peer, looked up by its pid. -/
  peer : Except RuntimeFailure (Option ProcessRecord)
  /-- an error is a poisoned lock -/
  status : Except ControlError ServiceStatus
  /-- The registry a capability is checked against. -/
  tables : Except StoreError SessionOwnerTables
  /-- The owner, looked up by the pid the request or the lease names. -/
  owner : Except RuntimeFailure (Option ProcessRecord)

namespace OwnerPeer

variable (f : OwnerPeer)

/-- The peer as a registrar. -/
def registrar : Except ControlError TaskOwnerIdentity := do
  let peer ← f.peer.mapError fun _ => .unavailable "task registrar identity unavailable"
  let process ← found peer (.unavailable "task registrar has exited")
  found (TaskOwnerIdentity.fromProcess process) (.invalidArgument "invalid task registrar identity")

/-- Ownership is taken by a daemon that is ready. -/
def requireReadyForOwnership (what : String) : Except ControlError Unit := do
  let status ← f.status
  require (status.healthy = true ∧ status.ready = true ∧ status.draining = false)
    (.unavailable (what ++ " requires a healthy ready daemon"))
  require (status.startupState ≠ .failed)
    (.unavailable (what ++ " requires a healthy ready daemon"))

/-- The lease of a capability, as it was read. -/
def authorizeSessionOwner (leaseId capability : String) : Except ControlError SessionOwnerScope := do
  let t ← f.tables.mapError mapStoreError
  (t.authorizeSessionOwner leaseId capability).mapError mapStoreError

/-- The owner of a lease is gone, where it had one. -/
def requireAbsent : Option TaskOwnerIdentity → Except ControlError Unit
  | none => .ok ()
  | some owner =>
      match f.owner with
      | .error _ => .error (.unavailable "session owner absence is unproved")
      | .ok none => .ok ()
      | .ok (some p) => require (owner.matches p = false) (.conflict "session owner is still running")

/-- The call of the registry a request comes to, if it comes to one. -/
def handle (request : SessionOwnerRequest) (now : Nat) (freshId freshCapability : NamespaceToken) :
    Except ControlError (Option SessionOwnerStep) := do
  let registrar ← f.registrar
  match request with
  | .declare sessionName registryNamespace controllerVersion =>
      f.requireReadyForOwnership "session-owner declaration"
      require (validRegistryNamespace registryNamespace = true)
        (.invalidArgument "session-owner registry namespace must be 16 lowercase hex bytes")
      return some (.declare (ordinarySelectorFingerprint registryNamespace sessionName) sessionName
        controllerVersion registrar now freshId freshCapability)
  | .activate leaseId capability _ =>
      f.requireReadyForOwnership "session-owner activation"
      let scope ← f.authorizeSessionOwner leaseId capability
      require (scope.registrar = registrar)
        (.conflict "session-owner activation belongs to its original registrar")
      let owner ← f.owner.mapError fun _ => .unavailable "session owner identity unavailable"
      let process ← found owner (.conflict "session owner has exited")
      require (process.parentPid = f.pid ∧ process.uid = registrar.uid)
        (.conflict "session owner must be the registrar's exact child")
      let identity ← found (TaskOwnerIdentity.fromProcess process)
        (.invalidArgument "invalid session owner identity")
      return some (.activate leaseId identity now)
  | .release leaseId capability =>
      let scope ← f.authorizeSessionOwner leaseId capability
      if scope.releasedAtMicros.isSome then return none
      else
        f.requireAbsent scope.owner
        let reason := if scope.owner.isSome then "reported_exit" else "never_started"
        return some (.release leaseId now reason scope.owner)

end OwnerPeer

/-! ## Moments -/

/-- A moment: a request of an owner as it comes to the registry, or a call
of the cycle or of the worker it started. -/
inductive Moment
  | owner (peer : OwnerPeer) (request : SessionOwnerRequest) (now : Nat)
      (freshId freshCapability : NamespaceToken)
  | cycle (ev : EngineEvent)
  | worker (ev : EngineEvent)

/-- What the cycle did. -/
def cycleEvents (ms : List Moment) : EngineTrace :=
  ms.filterMap fun
    | .cycle ev => some ev
    | _ => none

/-- What its worker did. -/
def workerEvents (ms : List Moment) : EngineTrace :=
  ms.filterMap fun
    | .worker ev => some ev
    | _ => none

/-- The tables the engine read its session owners from. -/
def ownersRead : EngineEvent → Option SessionOwnerTables
  | ⟨.sessionOwners .bindings, .ok t⟩ => some t
  | _ => none

/-- The tables it read its tasks from. -/
def tasksRead : EngineEvent → Option TaskTables
  | ⟨.tasks .bindings, .ok t⟩ => some t
  | _ => none

/-- The registry a call of the cycle was answered with. -/
def Moment.answered : Moment → Option SessionOwnerTables
  | .cycle ⟨.sessionOwners _, .ok t⟩ => some t
  | _ => none

/-- The lease a moment deletes. -/
def Moment.deleted : Moment → Option String
  | .cycle ⟨.sessionOwners (.deleteLease leaseId), .ok _⟩ => some leaseId
  | _ => none

/-- The registry after a call of the engine. -/
def SessionOwnerSystem.called (s : SessionOwnerSystem) : EngineEvent → SessionOwnerSystem
  | ⟨.sessionOwners (.release leaseId now reason owner), .ok _⟩ =>
      s.step (.release leaseId now reason owner)
  | ⟨.sessionOwners (.insertControllers scopes snapshot), .ok _⟩ =>
      s.keep (s.tables.insertControllers scopes snapshot)
  | ⟨.sessionOwners (.deleteLease leaseId), .ok _⟩ =>
      { s with tables := s.tables.deleteLease leaseId }
  | _ => s

/-- The session owners while a cycle runs: the registry with the leases
declared since the cycle began, and what the cycle has read of it for its
analyzer. -/
structure Ownership where
  registry : SessionOwnerSystem
  read : List SessionOwnerTables

namespace Ownership

/-- A cycle begins. -/
def begun (t : SessionOwnerTables) : Ownership := ⟨⟨t, []⟩, []⟩

/-- One moment. A request that is refused changes nothing. -/
def step (s : Ownership) : Moment → Ownership
  | .owner peer request now freshId freshCapability =>
      match peer.handle request now freshId freshCapability with
      | .ok (some call) => { s with registry := s.registry.step call }
      | _ => s
  | .cycle ev => ⟨s.registry.called ev, s.read ++ (ownersRead ev).toList⟩
  | .worker _ => s

/-- The leases a moment declares. -/
def declares (s : Ownership) (m : Moment) : List SessionOwnerLease :=
  (s.step m).registry.declared.drop s.registry.declared.length

/-- A call of the registry finds it as it is. -/
def Finds (s : Ownership) (m : Moment) : Prop := ∀ t ∈ m.answered, t = s.registry.tables

end Ownership

/-- **An interleaving** of a cycle, from its start on, with owners and with
the worker it starts. -/
structure Interleaving (e : ReconciliationEngine) (now : Nat) (cycleToken enforcementEpoch : String)
    (t : SessionOwnerTables) (ms : List Moment) : Prop where
  cycle : ∃ rest o,
    Runs (e.runCycleAtUntil now cycleToken enforcementEpoch) (cycleEvents ms ++ rest) o
  /-- A worker runs the cleanup it was started with. -/
  worker : ∀ before ev after, ms = before ++ .worker ev :: after →
    ∃ frozen rest o, (⟨.spawnWorker frozen, .ok ()⟩ : EngineEvent) ∈ cycleEvents before ∧
      Runs (ReconciliationEngine.executeCleanup frozen true) (workerEvents ms ++ rest) o
  finds : Transition.Along Ownership.step Ownership.Finds (Ownership.begun t) ms

end Unlinger
