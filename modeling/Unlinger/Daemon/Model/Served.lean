import Unlinger.Common.Transition
import Unlinger.Daemon.Model.Cycle

/-!
# A cycle beside the owner's mutations

A cycle of the engine interleaved with what the other threads make of the
service: requests of the operator and of the public interface, the managed
lifecycle, leases, and the store's own work. Of all the state the service
is followed through the turns: a call of the cycle finds the service the
turns before it left.
-/

namespace Unlinger

open Interaction

/-- A turn: a step of the service for somebody else, an operation on the
store that passes by the service, or a call of the cycle. What the calls
of a running cleanup write into the journal is such an operation too. -/
inductive Turn
  | service (step : ServiceStep)
  | storeWork (op : StoreOp)
  | cycle (ev : EngineEvent)

/-- What the cycle did. -/
def Turn.calls (turns : List Turn) : EngineTrace :=
  turns.filterMap fun
    | .cycle ev => some ev
    | _ => none

/-- The step a call of the plane makes of the service, if it makes one that
the status shows. `enforcementEpoch` is the text drawn for the cycle. -/
def PlaneCall.serviceStep (enforcementEpoch : String) (f : FoundPlane) :
    PlaneCall → Option ServiceStep
  | .beginObservationCycle cycleToken _ => some (.beginObservationCycle cycleToken)
  | .expirePause now => some (.expirePause now f.fault)
  | .publishRoster cycleToken _ _ _ => some (.publishRoster cycleToken)
  | .beginProcessCleanupActivity token => some (.beginProcessCleanup token)
  | .dropProcessCleanupActivity token => some (.dropProcessCleanup token)
  | .finishObservationCycle cycleToken succeeded =>
      some (.finishObservationCycle cycleToken succeeded)
  | .noteCycleSucceeded _ => some .noteCycleSucceeded
  | .noteCycleFailed message => some (.noteCycleFailed message)
  | .completeSuccessfulCycle now =>
      some (.completeSuccessfulCycle now enforcementEpoch f.fault f.laterFault)
  | .failClosed now message sourceLine =>
      some (.failClosed now message "crates/unlinger-daemon/src/engine.rs" sourceLine f.fault)
  | .status | .beginCleanupAttemptIfArmed _ _ _ _ | .actionGate | .noteIncidents _ _
  | .noteMostRecentReclaim => none

namespace Service

/-- The service after a gated call that may open an attempt. -/
def beganCleanupAttempt (p : Service) (now : Nat) (report : IncidentReport)
    (enforcementEpoch : String) (frozenPolicyRevision : Nat) (fault : Option StoreError) :
    Service :=
  match fault, p.plane.beginCleanupAttemptIfArmed now report enforcementEpoch
      frozenPolicyRevision with
  | none, .ok (q, _) => p.withPlane q
  | _, _ => p

/-- The service after a call of the plane. -/
def afterPlane (p : Service) (enforcementEpoch : String) (f : FoundPlane) (c : PlaneCall) :
    Service :=
  match c with
  | .beginCleanupAttemptIfArmed now report epoch revision =>
      p.beganCleanupAttempt now report epoch revision f.fault
  | c => ((c.serviceStep enforcementEpoch f).map p.step).getD p

/-- The service after a call of the cycle. The registries are no part of
it, and a delivery leaves it alone. -/
def afterCall (p : Service) (enforcementEpoch : String) : EngineEvent → Service
  | ⟨.plane c, .ok f⟩ => p.afterPlane enforcementEpoch f c
  | ⟨.store (.perform op), .ok _⟩ => { p with store := p.store.committed op }
  | ⟨.prune now policy, .ok (_, fresh)⟩ =>
      { p with store := p.store.committed (.prune now policy fresh) }
  | _ => p

/-- One turn. -/
def turn (enforcementEpoch : String) (p : Service) : Turn → Service
  | .service step => p.step step
  | .storeWork op => { p with store := p.store.committed op }
  | .cycle ev => p.afterCall enforcementEpoch ev

/-- A call of the cycle finds the service as it is. -/
def Finds (p : Service) : Turn → Prop
  | .cycle ⟨.cleanupPolicyRevision, revision⟩ => revision = p.cleanupPolicyRevision
  | .cycle ⟨.plane _, .ok f⟩ => f.service = p
  | .cycle ⟨.store _, .ok s⟩ => s = p.store
  | .cycle ⟨.prune _ _, .ok (s, _)⟩ => s = p.store
  | .cycle ⟨.signalExact _ _, d⟩ => ∀ f, d.found = .ok f → f.service = p
  | .cycle ⟨.removeArtifactExact _, d⟩ => ∀ f, d.found = .ok f → f.service = p
  | _ => True

/-- Is the turn a change of the policy that its owner is told of? -/
def acknowledges (p : Service) : Turn → Bool
  | .service (.operator command now fault) => (p.handleAt command now fault).2.toOption.isSome
  | .service (.publicMutation context mutation now fault) =>
      (p.commitPublicMutation context mutation now fault).2.toOption.any MutationCommit.stateChanged
  | _ => false

end Service

/-- **A cycle served by a daemon**: the beginning of a run of it, between
turns of others, over the service as they leave it. -/
structure Served (e : ReconciliationEngine) (now : Nat) (cycleToken enforcementEpoch : String)
    (p : Service) (turns : List Turn) : Prop where
  cycle : ∃ rest o,
    Runs (e.runCycleAtUntil now cycleToken enforcementEpoch) (Turn.calls turns ++ rest) o
  finds : Transition.Along (Service.turn enforcementEpoch) Service.Finds p turns

end Unlinger
