import Unlinger.Common.Interaction
import Unlinger.Daemon.Model.Attention
import Unlinger.Daemon.Model.Engine
import Unlinger.Daemon.Model.SessionOwners

/-!
# A cycle of the engine

`ReconciliationEngine::run_cycle_at_until` of
`unlinger-daemon/src/engine.rs`, with the cleanup it runs, as a program.
The runtime, the stop callback and the worker are not modelled: they may
answer anything. A call of the control plane, of the store or of a
registry is answered by the plane, the store or the registry as the call
finds it, and what the engine gets is computed from that. Whatever other
threads did in between shows in what is found, so what holds of every run
holds of every interleaving with them.
-/

namespace Unlinger

open Interaction

/-! ## Calls -/

/-- What a call of the plane finds: the service as it is then, and the
failures of the database the call meets, if any. -/
structure FoundPlane where
  service : Service
  fault : Option StoreError
  /-- The failure of a second access, where a call makes one. -/
  laterFault : Option StoreError

/-- A gated delivery: the plane, whether the worker is cancelled, and what
the native call answers where it is made. -/
structure Delivery (δ : Type) where
  /-- an error is a poisoned lock -/
  found : Except ControlError FoundPlane
  cancelled : Bool
  native : δ

/-- The calls under the lock of the status, or of the roster. -/
inductive PlaneCall
  | beginObservationCycle (cycleToken : String) (startedAt : Nat)
  | expirePause (now : Nat)
  | status
  | publishRoster (cycleToken : String) (observedAt : Nat) (reports : List IncidentReport)
      (classificationComplete : Bool)
  | beginCleanupAttemptIfArmed (now : Nat) (report : IncidentReport) (enforcementEpoch : String)
      (frozenPolicyRevision : Nat)
  | beginProcessCleanupActivity (token : String)
  | dropProcessCleanupActivity (token : String)
  | actionGate
  | noteIncidents (confirmedIncidents ambiguousIncidents : Nat)
  | noteMostRecentReclaim
  | finishObservationCycle (cycleToken : String) (succeeded : Bool)
  | noteCycleSucceeded (completedAt : Nat)
  | noteCycleFailed (message : String)
  | completeSuccessfulCycle (now : Nat)
  | failClosed (now : Nat) (message : String) (sourceLine : Nat)

/-- The calls of the store: its operations, and what is only read. -/
inductive StoreCall
  | perform (op : StoreOp)
  | isIncidentProtected (report : IncidentReport)
  | cleanupBlocked (incidentId : String)
  | mostRecentReclaim

/-- The calls of the task registry. Binding the controllers is one: to a
cycle it matters only whether it fails. -/
inductive TaskCall
  | scopes
  | release (taskId : String) (now : Nat) (reason : String) (owner : Option TaskOwnerIdentity)
  | bindControllers (snapshot : Snapshot)
  | bindings

/-- The calls of the session-owner registry, one for each transaction. Of
the bindings' two queries the first decides: nobody else writes the
controllers. -/
inductive SessionOwnerCall
  | scopes
  | release (leaseId : String) (now : Nat) (reason : String) (owner : Option TaskOwnerIdentity)
  | insertControllers (scopes : List SessionOwnerScope) (snapshot : Snapshot)
  | deleteLease (leaseId : String)
  | bindings

/-- The calls the engine makes. -/
inductive EngineCall
  | shouldStop
  | snapshot
  | clockSample
  | lookupProcess (pid : Pid)
  | waitUntil (duration : Nat)
  | cleanupPolicyRevision
  | plane (c : PlaneCall)
  | store (c : StoreCall)
  /-- The store draws the token it may need. -/
  | prune (now : Nat) (policy : RetentionPolicy)
  | tasks (c : TaskCall)
  | sessionOwners (c : SessionOwnerCall)
  | workerFinished
  | joinWorker
  | spawnWorker (frozen : FrozenCleanup)
  /-- The flag of the worker. -/
  | cancelled
  | signalExact (identity : ProcessIdentity) (signal : CleanupSignal)
  | removeArtifactExact (artifact : FrozenRuntimeArtifact)
  /-- A call of the executor that no gate stands before. -/
  | cleanup (c : Call)

/-- What each call may be answered with. -/
abbrev EngineAnswer : EngineCall → Type
  | .shouldStop | .workerFinished | .cancelled => Bool
  | .snapshot => Except RuntimeFailure Snapshot
  | .clockSample => Except RuntimeFailure RuntimeClockSample
  | .lookupProcess _ => Except RuntimeFailure (Option ProcessRecord)
  | .waitUntil _ => Except RuntimeFailure WaitOutcome
  | .cleanupPolicyRevision => Nat
  | .plane _ => Except ControlError FoundPlane
  | .store _ => Except StoreError Store
  | .prune _ _ => Except StoreError (Store × NamespaceToken)
  | .tasks _ => Except StoreError TaskTables
  | .sessionOwners _ => Except StoreError SessionOwnerTables
  -- nothing where the thread panicked
  | .joinWorker => Option CleanupCompletion
  | .spawnWorker _ => Except String Unit
  | .signalExact _ _ => Delivery SignalDisposition
  | .removeArtifactExact _ => Delivery ArtifactDisposition
  | .cleanup c => Answer c

/-- Programs of the engine. -/
abbrev EngineM := Prog EngineAnswer EngineError

/-- One call of the engine and its answer. -/
abbrev EngineEvent := Event EngineAnswer

/-- What a run of the engine did. -/
abbrev EngineTrace := Trace EngineAnswer

/-! ## Calls with their errors -/

namespace FoundPlane

/-- The attempt a gated call opens. -/
def beginCleanupAttemptIfArmed (f : FoundPlane) (now : Nat) (report : IncidentReport)
    (enforcementEpoch : String) (frozenPolicyRevision : Nat) :
    Except ControlError (Option CleanupAttemptHandle) :=
  match f.fault with
  | some e =>
      if f.service.plane.actionGateClosed enforcementEpoch frozenPolicyRevision then .ok none
      else .error (mapStoreError e)
  | none =>
      (f.service.plane.beginCleanupAttemptIfArmed now report enforcementEpoch
        frozenPolicyRevision).map Prod.snd

/-- The status as a call of it returns it: without the projections there
is none. -/
def statusOf (f : FoundPlane) : Except ControlError ServiceStatus := do
  let _ ← (faulted f.fault (f.service.store.attentionProjection maxStatusAttentionItems)).mapError
    mapStoreError
  return f.service.status

/-- The roster is replaced by the active cycle only. -/
def publishRoster (f : FoundPlane) (cycleToken : String) : Except ControlError Unit :=
  require (f.service.roster.activeCycleToken = some cycleToken)
    (.unavailable "observation cycle token is no longer active")

/-- Is what was frozen under this authority refused? -/
def actionGateClosed (found : Except ControlError FoundPlane) (enforcementEpoch : String)
    (cleanupPolicyRevision : Nat) : Bool :=
  match found with
  | .error _ => true
  | .ok f => f.service.plane.actionGateClosed enforcementEpoch cleanupPolicyRevision

end FoundPlane

namespace ReconciliationEngine

/-- A call under the lock. -/
def onPlane (c : PlaneCall) : EngineM FoundPlane := do
  Prog.orThrow .control (← Prog.ask (EngineCall.plane c))

/-- A call of the store. -/
def onStore (c : StoreCall) : EngineM Store := do
  Prog.orThrow .store (← Prog.ask (EngineCall.store c))

/-- A call of the task registry. -/
def onTasks (c : TaskCall) : EngineM TaskTables := do
  Prog.orThrow .store (← Prog.ask (EngineCall.tasks c))

/-- A call of the session-owner registry. -/
def onSessionOwners (c : SessionOwnerCall) : EngineM SessionOwnerTables := do
  Prog.orThrow .store (← Prog.ask (EngineCall.sessionOwners c))

/-- An operation of the store, for its success. -/
def perform (op : StoreOp) : EngineM Unit := do
  let s ← onStore (.perform op)
  let _ ← Prog.orThrow .store (s.perform op)
  return ()

/-- A snapshot of the engine's own runtime. -/
def snapshot : EngineM Snapshot := do
  Prog.orThrow .runtime (← Prog.ask EngineCall.snapshot)

/-- A clock sample of it. -/
def clockSample : EngineM RuntimeClockSample := do
  Prog.orThrow .runtime (← Prog.ask EngineCall.clockSample)

/-- When something ended: not before it started. -/
def terminalTimestamp (startedAt : Nat) : EngineM Nat := do
  match ← Prog.ask EngineCall.clockSample with
  | .ok sample => return max sample.wallUnixMillis startedAt
  | .error _ => return startedAt

/-- The status, after a pause that is over. -/
def statusAt (now : Nat) : EngineM ServiceStatus := do
  let f ← onPlane (.expirePause now)
  let _ ← Prog.orThrow .control (f.service.expirePause now f.fault)
  let f ← onPlane .status
  Prog.orThrow .control f.statusOf

/-- Fail closed, from a line of the engine. -/
def failClosed (now : Nat) (message : String) (sourceLine : Nat) :
    EngineM (Except ControlError Unit) := do
  match ← Prog.ask (EngineCall.plane (.failClosed now message sourceLine)) with
  | .error e => return .error e
  | .ok f =>
      return (f.service.failClosed now message "crates/unlinger-daemon/src/engine.rs" sourceLine
        f.fault).2

/-! ## The cleanup -/

/-- What the gate lets through: nothing on a poisoned lock, and nothing of
a worker that is cancelled. -/
def deliver {δ : Type} (d : Delivery δ) (enforcementEpoch : String) (cleanupPolicyRevision : Nat)
    (onWorker : Bool) (refused : δ) : δ :=
  if FoundPlane.actionGateClosed d.found enforcementEpoch cleanupPolicyRevision then refused
  else if onWorker && d.cancelled then refused
  else d.native

/-- Is the cleanup to stop? One on a worker has a flag, and no stop
callback. -/
def stopRequested (onWorker : Bool) : EngineM Bool :=
  if onWorker then Prog.ask EngineCall.cancelled else Prog.ask EngineCall.shouldStop

/-- A call of the executor through the gated runtime. -/
def gatedCall (frozen : FrozenCleanup) (onWorker : Bool) : (c : Call) → EngineM (Answer c)
  | .shouldStop => do
      if ← stopRequested onWorker then return true
      else
        let found ← Prog.ask (EngineCall.plane .actionGate)
        return FoundPlane.actionGateClosed found frozen.enforcementEpoch
          frozen.cleanupPolicyRevision
  | .signalExact identity signal => do
      let d ← Prog.ask (EngineCall.signalExact identity signal)
      return deliver d frozen.enforcementEpoch frozen.cleanupPolicyRevision onWorker
        .cancelledBeforeDelivery
  | .removeArtifactExact artifact => do
      let d ← Prog.ask (EngineCall.removeArtifactExact artifact)
      return deliver d frozen.enforcementEpoch frozen.cleanupPolicyRevision onWorker
        .cancelledBeforeDelivery
  | .revalidate snapshot plan phase => return frozen.analyzer.revalidate snapshot plan phase
  | .snapshot => Prog.ask (EngineCall.cleanup .snapshot)
  | .lookupProcess pid => Prog.ask (EngineCall.cleanup (.lookupProcess pid))
  | .clockSample => Prog.ask (EngineCall.cleanup .clockSample)
  | .waitUntil duration => Prog.ask (EngineCall.cleanup (.waitUntil duration))
  | .freezeArtifact candidate => Prog.ask (EngineCall.cleanup (.freezeArtifact candidate))
  | .prepareAction intent at_ => Prog.ask (EngineCall.cleanup (.prepareAction intent at_))
  | .completeAction id disposition at_ =>
      Prog.ask (EngineCall.cleanup (.completeAction id disposition at_))
  | .prepareArtifactAction intent at_ =>
      Prog.ask (EngineCall.cleanup (.prepareArtifactAction intent at_))
  | .completeArtifactAction id disposition at_ =>
      Prog.ask (EngineCall.cleanup (.completeArtifactAction id disposition at_))

/-- A receipt that is settled: it may fail the daemon closed, and a reclaim
is told in the status. -/
def settleReceipt (receipt : CleanupReceipt) : EngineM CleanupReceipt := do
  if receiptRequiresGlobalFailClose receipt then
    Prog.throw (.postDeliveryFailure receipt.incidentId)
  else if receipt.outcome.process = .cleared then
    let _ ← onStore .mostRecentReclaim
    let _ ← onPlane .noteMostRecentReclaim
    return receipt
  else return receipt

/-- A cleanup that failed: its attempt ends with the receipt the error
carries, or stays open and the daemon fails closed. -/
def settleError (frozen : FrozenCleanup) (completedAt : Nat) (error : CleanupError) :
    EngineM Unit := do
  match error.terminalReceipt with
  | some receipt => perform (.completeCleanupAttempt frozen.attempt completedAt receipt)
  | none => Prog.orThrow .control (← failClosed completedAt error.text 787)

/-- **Execute a frozen cleanup, and settle its attempt.** -/
def executeCleanup (frozen : FrozenCleanup) (onWorker : Bool) : EngineM CleanupReceipt := do
  let execution ← (execute frozen.plan frozen.policy).handle (gatedCall frozen onWorker)
  let completedAt ← terminalTimestamp frozen.startedAtUnixMillis
  match execution with
  | .ok receipt =>
      let op := StoreOp.completeCleanupAttempt frozen.attempt completedAt receipt
      let s ← onStore (.perform op)
      let (_, receipt) ← Prog.orThrow .store
        (s.completeCleanupAttempt frozen.attempt completedAt receipt)
      settleReceipt receipt
  | .error error =>
      settleError frozen completedAt error
      Prog.throw (.cleanup error)

/-- Has the worker ended, or is its end waited for? -/
def workerEnded (wait : Bool) : EngineM Bool :=
  if wait then pure true else Prog.ask EngineCall.workerFinished

/-- Take the worker's end over, where it has ended. One that failed fails
the daemon closed, and what it left open is recovered now that it is
gone. -/
def collectBackgroundCleanup (worker : Option BackgroundCleanup) (wait : Bool) :
    EngineM (Option CleanupReceipt × Option BackgroundCleanup) := do
  match worker with
  | none => return (none, none)
  | some w =>
      if ← workerEnded wait then
        let completion := (← Prog.ask EngineCall.joinWorker).getD
          ⟨w.startedAtUnixMillis, .error (.worker "thread panicked")⟩
        match completion.result with
        | .ok receipt => return (some receipt, none)
        | .error error =>
            let _ ← failClosed completion.completedAtUnixMillis error.text 194
            perform (.recoverIncompleteAttempts completion.completedAtUnixMillis)
            Prog.throw error
      else return (none, some w)

/-! ## Ownership -/

/-- The owner is not the process of its pid any more; a lookup that fails
proves nothing. -/
def ownerIsAbsent (owner : TaskOwnerIdentity) : EngineM Bool := do
  match ← Prog.ask (EngineCall.lookupProcess owner.pid) with
  | .ok none => return true
  | .ok (some p) => return !owner.matches p
  | .error _ => return false

/-- Why an absent owner's lease is released. -/
def absentReason (owner : Option TaskOwnerIdentity) : String :=
  if owner.isSome then "owner_disappeared" else "never_started"

/-- Release the tasks of absent owners. -/
def releaseAbsentTaskOwners : List TaskScope → EngineM Unit
  | [] => return ()
  | scope :: scopes => do
      if scope.releasedAtMicros.isSome then releaseAbsentTaskOwners scopes
      else
        if ← ownerIsAbsent (scope.owner.getD scope.registrar) then
          let sample ← clockSample
          let t ← onTasks (.release scope.taskId sample.wallUnixMillis (absentReason scope.owner)
            scope.owner)
          let _ ← Prog.orThrow .store (t.releaseTask scope.taskId sample.wallUnixMillis
            (absentReason scope.owner) scope.owner)
          releaseAbsentTaskOwners scopes
        else releaseAbsentTaskOwners scopes

/-- Release the leases of absent session owners. -/
def releaseAbsentSessionOwners : List SessionOwnerScope → EngineM Unit
  | [] => return ()
  | scope :: scopes => do
      if scope.releasedAtMicros.isSome then releaseAbsentSessionOwners scopes
      else
        if ← ownerIsAbsent (scope.owner.getD scope.registrar) then
          let sample ← clockSample
          let t ← onSessionOwners (.release scope.leaseId sample.wallUnixMillis
            (absentReason scope.owner) scope.owner)
          let _ ← Prog.orThrow .store (t.releaseSessionOwner scope.leaseId sample.wallUnixMillis
            (absentReason scope.owner) scope.owner)
          releaseAbsentSessionOwners scopes
        else releaseAbsentSessionOwners scopes

/-- Delete leases, one after the other. -/
def deleteLeases : List SessionOwnerScope → EngineM Unit
  | [] => return ()
  | scope :: scopes => do
      let _ ← onSessionOwners (.deleteLease scope.leaseId)
      deleteLeases scopes

/-- Prune the leases, as they are read for it. -/
def pruneSessionOwnerLeases (snapshot : Snapshot) : EngineM Unit := do
  if snapshot.provesCompleteExactIdentityCoverage then
    let t ← onSessionOwners .scopes
    deleteLeases (t.sessionOwnerScopes.filter (SessionOwnerTables.expiredScope snapshot))
  else return ()

/-- Bind the controllers of a snapshot to the newest leases, as they were
read for it, and prune. -/
def bindSessionOwnerControllers (snapshot : Snapshot) : EngineM Unit := do
  let t ← onSessionOwners .scopes
  let scopes := t.currentSessionOwnerScopes
  let t ← onSessionOwners (.insertControllers scopes snapshot)
  let _ ← Prog.orThrow .store (t.insertControllers scopes snapshot)
  pruneSessionOwnerLeases snapshot

/-- Bring both registries up to the snapshot. -/
def refreshTaskOwnership (snapshot : Snapshot) : EngineM Unit := do
  let t ← onTasks .scopes
  releaseAbsentTaskOwners t.taskScopes
  let t ← onTasks (.bindControllers snapshot)
  let _ ← Prog.orThrow .store (t.bindTaskControllers snapshot)
  let t ← onSessionOwners .scopes
  releaseAbsentSessionOwners t.sessionOwnerScopes
  bindSessionOwnerControllers snapshot

variable (e : ReconciliationEngine)

/-- The analyzer over what the registries say. -/
def analyzerOver (g : ProcessGraph) (tasks : TaskTables) (owners : SessionOwnerTables) :
    Analyzer where
  rules := e.rules
  context :=
    { selfPid := e.selfPid
      ancestorPids := (e.selfPid.map g.ancestorPids).getD []
      taskControllers := tasks.taskControllerBindings
      sessionOwners := owners.sessionOwnerBindings }

/-- The analyzer of a cycle. -/
def analyzerFor (snapshot : Snapshot) : EngineM Analyzer := do
  let g ← Prog.orThrow .graph (ProcessGraph.fromSnapshot snapshot)
  let tasks ← onTasks .bindings
  let owners ← onSessionOwners .bindings
  return e.analyzerOver g tasks owners

/-! ## Observing -/

/-- Track the reports that cool, one after the other: the keys of those
that have cooled for the grace. -/
def trackCooling (clock : CoolingClock) (grace gap : Nat) :
    List IncidentReport → EngineM (List String)
  | [] => return []
  | report :: reports =>
      if report.state = .cooling then do
        let s ← onStore (.perform (.trackCooling report clock grace gap))
        let (_, lasted) ← Prog.orThrow .store (s.trackCooling report clock grace gap)
        let keys ← trackCooling clock grace gap reports
        return if lasted then report.trackingKey :: keys else keys
      else trackCooling clock grace gap reports

/-- What a cycle goes on with when it has observed. -/
structure Observation where
  incidents : List IncidentReport
  observedTwice : Bool
  latestSnapshot : Snapshot
  observedAtUnixMillis : Nat

/-- The second observation, and what the two agree on. -/
def observeAgain (analyzer : Analyzer) (epoch : String) (grace gap : Nat)
    (firstReports : List IncidentReport) : EngineM Observation := do
  let second ← snapshot
  let clock := coolingClock (← clockSample) epoch
  let secondReports ← Prog.orThrow .rules (analyzer.observe second)
  let confirmed ← trackCooling clock grace gap secondReports
  perform (.retainCooling
    ((secondReports.filter fun r => r.state == .cooling).map IncidentReport.trackingKey))
  return ⟨reconcileWithAbandonment firstReports secondReports confirmed, true, second,
    clock.wallUnixMillis⟩

/-- Observe, and again where something cools and the wait is not
interrupted. -/
def observe (analyzer : Analyzer) (epoch : String) (first : Snapshot) (clock : CoolingClock) :
    EngineM Observation := do
  let firstReports ← Prog.orThrow .rules (analyzer.observe first)
  let grace ← Prog.orThrow id (durationMillis e.config.abandonmentGrace)
  let gap ← Prog.orThrow id (durationMillis e.config.coolingContinuityGap)
  let _ ← trackCooling clock grace gap firstReports
  if firstReports.any fun r => r.state == .cooling then
    let waited ← Prog.ask (EngineCall.waitUntil e.config.observationGap)
    match ← Prog.orThrow .runtime waited with
    | .interrupted => return ⟨firstReports, false, first, clock.wallUnixMillis⟩
    | .deadlineReached => observeAgain analyzer epoch grace gap firstReports
  else
    perform (.retainCooling [])
    return ⟨firstReports, false, first, clock.wallUnixMillis⟩

/-- The retry blocks and the protections, reconciled with an
observation. -/
def reconcileStore (now : Nat) (o : Observation) : EngineM Unit := do
  let view : CycleView :=
    ⟨o.incidents.map .of, exactLiveIdentityFingerprints o.latestSnapshot,
      o.latestSnapshot.provesCompleteExactIdentityCoverage⟩
  let retention ← Prog.orThrow id (durationMillis e.config.exactAbsenceRetention)
  perform (.reconcileRetryBlocks view now retention)
  perform (.reconcileIncidentProtections view now retention)

/-- Mark the incidents their owner protects. -/
def applyProtections : List IncidentReport → EngineM (List IncidentReport)
  | [] => return []
  | report :: reports => do
      let s ← onStore (.isIncidentProtected report)
      let report := if s.isIncidentProtected report then applyOwnerProtection report else report
      let reports ← applyProtections reports
      return report :: reports

/-! ## Dispatch -/

/-- What a cycle froze for its cleanups. -/
structure Frozen where
  analyzer : Analyzer
  enforcementEpoch : String
  cleanupPolicyRevision : Nat

/-- Run an attempt that was opened: on a worker, after which the cycle
starts no other, or here. -/
def runAttempt (now : Nat) (cycleToken : String) (f : FrozenCleanup) :
    EngineM (Option CleanupReceipt) := do
  if e.backgroundCleanup then
    match ← Prog.ask (EngineCall.spawnWorker f) with
    | .ok () => return none
    | .error message =>
        -- the thread that did not start drops the activity
        let _ ← Prog.ask (EngineCall.plane (.dropProcessCleanupActivity cycleToken))
        Prog.orThrow .control (← failClosed now message 602)
        perform (.recoverIncompleteAttempts now)
        Prog.throw (.worker message)
  else
    let result ← (executeCleanup f false).attempt
    let _ ← Prog.ask (EngineCall.plane (.dropProcessCleanupActivity cycleToken))
    let receipt ← Prog.orThrow id result
    return some receipt

/-- Clean the confirmed incidents up, one after the other. -/
def dispatch (now : Nat) (cycleToken : String) (f : Frozen) :
    List IncidentReport → List CleanupReceipt → EngineM (List CleanupReceipt)
  | [], receipts => return receipts
  | report :: reports, receipts =>
      if report.state ≠ .confirmed then dispatch now cycleToken f reports receipts
      else do
        if ← Prog.ask EngineCall.shouldStop then return receipts
        let s ← onStore (.cleanupBlocked report.incidentId)
        if s.cleanupBlocked report.incidentId then dispatch now cycleToken f reports receipts
        else
          let plan ← Prog.orThrow .plan (CleanupPlan.fromConfirmed report)
          let found ← onPlane (.beginCleanupAttemptIfArmed now report f.enforcementEpoch
            f.cleanupPolicyRevision)
          match ← Prog.orThrow .control (found.beginCleanupAttemptIfArmed now report
              f.enforcementEpoch f.cleanupPolicyRevision) with
          | none => return receipts
          | some attempt =>
              let found ← onPlane (.beginProcessCleanupActivity cycleToken)
              let _ ← Prog.orThrow .control (found.service.beginProcessCleanupActivity cycleToken)
              let frozen : FrozenCleanup :=
                ⟨f.analyzer, attempt, plan, e.config.cleanupPolicy, f.enforcementEpoch,
                  f.cleanupPolicyRevision, now⟩
              match ← e.runAttempt now cycleToken frozen with
              | none => return receipts
              | some receipt => dispatch now cycleToken f reports (receipts ++ [receipt])

/-- Clean up, where the cycle may. -/
def dispatchIf (may : Bool) (now : Nat) (cycleToken : String) (f : Frozen)
    (incidents : List IncidentReport) (receipts : List CleanupReceipt) :
    EngineM (List CleanupReceipt) :=
  if may then e.dispatch now cycleToken f incidents receipts else return receipts

/-- Does the lifecycle the cycle started under still authorize a cleanup?
The revision is read only where everything else does. -/
def stillAuthorized (lifecycle : ServiceStatus) (epoch : String) (revision now : Nat) :
    EngineM Bool := do
  let status ← statusAt now
  let paused := status.pausedUntilUnixMillis.any fun deadline => decide (now < deadline)
  if lifecycle.effectiveMode = .enforce ∧ lifecycle.enforcementEpoch = some epoch
      ∧ status.effectiveMode = .enforce ∧ status.enforcementEpoch = some epoch then
    let current ← Prog.ask EngineCall.cleanupPolicyRevision
    return decide (current = revision) && !paused
  else return false

/-- May the cycle clean up? Not while it holds a worker. -/
def mayDispatch (authorized : Bool) (worker : Option BackgroundCleanup) : EngineM Bool := do
  if authorized then
    let stopped ← Prog.ask EngineCall.shouldStop
    return !stopped && worker.isNone
  else return false

/-! ## The cycle -/

/-- What a cycle tells the status of its incidents. -/
def noteIncidents (incidents : List IncidentReport) (receipts : List CleanupReceipt) :
    EngineM Unit := do
  let attempted := receipts.map CleanupReceipt.incidentId
  let confirmed := incidents.countP fun r =>
    r.state == .confirmed && !attempted.contains r.incidentId
  let _ ← onPlane (.noteIncidents confirmed (incidents.countP fun r => r.state == .ambiguous))
  return ()

/-- Prune what the policy does not keep. -/
def prune (now : Nat) : EngineM Unit := do
  let pruned ← Prog.ask (EngineCall.prune now e.config.retentionPolicy)
  let (s, fresh) ← Prog.orThrow .store pruned
  let _ ← Prog.orThrow .store (s.prune now e.config.retentionPolicy fresh)
  return ()

/-- Record what was observed, and publish it. -/
def publish (cycleToken : String) (o : Observation) (incidents : List IncidentReport) :
    EngineM Unit := do
  perform (.recordObservationBatch o.observedAtUnixMillis incidents)
  let found ← onPlane (.publishRoster cycleToken o.observedAtUnixMillis incidents
    o.latestSnapshot.provesCompleteClassificationCoverage)
  Prog.orThrow .control (found.publishRoster cycleToken)

/-- The cycle between its two ends. -/
def runCycleInner (now : Nat) (cycleToken : String) : EngineM CycleReport := do
  let (collected, worker) ← collectBackgroundCleanup e.worker false
  let lifecycle ← statusAt now
  let revision ← Prog.ask EngineCall.cleanupPolicyRevision
  let epoch := lifecycle.enforcementEpoch.getD "disarmed"
  let first ← snapshot
  refreshTaskOwnership first
  let clock := coolingClock (← clockSample) epoch
  let analyzer ← e.analyzerFor first
  let o ← e.observe analyzer epoch first clock
  e.reconcileStore now o
  let incidents ← applyProtections o.incidents
  publish cycleToken o incidents
  let authorized ← stillAuthorized lifecycle epoch revision now
  let receipts ←
    e.dispatchIf (← mayDispatch authorized worker) now cycleToken ⟨analyzer, epoch, revision⟩
      incidents collected.toList
  noteIncidents incidents receipts
  e.prune now
  return ⟨1, o.observedTwice, incidents, receipts⟩

/-- **A cycle.** `enforcementEpoch` is the text drawn for a daemon that the
cycle makes ready. -/
def runCycleAtUntil (now : Nat) (cycleToken enforcementEpoch : String) : EngineM CycleReport := do
  let _ ← onPlane (.beginObservationCycle cycleToken now)
  match ← (e.runCycleInner now cycleToken).attempt with
  | .ok report =>
      let completedAt ← terminalTimestamp now
      let _ ← Prog.ask (EngineCall.plane (.finishObservationCycle cycleToken true))
      let _ ← onPlane (.noteCycleSucceeded completedAt)
      let found ← onPlane (.completeSuccessfulCycle completedAt)
      Prog.orThrow .control
        (found.service.completeSuccessfulCycle completedAt enforcementEpoch found.fault
          found.laterFault).2
      return report
  | .error error =>
      let failedAt ← terminalTimestamp now
      let _ ← Prog.ask (EngineCall.plane (.finishObservationCycle cycleToken false))
      let _ ← failClosed failedAt error.text 361
      let _ ← Prog.ask (EngineCall.plane (.noteCycleFailed error.text))
      Prog.throw error

end ReconciliationEngine

end Unlinger
