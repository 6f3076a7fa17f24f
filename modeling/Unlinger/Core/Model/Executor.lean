import Unlinger.Common.Interaction
import Unlinger.Core.Model.Cleanup

/-!
# The cleanup executor

`CleanupExecutor::execute` of `unlinger-core/src/cleanup.rs`, as a
program calling the runtime, the revalidator, the journal and the stop
callback. None of them is modelled: every call may be answered by
anything, so what holds of every run holds of every runtime, revalidator,
journal and callback, failing or not, stateful or not. `wait_until` hands
the stop callback to the runtime; the polls made in there are the
runtime's, and only show in what it answers.

The source is one function; here each of its stages is a definition of
its own. A stage either ends the cleanup with a receipt (`Flow.done`) or
hands on what the next one needs.
-/

namespace Unlinger

open Interaction

/-- What a failing call of the runtime or the journal says. -/
structure RuntimeFailure where
  message : String
  deriving DecidableEq

/-- The part of a clock sample the executor reads. -/
structure ClockSample where
  wallUnixMillis : Nat
  deriving DecidableEq

/-- How a wait ended. -/
inductive WaitOutcome
  | deadlineReached
  | interrupted
  deriving DecidableEq

/-- What a revalidation is asked for. -/
inductive RevalidationPhase
  | beforeSignal
  | revivalCheck
  deriving DecidableEq

/-- What a revalidation answers. -/
inductive RevalidationStatus
  | eligible
  | gone
  | blocked
  | revived
  deriving DecidableEq

/-- A revalidation with its reason. -/
structure Revalidation where
  status : RevalidationStatus
  reasonId : String
  deriving DecidableEq

/-- How a cleanup fails: terminally, or with an action still open. -/
inductive CleanupError
  | runtime (error : RuntimeFailure) (terminalReceipt : CleanupReceipt)
  | attemptOpen (error : RuntimeFailure) (partialReceipt : CleanupReceipt)
      (preparedActionId : String)
  deriving DecidableEq

/-- The receipt an error carries, terminal or partial. -/
def CleanupError.partialReceipt : CleanupError → CleanupReceipt
  | .runtime _ r => r
  | .attemptOpen _ r _ => r

/-- The calls the executor makes. -/
inductive Call
  | shouldStop
  | snapshot
  | lookupProcess (pid : Pid)
  | clockSample
  | signalExact (identity : ProcessIdentity) (signal : CleanupSignal)
  | waitUntil (duration : Nat)
  | freezeArtifact (candidate : RuntimeArtifactCandidate)
  | removeArtifactExact (artifact : FrozenRuntimeArtifact)
  | revalidate (snapshot : Snapshot) (plan : CleanupPlan) (phase : RevalidationPhase)
  | prepareAction (intent : CleanupActionIntent) (preparedAt : Nat)
  | completeAction (actionId : String) (disposition : SignalDisposition) (completedAt : Nat)
  | prepareArtifactAction (intent : ArtifactActionIntent) (preparedAt : Nat)
  | completeArtifactAction (actionId : String) (disposition : ArtifactDisposition)
      (completedAt : Nat)

/-- What each call may be answered with. -/
abbrev Answer : Call → Type
  | .shouldStop => Bool
  | .snapshot => Except RuntimeFailure Snapshot
  | .lookupProcess _ => Except RuntimeFailure (Option ProcessRecord)
  | .clockSample => Except RuntimeFailure ClockSample
  | .signalExact _ _ => SignalDisposition
  | .waitUntil _ => Except RuntimeFailure WaitOutcome
  | .freezeArtifact _ => Except RuntimeFailure ArtifactFreeze
  | .removeArtifactExact _ => ArtifactDisposition
  | .revalidate _ _ _ => Revalidation
  | .prepareAction _ _ => Except RuntimeFailure String
  | .completeAction _ _ _ => Except RuntimeFailure Unit
  | .prepareArtifactAction _ _ => Except RuntimeFailure String
  | .completeArtifactAction _ _ _ => Except RuntimeFailure Unit

/-- Programs of the executor. -/
abbrev ExecM := Prog Answer CleanupError

/-- The frozen targets still alive, by pid. -/
abbrev Survivors := OrdMap Pid ProcessIdentity

/-- A stage ends the cleanup, or the next one goes on. -/
inductive Flow (α : Type)
  | done (receipt : CleanupReceipt)
  | next (value : α)

/-! ## Receipts -/

/-- End a receipt as failed. -/
def fail (receipt : CleanupReceipt) (reason : String) (survivors : List Pid) : CleanupReceipt :=
  { receipt with
    state := .failed
    reasonId := some reason
    survivorPids := (survivors.insertionSort (· ≤ ·)).dedup }

/-- The error of a failing call outside an open action. -/
def terminalRuntimeError (receipt : CleanupReceipt) (error : RuntimeFailure) : CleanupError :=
  .runtime error
    { receipt with state := .failed, reasonId := some "cleanup.runtime_failure" }

/-- The error of a failing call between an action's two journal rows. -/
def attemptOpenError (receipt : CleanupReceipt) (actionId : String) (error : RuntimeFailure) :
    CleanupError :=
  .attemptOpen error receipt actionId

/-- The plan's targets in a snapshot, counted and weighed; the sum
saturates at `u64::MAX`. -/
def resourceSnapshot (snapshot : Snapshot) (plan : CleanupPlan) : ResourceSnapshot :=
  let identities := OrdMap.ofList (plan.targets.map fun t => (t.identity.pid, t.identity))
  -- a process that took over a target's pid is not counted
  let matching := snapshot.processes.filter fun p =>
    match identities.lookup p.pid with
    | some identity => identity.exactMatch p.identity
    | none => false
  ⟨matching.length,
    matching.foldl (fun sum p => min (sum + p.residentMemoryBytes) (2 ^ 64 - 1)) 0⟩

/-- Record the resources left, and what the difference estimates. -/
def setResourceAfter (receipt : CleanupReceipt) (after : ResourceSnapshot) : CleanupReceipt :=
  { receipt with
    resources := { receipt.resources with
      estimatedReclaimedMemoryBytes := receipt.resources.before.bind fun before =>
        -- `checked_sub`: a tree that grew gives no estimate
        if after.residentMemoryBytes ≤ before.residentMemoryBytes then
          some (before.residentMemoryBytes - after.residentMemoryBytes)
        else none
      after := some after } }

/-! ## Calls with their errors -/

/-- A snapshot, or the terminal error of the receipt. -/
def snapshotOrReceiptError (receipt : CleanupReceipt) : ExecM Snapshot := do
  let r ← Prog.ask Call.snapshot
  Prog.orThrow (terminalRuntimeError receipt) r

/-- Wait, polling the stop callback on both sides. -/
def waitInterrupted (duration : Nat) (receipt : CleanupReceipt) : ExecM Bool := do
  if (← Prog.ask Call.shouldStop) then return true
  match ← Prog.ask (Call.waitUntil duration) with
  | .ok .deadlineReached => Prog.ask Call.shouldStop
  | .ok .interrupted => return true
  | .error e => Prog.throw (terminalRuntimeError receipt e)

/-! ## Exact liveness -/

/-- What one observation says of the frozen targets. -/
structure ExactTargetLiveness where
  survivors : Survivors
  missingLiveTargets : List Pid

/-- Look for each target in the table, and for those the table omits ask
the runtime. -/
def observeTargets (byPid : OrdMap Pid ProcessRecord) :
    List ProcessTarget → ExactTargetLiveness → ExecM (Except String ExactTargetLiveness)
  | [], seen => return .ok seen
  | t :: ts, seen => do
      let observed : Except String (Option ProcessRecord × Bool) ←
        match byPid.lookup t.identity.pid with
        | some p => pure (.ok (some p, false))
        | none => do
            -- a snapshot may omit a live process; only the runtime can tell
            match ← Prog.ask (Call.lookupProcess t.identity.pid) with
            | .ok p => pure (.ok (p, true))
            | .error _ => pure (.error "cleanup.target_lookup_incomplete")
      match observed with
      | .error reason => return .error reason
      | .ok (none, _) => observeTargets byPid ts seen
      | .ok (some p, missing) =>
          if !t.identity.exactMatch p.identity then return .error "cleanup.identity_changed"
          else
            observeTargets byPid ts
              { survivors := seen.survivors.insert t.identity.pid p.identity
                missingLiveTargets :=
                  if missing then seen.missingLiveTargets ++ [t.identity.pid]
                  else seen.missingLiveTargets }

/-- The frozen targets alive in a snapshot, exactly. -/
def observeExactTargetLiveness (snapshot : Snapshot) (plan : CleanupPlan) :
    ExecM (Except String ExactTargetLiveness) :=
  observeTargets snapshot.byPid plan.targets ⟨OrdMap.empty, []⟩

/-- May the survivors of a snapshot be signalled? -/
def validateStage (snapshot : Snapshot) (plan : CleanupPlan) : ExecM (Except String Survivors) := do
  match ← observeExactTargetLiveness snapshot plan with
  | .error reason => return .error reason
  | .ok observation =>
      if !observation.missingLiveTargets.isEmpty then
        return .error "cleanup.snapshot_target_inconsistent"
      -- the revalidator is not asked about a tree that is gone
      if observation.survivors.isEmpty then return .ok observation.survivors
      let validation ← Prog.ask (Call.revalidate snapshot plan .beforeSignal)
      match validation.status with
      | .eligible => return .ok observation.survivors
      | .gone => return .error "cleanup.revalidator_gone_with_survivors"
      | .blocked | .revived => return .error validation.reasonId

/-! ## One signal -/

/-- Journal an action's disposition and put it on the receipt. -/
def completePrepared (receipt : CleanupReceipt) (intent : CleanupActionIntent) (actionId : String)
    (disposition : SignalDisposition) : ExecM CleanupReceipt := do
  let completedAt ← Prog.orThrow (attemptOpenError receipt actionId) (← Prog.ask Call.clockSample)
  let r ← Prog.ask (Call.completeAction actionId disposition completedAt.wallUnixMillis)
  Prog.orThrow (attemptOpenError receipt actionId) r
  return { receipt with actions := receipt.actions ++ [intent.completed disposition] }

/-- The reason a disposition stops the cleanup for, if it does. -/
def signalStopReason : SignalDisposition → Option String
  | .delivered | .alreadyExited => none
  | .identityMismatch => some "cleanup.signal_identity_mismatch"
  | .rejected => some "cleanup.signal_rejected"
  | .cancelledBeforeDelivery => some "cleanup.drain_requested"
  | .deliveryUnknown => some "cleanup.delivery_unknown"

/-- The intent journalled for signalling a target. -/
def signalIntent (target : ProcessTarget) (stage : CleanupStage) (signal : CleanupSignal) :
    CleanupActionIntent :=
  ⟨stage, target.identity.pid, fingerprintProcessIdentity target.identity, signal⟩

/-- The second half of a signal, its action prepared: poll, observe and
revalidate afresh, poll, deliver, complete. -/
def signalPrepared (plan : CleanupPlan) (receipt : CleanupReceipt) (target : ProcessTarget)
    (intent : CleanupActionIntent) (actionId : String) (cleanupSignal : CleanupSignal) :
    ExecM (Option String × CleanupReceipt) := do
  if (← Prog.ask Call.shouldStop) then
    let receipt ← completePrepared receipt intent actionId .cancelledBeforeDelivery
    return (some "cleanup.drain_requested", receipt)
  match ← Prog.ask Call.snapshot with
  | .error e =>
      -- the row is closed before the error ends the cleanup
      let receipt ← completePrepared receipt intent actionId .cancelledBeforeDelivery
      Prog.throw (terminalRuntimeError receipt e)
  | .ok snapshot =>
      match ← validateStage snapshot plan with
      | .error reason =>
          let disposition : SignalDisposition :=
            if reason = "cleanup.identity_changed" then .identityMismatch else .rejected
          let receipt ← completePrepared receipt intent actionId disposition
          return (some reason, receipt)
      | .ok exact =>
          if !exact.contains target.identity.pid then
            -- it exited between the stage and its signal
            let receipt ← completePrepared receipt intent actionId .alreadyExited
            return (none, receipt)
          if (← Prog.ask Call.shouldStop) then
            let receipt ← completePrepared receipt intent actionId .cancelledBeforeDelivery
            return (some "cleanup.drain_requested", receipt)
          let disposition ← Prog.ask (Call.signalExact target.identity cleanupSignal)
          let receipt ← completePrepared receipt intent actionId disposition
          return (signalStopReason disposition, receipt)

/-- Signal one target: poll, prepare the action, and go on with it. The
reason returned, if any, stops the cleanup. -/
def signal (plan : CleanupPlan) (receipt : CleanupReceipt) (target : ProcessTarget)
    (stage : CleanupStage) (cleanupSignal : CleanupSignal) :
    ExecM (Option String × CleanupReceipt) := do
  let intent := signalIntent target stage cleanupSignal
  if (← Prog.ask Call.shouldStop) then return (some "cleanup.drain_requested", receipt)
  let preparedAt ← Prog.orThrow (terminalRuntimeError receipt) (← Prog.ask Call.clockSample)
  let prepared ← Prog.ask (Call.prepareAction intent preparedAt.wallUnixMillis)
  let actionId ← Prog.orThrow (terminalRuntimeError receipt) prepared
  signalPrepared plan receipt target intent actionId cleanupSignal

/-! ## The signal stages -/

/-- TERM the selected targets of the plan in order, remembering which
were attempted. -/
def termLoop (plan : CleanupPlan) (stage : CleanupStage)
    (selected : List Pid → ProcessTarget → Bool) :
    List ProcessTarget → CleanupReceipt → List Pid →
      ExecM (Except (String × CleanupReceipt) (CleanupReceipt × List Pid))
  | [], receipt, attempted => return .ok (receipt, attempted)
  | t :: ts, receipt, attempted =>
      if selected attempted t then do
        let (reason, receipt) ← signal plan receipt t stage .term
        match reason with
        | some reason => return .error (reason, receipt)
        | none => termLoop plan stage selected ts receipt (t.identity.pid :: attempted)
      else termLoop plan stage selected ts receipt attempted

/-- KILL every survivor of the plan in order; one that was not TERMed
stops the cleanup. -/
def killLoop (plan : CleanupPlan) (survivors : Survivors) (attempted : List Pid) :
    List ProcessTarget → CleanupReceipt → ExecM (Except (String × CleanupReceipt) CleanupReceipt)
  | [], receipt => return .ok receipt
  | t :: ts, receipt =>
      if survivors.contains t.identity.pid then
        if t.identity.pid ∉ attempted then return .error ("cleanup.kill_without_term", receipt)
        else do
          let (reason, receipt) ← signal plan receipt t .exactKill .kill
          match reason with
          | some reason => return .error (reason, receipt)
          | none => killLoop plan survivors attempted ts receipt
      else killLoop plan survivors attempted ts receipt

/-- What a TERM stage hands on. -/
structure StageState where
  receipt : CleanupReceipt
  survivors : Survivors
  termAttempted : List Pid

/-- One TERM stage: signal the selected survivors, wait out the grace,
observe and revalidate. Without survivors it does nothing. -/
def termStage (plan : CleanupPlan) (stage : CleanupStage) (grace : Nat)
    (selected : List Pid → ProcessTarget → Bool) (s : StageState) : ExecM (Flow StageState) :=
  if s.survivors.isEmpty then return .next s
  else do
    match ← termLoop plan stage selected plan.targets s.receipt s.termAttempted with
    | .error (reason, receipt) => return .done (fail receipt reason s.survivors.keys)
    | .ok (receipt, attempted) =>
        if (← waitInterrupted grace receipt) then
          return .done (fail receipt "cleanup.drain_requested" s.survivors.keys)
        let snapshot ← snapshotOrReceiptError receipt
        match ← validateStage snapshot plan with
        -- who survived is unknown here, so the receipt names nobody
        | .error reason => return .done (fail receipt reason [])
        | .ok survivors => return .next ⟨receipt, survivors, attempted⟩

/-- The primary targets among the survivors. -/
def primaryTermStage (plan : CleanupPlan) (policy : CleanupPolicy) (s : StageState) :
    ExecM (Flow StageState) :=
  let primaryPids := plan.primaryTargets.map fun t => t.identity.pid
  termStage plan .primaryTerm policy.primaryTermGrace
    (fun _ t => s.survivors.contains t.identity.pid && decide (t.identity.pid ∈ primaryPids)) s

/-- Every survivor not TERMed yet. -/
def memberTermStage (plan : CleanupPlan) (policy : CleanupPolicy) (s : StageState) :
    ExecM (Flow StageState) :=
  termStage plan .memberTerm policy.memberTermGrace
    (fun attempted t =>
      s.survivors.contains t.identity.pid && decide (t.identity.pid ∉ attempted)) s

/-- KILL what is left, and require that nothing is left. -/
def killStage (plan : CleanupPlan) (policy : CleanupPolicy) (s : StageState) :
    ExecM (Flow CleanupReceipt) :=
  if s.survivors.isEmpty then return .next s.receipt
  else do
    match ← killLoop plan s.survivors s.termAttempted plan.targets s.receipt with
    | .error (reason, receipt) => return .done (fail receipt reason s.survivors.keys)
    | .ok receipt =>
        if (← waitInterrupted policy.killGrace receipt) then
          return .done (fail receipt "cleanup.drain_requested" s.survivors.keys)
        let snapshot ← snapshotOrReceiptError receipt
        -- liveness alone: nothing more is signalled, so nobody is asked
        match ← observeExactTargetLiveness snapshot plan with
        | .error reason => return .done (fail receipt reason [])
        | .ok observation =>
            if !observation.survivors.isEmpty then
              return .done (fail receipt "cleanup.survivors_after_kill" observation.survivors.keys)
            return .next receipt

/-! ## Revival windows and the terminal proof -/

/-- Wait out every revival window; the snapshot of the last one that
answered Gone is handed on. -/
def revivalLoop (plan : CleanupPlan) :
    List Nat → CleanupReceipt → Option Snapshot → ExecM (Flow (CleanupReceipt × Option Snapshot))
  | [], receipt, terminal => return .next (receipt, terminal)
  | window :: windows, receipt, _ => do
      if (← waitInterrupted window receipt) then
        return .done (fail receipt "cleanup.drain_requested" [])
      let snapshot ← snapshotOrReceiptError receipt
      let receipt := { receipt with revivalChecksCompleted := receipt.revivalChecksCompleted + 1 }
      let validation ← Prog.ask (Call.revalidate snapshot plan .revivalCheck)
      match validation.status with
      | .gone => revivalLoop plan windows receipt (some snapshot)
      -- a tree that may be cleaned again is a tree that is back
      | .revived | .eligible =>
          return .done { setResourceAfter receipt (resourceSnapshot snapshot plan) with
            state := .revived, reasonId := some validation.reasonId }
      | .blocked =>
          return .done (fail (setResourceAfter receipt (resourceSnapshot snapshot plan))
            validation.reasonId [])

/-- Prove the tree gone at one snapshot: exact liveness first, then the
revalidator, then the survivors. -/
def proveGone (plan : CleanupPlan) (snapshot : Snapshot) (receipt : CleanupReceipt)
    (notGone : String) : ExecM (Flow CleanupReceipt) := do
  match ← observeExactTargetLiveness snapshot plan with
  | .error reason => return .done (fail receipt reason [])
  | .ok liveness =>
      let receipt := setResourceAfter receipt (resourceSnapshot snapshot plan)
      let validation ← Prog.ask (Call.revalidate snapshot plan .revivalCheck)
      match validation.status with
      | .revived | .eligible =>
          return .done { receipt with state := .revived, reasonId := some validation.reasonId }
      | .blocked => return .done (fail receipt validation.reasonId [])
      | .gone =>
          if !liveness.survivors.isEmpty then
            return .done (fail receipt notGone liveness.survivors.keys)
          return .next receipt

/-! ## Artifacts -/

/-- Freeze the plan's artifacts before anything is signalled. -/
def freezeArtifacts (receipt : CleanupReceipt) :
    List RuntimeArtifactCandidate → ExecM (List (RuntimeArtifactCandidate × ArtifactFreeze))
  | [] => return []
  | c :: cs => do
      let frozen ← Prog.orThrow (terminalRuntimeError receipt) (← Prog.ask (Call.freezeArtifact c))
      return (c, frozen) :: (← freezeArtifacts receipt cs)

/-- Journal an artifact action's disposition and put it on the receipt. -/
def completeArtifactPrepared (receipt : CleanupReceipt) (intent : ArtifactActionIntent)
    (actionId : String) (disposition : ArtifactDisposition) : ExecM CleanupReceipt := do
  let completedAt ← Prog.orThrow (attemptOpenError receipt actionId) (← Prog.ask Call.clockSample)
  let r ← Prog.ask (Call.completeArtifactAction actionId disposition completedAt.wallUnixMillis)
  Prog.orThrow (attemptOpenError receipt actionId) r
  return { receipt with artifactActions := receipt.artifactActions ++ [intent.completed disposition] }

/-- What an artifact that was absent at the freeze turned out to be. -/
def absentDisposition : ArtifactFreeze → ArtifactDisposition
  | .absent => .alreadyAbsent
  | .frozen _ => .identityMismatch
  | .unsafeArtifact => .unsafeArtifact

/-- An artifact absent at the freeze authorises no later removal: look
again before the action is prepared. -/
def revalidateAbsent (receipt : CleanupReceipt) (candidate : RuntimeArtifactCandidate) :
    ArtifactFreeze → ExecM (Option ArtifactFreeze)
  | .absent => do
      let r ← Prog.ask (Call.freezeArtifact candidate)
      some <$> Prog.orThrow (terminalRuntimeError receipt) r
  | .frozen _ | .unsafeArtifact => return none

/-- The effect of a prepared artifact action. -/
def deliverArtifact (frozen : ArtifactFreeze) (absentRevalidation : Option ArtifactFreeze) :
    ExecM ArtifactDisposition := do
  if (← Prog.ask Call.shouldStop) then return .cancelledBeforeDelivery
  match frozen, absentRevalidation with
  | .frozen artifact, _ => Prog.ask (Call.removeArtifactExact artifact)
  | .absent, some freeze => return absentDisposition freeze
  -- never taken: an absent artifact is always revalidated
  | .absent, none => return .unsafeArtifact
  | .unsafeArtifact, _ => return .unsafeArtifact

/-- Removal is not complete until the path is proved absent after it; a
replacement is left untouched. -/
def confirmRemoved (receipt : CleanupReceipt) (candidate : RuntimeArtifactCandidate)
    (disposition : ArtifactDisposition) : ExecM ArtifactDisposition := do
  if !disposition.completedCleanup then return disposition
  let finalFreeze ← Prog.orThrow (terminalRuntimeError receipt)
    (← Prog.ask (Call.freezeArtifact candidate))
  match finalFreeze with
  | .absent => return disposition
  | .frozen _ => return .identityMismatch
  | .unsafeArtifact => return .unsafeArtifact

/-- Remove one artifact, and prove its path absent afterwards. -/
def executeArtifactAction (receipt : CleanupReceipt) (candidate : RuntimeArtifactCandidate)
    (frozen : ArtifactFreeze) : ExecM (ArtifactDisposition × CleanupReceipt) := do
  let intent := candidate.intent
  if (← Prog.ask Call.shouldStop) then return (.cancelledBeforeDelivery, receipt)
  let absentRevalidation ← revalidateAbsent receipt candidate frozen
  let preparedAt ← Prog.orThrow (terminalRuntimeError receipt) (← Prog.ask Call.clockSample)
  let prepared ← Prog.ask (Call.prepareArtifactAction intent preparedAt.wallUnixMillis)
  let actionId ← Prog.orThrow (terminalRuntimeError receipt) prepared
  let disposition ← deliverArtifact frozen absentRevalidation
  let receipt ← completeArtifactPrepared receipt intent actionId disposition
  return (← confirmRemoved receipt candidate disposition, receipt)

/-- The reason an artifact disposition fails the cleanup with. -/
def artifactFailureReason : ArtifactDisposition → String
  | .removed | .alreadyAbsent => "cleanup.artifact_reconciled"
  | .identityMismatch => "cleanup.artifact_identity_changed"
  | .referenced => "cleanup.artifact_live_reference"
  | .unsafeArtifact => "cleanup.artifact_unsafe"
  | .rejected => "cleanup.artifact_rejected"
  | .cancelledBeforeDelivery => "cleanup.drain_requested"
  | .deliveryUnknown => "cleanup.artifact_delivery_unknown"

/-- Remove the frozen artifacts in order; the first that is not removed
ends the cleanup. -/
def artifactLoop : List (RuntimeArtifactCandidate × ArtifactFreeze) → CleanupReceipt →
    ExecM (Flow CleanupReceipt)
  | [], receipt => return .next receipt
  | (candidate, frozen) :: rest, receipt => do
      let (disposition, receipt) ← executeArtifactAction receipt candidate frozen
      if !disposition.completedCleanup then
        return .done (fail receipt (artifactFailureReason disposition) [])
      artifactLoop rest receipt

/-! ## The whole cleanup -/

/-- The receipt a cleanup starts with. -/
def openReceipt (plan : CleanupPlan) : CleanupReceipt where
  incidentId := plan.incidentId
  state := .reclaiming
  reasonId := none
  actions := []
  artifactActions := []
  survivorPids := []
  revivalChecksCompleted := 0
  resources := {}

/-- The receipt of a cleanup whose tree is gone. -/
def clearedReceipt (receipt : CleanupReceipt) : CleanupReceipt :=
  let receipt := { receipt with state := IncidentState.cleared }
  if receipt.endedWithoutIntervention then
    { receipt with
      reasonId := some "cleanup.tree_gone_without_signal"
      resources := { receipt.resources with estimatedReclaimedMemoryBytes := none } }
  else if receipt.artifactActions.isEmpty then
    { receipt with reasonId := some "cleanup.tree_gone_no_revival" }
  else { receipt with reasonId := some "cleanup.tree_gone_artifacts_reconciled" }

/-- First poll, first snapshot, first validation, and the artifacts
frozen. -/
def openStage (plan : CleanupPlan) :
    ExecM (Flow (StageState × List (RuntimeArtifactCandidate × ArtifactFreeze))) := do
  let receipt := openReceipt plan
  if (← Prog.ask Call.shouldStop) then return .done (fail receipt "cleanup.drain_requested" [])
  let initial ← snapshotOrReceiptError receipt
  let receipt := { receipt with
    resources := { receipt.resources with before := some (resourceSnapshot initial plan) } }
  match ← validateStage initial plan with
  | .error reason => return .done (fail receipt reason [])
  | .ok survivors =>
      let frozen ← freezeArtifacts receipt plan.artifacts
      return .next (⟨receipt, survivors, []⟩, frozen)

/-- The three signal stages. -/
def signalStages (plan : CleanupPlan) (policy : CleanupPolicy) (s : StageState) :
    ExecM (Flow CleanupReceipt) := do
  match ← primaryTermStage plan policy s with
  | .done receipt => return .done receipt
  | .next s =>
      match ← memberTermStage plan policy s with
      | .done receipt => return .done receipt
      | .next s => killStage plan policy s

/-- The revival windows and the terminal proof. -/
def revivalStage (plan : CleanupPlan) (policy : CleanupPolicy) (receipt : CleanupReceipt) :
    ExecM (Flow CleanupReceipt) := do
  match ← revivalLoop plan policy.revivalWindows receipt none with
  | .done receipt => return .done receipt
  | .next (receipt, terminal) =>
      -- without a revival window there is no snapshot to prove by yet
      let snapshot ←
        match terminal with
        | some snapshot => pure snapshot
        | none => snapshotOrReceiptError receipt
      proveGone plan snapshot receipt "cleanup.terminal_tree_not_gone"

/-- The artifacts and, where there were any, the proof after them. -/
def artifactStage (plan : CleanupPlan)
    (frozen : List (RuntimeArtifactCandidate × ArtifactFreeze)) (receipt : CleanupReceipt) :
    ExecM (Flow CleanupReceipt) := do
  match ← artifactLoop frozen receipt with
  | .done receipt => return .done receipt
  | .next receipt =>
      if plan.artifacts.isEmpty then return .next receipt
      let postArtifact ← snapshotOrReceiptError receipt
      proveGone plan postArtifact receipt "cleanup.post_artifact_tree_not_gone"

/-- **The executor.** -/
def execute (plan : CleanupPlan) (policy : CleanupPolicy) : ExecM CleanupReceipt := do
  match ← openStage plan with
  | .done receipt => return receipt
  | .next (s, frozen) =>
      match ← signalStages plan policy s with
      | .done receipt => return receipt
      | .next receipt =>
          match ← revivalStage plan policy receipt with
          | .done receipt => return receipt
          | .next receipt =>
              match ← artifactStage plan frozen receipt with
              | .done receipt => return receipt
              | .next receipt => return clearedReceipt receipt

end Unlinger
