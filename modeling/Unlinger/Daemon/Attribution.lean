import Unlinger.Core.Helpers.Attribution
import Unlinger.Daemon.Model.Engine
import Unlinger.Daemon.Model.Journal

/-!
# Memory without a delivered action

A receipt is to estimate reclaimed memory only where one of its process
actions was delivered. The estimate is taken at every revival check that
is not Gone and at both proofs, and it is dropped in one case alone: the
tree was gone by itself and the plan had no artifact.
-/

namespace Unlinger

open Interaction

variable {plan : CleanupPlan} {policy : CleanupPolicy} {es : CleanupTrace} {r : CleanupReceipt}

/-! ## What a history event shows -/

/-- A process action as a history event shows it. -/
structure PublicProcessAction where
  actionToken : String
  stage : CleanupStage
  signal : CleanupSignal
  disposition : SignalDisposition
  deriving DecidableEq

/-- An artifact action as a history event shows it. -/
structure PublicArtifactAction where
  actionToken : String
  kind : RuntimeArtifactKind
  disposition : ArtifactDisposition
  deriving DecidableEq

/-- A cleanup as a history event shows it. -/
structure PublicCleanup where
  state : IncidentState
  reasonId : Option String
  processOutcome : ProcessOutcome
  artifactOutcome : ArtifactOutcome
  overallOutcome : OverallOutcome
  attentionRequired : Bool
  processActions : List PublicProcessAction
  artifactActions : List PublicArtifactAction
  survivorCount : Nat
  revivalChecksCompleted : Nat
  resources : CleanupResources
  deriving DecidableEq

/-- The cleanup half of `project_history_event`. -/
def projectHistoryCleanup (eventToken : String) (receipt : CleanupReceipt) : PublicCleanup where
  state := receipt.state
  reasonId :=
    if receipt.endedWithoutIntervention then some "cleanup.tree_gone_without_signal"
    else receipt.reasonId
  processOutcome := receipt.outcome.process
  artifactOutcome := receipt.outcome.artifact
  overallOutcome := receipt.outcome.overall
  attentionRequired := receipt.outcome.attentionRequired
  processActions := receipt.actions.zipIdx.map fun (action, index) =>
    ⟨eventToken ++ ":p:" ++ Text.decimal index, action.stage, action.signal, action.disposition⟩
  artifactActions := receipt.artifactActions.zipIdx.map fun (action, index) =>
    ⟨eventToken ++ ":a:" ++ Text.decimal index, action.kind, action.disposition⟩
  survivorCount := receipt.survivorPids.length
  revivalChecksCompleted := receipt.revivalChecksCompleted
  resources := { receipt.resources with
    estimatedReclaimedMemoryBytes :=
      if receipt.endedWithoutIntervention then none
      else receipt.resources.estimatedReclaimedMemoryBytes }

/-- A shown cleanup without a delivered process action shows no estimate. -/
def PublicCleanup.Unattributed (c : PublicCleanup) : Prop :=
  (∀ a ∈ c.processActions, a.disposition ≠ .delivered) →
    c.resources.estimatedReclaimedMemoryBytes = none

/-- The dispositions are shown as they are. -/
theorem projectHistoryCleanup_undelivered {token : String} :
    (∀ a ∈ (projectHistoryCleanup token r).processActions, a.disposition ≠ .delivered) ↔
      ∀ a ∈ r.actions, a.disposition ≠ .delivered := by
  constructor
  · intro h a ha
    obtain ⟨i, hi, rfl⟩ := List.getElem_of_mem ha
    refine h ⟨token ++ ":p:" ++ Text.decimal i, r.actions[i].stage, r.actions[i].signal,
      r.actions[i].disposition⟩ (List.mem_map.2 ⟨(r.actions[i], i), ?_, rfl⟩)
    rw [List.mk_mem_zipIdx_iff_getElem?]
    exact List.getElem?_eq_getElem hi
  · intro h a ha
    obtain ⟨⟨action, i⟩, hin, rfl⟩ := List.mem_map.1 ha
    exact h action (List.fst_mem_of_mem_zipIdx hin)

/-- Showing a settled receipt changes nothing about its estimate. -/
theorem projectHistoryCleanup_unattributed {token : String} :
    (projectHistoryCleanup token (Store.projectReceipt r)).Unattributed ↔
      (Store.projectReceipt r).Unattributed := by
  rw [PublicCleanup.Unattributed, projectHistoryCleanup_undelivered, CleanupReceipt.Unattributed]
  refine imp_congr_right fun _ => ?_
  have hshown : (projectHistoryCleanup token
      (Store.projectReceipt r)).resources.estimatedReclaimedMemoryBytes =
      if (Store.projectReceipt r).endedWithoutIntervention then none
      else (Store.projectReceipt r).resources.estimatedReclaimedMemoryBytes := rfl
  rw [hshown]
  by_cases hended : r.endedWithoutIntervention = true
  · have hnone : (Store.projectReceipt r).resources.estimatedReclaimedMemoryBytes = none := by
      rw [Store.projectReceipt, if_pos hended]
    rw [hnone, ite_self]
  · rw [Store.projectReceipt, if_neg hended, if_neg hended]

/-- The whole is cleared only where the processes are. -/
theorem process_of_overall (h : r.outcome.overall = .cleared) : r.outcome.process = .cleared := by
  change CleanupReceipt.overallOutcome r.processOutcome r.artifactOutcome = .cleared at h
  change r.processOutcome = .cleared
  cases hp : r.processOutcome with
  | cleared => rfl
  | revived =>
      rw [hp] at h
      cases ha : r.artifactOutcome <;> rw [ha] at h <;> cases h
  | failed =>
      rw [hp] at h
      cases ha : r.artifactOutcome <;> rw [ha] at h <;> cases h
  | deliveryUnknown =>
      rw [hp] at h
      cases ha : r.artifactOutcome <;> rw [ha] at h <;> cases h

/-- What ended by itself is cleared, and nothing of it is ours. -/
theorem undelivered_of_endedWithoutIntervention (h : r.endedWithoutIntervention = true) :
    r.state = .cleared ∧ r.artifactActions = [] ∧ ¬ r.Delivered := by
  simp only [CleanupReceipt.endedWithoutIntervention, Bool.and_eq_true, beq_iff_eq,
    Bool.not_eq_true', List.isEmpty_iff] at h
  obtain ⟨⟨⟨hstate, hoverall⟩, hproves⟩, hart⟩ := h
  have hprocess : r.outcome.process = .cleared := process_of_overall hoverall
  refine ⟨hstate, hart, ?_⟩
  rintro ⟨a, ha, hd⟩
  have hany : (r.actions.any fun a => a.disposition == .delivered) = true :=
    List.any_eq_true.2 ⟨a, ha, beq_iff_eq.2 hd⟩
  rw [CleanupReceipt.provesProcessReclaim, hprocess, hany] at hproves
  cases hproves

/-- Settling a receipt of the executor changes nothing about it either. -/
theorem Weighs.settled (h : Weighs plan policy es r) :
    (Store.projectReceipt r).Unattributed ↔ r.Unattributed := by
  by_cases hended : r.endedWithoutIntervention = true
  · obtain ⟨hstate, hart, hdel⟩ := undelivered_of_endedWithoutIntervention hended
    have hnone := h.cleared (mt h.delivered.1 hdel) hstate hart
    rw [Store.projectReceipt, if_pos hended]
    exact ⟨fun _ _ => hnone, fun _ _ => rfl⟩
  · rw [Store.projectReceipt, if_neg hended]

/-- The receipt a cleanup is settled with: the one that was returned, or the
one of a terminal error. -/
def settledReceipt : Except CleanupError CleanupReceipt → Option CleanupReceipt
  | .ok receipt => some receipt
  | .error error => error.terminalReceipt

theorem execute_settles {o : Except CleanupError CleanupReceipt}
    (h : Runs (execute plan policy) es o) (hr : settledReceipt o = some r) :
    Weighs plan policy es r := by
  have hends : Weighing plan policy (Weighs plan policy) es o := by
    simpa using (execute_weighs.sound h).2
  cases o with
  | ok r' =>
      obtain rfl := Option.some.inj hr
      exact hends
  | error e =>
      cases e with
      | runtime f r' =>
          obtain rfl := Option.some.inj hr
          exact hends
      | attemptOpen f r' actionId => cases hr

/-- **When a receipt estimates nothing without a delivery.** For every
plan, policy, runtime, revalidator, journal and stop callback: the receipt
`execute` returns, or its terminal error carries, gives no estimate without
a delivered process action if and only if the runtime answered some signal
Delivered, or nothing is estimated at the end of the calls: there was no
revival check, or the last one was one of the windows' and answered Gone,
or the tree had grown by then, or it was gone then and the plan has no
artifact. The same holds of the receipt as it is settled, and as a history
event shows it. -/
theorem execute_unattributed_iff {o : Except CleanupError CleanupReceipt}
    (h : Runs (execute plan policy) es o) (hr : settledReceipt o = some r) :
    (r.Unattributed ↔ SignalDelivered es ∨ Unestimated plan policy es) ∧
    ((Store.projectReceipt r).Unattributed ↔ SignalDelivered es ∨ Unestimated plan policy es) ∧
    ∀ token, ((projectHistoryCleanup token (Store.projectReceipt r)).Unattributed ↔
      SignalDelivered es ∨ Unestimated plan policy es) := by
  have hw : Weighs plan policy es r := execute_settles h hr
  have hiff : r.Unattributed ↔ SignalDelivered es ∨ Unestimated plan policy es := by
    have hundel : (∀ a ∈ r.actions, a.disposition ≠ .delivered) ↔ ¬ SignalDelivered es := by
      rw [hw.delivered, CleanupReceipt.Delivered]
      push Not
      exact Iff.rfl
    rw [CleanupReceipt.Unattributed, hundel]
    by_cases hdel : SignalDelivered es
    · simp [hdel]
    · simp only [hdel, not_false_eq_true, forall_const, false_or]
      exact hw.estimate hdel
  exact ⟨hiff, hw.settled.trans hiff,
    fun token => projectHistoryCleanup_unattributed.trans (hw.settled.trans hiff)⟩

/-- Both sample processes live until the first snapshot, and exit by
themselves. -/
def exiting (t : CleanupTrace) : List ProcessRecord :=
  if t.any fun e => match e.call with | .snapshot => true | _ => false then []
  else [101, 102].map sampleRecord

/-- The sample plan without its artifact. -/
def barePlan : CleanupPlan := { samplePlan with artifacts := [] }

/-- And its run among them. -/
def exitingBareRun : CleanupTrace × Except CleanupError CleanupReceipt :=
  (execute barePlan CleanupPolicy.default).runWith (calmWorld exiting) []

/-- The event is a signal, however it was answered. -/
def asksSignal : CleanupEvent → Bool
  | ⟨.signalExact _ _, _⟩ => true
  | _ => false

/-- Nothing was delivered there, and nothing is estimated, as the tree was
gone and the plan has no artifact. -/
theorem execute_unattributed_exited :
    (outcomeReceipt exitingBareRun.2).state = .cleared ∧
    ¬ SignalDelivered exitingBareRun.1 ∧
    (outcomeReceipt exitingBareRun.2).Unattributed ∧
    Unestimated barePlan CleanupPolicy.default exitingBareRun.1 := by
  have hrun : Runs (execute barePlan CleanupPolicy.default) exitingBareRun.1
      (.ok (outcomeReceipt exitingBareRun.2)) := runs_of_runWith rfl
  have hunsent : exitingBareRun.1.any asksSignal = false := by decide +kernel
  have hundelivered : ¬ SignalDelivered exitingBareRun.1 := by
    rintro ⟨identity, signal, he⟩
    exact List.any_eq_false.1 hunsent _ he rfl
  have hnone : (outcomeReceipt exitingBareRun.2).resources.estimatedReclaimedMemoryBytes = none := by
    decide +kernel
  have hunattributed : (outcomeReceipt exitingBareRun.2).Unattributed := fun _ => hnone
  exact ⟨by decide +kernel, hundelivered, hunattributed,
    ((execute_unattributed_iff hrun rfl).1.1 hunattributed).resolve_left hundelivered⟩

/-- The run of the whole plan among them. -/
def exitingRun : CleanupTrace × Except CleanupError CleanupReceipt :=
  (execute samplePlan CleanupPolicy.default).runWith (calmWorld exiting) []

/-- The receipt of that run. -/
def exitingReceipt : CleanupReceipt := outcomeReceipt exitingRun.2

/-- **An estimate nobody earned.** Both processes of the sample plan exit
before anything is signalled, and their artifact is removed: the only
action says that its process had already exited, and the receipt, settled
and shown, estimates all of their memory as reclaimed. -/
theorem exited_estimated :
    Runs (execute samplePlan CleanupPolicy.default) exitingRun.1 (.ok exitingReceipt) ∧
    exitingReceipt.state = .cleared ∧
    exitingReceipt.actions.map CleanupAction.disposition = [.alreadyExited] ∧
    exitingReceipt.resources.estimatedReclaimedMemoryBytes = some 2048 ∧
    ¬ exitingReceipt.Unattributed ∧
    ¬ (Store.projectReceipt exitingReceipt).Unattributed ∧
    ¬ (projectHistoryCleanup "event" (Store.projectReceipt exitingReceipt)).Unattributed := by
  have hactions : exitingReceipt.actions.map CleanupAction.disposition = [.alreadyExited] := by
    decide +kernel
  have hundelivered : ∀ a ∈ exitingReceipt.actions, a.disposition ≠ .delivered := by
    intro a ha
    have hmem : a.disposition ∈ exitingReceipt.actions.map CleanupAction.disposition :=
      List.mem_map_of_mem ha
    rw [hactions, List.mem_singleton] at hmem
    rw [hmem]
    exact SignalDisposition.noConfusion
  have hestimate : exitingReceipt.resources.estimatedReclaimedMemoryBytes = some 2048 := by
    decide +kernel
  -- an artifact was acted on, so settling drops nothing
  have hsettled : Store.projectReceipt exitingReceipt = exitingReceipt := by
    have hended : exitingReceipt.endedWithoutIntervention = false := by decide +kernel
    rw [Store.projectReceipt, hended]
    rfl
  have hbad : ¬ exitingReceipt.Unattributed := by
    intro h
    have hnone := h hundelivered
    rw [hestimate] at hnone
    cases hnone
  refine ⟨runs_of_runWith rfl, by decide +kernel, hactions, hestimate, hbad, ?_, ?_⟩
  · rwa [hsettled]
  · rwa [projectHistoryCleanup_unattributed, hsettled]

end Unlinger
