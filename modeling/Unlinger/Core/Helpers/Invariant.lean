import Unlinger.Core.Helpers.Trace
import Unlinger.Core.Helpers.Plan

/-!
# The executor's invariant

One guard for the calls that matter and one assertion for each place the
executor can be in: going on, ending with a receipt, failing. What every
function of the executor does is stated in these terms once, and the
results about whole runs are read off the statement about `execute`.

Facts that need the plan's pids to be distinct are stated under that
condition, so that the rest holds of every plan.
-/

namespace Unlinger

open Interaction

variable {plan : CleanupPlan} {policy : CleanupPolicy} {t t' : CleanupTrace}
  {r : CleanupReceipt} {e : CleanupEvent}

/-- When the signal may be sent: a TERM once, and to a member only after
the primaries; a KILL once, and only after a TERM. -/
def Staged (plan : CleanupPlan) (policy : CleanupPolicy) (t : CleanupTrace) (pid : Pid) :
    CleanupSignal → Prop
  | .term => ¬ Signalled t pid .term ∧ (pid ∉ plan.primaryPids → PrimariesFirst plan policy t)
  | .kill => ¬ Signalled t pid .kill ∧ TermActed (journalView t).actions pid

/-- The guard of the executor's calls: an action is prepared with none
open, and an effect is armed by its own action, before any stop. -/
def Permitted (plan : CleanupPlan) (policy : CleanupPolicy) (t : CleanupTrace) : Call → Prop
  | .prepareAction _ _ => (journalView t).openActions = []
  | .prepareArtifactAction _ _ => (journalView t).openActions = []
  | .signalExact identity sig =>
      ∃ t₀ target stage, target ∈ plan.targets ∧ identity = target.identity ∧
        Armed plan target stage sig t₀ t ∧ ¬ Stopped t₀ ∧ (journalView t₀).openActions = [] ∧
        (plan.Distinct → Staged plan policy t₀ target.identity.pid sig)
  | .removeArtifactExact artifact =>
      ∃ t₀ candidate, candidate ∈ plan.artifacts ∧ ArtifactArmed candidate artifact t₀ t ∧
        ¬ Stopped t₀ ∧ (journalView t₀).openActions = []
  | _ => True

/-- The journal holds the receipt's actions, and these open ones. -/
def Journalled (t : CleanupTrace) (opens : List OpenAction) (r : CleanupReceipt) : Prop :=
  journalView t = ⟨opens, r.actions, r.artifactActions⟩

/-- The cleanup goes on: the journal is the receipt, and nothing said
stop. -/
structure Going (t : CleanupTrace) (opens : List OpenAction) (r : CleanupReceipt) : Prop where
  journal : Journalled t opens r
  running : ¬ Stopped t

/-- The reason of a receipt that was drained. -/
def drainRequested : String := "cleanup.drain_requested"

/-- The last call failed. -/
def LastFails (t : CleanupTrace) : Prop := ∃ u e, t = u ++ [e] ∧ Fails e

/-- The cleanup failed: whatever action is open is the one the error
names, and after a stop it was a call that failed. -/
inductive Erred (t : CleanupTrace) : CleanupError → Prop
  | runtime {f : RuntimeFailure} {r : CleanupReceipt} (journal : Journalled t [] r)
      (stop : Stopped t → LastFails t) : Erred t (.runtime f r)
  | attemptOpen {f : RuntimeFailure} {r : CleanupReceipt} {a : OpenAction}
      (journal : Journalled t [a] r) (stop : Stopped t → LastFails t) :
      Erred t (.attemptOpen f r a.actionId)

/-- The cleanup ended with a receipt: nothing is open, and after a stop
the receipt says so. -/
structure Ended (t : CleanupTrace) (r : CleanupReceipt) : Prop where
  journal : Journalled t [] r
  drained : Stopped t → r.state = .failed ∧ r.reasonId = some drainRequested

/-! ## Reasons -/

/-- The reasons the outcome reads as an artifact's. -/
def artifactReasons : List String :=
  ["cleanup.artifact_identity_changed", "cleanup.artifact_live_reference",
    "cleanup.artifact_unsafe", "cleanup.artifact_rejected", "cleanup.artifact_delivery_unknown"]

/-- The reason is the executor's and names no artifact, or it is the
revalidator's. -/
def PlainReason (t : CleanupTrace) (reason : String) : Prop :=
  reason ∉ artifactReasons ∨
    ∃ s p phase v, (⟨.revalidate s p phase, v⟩ : CleanupEvent) ∈ t ∧ v.reasonId = reason

/-- A reason to stop at: the journal is in order, and after a stop the
reason is the drain. -/
structure Refused (t : CleanupTrace) (r : CleanupReceipt) (reason : String) : Prop where
  journal : Journalled t [] r
  drained : Stopped t → reason = drainRequested
  plain : PlainReason t reason

/-- The receipt claims nothing: it touched no artifact, and its reason
names none. -/
structure Unclaimed (t : CleanupTrace) (r : CleanupReceipt) : Prop where
  artifactActions : r.artifactActions = []
  state : r.state ≠ .cleared
  plain : ∃ reason, r.reasonId = some reason ∧ PlainReason t reason

/-- What a stage ends in: an error, a receipt satisfying `D`, or a value
for the next stage satisfying `P`. -/
def FlowPost {α : Type} (D : CleanupTrace → CleanupReceipt → Prop) (P : CleanupTrace → α → Prop) :
    CleanupTrace → Except CleanupError (Flow α) → Prop
  | t, .error err => Erred t err
  | t, .ok (.done r) => D t r
  | t, .ok (.next a) => P t a

/-- A receipt ended before anything was proved. -/
def EndedUnclaimed (t : CleanupTrace) (r : CleanupReceipt) : Prop := Ended t r ∧ Unclaimed t r

/-! ## Closure -/

theorem Journalled.neutral {opens : List OpenAction} (h : Journalled t opens r)
    (he : e.call.IsNeutral) : Journalled (t ++ [e]) opens r := by
  rw [Journalled, journalView_snoc, step_neutral he]
  exact h

theorem Going.neutral {opens : List OpenAction} (h : Going t opens r) (he : e.call.IsNeutral)
    (hs : ¬ Stops e) : Going (t ++ [e]) opens r := by
  refine ⟨h.journal.neutral he, ?_⟩
  rw [((Continues.refl t).snoc (silent_of_neutral he hs)).stopped]
  exact h.running

theorem Going.extend {opens : List OpenAction} {es : CleanupTrace} (h : Going t opens r)
    (hes : ∀ e ∈ es, e.call.IsNeutral ∧ ¬ Stops e) : Going (t ++ es) opens r := by
  refine ⟨?_, ?_⟩
  · rw [Journalled, journalView_neutral fun e he => (hes e he).1]
    exact h.journal
  · rw [((Continues.refl t).append fun e he =>
      silent_of_neutral (hes e he).1 (hes e he).2).stopped]
    exact h.running

/-- Only the receipt's actions are in the journal. -/
theorem Going.receipt {opens : List OpenAction} {r' : CleanupReceipt} (h : Going t opens r)
    (ha : r'.actions = r.actions) (haa : r'.artifactActions = r.artifactActions) :
    Going t opens r' := by
  refine ⟨?_, h.running⟩
  rw [Journalled, ha, haa]
  exact h.journal

theorem Going.fails (h : Going t [] r) (he : e.call.IsNeutral) (hs : ¬ Stops e)
    {f : RuntimeFailure} {r' : CleanupReceipt} (ha : r'.actions = r.actions)
    (haa : r'.artifactActions = r.artifactActions) : Erred (t ++ [e]) (.runtime f r') := by
  refine .runtime ?_ fun hstop => absurd hstop (h.neutral he hs).running
  rw [Journalled, ha, haa]
  exact (h.neutral he hs).journal

/-- A refusal ends the cleanup with a failed receipt. -/
theorem Refused.ended {reason : String} {pids : List Pid} (h : Refused t r reason) :
    Ended t (fail r reason pids) :=
  ⟨h.journal, fun hs => ⟨rfl, by rw [← h.drained hs]; rfl⟩⟩

theorem Refused.unclaimed {reason : String} {pids : List Pid} (h : Refused t r reason)
    (ha : r.artifactActions = []) : Unclaimed t (fail r reason pids) :=
  ⟨ha, by simp [fail], reason, rfl, h.plain⟩

/-- The two together, for a receipt without artifact actions. -/
theorem Refused.endedUnclaimed {reason : String} {pids : List Pid} (h : Refused t r reason)
    (ha : r.artifactActions = []) : EndedUnclaimed t (fail r reason pids) :=
  ⟨h.ended, h.unclaimed ha⟩

/-- A reason of the executor's own, where nothing said stop. -/
theorem Going.refused {reason : String} (h : Going t [] r) (hp : PlainReason t reason) :
    Refused t r reason :=
  ⟨h.journal, fun hs => absurd hs h.running, hp⟩

/-- The drain itself. -/
theorem Journalled.drained (h : Journalled t [] r) : Refused t r drainRequested :=
  ⟨h, fun _ => rfl, Or.inl (by decide)⟩

end Unlinger
