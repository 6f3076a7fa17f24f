import Unlinger.Core.Model.Executor

/-!
# Reading a cleanup's trace

What the statements about cleanups read off a trace: when the cleanup was
told to stop, which calls failed, and the journal the prepare and
complete rows add up to. The journal is the abstract one: the rows that
are open, and the actions that were completed, in order.
-/

namespace Unlinger

open Interaction

/-- One call of a cleanup with its answer. -/
abbrev CleanupEvent := Event Answer

/-- The calls of a cleanup with their answers, oldest first. -/
abbrev CleanupTrace := Trace Answer

/-- The call acts on a process or a file. -/
def Call.IsEffect : Call → Prop
  | .signalExact _ _ => True
  | .removeArtifactExact _ => True
  | _ => False

/-- The call prepares an action. -/
def Call.IsPrepare : Call → Prop
  | .prepareAction _ _ => True
  | .prepareArtifactAction _ _ => True
  | _ => False

/-- The call neither acts nor writes the journal. -/
def Call.IsNeutral : Call → Prop
  | .signalExact _ _ | .removeArtifactExact _ => False
  | .prepareAction _ _ | .completeAction _ _ _ => False
  | .prepareArtifactAction _ _ | .completeArtifactAction _ _ _ => False
  | _ => True

/-- The executor learns that it has to stop: a poll of its own says so, or
a wait was interrupted. -/
def Stops (e : CleanupEvent) : Prop :=
  match e with
  | ⟨.shouldStop, b⟩ => b = true
  | ⟨.waitUntil _, r⟩ => r = .ok .interrupted
  | _ => False

/-- The runtime or the journal failed. -/
def Fails (e : CleanupEvent) : Prop :=
  match e with
  | ⟨.snapshot, r⟩ => ∃ f, r = .error f
  | ⟨.lookupProcess _, r⟩ => ∃ f, r = .error f
  | ⟨.clockSample, r⟩ => ∃ f, r = .error f
  | ⟨.waitUntil _, r⟩ => ∃ f, r = .error f
  | ⟨.freezeArtifact _, r⟩ => ∃ f, r = .error f
  | ⟨.prepareAction _ _, r⟩ => ∃ f, r = .error f
  | ⟨.completeAction _ _ _, r⟩ => ∃ f, r = .error f
  | ⟨.prepareArtifactAction _ _, r⟩ => ∃ f, r = .error f
  | ⟨.completeArtifactAction _ _ _, r⟩ => ∃ f, r = .error f
  | _ => False

/-- The executor was told to stop somewhere in the trace. -/
def Stopped (t : CleanupTrace) : Prop := ∃ e ∈ t, Stops e

/-- The signal was sent to the pid. -/
def Signalled (t : CleanupTrace) (pid : Pid) (sig : CleanupSignal) : Prop :=
  ∃ e ∈ t, ∃ identity, e.call = .signalExact identity sig ∧ identity.pid = pid

/-- The actions hold a TERM of the pid that found it or found it gone. -/
def TermActed (actions : List CleanupAction) (pid : Pid) : Prop :=
  ∃ a ∈ actions, a.pid = pid ∧ a.signal = .term ∧
    (a.disposition = .delivered ∨ a.disposition = .alreadyExited)

/-- What the calls after a snapshot established of it: every target in it
is its frozen self, the runtime finds none of those it omits, and the
revalidator, where it was asked, answered Eligible. -/
structure Fresh (plan : CleanupPlan) (s : Snapshot) (vs : CleanupTrace) : Prop where
  calls : ∀ e ∈ vs, (∃ pid, e = ⟨.lookupProcess pid, .ok none⟩) ∨
    ∃ reason, e = ⟨.revalidate s plan .beforeSignal, ⟨.eligible, reason⟩⟩
  exact : ∀ x ∈ plan.targets, ∀ p, s.byPid.lookup x.identity.pid = some p →
    x.identity.exactMatch p.identity = true
  absent : ∀ x ∈ plan.targets, s.byPid.lookup x.identity.pid = none →
    ⟨.lookupProcess x.identity.pid, .ok none⟩ ∈ vs

/-- Between `t₀` and `t` the executor armed one signal: polled, prepared
the action, polled again, took a snapshot that holds the target and
validated it, and polled once more. -/
def Armed (plan : CleanupPlan) (target : ProcessTarget) (stage : CleanupStage)
    (sig : CleanupSignal) (t₀ t : CleanupTrace) : Prop :=
  ∃ (at_ : ClockSample) (actionId : String) (s : Snapshot) (vs : CleanupTrace),
    t = t₀ ++ ([⟨.shouldStop, false⟩, ⟨.clockSample, .ok at_⟩,
      ⟨.prepareAction (signalIntent target stage sig) at_.wallUnixMillis, .ok actionId⟩,
      ⟨.shouldStop, false⟩, ⟨.snapshot, .ok s⟩] ++ vs ++ [⟨.shouldStop, false⟩]) ∧
    Fresh plan s vs ∧ s.byPid.contains target.identity.pid = true ∧
    ∃ reason, ⟨.revalidate s plan .beforeSignal, ⟨.eligible, reason⟩⟩ ∈ vs

/-- Between `t₀` and `t` the executor armed one removal, of an artifact
frozen before. -/
def ArtifactArmed (candidate : RuntimeArtifactCandidate) (artifact : FrozenRuntimeArtifact)
    (t₀ t : CleanupTrace) : Prop :=
  ∃ (at_ : ClockSample) (actionId : String),
    t = t₀ ++ [⟨.shouldStop, false⟩, ⟨.clockSample, .ok at_⟩,
      ⟨.prepareArtifactAction candidate.intent at_.wallUnixMillis, .ok actionId⟩,
      ⟨.shouldStop, false⟩] ∧
    ⟨.freezeArtifact candidate, .ok (.frozen artifact)⟩ ∈ t₀

/-- The trace's first snapshot. -/
def FirstSnapshot (t : CleanupTrace) (s : Snapshot) : Prop :=
  ∃ u v, t = u ++ ⟨.snapshot, .ok s⟩ :: v ∧ ∀ e ∈ u, e.call ≠ .snapshot

/-! ## The journal -/

/-- An action whose prepared row has no disposition yet. -/
inductive OpenAction
  | process (actionId : String) (intent : CleanupActionIntent)
  | artifact (actionId : String) (intent : ArtifactActionIntent)
  deriving DecidableEq

/-- The identifier the journal gave the action. -/
def OpenAction.actionId : OpenAction → String
  | .process id _ => id
  | .artifact id _ => id

/-- What the journal holds: the open actions, and the completed ones in
order of completion. -/
structure JournalView where
  openActions : List OpenAction
  actions : List CleanupAction
  artifactActions : List ArtifactAction
  deriving DecidableEq

namespace JournalView

/-- Close the first open process action of an identifier. -/
def closeAction (id : String) (d : SignalDisposition) :
    List OpenAction → List OpenAction × List CleanupAction
  | [] => ([], [])
  | .process i intent :: rest =>
      if i = id then (rest, [intent.completed d])
      else ((.process i intent) :: (closeAction id d rest).1, (closeAction id d rest).2)
  | .artifact i intent :: rest =>
      ((.artifact i intent) :: (closeAction id d rest).1, (closeAction id d rest).2)

/-- Close the first open artifact action of an identifier. -/
def closeArtifactAction (id : String) (d : ArtifactDisposition) :
    List OpenAction → List OpenAction × List ArtifactAction
  | [] => ([], [])
  | .artifact i intent :: rest =>
      if i = id then (rest, [intent.completed d])
      else
        ((.artifact i intent) :: (closeArtifactAction id d rest).1,
          (closeArtifactAction id d rest).2)
  | .process i intent :: rest =>
      ((.process i intent) :: (closeArtifactAction id d rest).1,
        (closeArtifactAction id d rest).2)

/-- What one call does to the journal: a successful prepare opens an
action, a successful complete closes one. -/
def step (v : JournalView) (e : CleanupEvent) : JournalView :=
  match e with
  | ⟨.prepareAction intent _, .ok id⟩ =>
      { v with openActions := v.openActions ++ [.process id intent] }
  | ⟨.prepareArtifactAction intent _, .ok id⟩ =>
      { v with openActions := v.openActions ++ [.artifact id intent] }
  | ⟨.completeAction id d _, .ok _⟩ =>
      { v with
        openActions := (closeAction id d v.openActions).1
        actions := v.actions ++ (closeAction id d v.openActions).2 }
  | ⟨.completeArtifactAction id d _, .ok _⟩ =>
      { v with
        openActions := (closeArtifactAction id d v.openActions).1
        artifactActions := v.artifactActions ++ (closeArtifactAction id d v.openActions).2 }
  | _ => v

end JournalView

/-- The journal after a trace. -/
def journalView (t : CleanupTrace) : JournalView := t.foldl JournalView.step ⟨[], [], []⟩

/-- The primary targets of the first snapshot were TERMed, and the grace
after them was waited out. -/
def PrimariesFirst (plan : CleanupPlan) (policy : CleanupPolicy) (t : CleanupTrace) : Prop :=
  ∃ s u v, FirstSnapshot t s ∧
    t = u ++ ⟨.waitUntil policy.primaryTermGrace, .ok .deadlineReached⟩ :: v ∧
    ∀ x ∈ plan.primaryTargets, s.byPid.contains x.identity.pid = true →
      TermActed (journalView u).actions x.identity.pid

/-! ## Absence -/

/-- The trace ends in a proof that no target lives: a snapshot without
them, the runtime finding none of them, the revalidator answering Gone,
and nothing signalled since the snapshot. -/
def ProvedAbsent (plan : CleanupPlan) (t : CleanupTrace) : Prop :=
  ∃ s u v, t = u ++ ⟨.snapshot, .ok s⟩ :: v ∧
    (∀ pid sig, ¬ Signalled v pid sig) ∧
    (∀ x ∈ plan.targets, s.byPid.lookup x.identity.pid = none ∧
      ⟨.lookupProcess x.identity.pid, .ok none⟩ ∈ v) ∧
    ∃ reason, ⟨.revalidate s plan .revivalCheck, ⟨.gone, reason⟩⟩ ∈ v

/-- One revival window waited out and answered Gone. -/
def windowEvents (plan : CleanupPlan) (w : Nat × Snapshot × String) : CleanupTrace :=
  [⟨.shouldStop, false⟩, ⟨.waitUntil w.1, .ok .deadlineReached⟩, ⟨.shouldStop, false⟩,
    ⟨.snapshot, .ok w.2.1⟩, ⟨.revalidate w.2.1 plan .revivalCheck, ⟨.gone, w.2.2⟩⟩]

/-- The windows were waited out one after the other, each answered Gone. -/
def WaitedOut (plan : CleanupPlan) (windows : List Nat) (t : CleanupTrace) : Prop :=
  ∃ (rounds : List (Nat × Snapshot × String)) (u v : CleanupTrace),
    rounds.map Prod.fst = windows ∧ t = u ++ rounds.flatMap (windowEvents plan) ++ v

/-- The artifact was removed or found absent, and frozen absent after. -/
def ProvedRemoved (candidate : RuntimeArtifactCandidate) (t : CleanupTrace) : Prop :=
  ∃ u v d, t = u ++ v ∧ candidate.intent.completed d ∈ (journalView u).artifactActions ∧
    ⟨.freezeArtifact candidate, .ok .absent⟩ ∈ v

/-- The receipt a cleanup ends with, whichever way it ends. -/
def outcomeReceipt : Except CleanupError CleanupReceipt → CleanupReceipt
  | .ok r => r
  | .error e => e.partialReceipt

end Unlinger
