import Unlinger.Common.Transition
import Unlinger.Daemon.Model.Control
import Unlinger.Daemon.Reconcile

/-!
# The gate of the policy revision

A cycle freezes the policy revision, and the gate refuses it once the
counter is another. Were the counter never to fall, and to rise with every
change the owner was acknowledged, the gate would stay closed. The
operator's commands only count on, but a public mutation writes the
revision of its receipt: an old one where the receipt is, and the durable
one otherwise, which does not know of the operator's commands.
-/

namespace Unlinger

/-! ## The property and its condition -/

/-- The gate refuses what was frozen, whoever asks. -/
structure ControlPlane.Refuses (p : ControlPlane) (epoch : String) (revision : Nat) : Prop where
  closed : p.actionGateClosed epoch revision = true
  noAttempt : ∀ now report,
    p.beginCleanupAttemptIfArmed now report epoch revision = .ok (p, none)
  noSignal : ∀ deliver, p.deliverSignalIfArmed epoch revision deliver = .cancelledBeforeDelivery

/-- **The gate is closed for every superseded cycle.** -/
def Daemon.GateClosed (d : Daemon) : Prop :=
  ∀ f ∈ d.frozen, f.superseded = true → d.plane.Refuses f.enforcementEpoch f.policyRevision

/-- The step does not take the counter back: a command does not wrap it, a
receipt that is there already is not of an older revision, and a request
that gets one finds the durable revision no older. -/
def ControlPlane.RevisionInOrder (p : ControlPlane) : DaemonStep → Prop
  | .operator _ _ => p.cleanupPolicyRevision + 1 < 2 ^ 64
  | .publicMutation context mutation _ =>
      let receipt := p.store.mutationReceipts.lookup
        (toLex (context.namespaceToken, context.mutationId))
      (∀ row ∈ receipt, row.command = mutation →
        p.cleanupPolicyRevision ≤ row.receipt.policyRevisionAfter) ∧
      (receipt = none → p.store.namespaceToken.value = context.namespaceToken →
        p.cleanupPolicyRevision ≤ p.store.cleanupPolicyRevision)
  | .freeze _ | .storeWork _ | .lifecycle _ | .expirePause _ => True

instance (p : ControlPlane) : ∀ step, Decidable (p.RevisionInOrder step)
  | .operator _ _ => inferInstanceAs (Decidable (_ < _))
  | .publicMutation _ _ _ => inferInstanceAs (Decidable (_ ∧ _))
  | .freeze _ | .storeWork _ | .lifecycle _ | .expirePause _ => .isTrue trivial

/-! ## What the steps do to the counter -/

namespace ControlPlane

variable {p p' : ControlPlane}

/-- A counter that went on refuses. -/
theorem refuses_of_ne {epoch : String} {revision : Nat} (h : p.cleanupPolicyRevision ≠ revision) :
    p.Refuses epoch revision := by
  have hbne : (p.cleanupPolicyRevision != revision) = true := by simpa using h
  exact ⟨by simp [actionGateClosed, hbne], fun now report => by
    simp [beginCleanupAttemptIfArmed, hbne], fun deliver => by simp [deliverSignalIfArmed, hbne]⟩

/-- Every command the operator gets an answer to advances the counter. -/
theorem handleAt_revision {command : IpcCommand} {now : Nat} {payload : IpcPayload}
    (h : p.handleAt command now = .ok (p', payload)) :
    p'.cleanupPolicyRevision = (p.cleanupPolicyRevision + 1) % 2 ^ 64 := by
  unfold handleAt at h
  cases command with
  | pause duration =>
      simp only [bind_eq_ok, pure_eq_ok] at h
      obtain ⟨_, -, _, -, _, -, heq⟩ := h
      obtain ⟨rfl, -⟩ := Prod.mk.inj heq
      rfl
  | resume =>
      simp only [bind_eq_ok, pure_eq_ok] at h
      obtain ⟨_, -, heq⟩ := h
      obtain ⟨rfl, -⟩ := Prod.mk.inj heq
      rfl
  | retryFailedCleanup incidentId =>
      simp only [bind_eq_ok, pure_eq_ok] at h
      obtain ⟨_, -, _, -, _, -, heq⟩ := h
      obtain ⟨rfl, -⟩ := Prod.mk.inj heq
      rfl
  | protectIncident incidentId =>
      simp only [bind_eq_ok, pure_eq_ok] at h
      obtain ⟨_, -, _, -, _, -, heq⟩ := h
      obtain ⟨rfl, -⟩ := Prod.mk.inj heq
      rfl
  | unprotectIncident incidentId =>
      simp only [bind_eq_ok, pure_eq_ok] at h
      obtain ⟨_, -, _, -, heq⟩ := h
      obtain ⟨rfl, -⟩ := Prod.mk.inj heq
      rfl

/-- A public mutation fails and leaves the plane alone, or the store
commits it and the counter takes the revision of the receipt. -/
theorem commitPublicMutation_cases {context : MutationContext} {mutation : OrdinaryMutation}
    {now : Nat} {result : Except ControlError MutationCommit}
    (h : p.commitPublicMutation context mutation now = (p', result)) :
    (p' = p ∧ ∃ e, result = .error e) ∨
      ∃ store commit, p.store.commitPublicOrdinaryMutation context mutation p.status.runtimeFacts now
          = .ok (store, commit) ∧
        p'.cleanupPolicyRevision = commit.receipt.policyRevisionAfter ∧
        ∀ c, result = .ok c → c = commit := by
  unfold commitPublicMutation at h
  split at h
  · obtain ⟨rfl, rfl⟩ := Prod.mk.inj h
    exact Or.inl ⟨rfl, _, rfl⟩
  · rename_i store commit hcommit
    refine Or.inr ⟨store, commit, hcommit, ?_⟩
    -- whichever way the status goes, the counter is the same
    split_ifs at h
    · split at h
      · obtain ⟨rfl, rfl⟩ := Prod.mk.inj h
        exact ⟨rfl, fun c hc => (Except.ok.inj hc).symm⟩
      · obtain ⟨rfl, rfl⟩ := Prod.mk.inj h
        exact ⟨rfl, fun c hc => nomatch hc⟩
      · obtain ⟨rfl, rfl⟩ := Prod.mk.inj h
        exact ⟨rfl, fun c hc => nomatch hc⟩
    · obtain ⟨rfl, rfl⟩ := Prod.mk.inj h
      exact ⟨rfl, fun c hc => (Except.ok.inj hc).symm⟩

/-- Where a public mutation is in order, the counter does not fall, and
rises where the owner is told of a change. -/
theorem commitPublicMutation_revision {context : MutationContext} {mutation : OrdinaryMutation}
    {now : Nat} {result : Except ControlError MutationCommit}
    (hin : p.RevisionInOrder (.publicMutation context mutation now))
    (h : p.commitPublicMutation context mutation now = (p', result)) :
    p.cleanupPolicyRevision ≤ p'.cleanupPolicyRevision ∧
      ∀ commit, result = .ok commit → commit.stateChanged = true →
        p.cleanupPolicyRevision < p'.cleanupPolicyRevision := by
  rcases commitPublicMutation_cases h with ⟨rfl, e, rfl⟩ | ⟨store, commit, hcommit, hrevision, hresult⟩
  · exact ⟨le_rfl, fun commit hcommit => nomatch hcommit⟩
  · rw [hrevision]
    rcases Store.commitPublicOrdinaryMutation_ok hcommit with
      ⟨row, hrow, hcommand, -, rfl⟩ | ⟨hnone, htoken, hafter⟩
    · -- a replay is never told as a change
      refine ⟨hin.1 row hrow hcommand, fun c hc hchanged => ?_⟩
      rw [hresult c hc] at hchanged
      cases hchanged
    · have hle := hin.2 hnone htoken
      rw [hafter]
      refine ⟨Nat.le_add_right_of_le hle, fun c hc hchanged => ?_⟩
      rw [hresult c hc] at hchanged
      rw [hchanged, Bool.toNat_true]
      omega

end ControlPlane

/-! ## Every run -/

namespace Daemon

variable {d : Daemon}

/-- The counter has not fallen below what a cycle froze, and has passed
what is superseded. -/
def Ahead (d : Daemon) : Prop :=
  ∀ f ∈ d.frozen, f.policyRevision ≤ d.plane.cleanupPolicyRevision ∧
    (f.superseded = true → f.policyRevision < d.plane.cleanupPolicyRevision)

theorem Ahead.gateClosed (h : d.Ahead) : d.GateClosed := by
  intro f hf hsuperseded
  have hlt := (h f hf).2 hsuperseded
  exact ControlPlane.refuses_of_ne (Nat.ne_of_gt hlt)

/-- A counter that did not fall keeps ahead of the same cycles. -/
theorem Ahead.mono {plane : ControlPlane} (h : d.Ahead)
    (hle : d.plane.cleanupPolicyRevision ≤ plane.cleanupPolicyRevision) :
    Ahead ⟨plane, d.frozen⟩ := by
  intro f hf
  obtain ⟨hfrozen, hpassed⟩ := h f hf
  exact ⟨le_trans hfrozen hle, fun hs => lt_of_lt_of_le (hpassed hs) hle⟩

/-- A counter that rose is ahead of every cycle frozen before. -/
theorem Ahead.superseded {plane : ControlPlane} (h : d.Ahead)
    (hlt : d.plane.cleanupPolicyRevision < plane.cleanupPolicyRevision) :
    Ahead ⟨plane, supersede d.frozen⟩ := by
  intro f hf
  obtain ⟨g, hg, rfl⟩ := List.mem_map.1 hf
  have hpast : g.policyRevision < plane.cleanupPolicyRevision := lt_of_le_of_lt (h g hg).1 hlt
  exact ⟨le_of_lt hpast, fun _ => hpast⟩

/-- One step in order keeps the counter ahead. -/
theorem Ahead.step (h : d.Ahead) {step : DaemonStep} (hin : d.plane.RevisionInOrder step) :
    (d.step step).Ahead := by
  cases step with
  | freeze epoch =>
      intro f hf
      rcases List.mem_cons.1 hf with rfl | hf
      · exact ⟨le_rfl, fun hs => by cases hs⟩
      · exact h f hf
  | operator command now =>
      cases hcommand : d.plane.handleAt command now with
      | error e =>
          simp only [Daemon.step, hcommand]
          exact h
      | ok answer =>
          obtain ⟨plane, payload⟩ := answer
          simp only [Daemon.step, hcommand]
          refine h.superseded ?_
          rw [ControlPlane.handleAt_revision hcommand, Nat.mod_eq_of_lt hin]
          omega
  | publicMutation context mutation now =>
      obtain ⟨plane, result, hcommit⟩ : ∃ plane result,
          d.plane.commitPublicMutation context mutation now = (plane, result) := ⟨_, _, rfl⟩
      obtain ⟨hle, hlt⟩ := ControlPlane.commitPublicMutation_revision hin hcommit
      cases result with
      | error e =>
          simp only [Daemon.step, hcommit]
          exact h.mono hle
      | ok commit =>
          simp only [Daemon.step, hcommit]
          split_ifs with hchanged
          · exact h.superseded (hlt commit rfl hchanged)
          · exact h.mono hle
  | storeWork op => exact h.mono le_rfl
  | lifecycle lifecycle => exact h.mono le_rfl
  | expirePause now =>
      refine h.mono (le_of_eq ?_)
      unfold ControlPlane.expirePause
      split_ifs
      · rfl
      · rfl

/-- **The gate never reopens**, in every run that never takes the counter
back: from any daemon that starts, whatever it does in which order, after
each of its steps. -/
theorem gate_never_reopens {plane : ControlPlane} {steps : List DaemonStep}
    (h : Transition.Along Daemon.step (fun d => d.plane.RevisionInOrder) (start plane) steps)
    (n : Nat) : ((start plane).run (steps.take n)).GateClosed := by
  have hstart : (start plane).Ahead := by
    intro f hf
    cases hf
  have hahead : ((start plane).run (steps.take n)).Ahead :=
    (h.take n).invariant (fun _ _ hd hin => hd.step hin) hstart
  exact hahead.gateClosed

/-- A daemon that enforces, over a store where an incident was observed. -/
def enforcing : Daemon :=
  start (.new Cycle.observedStore (.new .enforce "instance"))

/-- The name of a request. -/
def requestNamed (mutationId : String) : MutationContext := ⟨Store.sampleToken.value, mutationId⟩

/-- The owner protects an incident, a cycle freezes, the owner pauses; then
the first request comes again. -/
def replayed : List DaemonStep :=
  [.publicMutation (requestNamed "00000000-0000-4000-8000-000000000001")
      (.protectIncident "incident") 10,
    .freeze "unmanaged-explicit-1",
    .publicMutation (requestNamed "00000000-0000-4000-8000-000000000002") (.pause 60000) 11,
    .publicMutation (requestNamed "00000000-0000-4000-8000-000000000001")
      (.protectIncident "incident") 12]

/-- The replay takes the counter back to the revision the cycle froze, and
the gate is open for it again, in the middle of the pause. -/
theorem replay_reopens_gate : ¬ (enforcing.run replayed).GateClosed := by
  intro hclosed
  have hfrozen : (⟨"unmanaged-explicit-1", 2, true⟩ : FrozenCycle) ∈
      (enforcing.run replayed).frozen := by
    decide +kernel
  have hopen : (enforcing.run replayed).plane.actionGateClosed "unmanaged-explicit-1" 2 = false := by
    decide +kernel
  have hrefuses := (hclosed _ hfrozen rfl).closed
  rw [hopen] at hrefuses
  cases hrefuses

/-- Without the replay the run is in order. -/
theorem gate_never_reopens_paused :
    (⟨"unmanaged-explicit-1", 2, true⟩ : FrozenCycle) ∈ (enforcing.run (replayed.take 3)).frozen ∧
      (enforcing.run (replayed.take 3)).GateClosed := by
  have hfrozen : (⟨"unmanaged-explicit-1", 2, true⟩ : FrozenCycle) ∈
      (enforcing.run (replayed.take 3)).frozen := by
    decide +kernel
  have hinOrder : Transition.Along Daemon.step (fun d => d.plane.RevisionInOrder) enforcing
      (replayed.take 3) := by
    decide +kernel
  exact ⟨hfrozen, gate_never_reopens hinOrder 3⟩

end Daemon

end Unlinger
