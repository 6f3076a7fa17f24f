import Unlinger.Daemon.Helpers.Effect
import Unlinger.Daemon.Model.Service

/-!
# What a request does to the service

The owner's requests touch the pause and cancel leases, and let the
lifecycle be; the lifecycle comes from a transition of the store, and the
ones that stop a daemon leave nothing armed. Each is read back once here.
-/

namespace Unlinger

theorem faulted_eq_ok {α : Type} {fault : Option StoreError} {x : Except StoreError α} {a : α} :
    faulted fault x = .ok a ↔ fault = none ∧ x = .ok a := by
  cases fault with
  | none => simp [faulted]
  | some e => simp [faulted]

/-! ## The owner's requests -/

/-- Nothing but the pause changes, and leases are cancelled or let be. -/
def DaemonStatus.Repaused (s s' : DaemonStatus) : Prop :=
  ∃ deadline, s' = { s with pausedUntilUnixMillis := deadline } ∨
    s' = { s with pausedUntilUnixMillis := deadline }.cancelPromptActivities

theorem DaemonStatus.Repaused.refl (s : DaemonStatus) : s.Repaused s :=
  ⟨s.pausedUntilUnixMillis, Or.inl rfl⟩

namespace ControlPlane

variable {p p' : ControlPlane} {now : Nat}

theorem lifecycle?_setPauseUntil {s s' : Store} {deadline : Option Nat}
    (h : orStoreError (s.setPauseUntil deadline) = .ok s') : s'.lifecycle? = s.lifecycle? := by
  have hok : s.setPauseUntil deadline = .ok s' := mapError_eq_ok.1 h
  unfold Store.setPauseUntil at hok
  cases deadline with
  | none =>
      rw [pure_eq_ok] at hok
      exact hok ▸ rfl
  | some deadline =>
      simp only [bind_eq_ok, pure_eq_ok] at hok
      obtain ⟨-, -, rfl⟩ := hok
      rfl

/-- A command of the operator. -/
theorem handleAt_repaused {command : IpcCommand} {payload : IpcPayload}
    (h : p.handleAt command now = .ok (p', payload)) :
    p.status.Repaused p'.status ∧ p'.store.lifecycle? = p.store.lifecycle? := by
  unfold handleAt at h
  cases command with
  | pause duration =>
      simp only [bind_eq_ok, pure_eq_ok] at h
      obtain ⟨-, -, -, -, store, hstore, heq⟩ := h
      obtain ⟨rfl, -⟩ := Prod.mk.inj heq
      exact ⟨⟨_, Or.inr rfl⟩, lifecycle?_setPauseUntil hstore⟩
  | resume =>
      simp only [bind_eq_ok, pure_eq_ok] at h
      obtain ⟨store, hstore, heq⟩ := h
      obtain ⟨rfl, -⟩ := Prod.mk.inj heq
      exact ⟨⟨_, Or.inl rfl⟩, lifecycle?_setPauseUntil hstore⟩
  | retryFailedCleanup incidentId =>
      simp only [bind_eq_ok, pure_eq_ok] at h
      obtain ⟨-, -, ⟨store, authorized⟩, hstore, -, -, heq⟩ := h
      obtain ⟨rfl, -⟩ := Prod.mk.inj heq
      refine ⟨DaemonStatus.Repaused.refl _, ?_⟩
      have hok : p.store.authorizeRetry incidentId now = .ok (store, authorized) :=
        mapError_eq_ok.1 hstore
      simp only [Store.authorizeRetry, bind_eq_ok] at hok
      obtain ⟨-, -, hok⟩ := hok
      split at hok
      · obtain ⟨rfl, -⟩ := Prod.mk.inj (pure_eq_ok.1 hok)
        rfl
      · obtain ⟨rfl, -⟩ := Prod.mk.inj (pure_eq_ok.1 hok)
        rfl
  | protectIncident incidentId =>
      simp only [bind_eq_ok, pure_eq_ok] at h
      obtain ⟨_, -, ⟨store, summary⟩, hstore, _, -, heq⟩ := h
      obtain ⟨rfl, -⟩ := Prod.mk.inj heq
      refine ⟨DaemonStatus.Repaused.refl _, ?_⟩
      rcases Store.protectIncident_ok (mapError_eq_ok.1 hstore) with ⟨-, rfl⟩ | ⟨-, -, -, rfl⟩
      · rfl
      · rfl
  | unprotectIncident incidentId =>
      simp only [bind_eq_ok, pure_eq_ok] at h
      obtain ⟨-, -, -, -, heq⟩ := h
      obtain ⟨rfl, -⟩ := Prod.mk.inj heq
      exact ⟨DaemonStatus.Repaused.refl _, rfl⟩

/-- A pause the operator is told of has cancelled every lease. -/
theorem handleAt_pause {duration : Nat} {payload : IpcPayload}
    (h : p.handleAt (.pause duration) now = .ok (p', payload)) :
    ∃ deadline,
      p'.status = { p.status with pausedUntilUnixMillis := deadline }.cancelPromptActivities := by
  unfold handleAt at h
  simp only [bind_eq_ok, pure_eq_ok] at h
  obtain ⟨-, -, -, -, store, -, heq⟩ := h
  obtain ⟨rfl, -⟩ := Prod.mk.inj heq
  exact ⟨_, rfl⟩

theorem applyResult_repaused {s : DaemonStatus} {result : MutationResult} :
    s.Repaused (applyResult s result) := by
  cases result with
  | paused deadline => exact ⟨some deadline, Or.inr rfl⟩
  | resumed => exact ⟨none, Or.inl rfl⟩
  | retryScheduled incidentId => exact DaemonStatus.Repaused.refl s
  | incidentProtected protection => exact DaemonStatus.Repaused.refl s
  | incidentUnprotected incidentId => exact DaemonStatus.Repaused.refl s

/-- A public mutation. -/
theorem commitPublicMutation_repaused (p : ControlPlane) (context : MutationContext)
    (mutation : OrdinaryMutation) (now : Nat) :
    p.status.Repaused (p.commitPublicMutation context mutation now).1.status ∧
      (p.commitPublicMutation context mutation now).1.store.lifecycle? = p.store.lifecycle? := by
  unfold commitPublicMutation
  split
  · exact ⟨DaemonStatus.Repaused.refl _, rfl⟩
  · rename_i store commit hcommit
    have hlifecycle : store.lifecycle? = p.store.lifecycle? := by
      rcases Store.commitPublicOrdinaryMutation_cases hcommit with ⟨-, -, -, rfl, -⟩ | ⟨-, -, -, rfl⟩
      · rfl
      · rfl
    split_ifs
    · split
      · exact ⟨applyResult_repaused, hlifecycle⟩
      · exact ⟨DaemonStatus.Repaused.refl _, hlifecycle⟩
      · exact ⟨DaemonStatus.Repaused.refl _, hlifecycle⟩
    · exact ⟨DaemonStatus.Repaused.refl _, hlifecycle⟩

/-- A public pause that was carried out has cancelled every lease. -/
theorem commitPublicMutation_pause {context : MutationContext} {mutation : OrdinaryMutation}
    {commit : MutationCommit} {deadline : Nat}
    (h : (p.commitPublicMutation context mutation now).2 = .ok commit)
    (hchanged : commit.stateChanged = true)
    (hpaused : commit.receipt.outcome = .applied (.paused deadline)) :
    (p.commitPublicMutation context mutation now).1.status =
      { p.status with pausedUntilUnixMillis := some deadline }.cancelPromptActivities := by
  unfold commitPublicMutation at h ⊢
  split at h
  · cases h
  · rename_i store answer hcommit
    by_cases hsame : answer.stateChanged = true
    · rw [if_pos hsame] at h ⊢
      split at h
      · rename_i result houtcome
        obtain rfl := Except.ok.inj h
        obtain rfl := MutationOutcome.applied.inj (houtcome.symm.trans hpaused)
        rfl
      · cases h
      · cases h
    · rw [if_neg hsame] at h
      obtain rfl := Except.ok.inj h
      exact absurd hchanged hsame

/-- An expired pause. -/
theorem expirePause_repaused (p : ControlPlane) (now : Nat) :
    p.status.Repaused (p.expirePause now).status ∧
      (p.expirePause now).store.lifecycle? = p.store.lifecycle? := by
  unfold expirePause
  split_ifs
  · exact ⟨⟨none, Or.inl rfl⟩, rfl⟩
  · exact ⟨DaemonStatus.Repaused.refl _, rfl⟩

end ControlPlane

/-! ## Lifecycles that stop a daemon -/

/-- Nothing is armed, and the daemon is not ready. -/
structure ManagedLifecycle.Shut (l : ManagedLifecycle) : Prop where
  effective : l.effectiveEnforce = false
  epoch : l.enforcementEpoch = none
  ready : l.ready = false

/-- It drains besides. -/
structure ManagedLifecycle.Drains (l : ManagedLifecycle) : Prop extends l.Shut where
  draining : l.draining = true
  phase : l.startupPhase = .draining

namespace Store

variable {s s' : Store} {l : ManagedLifecycle} {generation now : Nat} {instanceId : String}

/-- A daemon that failed has failed, or goes on draining. -/
theorem failManaged_shut (h : s.failManaged generation instanceId now = .ok (s', l)) :
    s'.lifecycle? = some l ∧ l.Shut ∧ (l.startupPhase = .failed ∨ l.Drains) := by
  have hop : s.performManaged (.failManaged generation instanceId now) = .ok (s', l) := h
  obtain ⟨hmoves, heffect⟩ := performManaged_ok hop
  cases hmoves with
  | @failed _ _ _ c hc =>
      refine ⟨heffect.stored, ⟨rfl, rfl, rfl⟩, ?_⟩
      cases hdraining : c.draining with
      | false => exact Or.inl (by simp)
      | true => exact Or.inr ⟨⟨rfl, rfl, rfl⟩, by simp, by simp⟩

/-- A daemon that is told to drain does. -/
theorem beginManagedDrain_drains (h : s.beginManagedDrain generation instanceId now = .ok (s', l)) :
    s'.lifecycle? = some l ∧ l.Drains := by
  have hop : s.performManaged (.beginManagedDrain generation instanceId now) = .ok (s', l) := h
  obtain ⟨hmoves, heffect⟩ := performManaged_ok hop
  cases hmoves with
  | draining hc => exact ⟨heffect.stored, ⟨rfl, rfl, rfl⟩, rfl, rfl⟩

/-- Disarming arms nothing; a daemon that drains and is not ready stays so. -/
theorem disarmManaged_unarmed (h : s.disarmManaged generation instanceId now = .ok (s', l)) :
    s'.lifecycle? = some l ∧ l.effectiveEnforce = false ∧
      ∀ c, s.lifecycle? = some c → c.draining = true → c.ready = false → l.Drains := by
  have hop : s.performManaged (.disarmManaged generation instanceId now) = .ok (s', l) := h
  obtain ⟨hmoves, heffect⟩ := performManaged_ok hop
  cases hmoves with
  | @disarmed _ _ _ c hc =>
      refine ⟨heffect.stored, rfl, fun other hother hdraining hready => ?_⟩
      obtain rfl := Option.some.inj (hc.stored.symm.trans hother)
      refine ⟨⟨rfl, rfl, ?_⟩, ?_, ?_⟩
      · exact hready
      · exact hdraining
      · simp [hdraining]

end Store

end Unlinger
