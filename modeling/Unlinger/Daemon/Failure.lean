import Unlinger.Daemon.Helpers.Service

/-!
# A failed instance stays closed

Once an instance has failed closed, whatever it is asked or does next,
and whichever calls of the store fail: it enforces nothing, has no epoch,
is not ready, and reports the failure it reported first. It may leave the
failed state only to drain, and then the store drains too, so that no
later transition finds a lifecycle that could make it ready.
-/

namespace Unlinger

/-- Two statuses with the same gate in the same phase. -/
structure DaemonStatus.SameGate (s s' : DaemonStatus) : Prop where
  mode : s'.mode = s.mode
  storedMode : s'.storedEffectiveMode = s.storedEffectiveMode
  epoch : s'.enforcementEpoch = s.enforcementEpoch
  ready : s'.ready = s.ready
  startup : s'.startupState = s.startupState
  managed : s'.managed = s.managed
  draining : s'.draining = s.draining

theorem DaemonStatus.SameGate.refl (s : DaemonStatus) : s.SameGate s :=
  ⟨rfl, rfl, rfl, rfl, rfl, rfl, rfl⟩

/-- The pause and the cancelled leases are not of the gate. -/
theorem DaemonStatus.Repaused.sameGate {s s' : DaemonStatus} (h : s.Repaused s') : s.SameGate s' := by
  obtain ⟨deadline, rfl | rfl⟩ := h
  · exact ⟨rfl, rfl, rfl, rfl, rfl, rfl, rfl⟩
  · exact ⟨rfl, rfl, rfl, rfl, rfl, rfl, rfl⟩

namespace ServiceStatus

variable {s : ServiceStatus} {l : ManagedLifecycle}

/-- What a closed status has in common: failed or draining. -/
structure Closed (s : ServiceStatus) (first : FirstFailure) : Prop where
  mode : s.mode = .reportOnly
  storedMode : s.storedEffectiveMode = .reportOnly
  epoch : s.enforcementEpoch = none
  ready : s.ready = false
  first : s.firstFailure = some first

variable {first : FirstFailure}

theorem Closed.effectiveMode (h : s.Closed first) : s.effectiveMode = .reportOnly := by
  unfold DaemonStatus.effectiveMode
  split_ifs
  · exact h.mode
  · exact h.storedMode

theorem closed_applyLifecycle (h : s.firstFailure = some first) (hl : l.Shut) :
    (s.applyLifecycle l).Closed first := by
  have hmode : DaemonMode.ofEnforce l.effectiveEnforce = .reportOnly := by
    rw [hl.effective]
    rfl
  exact ⟨hmode, hmode, hl.epoch, hl.ready, h⟩

end ServiceStatus

namespace Service

variable {p : Service} {first : FirstFailure}

/-- The instance failed, or drains with its lifecycle. -/
def Stopped (p : Service) : Prop :=
  p.status.startupState = .failed ∨
    (p.status.managed = true ∧ p.status.draining = true ∧ p.status.startupState = .draining ∧
      ∃ c, p.store.lifecycle? = some c ∧ c.draining = true ∧ c.ready = false)

/-- **The invariant of a failed instance.** -/
structure Failed (p : Service) (first : FirstFailure) : Prop where
  closed : p.status.Closed first
  stopped : p.Stopped

/-- The store's account of a failure, or of draining, stops the
instance. -/
theorem failed_applyLifecycle {store : Store} {l : ManagedLifecycle} {healthy : Bool}
    {lastError : Option String} (hfirst : p.status.firstFailure = some first)
    (hstored : store.lifecycle? = some l) (hshut : l.Shut)
    (hphase : l.startupPhase = .failed ∨ l.Drains) :
    Failed { p with
      store := store
      status := { p.status.applyLifecycle l with healthy := healthy, lastError := lastError } }
      first := by
  have hclosed := ServiceStatus.closed_applyLifecycle (s := p.status) hfirst hshut
  refine ⟨⟨hclosed.mode, hclosed.storedMode, hclosed.epoch, hclosed.ready, hclosed.first⟩, ?_⟩
  rcases hphase with hphase | hdrains
  · refine Or.inl ?_
    show l.startupPhase.startupState = .failed
    rw [hphase]
    rfl
  · refine Or.inr ⟨rfl, hdrains.draining, ?_, l, hstored, hdrains.draining, hdrains.ready⟩
    show l.startupPhase.startupState = .draining
    rw [hdrains.phase]
    rfl

/-- A change of the status that touches neither the gate nor the phase. -/
theorem Failed.sameGate (h : p.Failed first) {q : Service}
    (hstore : q.store.lifecycle? = p.store.lifecycle?)
    (hgate : p.status.toDaemonStatus.SameGate q.status.toDaemonStatus)
    (hfirst : q.status.firstFailure = p.status.firstFailure) : q.Failed first where
  closed := {
    mode := hgate.mode.trans h.closed.mode
    storedMode := hgate.storedMode.trans h.closed.storedMode
    epoch := hgate.epoch.trans h.closed.epoch
    ready := hgate.ready.trans h.closed.ready
    first := hfirst.trans h.closed.first }
  stopped := by
    unfold Stopped
    rw [hgate.startup, hgate.managed, hgate.draining, hstore]
    exact h.stopped

/-! ## One step -/

theorem Failed.handleAt (h : p.Failed first) (command : IpcCommand) (now : Nat)
    (fault : Option StoreError) : (p.handleAt command now fault).1.Failed first := by
  unfold Service.handleAt
  split
  · exact h
  · rename_i q payload hok
    obtain ⟨hpause, hstore⟩ := ControlPlane.handleAt_repaused hok
    cases fault with
    | some e => exact h
    | none => exact h.sameGate hstore hpause.sameGate rfl

theorem Failed.commitPublicMutation (h : p.Failed first) (context : MutationContext)
    (mutation : OrdinaryMutation) (now : Nat) (fault : Option StoreError) :
    (p.commitPublicMutation context mutation now fault).1.Failed first := by
  unfold Service.commitPublicMutation
  cases fault with
  | some e => exact h
  | none =>
      obtain ⟨hpause, hstore⟩ := p.plane.commitPublicMutation_repaused context mutation now
      exact h.sameGate hstore hpause.sameGate rfl

theorem Failed.expirePause (h : p.Failed first) {now : Nat} {fault : Option StoreError} {q : Service}
    (hok : p.expirePause now fault = .ok q) : q.Failed first := by
  unfold Service.expirePause at hok
  split_ifs at hok
  · cases fault with
    | some e => cases hok
    | none =>
        obtain rfl := Except.ok.inj hok
        obtain ⟨hpause, hstore⟩ := p.plane.expirePause_repaused now
        exact h.sameGate hstore hpause.sameGate rfl
  · obtain rfl := Except.ok.inj hok
    exact h

/-- Arming asks for a ready instance. -/
theorem Failed.not_arm (h : p.Failed first) {generation now : Nat} {instanceId epoch : String}
    {fault : Option StoreError} {q : Service} :
    p.arm generation instanceId now epoch fault ≠ .ok q := by
  intro hok
  simp only [arm, bind_eq_ok, require_eq_ok] at hok
  obtain ⟨-, -, -, ⟨-, hready, -⟩, -⟩ := hok
  rw [h.closed.ready] at hready
  cases hready

theorem Failed.disarm (h : p.Failed first) {generation now : Nat} {instanceId : String}
    {fault : Option StoreError} {q : Service}
    (hok : p.disarm generation instanceId now fault = .ok q) : q.Failed first := by
  simp only [Service.disarm, bind_eq_ok] at hok
  obtain ⟨-, -, hok⟩ := hok
  by_cases hfailed : p.status.startupState = .failed
  · rw [if_pos hfailed] at hok
    simp only [bind_eq_ok, mapError_eq_ok, faulted_eq_ok, pure_eq_ok] at hok
    obtain ⟨⟨store, l⟩, ⟨-, hfail⟩, rfl⟩ := hok
    obtain ⟨hstored, hshut, hphase⟩ := Store.failManaged_shut hfail
    exact failed_applyLifecycle h.closed.first hstored hshut hphase
  · rw [if_neg hfailed] at hok
    simp only [bind_eq_ok, mapError_eq_ok, faulted_eq_ok, pure_eq_ok] at hok
    obtain ⟨⟨store, l⟩, ⟨-, hdisarm⟩, rfl⟩ := hok
    -- what is not failed drains, and so does the row the store disarms
    rcases h.stopped with hstate | ⟨-, -, -, c, hc, hdraining, hready⟩
    · exact absurd hstate hfailed
    · obtain ⟨hstored, -, hdrains⟩ := Store.disarmManaged_unarmed hdisarm
      have hl : l.Drains := hdrains c hc hdraining hready
      exact failed_applyLifecycle h.closed.first hstored hl.toShut (Or.inr hl)

theorem Failed.beginDrain (h : p.Failed first) {generation now : Nat} {instanceId : String}
    {fault : Option StoreError} {q : Service}
    (hok : p.beginDrain generation instanceId now fault = .ok q) : q.Failed first := by
  simp only [Service.beginDrain, bind_eq_ok, mapError_eq_ok, faulted_eq_ok, pure_eq_ok] at hok
  obtain ⟨-, -, ⟨store, l⟩, ⟨-, hdrain⟩, rfl⟩ := hok
  obtain ⟨hstored, hl⟩ := Store.beginManagedDrain_drains hdrain
  exact failed_applyLifecycle h.closed.first hstored hl.toShut (Or.inr hl)

theorem Failed.handleLifecycleAt (h : p.Failed first) {command : LifecycleCommand} {now : Nat}
    {epoch : String} {fault : Option StoreError} {q : Service}
    (hok : p.handleLifecycleAt command now epoch fault = .ok q) : q.Failed first := by
  cases command with
  | status => exact h.expirePause hok
  | arm generation instanceId => exact absurd hok h.not_arm
  | disarm generation instanceId => exact h.disarm hok
  | beginDrain generation instanceId => exact h.beginDrain hok

theorem Failed.failCycle (h : p.Failed first) (generation : Nat) (instanceId : String) (now : Nat)
    (fault : Option StoreError) (lastError : Option String) (failed : ControlError)
    (account : String) :
    (p.failCycle generation instanceId now fault lastError failed account).1.Failed first := by
  unfold Service.failCycle
  split
  · rename_i store l hfail
    obtain ⟨hstored, hshut, hphase⟩ := Store.failManaged_shut (faulted_eq_ok.1 hfail).2
    exact failed_applyLifecycle h.closed.first hstored hshut hphase
  · exact ⟨⟨rfl, rfl, rfl, rfl, h.closed.first⟩, Or.inl rfl⟩

/-- A cycle that succeeds is told that it is too late. -/
theorem Failed.completeSuccessfulCycle (h : p.Failed first) (now : Nat) (epoch : String)
    (scanFault failFault : Option StoreError) :
    (p.completeSuccessfulCycle now epoch scanFault failFault).1.Failed first := by
  simp only [Service.completeSuccessfulCycle]
  by_cases hfailed : p.status.startupState = .failed
  · cases hmanaged : p.status.managed with
    | false => simpa [hfailed] using h
    | true =>
        simp only [hfailed, Bool.true_eq_false, false_and, and_self, if_false, if_true]
        split
        · exact h
        · exact h.failCycle _ _ _ _ _ _ _
  · rcases h.stopped with hstate | ⟨hmanaged, hdraining, hstartup, hrow⟩
    · exact absurd hstate hfailed
    · simp only [hfailed, hdraining, and_false, Bool.true_eq_false, false_and, if_false]
      -- draining, so the end of the cycle leaves it draining and unready
      refine ⟨⟨h.closed.mode, h.closed.storedMode, h.closed.epoch, ?_, h.closed.first⟩,
        Or.inr ⟨hmanaged, hdraining, ?_, hrow⟩⟩
      · simp [ServiceStatus.settle, h.closed.ready, hmanaged]
      · simp [ServiceStatus.settle, hdraining]

/-- **Failing closes, whatever the store says**; the first failure is the
one that is kept. -/
theorem failed_failClosed (p : Service) (now : Nat) (message sourceFile : String)
    (sourceLine : Nat) (fault : Option StoreError) {first : FirstFailure}
    (hfirst : p.status.firstFailure.or
      (some ⟨now, boundedMessage message, sourceFileName sourceFile, sourceLine⟩) = some first) :
    (p.failClosed now message sourceFile sourceLine fault).1.Failed first := by
  simp only [failClosed]
  refine ⟨⟨rfl, rfl, rfl, rfl, ?_⟩, Or.inl rfl⟩
  split
  · exact hfirst
  · exact hfirst

/-- A closed instance starts no lease. -/
theorem Failed.gate_closed (h : p.Failed first) : p.status.storageCleanupGateOpen = false := by
  simp [ServiceStatus.storageCleanupGateOpen, h.closed.ready]

theorem Failed.startStorageCleanup (h : p.Failed first) (now : Nat) (fault : Option StoreError)
    (prepared : Except StoreError String) :
    (p.startStorageCleanupIfReadyEnforce now fault prepared).1.Failed first := by
  unfold startStorageCleanupIfReadyEnforce
  split
  · exact h
  · rename_i q hok
    have hq : q.Failed first := h.expirePause hok
    rw [if_neg (by simp [hq.gate_closed])]
    exact hq

theorem Failed.startCache (h : p.Failed first) (now : Nat) (kind : ToolCacheKind)
    (fault : Option StoreError) (prepared : ToolCacheKind → Except StoreError String)
    (spawned : Bool) :
    (p.startCacheIfReadyEnforce now kind fault prepared spawned).1.Failed first := by
  unfold startCacheIfReadyEnforce
  split
  · exact h
  · rename_i q hok
    have hq : q.Failed first := h.expirePause hok
    rw [if_neg (by simp [hq.gate_closed])]
    exact hq

theorem Failed.orKept (h : p.Failed first) {r : Except ControlError Service}
    (hok : ∀ q, r = .ok q → q.Failed first) : (p.orKept r).Failed first := by
  cases r with
  | error e => exact h
  | ok q => exact hok q rfl

/-- **No step reopens a failed instance.** -/
theorem Failed.step (h : p.Failed first) (a : ServiceStep) : (p.step a).Failed first := by
  cases a with
  | operator command now fault => exact h.handleAt command now fault
  | lifecycle command now epoch fault => exact h.orKept fun q hok => h.handleLifecycleAt hok
  | publicMutation context mutation now fault =>
      exact h.commitPublicMutation context mutation now fault
  | expirePause now fault => exact h.orKept fun q hok => h.expirePause hok
  | beginObservationCycle cycleToken => exact h.sameGate rfl (DaemonStatus.SameGate.refl _) rfl
  | publishRoster cycleToken =>
      simp only [Service.step, publishRoster]
      split_ifs
      · exact h.sameGate rfl (DaemonStatus.SameGate.refl _) rfl
      · exact h
  | finishObservationCycle cycleToken succeeded =>
      simp only [Service.step, finishObservationCycle]
      by_cases hactive : p.roster.activeCycleToken = some cycleToken
      · rw [if_pos hactive]
        exact h.sameGate rfl (DaemonStatus.SameGate.refl _) rfl
      · rw [if_neg hactive]
        exact h
  | noteCycleSucceeded => exact h.sameGate rfl (DaemonStatus.SameGate.refl _) rfl
  | noteCycleFailed message => exact h.sameGate rfl (DaemonStatus.SameGate.refl _) rfl
  | completeSuccessfulCycle now epoch scanFault failFault =>
      exact h.completeSuccessfulCycle now epoch scanFault failFault
  | failClosed now message sourceFile sourceLine fault =>
      refine failed_failClosed p now message sourceFile sourceLine fault ?_
      rw [h.closed.first]
      rfl
  | startStorageCleanup now fault prepared => exact h.startStorageCleanup now fault prepared
  | startToolCache now fault prepared spawned => exact h.startCache now _ fault prepared spawned
  | startNodeCompileCache now fault prepared spawned =>
      exact h.startCache now _ fault prepared spawned
  | finishStorageAction token =>
      refine h.orKept fun q hok => ?_
      simp only [finishStorageAction, bind_eq_ok, pure_eq_ok] at hok
      obtain ⟨-, -, rfl⟩ := hok
      exact h.sameGate rfl ⟨rfl, rfl, rfl, rfl, rfl, rfl, rfl⟩ rfl
  | finishToolCacheAction token =>
      refine h.orKept fun q hok => ?_
      simp only [finishToolCacheAction, bind_eq_ok, pure_eq_ok] at hok
      obtain ⟨-, -, rfl⟩ := hok
      exact h.sameGate rfl ⟨rfl, rfl, rfl, rfl, rfl, rfl, rfl⟩ rfl
  | beginProcessCleanup token =>
      refine h.orKept fun q hok => ?_
      simp only [beginProcessCleanupActivity, bind_eq_ok, pure_eq_ok] at hok
      obtain ⟨-, -, rfl⟩ := hok
      exact h.sameGate rfl (DaemonStatus.SameGate.refl _) rfl
  | dropProcessCleanup token =>
      simp only [Service.step, dropProcessCleanupActivity]
      split_ifs
      · exact h.sameGate rfl (DaemonStatus.SameGate.refl _) rfl
      · exact h

/-! ## Every run -/

theorem Failed.run (h : p.Failed first) (steps : List ServiceStep) : (p.run steps).Failed first := by
  unfold Service.run
  induction steps generalizing p with
  | nil => exact h
  | cons a steps ih => exact ih (h.step a)

/-- **Terminal failure is never rehabilitated.** Once any instance, managed
or not, has failed closed, then after any further steps of it, whichever
calls of the store fail: it only reports, it has no enforcement epoch, it
is not ready, no epoch passes the signal gate, the gate of the other
cleanups is closed, and the first failure is the one it had reported
first. -/
theorem stays_failed (p : Service) (now : Nat) (message sourceFile : String) (sourceLine : Nat)
    (fault : Option StoreError) (later : List ServiceStep) :
    let q := (p.failClosed now message sourceFile sourceLine fault).1.run later
    q.status.effectiveMode = .reportOnly ∧ q.status.enforcementEpoch = none ∧
      q.status.ready = false ∧ (∀ epoch, q.status.signalGateMatches epoch = false) ∧
      q.status.storageCleanupGateOpen = false ∧
      q.status.firstFailure = p.status.firstFailure.or
        (some ⟨now, boundedMessage message, sourceFileName sourceFile, sourceLine⟩) := by
  intro q
  obtain ⟨first, hfirst⟩ : ∃ first, p.status.firstFailure.or
      (some ⟨now, boundedMessage message, sourceFileName sourceFile, sourceLine⟩) = some first := by
    cases p.status.firstFailure with
    | none => exact ⟨_, rfl⟩
    | some first => exact ⟨first, rfl⟩
  have hq : q.Failed first :=
    (failed_failClosed p now message sourceFile sourceLine fault hfirst).run later
  have hmode : q.status.effectiveMode = .reportOnly := hq.closed.effectiveMode
  refine ⟨hmode, hq.closed.epoch, hq.closed.ready, fun epoch => ?_, hq.gate_closed, ?_⟩
  · simp [DaemonStatus.signalGateMatches, hmode]
  · rw [hfirst]
    exact hq.closed.first

end Service

end Unlinger
