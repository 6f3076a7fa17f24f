import Unlinger.Daemon.Helpers.Service
import Unlinger.Daemon.Helpers.Store

/-!
# Leases of the other cleanups

A storage cleanup and the maintenance of a cache each hold a lease while
they run. `LeaseChange` says once what a step may do to the owners of a
cleanup: cancel leases, or start or end one of them. From it come the
invariant of every run, and that a cancelled lease stays cancelled: only a
new attempt brings a new lease, and its token is drawn for it alone.
-/

namespace Unlinger

/-- The token of the attempt a step prepares, where it prepares one. -/
def ServiceStep.drawn : ServiceStep → Option String
  | .startStorageCleanup _ _ prepared => prepared.toOption
  | .startToolCache _ _ prepared _ => (prepared .uvCache).toOption
  | .startNodeCompileCache _ _ prepared _ => (prepared .nodeCompileCache).toOption
  | _ => none

/-- The two leases. -/
inductive LeaseKind
  | storage
  | cache
  deriving DecidableEq

/-- The step that finishes the attempt of a token. -/
def LeaseKind.finish : LeaseKind → String → ServiceStep
  | .storage, token => .finishStorageAction token
  | .cache, token => .finishToolCacheAction token

namespace ServiceStatus

variable {s s' : ServiceStatus} {x x' : Option PromptActivity} {token : String} {l : ManagedLifecycle}

/-- The owner of a lease. -/
def lease (s : ServiceStatus) : LeaseKind → Option PromptActivity
  | .storage => s.storageActivity
  | .cache => s.cacheActivity

/-- May the attempt of a token go on? -/
def mayContinue (s : ServiceStatus) : LeaseKind → String → String → Bool
  | .storage, token, epoch => s.storageActionMayContinue token epoch
  | .cache, token, epoch => s.toolCacheActionMayContinue token epoch

/-- Nobody owns a cleanup, and the status says so. -/
structure Idle (s : ServiceStatus) : Prop where
  process : s.processActivity = none
  lease : ∀ k, s.lease k = none
  flag : s.cleanupInProgress = false

/-- The status says that a cleanup is in progress exactly where somebody
owns one. -/
def Accounted (s : ServiceStatus) : Prop :=
  s.cleanupInProgress =
    (s.processActivity.isSome || s.cacheActivity.isSome || s.storageActivity.isSome)

/-! ## Keeping and cancelling -/

/-- A lease stays, or is cancelled. -/
def Keeps (x x' : Option PromptActivity) : Prop := x' = x ∨ x' = DaemonStatus.cancel x

/-- Whatever lease the attempt of a token holds is cancelled. -/
def Latched (token : String) (x : Option PromptActivity) : Prop :=
  ∀ activity, x = some activity → activity.token = token → activity.cancelRequested = true

theorem Keeps.isSome (h : Keeps x x') : x'.isSome = x.isSome := by
  rcases h with rfl | rfl
  · rfl
  · simp [DaemonStatus.cancel]

theorem Keeps.cancelled (h : Keeps (DaemonStatus.cancel x) x') : x' = DaemonStatus.cancel x := by
  rcases h with rfl | rfl
  · rfl
  · cases x with
    | none => rfl
    | some activity => rfl

/-- The attempt of a lease that is kept is the same. -/
theorem Keeps.attempt {activity : PromptActivity} (h : Keeps x x') (hx' : x' = some activity) :
    ∃ before, x = some before ∧ before.token = activity.token ∧ before.epoch = activity.epoch := by
  rcases h with rfl | rfl
  · exact ⟨activity, hx', rfl, rfl⟩
  · obtain ⟨before, hbefore, rfl⟩ := Option.map_eq_some_iff.1 hx'
    exact ⟨before, hbefore, rfl, rfl⟩

theorem latched_cancel : Latched token (DaemonStatus.cancel x) := by
  rintro activity hactivity -
  obtain ⟨before, -, rfl⟩ := Option.map_eq_some_iff.1 hactivity
  rfl

theorem Latched.keeps (h : Latched token x) (hkeeps : Keeps x x') : Latched token x' := by
  rcases hkeeps with rfl | rfl
  · exact h
  · exact latched_cancel

/-- An attempt whose lease is cancelled may not go on. -/
theorem Latched.not_mayContinue {k : LeaseKind} {epoch : String} (h : Latched token (s.lease k)) :
    s.mayContinue k token epoch = false := by
  have hnot : ownedBy (s.lease k) token epoch = false := by
    cases hlease : s.lease k with
    | none => rfl
    | some activity =>
        by_cases htoken : activity.token = token
        · simp [ownedBy, h activity hlease htoken]
        · simp [ownedBy, htoken]
  cases k with
  | storage =>
      show s.storageActionMayContinue token epoch = false
      rw [storageActionMayContinue, show ownedBy s.storageActivity token epoch = false from hnot]
      rfl
  | cache =>
      show s.toolCacheActionMayContinue token epoch = false
      rw [toolCacheActionMayContinue, show ownedBy s.cacheActivity token epoch = false from hnot]
      rfl

/-- The owners stay, except that leases may be cancelled. -/
structure Latches (s s' : ServiceStatus) : Prop where
  process : s'.processActivity = s.processActivity
  lease : ∀ k, Keeps (s.lease k) (s'.lease k)
  flag : s'.cleanupInProgress = s.cleanupInProgress

theorem Latches.refl (s : ServiceStatus) : s.Latches s := ⟨rfl, fun _ => Or.inl rfl, rfl⟩

theorem Latches.accounted (h : s.Latches s') (hs : s.Accounted) : s'.Accounted := by
  have hcache : s'.cacheActivity.isSome = s.cacheActivity.isSome := (h.lease .cache).isSome
  have hstorage : s'.storageActivity.isSome = s.storageActivity.isSome := (h.lease .storage).isSome
  unfold Accounted
  rw [h.flag, h.process, hcache, hstorage]
  exact hs

/-- What a pause or its end does to the owners. -/
theorem latches_repaused {status : DaemonStatus} (h : s.toDaemonStatus.Repaused status) :
    s.Latches { s with toDaemonStatus := status } := by
  obtain ⟨deadline, rfl | rfl⟩ := h
  · refine ⟨rfl, fun k => Or.inl ?_, rfl⟩
    cases k <;> rfl
  · refine ⟨rfl, fun k => Or.inr ?_, rfl⟩
    cases k <;> rfl

/-- A lifecycle that enforces lets the leases be, every other one cancels
them. -/
theorem lease_applyLifecycle (k : LeaseKind) :
    (s.applyLifecycle l).lease k =
      if l.effectiveEnforce then s.lease k else DaemonStatus.cancel (s.lease k) := by
  unfold applyLifecycle applyManagedLifecycle
  cases l.effectiveEnforce with
  | false => cases k <;> rfl
  | true => cases k <;> rfl

theorem keeps_applyLifecycle (k : LeaseKind) :
    Keeps (s.lease k) ((s.applyLifecycle l).lease k) := by
  rw [lease_applyLifecycle]
  cases l.effectiveEnforce with
  | false => exact Or.inr rfl
  | true => exact Or.inl rfl

/-- The lifecycle's leases, with a status that differs only in its
account. -/
theorem latches_applyLifecycle {status : ServiceStatus}
    (hstatus : status.toDaemonStatus = (s.applyLifecycle l).toDaemonStatus)
    (hprocess : status.processActivity = s.processActivity)
    (hflag : status.cleanupInProgress = s.cleanupInProgress) : s.Latches status := by
  refine ⟨hprocess, fun k => ?_, hflag⟩
  have hlease : status.lease k = (s.applyLifecycle l).lease k := by
    cases k with
    | storage => exact congrArg DaemonStatus.storageActivity hstatus
    | cache => exact congrArg DaemonStatus.cacheActivity hstatus
  rw [hlease]
  exact keeps_applyLifecycle k

/-- No cleanup in progress is no owner at all. -/
theorem Accounted.free (h : s.Accounted) (hfree : s.cleanupInProgress = false) :
    s.processActivity = none ∧ ∀ k, s.lease k = none := by
  rw [Accounted, hfree] at h
  simp only [Bool.false_eq, Bool.or_eq_false_iff, Option.isSome_eq_false_iff,
    Option.isNone_iff_eq_none] at h
  obtain ⟨⟨hprocess, hcache⟩, hstorage⟩ := h
  refine ⟨hprocess, fun k => ?_⟩
  cases k with
  | storage => exact hstorage
  | cache => exact hcache

theorem accounted_refresh : s.refreshCleanupActivity.Accounted := rfl

/-- The gate of a start: nothing scans, and no cleanup is in progress. -/
theorem gateOpen_free (h : s.storageCleanupGateOpen = true) :
    s.scanInProgress = false ∧ s.cleanupInProgress = false := by
  simp only [storageCleanupGateOpen, Bool.and_eq_true, Bool.not_eq_true'] at h
  obtain ⟨⟨⟨-, hscan⟩, hcleanup⟩, -⟩ := h
  exact ⟨hscan, hcleanup⟩

end ServiceStatus

open ServiceStatus

/-! ## What a step does to the owners -/

/-- The owners after a step. -/
inductive LeaseChange (s : ServiceStatus) : ServiceStep → ServiceStatus → Prop
  | latched {a s'} (h : s.Latches s') : LeaseChange s a s'
  | process {a s'} (hlease : ∀ k, s'.lease k = s.lease k) (haccounted : s'.Accounted) :
      LeaseChange s a s'
  | started {a s' k activity} (hdrawn : a.drawn = some activity.token)
      (hscan : s.scanInProgress = false) (hfree : s.cleanupInProgress = false)
      (hstarted : s'.lease k = some activity) (hother : ∀ j, j ≠ k → s'.lease j = s.lease j)
      (haccounted : s'.Accounted) : LeaseChange s a s'
  | finished {s' k token} (howner : ∀ activity, s.lease k = some activity → activity.token = token)
      (hfinished : s'.lease k = none) (hother : ∀ j, j ≠ k → s'.lease j = s.lease j)
      (haccounted : s'.Accounted) : LeaseChange s (LeaseKind.finish k token) s'

namespace Service

variable {p q : Service} {a : ServiceStep} {now : Nat} {fault : Option StoreError} {k : LeaseKind}

/-- A pause that ends leaves every owner, and the scan. -/
theorem expirePause_owners (h : p.expirePause now fault = .ok q) :
    (∀ k, q.status.lease k = p.status.lease k) ∧
      q.status.processActivity = p.status.processActivity ∧
      q.status.cleanupInProgress = p.status.cleanupInProgress ∧
      q.status.scanInProgress = p.status.scanInProgress := by
  unfold Service.expirePause at h
  split_ifs at h
  · cases fault with
    | some e => cases h
    | none =>
        obtain rfl := Except.ok.inj h
        unfold ControlPlane.expirePause
        split_ifs
        · exact ⟨fun k => by cases k <;> rfl, rfl, rfl, rfl⟩
        · exact ⟨fun k => by cases k <;> rfl, rfl, rfl, rfl⟩
  · obtain rfl := Except.ok.inj h
    exact ⟨fun k => rfl, rfl, rfl, rfl⟩

theorem latches_expirePause (h : p.expirePause now fault = .ok q) : p.status.Latches q.status := by
  obtain ⟨hlease, hprocess, hflag, -⟩ := expirePause_owners h
  exact ⟨hprocess, fun k => Or.inl (hlease k), hflag⟩

theorem latches_handleLifecycleAt {command : LifecycleCommand} {epoch : String}
    (h : p.handleLifecycleAt command now epoch fault = .ok q) : p.status.Latches q.status := by
  cases command with
  | status => exact latches_expirePause h
  | arm generation instanceId =>
      simp only [handleLifecycleAt, arm, bind_eq_ok, pure_eq_ok] at h
      obtain ⟨-, -, -, -, ⟨store, l⟩, -, rfl⟩ := h
      exact latches_applyLifecycle (l := l) rfl rfl rfl
  | disarm generation instanceId =>
      simp only [handleLifecycleAt, disarm, bind_eq_ok] at h
      obtain ⟨-, -, h⟩ := h
      split_ifs at h
      · simp only [bind_eq_ok, pure_eq_ok] at h
        obtain ⟨⟨store, l⟩, -, rfl⟩ := h
        exact latches_applyLifecycle (l := l) rfl rfl rfl
      · simp only [bind_eq_ok, pure_eq_ok] at h
        obtain ⟨⟨store, l⟩, -, rfl⟩ := h
        exact latches_applyLifecycle (l := l) rfl rfl rfl
  | beginDrain generation instanceId =>
      simp only [handleLifecycleAt, beginDrain, bind_eq_ok, pure_eq_ok] at h
      obtain ⟨-, -, ⟨store, l⟩, -, rfl⟩ := h
      exact latches_applyLifecycle (l := l) rfl rfl rfl

theorem latches_failCycle {generation : Nat} {instanceId account : String}
    {lastError : Option String} {failed : ControlError} :
    p.status.Latches
      (p.failCycle generation instanceId now fault lastError failed account).1.status := by
  unfold failCycle
  split
  · rename_i store l hfail
    exact latches_applyLifecycle (l := l) rfl rfl rfl
  · exact ⟨rfl, fun k => Or.inl (by cases k <;> rfl), rfl⟩

theorem latches_completeSuccessfulCycle {epoch : String} {scanFault failFault : Option StoreError} :
    p.status.Latches (p.completeSuccessfulCycle now epoch scanFault failFault).1.status := by
  simp only [completeSuccessfulCycle]
  split_ifs
  · exact Latches.refl _
  · split
    · exact Latches.refl _
    · exact latches_failCycle
  · split
    · exact Latches.refl _
    · exact latches_failCycle
  · split
    · exact Latches.refl _
    · split
      · rename_i store l hscan
        refine ⟨rfl, fun k => ?_, rfl⟩
        have hlease : (p.status.applyLifecycle l).settle.lease k =
            (p.status.applyLifecycle l).lease k := by
          cases k <;> rfl
        rw [hlease]
        exact keeps_applyLifecycle k
      · exact latches_failCycle
  · exact ⟨rfl, fun k => Or.inl (by cases k <;> rfl), rfl⟩

/-- Failing cancels every lease, whatever the store says. -/
theorem failClosed_cancels {message sourceFile : String} {sourceLine : Nat} :
    let s := (p.failClosed now message sourceFile sourceLine fault).1.status
    (∀ k, s.lease k = DaemonStatus.cancel (p.status.lease k)) ∧
      s.processActivity = p.status.processActivity ∧
      s.cleanupInProgress = p.status.cleanupInProgress := by
  simp only [failClosed]
  split
  · rename_i store l hdurable
    refine ⟨fun k => ?_, rfl, rfl⟩
    -- cancelled before the store is asked, and not uncancelled by what it says
    cases k with
    | storage =>
        exact (keeps_applyLifecycle (l := l)
          (s := { p.status.cancelActivities with firstFailure := _ }) .storage).cancelled
    | cache =>
        exact (keeps_applyLifecycle (l := l)
          (s := { p.status.cancelActivities with firstFailure := _ }) .cache).cancelled
  · refine ⟨fun k => ?_, rfl, rfl⟩
    cases k <;> rfl

/-- An open gate after a pause that ends: nothing scanned and nobody owned
a cleanup before, and the leases are as they were. -/
theorem expirePause_gateOpen (h : p.expirePause now fault = .ok q)
    (hgate : q.status.storageCleanupGateOpen = true) :
    p.status.scanInProgress = false ∧ p.status.cleanupInProgress = false ∧
      ∀ k, q.status.lease k = p.status.lease k := by
  obtain ⟨hlease, -, hflag, hscan⟩ := expirePause_owners h
  obtain ⟨hidle, hfree⟩ := gateOpen_free hgate
  exact ⟨hscan.symm.trans hidle, hflag.symm.trans hfree, hlease⟩

theorem startStorage_change {prepared : Except StoreError String} :
    LeaseChange p.status (.startStorageCleanup now fault prepared)
      (p.startStorageCleanupIfReadyEnforce now fault prepared).1.status := by
  unfold startStorageCleanupIfReadyEnforce
  split
  · exact .latched (Latches.refl _)
  · rename_i q hok
    by_cases hgate : q.status.storageCleanupGateOpen = true
    · rw [if_pos hgate]
      split
      · exact .latched (latches_expirePause hok)
      · obtain ⟨hidle, hfree, hlease⟩ := expirePause_gateOpen hok hgate
        refine .started (k := .storage) rfl hidle hfree rfl (fun j hj => ?_) accounted_refresh
        cases j with
        | storage => exact absurd rfl hj
        | cache => exact hlease .cache
    · rw [if_neg hgate]
      exact .latched (latches_expirePause hok)

theorem startCache_change {kind : ToolCacheKind} {spawned : Bool}
    {prepared : ToolCacheKind → Except StoreError String}
    (hdrawn : a.drawn = (prepared kind).toOption) :
    LeaseChange p.status a (p.startCacheIfReadyEnforce now kind fault prepared spawned).1.status := by
  unfold startCacheIfReadyEnforce
  split
  · exact .latched (Latches.refl _)
  · rename_i q hok
    by_cases hgate : q.status.storageCleanupGateOpen = true
    · rw [if_pos hgate]
      split
      · exact .latched (latches_expirePause hok)
      · rename_i token hprepared
        obtain ⟨hidle, hfree, hlease⟩ := expirePause_gateOpen hok hgate
        cases spawned with
        | false => exact .latched (latches_expirePause hok)
        | true =>
            refine .started (k := .cache) ?_ hidle hfree rfl (fun j hj => ?_) accounted_refresh
            · rw [hdrawn, hprepared]
              rfl
            · cases j with
              | storage => exact hlease .storage
              | cache => exact absurd rfl hj
    · rw [if_neg hgate]
      exact .latched (latches_expirePause hok)

/-- A call that ends a lease or begins a cleanup, or fails. -/
theorem change_orKept {r : Except ControlError Service}
    (h : ∀ q, r = .ok q → LeaseChange p.status a q.status) :
    LeaseChange p.status a (p.orKept r).status := by
  cases r with
  | error e => exact .latched (Latches.refl _)
  | ok q => exact h q rfl

/-- **What a step may do to the owners.** -/
theorem step_change (p : Service) (a : ServiceStep) : LeaseChange p.status a (p.step a).status := by
  have hsame : ∀ {s : ServiceStatus}, s.toDaemonStatus = p.status.toDaemonStatus → ∀ k,
      s.lease k = p.status.lease k := by
    intro s hs k
    cases k with
    | storage => exact congrArg DaemonStatus.storageActivity hs
    | cache => exact congrArg DaemonStatus.cacheActivity hs
  cases a with
  | operator command now fault =>
      simp only [Service.step, handleAt]
      split
      · exact .latched (Latches.refl _)
      · rename_i q payload hok
        cases fault with
        | some e => exact .latched (Latches.refl _)
        | none => exact .latched (latches_repaused (ControlPlane.handleAt_repaused hok).1)
  | lifecycle command now epoch fault =>
      exact change_orKept fun q hok => .latched (latches_handleLifecycleAt hok)
  | publicMutation context mutation now fault =>
      cases fault with
      | some e => exact .latched (Latches.refl _)
      | none =>
          exact .latched
            (latches_repaused (p.plane.commitPublicMutation_repaused context mutation now).1)
  | expirePause now fault => exact change_orKept fun q hok => .latched (latches_expirePause hok)
  | beginObservationCycle cycleToken =>
      exact .latched ⟨rfl, fun k => Or.inl (hsame rfl k), rfl⟩
  | publishRoster cycleToken =>
      simp only [Service.step, publishRoster]
      split_ifs
      · exact .latched (Latches.refl _)
      · exact .latched (Latches.refl _)
  | finishObservationCycle cycleToken succeeded =>
      simp only [Service.step, finishObservationCycle]
      by_cases hactive : p.roster.activeCycleToken = some cycleToken
      · rw [if_pos hactive]
        exact .latched (Latches.refl _)
      · rw [if_neg hactive]
        exact .latched (Latches.refl _)
  | noteCycleSucceeded => exact .latched ⟨rfl, fun k => Or.inl (hsame rfl k), rfl⟩
  | noteCycleFailed message => exact .latched ⟨rfl, fun k => Or.inl (hsame rfl k), rfl⟩
  | completeSuccessfulCycle now epoch scanFault failFault =>
      exact .latched latches_completeSuccessfulCycle
  | failClosed now message sourceFile sourceLine fault =>
      obtain ⟨hlease, hprocess, hflag⟩ := failClosed_cancels (p := p)
      exact .latched ⟨hprocess, fun k => Or.inr (hlease k), hflag⟩
  | startStorageCleanup now fault prepared => exact startStorage_change
  | startToolCache now fault prepared spawned => exact startCache_change rfl
  | startNodeCompileCache now fault prepared spawned => exact startCache_change rfl
  | finishStorageAction token =>
      refine change_orKept fun q hok => ?_
      simp only [finishStorageAction, bind_eq_ok, require_eq_ok, pure_eq_ok] at hok
      obtain ⟨-, howner, rfl⟩ := hok
      refine .finished (k := .storage) (fun activity hactivity => ?_) rfl (fun j hj => ?_)
        accounted_refresh
      · have hheld : p.status.storageActivity = some activity := hactivity
        simpa [hheld] using howner
      · cases j with
        | storage => exact absurd rfl hj
        | cache => rfl
  | finishToolCacheAction token =>
      refine change_orKept fun q hok => ?_
      simp only [finishToolCacheAction, bind_eq_ok, require_eq_ok, pure_eq_ok] at hok
      obtain ⟨-, howner, rfl⟩ := hok
      refine .finished (k := .cache) (fun activity hactivity => ?_) rfl (fun j hj => ?_)
        accounted_refresh
      · have hheld : p.status.cacheActivity = some activity := hactivity
        simpa [hheld] using howner
      · cases j with
        | storage => rfl
        | cache => exact absurd rfl hj
  | beginProcessCleanup token =>
      refine change_orKept fun q hok => ?_
      simp only [beginProcessCleanupActivity, bind_eq_ok, pure_eq_ok] at hok
      obtain ⟨-, -, rfl⟩ := hok
      exact .process (hsame rfl) accounted_refresh
  | dropProcessCleanup token =>
      simp only [Service.step, dropProcessCleanupActivity]
      split_ifs
      · exact .process (hsame rfl) accounted_refresh
      · exact .latched (Latches.refl _)

/-! ## The invariant -/

/-- The owners of every reachable service. -/
structure Owned (p : Service) : Prop where
  accounted : p.status.Accounted
  one : p.status.lease .storage = none ∨ p.status.lease .cache = none

theorem owned_of_idle (h : p.status.Idle) : p.Owned := by
  have hstorage : p.status.storageActivity = none := h.lease .storage
  have hcache : p.status.cacheActivity = none := h.lease .cache
  refine ⟨?_, Or.inl hstorage⟩
  simp [Accounted, h.process, hcache, hstorage, h.flag]

theorem keeps_none {x x' : Option PromptActivity} (h : Keeps x x') (hx : x = none) : x' = none := by
  have hsome : x'.isSome = false := by
    rw [h.isSome, hx]
    rfl
  simpa using hsome

theorem Owned.step (h : p.Owned) (a : ServiceStep) : (p.step a).Owned := by
  have hchange := step_change p a
  generalize p.step a = q at hchange ⊢
  cases hchange with
  | latched hlatches =>
      exact ⟨hlatches.accounted h.accounted,
        h.one.imp (keeps_none (hlatches.lease .storage)) (keeps_none (hlatches.lease .cache))⟩
  | process hlease haccounted =>
      refine ⟨haccounted, ?_⟩
      rw [hlease .storage, hlease .cache]
      exact h.one
  | @started _ _ k _ hdrawn hscan hfree hstarted hother haccounted =>
      -- the gate saw nobody, so the other lease is free
      obtain ⟨-, hnone⟩ := h.accounted.free hfree
      refine ⟨haccounted, ?_⟩
      cases k with
      | storage => exact Or.inr ((hother .cache (by simp)).trans (hnone .cache))
      | cache => exact Or.inl ((hother .storage (by simp)).trans (hnone .storage))
  | @finished _ k token howner hfinished hother haccounted =>
      refine ⟨haccounted, ?_⟩
      cases k with
      | storage => exact Or.inl hfinished
      | cache => exact Or.inr hfinished

theorem Owned.run (h : p.Owned) (steps : List ServiceStep) : (p.run steps).Owned := by
  unfold Service.run
  induction steps generalizing p with
  | nil => exact h
  | cons a steps ih => exact ih (h.step a)

/-! ## Starting and releasing -/

/-- A lease of an attempt that did not hold it before. -/
def Starts (x x' : Option PromptActivity) : Prop :=
  ∃ activity, x' = some activity ∧
    ∀ before, x = some before → ¬ (before.token = activity.token ∧ before.epoch = activity.epoch)

theorem not_starts_of_keeps {x x' : Option PromptActivity} (h : Keeps x x') : ¬ Starts x x' := by
  rintro ⟨activity, hactivity, hnew⟩
  obtain ⟨before, hbefore, hsame⟩ := h.attempt hactivity
  exact hnew before hbefore hsame

/-- A lease is started only where nothing scans and nobody owns a
cleanup. -/
theorem Owned.starts_free (h : p.Owned)
    (hstarts : Starts (p.status.lease k) ((p.step a).status.lease k)) :
    p.status.scanInProgress = false ∧ p.status.processActivity = none ∧
      ∀ j, p.status.lease j = none := by
  have hchange := step_change p a
  generalize p.step a = q at hchange hstarts
  cases hchange with
  | latched hlatches => exact absurd hstarts (not_starts_of_keeps (hlatches.lease k))
  | process hlease haccounted => exact absurd hstarts (not_starts_of_keeps (Or.inl (hlease k)))
  | started hdrawn hscan hfree hstarted hother haccounted =>
      exact ⟨hscan, h.accounted.free hfree⟩
  | @finished _ j token howner hfinished hother haccounted =>
      by_cases hj : k = j
      · subst hj
        obtain ⟨activity, hactivity, -⟩ := hstarts
        rw [hfinished] at hactivity
        cases hactivity
      · exact absurd hstarts (not_starts_of_keeps (Or.inl (hother k hj)))

/-- A lease goes only when its own attempt finishes. -/
theorem lease_released {activity : PromptActivity} (hheld : p.status.lease k = some activity)
    (hgone : (p.step a).status.lease k = none) : a = k.finish activity.token := by
  have hkept : ∀ {x' : Option PromptActivity}, Keeps (p.status.lease k) x' → x' ≠ none := by
    intro x' hkeeps hnone
    have hsome := hkeeps.isSome
    simp [hheld, hnone] at hsome
  have hchange := step_change p a
  generalize p.step a = q at hchange hgone
  cases hchange with
  | latched hlatches => exact absurd hgone (hkept (hlatches.lease k))
  | process hlease haccounted => exact absurd hgone (hkept (Or.inl (hlease k)))
  | @started _ _ j _ hdrawn hscan hfree hstarted hother haccounted =>
      by_cases hj : k = j
      · subst hj
        rw [hgone] at hstarted
        cases hstarted
      · exact absurd hgone (hkept (Or.inl (hother k hj)))
  | @finished _ j token howner hfinished hother haccounted =>
      by_cases hj : k = j
      · subst hj
        rw [howner activity hheld]
      · exact absurd hgone (hkept (Or.inl (hother k hj)))

/-- A stale handle finishes nothing. -/
theorem finish_stale {activity : PromptActivity} {token : String}
    (hheld : p.status.lease k = some activity) (hstale : activity.token ≠ token) :
    p.step (k.finish token) = p := by
  cases k with
  | storage =>
      have howner : p.status.storageActivity = some activity := hheld
      have hrefused : ¬ p.status.storageActivity.all (fun a => a.token == token) = true := by
        simpa [howner] using hstale
      simp only [LeaseKind.finish, Service.step, finishStorageAction]
      rw [require, if_neg hrefused]
      rfl
  | cache =>
      have howner : p.status.cacheActivity = some activity := hheld
      have hrefused : ¬ p.status.cacheActivity.all (fun a => a.token == token) = true := by
        simpa [howner] using hstale
      simp only [LeaseKind.finish, Service.step, finishToolCacheAction]
      rw [require, if_neg hrefused]
      rfl

/-! ## Cancelling -/

/-- The step is a completed Pause, Disarm, BeginDrain or fail-close. A
public Pause that is answered from its receipt is not carried out again. -/
def Stops (p : Service) : ServiceStep → Prop
  | .operator (.pause duration) now fault =>
      ∃ payload, (p.handleAt (.pause duration) now fault).2 = .ok payload
  | .publicMutation context mutation now fault =>
      ∃ commit deadline, (p.commitPublicMutation context mutation now fault).2 = .ok commit ∧
        commit.stateChanged = true ∧ commit.receipt.outcome = .applied (.paused deadline)
  | .lifecycle (.disarm generation instanceId) now epoch fault =>
      ∃ q, p.handleLifecycleAt (.disarm generation instanceId) now epoch fault = .ok q
  | .lifecycle (.beginDrain generation instanceId) now epoch fault =>
      ∃ q, p.handleLifecycleAt (.beginDrain generation instanceId) now epoch fault = .ok q
  | .failClosed _ _ _ _ _ => True
  | _ => False

/-- Every lease is cancelled. -/
def Cancels (s s' : ServiceStatus) : Prop := ∀ k, s'.lease k = DaemonStatus.cancel (s.lease k)

theorem cancels_applyLifecycle {s status : ServiceStatus} {l : ManagedLifecycle}
    (h : l.effectiveEnforce = false)
    (hstatus : status.toDaemonStatus = (s.applyLifecycle l).toDaemonStatus) : Cancels s status := by
  intro k
  have hlease : (s.applyLifecycle l).lease k = DaemonStatus.cancel (s.lease k) := by
    rw [lease_applyLifecycle, h]
    rfl
  rw [← hlease]
  cases k with
  | storage => exact congrArg DaemonStatus.storageActivity hstatus
  | cache => exact congrArg DaemonStatus.cacheActivity hstatus

theorem cancels_paused {s status : ServiceStatus} {deadline : Option Nat}
    (h : status.toDaemonStatus =
      { s.toDaemonStatus with pausedUntilUnixMillis := deadline }.cancelPromptActivities) :
    Cancels s status := by
  intro k
  cases k with
  | storage => exact congrArg DaemonStatus.storageActivity h
  | cache => exact congrArg DaemonStatus.cacheActivity h

theorem disarm_cancels {generation : Nat} {instanceId : String}
    (h : p.disarm generation instanceId now fault = .ok q) : Cancels p.status q.status := by
  simp only [disarm, bind_eq_ok] at h
  obtain ⟨-, -, h⟩ := h
  split_ifs at h
  · simp only [bind_eq_ok, mapError_eq_ok, faulted_eq_ok, pure_eq_ok] at h
    obtain ⟨⟨store, l⟩, ⟨-, hfail⟩, rfl⟩ := h
    obtain ⟨-, hshut, -⟩ := Store.failManaged_shut hfail
    exact cancels_applyLifecycle hshut.effective rfl
  · simp only [bind_eq_ok, mapError_eq_ok, faulted_eq_ok, pure_eq_ok] at h
    obtain ⟨⟨store, l⟩, ⟨-, hdisarm⟩, rfl⟩ := h
    obtain ⟨-, hunarmed, -⟩ := Store.disarmManaged_unarmed hdisarm
    exact cancels_applyLifecycle hunarmed rfl

theorem beginDrain_cancels {generation : Nat} {instanceId : String}
    (h : p.beginDrain generation instanceId now fault = .ok q) : Cancels p.status q.status := by
  simp only [beginDrain, bind_eq_ok, mapError_eq_ok, faulted_eq_ok, pure_eq_ok] at h
  obtain ⟨-, -, ⟨store, l⟩, ⟨-, hdrain⟩, rfl⟩ := h
  obtain ⟨-, hdrains⟩ := Store.beginManagedDrain_drains hdrain
  exact cancels_applyLifecycle hdrains.effective rfl

/-- **Every one of them cancels every lease.** -/
theorem Stops.cancels (h : p.Stops a) : Cancels p.status (p.step a).status := by
  cases a with
  | operator command now fault =>
      cases command with
      | pause duration =>
          obtain ⟨payload, hok⟩ := h
          simp only [Service.step, handleAt] at hok ⊢
          split at hok
          · cases hok
          · rename_i plane answer hplane
            cases fault with
            | some e => cases hok
            | none =>
                obtain ⟨deadline, hstatus⟩ := ControlPlane.handleAt_pause hplane
                exact cancels_paused hstatus
      | _ => exact h.elim
  | lifecycle command now epoch fault =>
      cases command with
      | disarm generation instanceId =>
          obtain ⟨q, hok⟩ := h
          simp only [Service.step, hok, Service.orKept]
          exact disarm_cancels hok
      | beginDrain generation instanceId =>
          obtain ⟨q, hok⟩ := h
          simp only [Service.step, hok, Service.orKept]
          exact beginDrain_cancels hok
      | _ => exact h.elim
  | publicMutation context mutation now fault =>
      obtain ⟨commit, deadline, hok, hchanged, hpaused⟩ := h
      cases fault with
      | some e => cases hok
      | none => exact cancels_paused (ControlPlane.commitPublicMutation_pause hok hchanged hpaused)
  | failClosed now message sourceFile sourceLine fault => exact (failClosed_cancels (p := p)).1
  | _ => exact h.elim

/-- A cancelled lease stays cancelled until its token is drawn again. -/
theorem latched_step {token : String} (h : Latched token (p.status.lease k))
    (hfresh : a.drawn ≠ some token) : Latched token ((p.step a).status.lease k) := by
  have hchange := step_change p a
  generalize p.step a = q at hchange ⊢
  cases hchange with
  | latched hlatches => exact h.keeps (hlatches.lease k)
  | process hlease haccounted => exact h.keeps (Or.inl (hlease k))
  | @started _ _ j activity hdrawn hscan hfree hstarted hother haccounted =>
      by_cases hj : k = j
      · -- another attempt's lease: its token was drawn just now
        subst hj
        rintro other hother' htoken
        obtain rfl := Option.some.inj (hstarted.symm.trans hother')
        exact absurd (hdrawn.trans (congrArg some htoken)) hfresh
      · exact h.keeps (Or.inl (hother k hj))
  | @finished _ j token' howner hfinished hother haccounted =>
      by_cases hj : k = j
      · subst hj
        intro activity hactivity
        rw [hfinished] at hactivity
        cases hactivity
      · exact h.keeps (Or.inl (hother k hj))

theorem latched_run {token : String} {steps : List ServiceStep} (h : Latched token (p.status.lease k))
    (hfresh : ∀ b ∈ steps, b.drawn ≠ some token) : Latched token ((p.run steps).status.lease k) := by
  unfold Service.run
  induction steps generalizing p with
  | nil => exact h
  | cons a steps ih =>
      refine ih (latched_step h (hfresh a (by simp))) fun b hb => ?_
      exact hfresh b (List.mem_cons_of_mem a hb)

/-- **Leases are exact, and cancelling them is for good.** A service that
starts idle, after any steps: a cleanup is in progress exactly where one
of the three owners is there; the storage lease and the cache lease are
not both held; a lease is started only while nothing scans and nobody owns
a cleanup; it goes only when the attempt that holds it finishes, and a
stale handle changes nothing; and once a Pause, a Disarm, a BeginDrain or
a fail-close is complete, an attempt that held a lease then may not go on,
whatever comes later, as its token is not drawn a second time. -/
theorem leases_exact (p : Service) (hidle : p.status.Idle) (steps : List ServiceStep) :
    let q := p.run steps
    q.status.cleanupInProgress = (q.status.processActivity.isSome || q.status.cacheActivity.isSome
      || q.status.storageActivity.isSome) ∧
    (q.status.lease .storage = none ∨ q.status.lease .cache = none) ∧
    (∀ a k, Starts (q.status.lease k) ((q.step a).status.lease k) →
      q.status.scanInProgress = false ∧ q.status.processActivity = none ∧
        ∀ j, q.status.lease j = none) ∧
    (∀ a k activity, q.status.lease k = some activity → (q.step a).status.lease k = none →
      a = k.finish activity.token) ∧
    (∀ k activity token, q.status.lease k = some activity → activity.token ≠ token →
      q.step (k.finish token) = q) ∧
    (∀ a later k activity, q.Stops a → q.status.lease k = some activity →
      (∀ b ∈ later, b.drawn ≠ some activity.token) →
      ((q.step a).run later).status.mayContinue k activity.token activity.epoch = false) := by
  intro q
  have hq : q.Owned := (owned_of_idle hidle).run steps
  refine ⟨hq.accounted, hq.one, ?_, ?_, ?_, ?_⟩
  · intro a k hstarts
    exact hq.starts_free hstarts
  · intro a k activity hheld hgone
    exact lease_released hheld hgone
  · intro k activity token hheld hstale
    exact finish_stale hheld hstale
  · intro a later k activity hstops hheld hfresh
    have hlatched : Latched activity.token ((q.step a).status.lease k) := by
      rw [hstops.cancels k]
      exact latched_cancel
    exact (latched_run hlatched hfresh).not_mayContinue

/-- An unmanaged service that enforces and is ready. -/
def readyService : Service :=
  .new (Store.empty Store.sampleToken)
    { ServiceStatus.new .enforce "1-a" with
      healthy := true, ready := true, startupState := .readyEnforce }

/-- The lease of a storage cleanup that is paused is of no use after the
service is resumed, and another attempt is not kept from finishing. -/
theorem leases_exact_resumed :
    (readyService.run [.startStorageCleanup 10 none (.ok "a")]).status.lease .storage =
        some ⟨"a", "unmanaged-explicit-1", false⟩ ∧
      (((readyService.run [.startStorageCleanup 10 none (.ok "a")]).step
          (.operator (.pause 1000) 10 none)).run
        [.operator .resume 11 none, .finishStorageAction "a",
          .startStorageCleanup 12 none (.ok "b")]).status.mayContinue .storage "a"
            "unmanaged-explicit-1" = false := by
  have hheld : (readyService.run [.startStorageCleanup 10 none (.ok "a")]).status.lease .storage =
      some ⟨"a", "unmanaged-explicit-1", false⟩ := by decide +kernel
  have hidle : readyService.status.Idle := ⟨rfl, fun k => by cases k <;> rfl, rfl⟩
  obtain ⟨-, -, -, -, -, hstopped⟩ :=
    leases_exact readyService hidle [.startStorageCleanup 10 none (.ok "a")]
  refine ⟨hheld, hstopped _ _ .storage ⟨"a", "unmanaged-explicit-1", false⟩ ?_ hheld ?_⟩
  · exact ⟨.pause 1010, rfl⟩
  · simp [ServiceStep.drawn, Except.toOption]

end Service

end Unlinger
