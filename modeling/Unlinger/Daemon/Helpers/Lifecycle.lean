import Unlinger.Daemon.Helpers.Journal

/-!
# What the managed transitions do

Each transition of the managed lifecycle read back once: which guards a
call that succeeded has passed, and the row it left. The invariants of the
lifecycle go by cases on this and never unfold a transition.
-/

namespace Unlinger

namespace Store

variable {s s' : Store} {t : Nat} {op : ManagedOp} {l : ManagedLifecycle}

/-- The lifecycle as it stands. -/
def lifecycle? (s : Store) : Option ManagedLifecycle := s.managedLifecycle.map ManagedRow.lifecycle

/-- The lifecycle a call of a generation and instance finds. -/
structure Current (s : Store) (generation : Nat) (instanceId : String) (c : ManagedLifecycle) :
    Prop where
  stored : s.lifecycle? = some c
  generation_eq : c.activationGeneration = generation
  instance_eq : c.instanceId = instanceId

/-- The lifecycle a boot begins. -/
def booted (s : Store) (generation : Nat) (instanceId : String) : ManagedLifecycle where
  activationGeneration := generation
  instanceId := instanceId
  requestedEnforce := s.lifecycle?.any fun c => c.carriesEnforce generation
  effectiveEnforce := false
  armedGeneration := none
  enforcementEpoch := none
  ready := false
  draining := false
  startupPhase := .recovering

/-- The lifecycle once it is armed. -/
def armed (c : ManagedLifecycle) (epoch : String) : ManagedLifecycle :=
  { c with
    requestedEnforce := true
    effectiveEnforce := true
    armedGeneration := some c.activationGeneration
    enforcementEpoch := some epoch
    ready := true
    draining := false
    startupPhase := .readyEnforce }

/-- The lifecycle once it is ready and does not enforce. -/
def readyReportOnly (c : ManagedLifecycle) (requested : Bool) : ManagedLifecycle :=
  { c.unarmed with
    requestedEnforce := requested
    ready := true
    draining := false
    startupPhase := .readyReportOnly }

/-- **What each transition does**, with every guard it passes. -/
inductive Moves (s : Store) : ManagedOp → ManagedLifecycle → Prop
  | boot {generation instanceId at_} (hgeneration : 0 < generation) :
      Moves s (.beginManagedBoot generation instanceId at_) (s.booted generation instanceId)
  | recovered {generation instanceId at_ c} (hc : s.Current generation instanceId c)
      (hdraining : c.draining = false) :
      Moves s (.finishManagedRecovery generation instanceId at_)
        { c.unarmed with ready := false, startupPhase := .firstScanReportOnly }
  | preserved {generation instanceId at_ c} (hc : s.Current generation instanceId c)
      (hdraining : c.draining = false) (hready : c.ready = false) :
      Moves s (.preserveManagedPreReadyRestartIntent generation instanceId at_)
        { c.unarmed with ready := false, draining := false, startupPhase := .readyReportOnly }
  | scannedArmed {generation instanceId epoch at_ c} (hc : s.Current generation instanceId c)
      (hdraining : c.draining = false) (hphase : c.startupPhase = .firstScanReportOnly)
      (hrequested : c.requestedEnforce = true) (hblocker : s.managedArmBlocker = none) :
      Moves s (.completeManagedFirstScan generation instanceId epoch at_) (armed c epoch)
  | scanned {generation instanceId epoch at_ c} (hc : s.Current generation instanceId c)
      (hdraining : c.draining = false) (hphase : c.startupPhase = .firstScanReportOnly) :
      Moves s (.completeManagedFirstScan generation instanceId epoch at_) (readyReportOnly c false)
  | alreadyArmed {generation instanceId epoch at_ c} (hc : s.Current generation instanceId c)
      (heffective : c.effectiveEnforce = true) :
      Moves s (.armManaged generation instanceId epoch at_) c
  | armed {generation instanceId epoch at_ c} (hc : s.Current generation instanceId c)
      (hdraining : c.draining = false) (hready : c.ready = true)
      (hblocker : s.managedArmBlocker = none) :
      Moves s (.armManaged generation instanceId epoch at_) (armed c epoch)
  | disarmed {generation instanceId at_ c} (hc : s.Current generation instanceId c) :
      Moves s (.disarmManaged generation instanceId at_)
        { c.unarmed with
          requestedEnforce := false
          startupPhase :=
            if c.draining then .draining else if c.ready then .readyReportOnly
            else c.startupPhase }
  | draining {generation instanceId at_ c} (hc : s.Current generation instanceId c) :
      Moves s (.beginManagedDrain generation instanceId at_)
        { c.unarmed with
          requestedEnforce := false, ready := false, draining := true, startupPhase := .draining }
  | failed {generation instanceId at_ c} (hc : s.Current generation instanceId c) :
      Moves s (.failManaged generation instanceId at_)
        { c.unarmed with
          requestedEnforce := false
          ready := false
          draining := c.draining
          startupPhase := if c.draining then .draining else .failed }
  | cleared {generation at_ c} (hc : s.lifecycle? = some c)
      (hgeneration : c.activationGeneration = generation) :
      Moves s (.clearManagedEnforceRequestOffline generation at_)
        { c.unarmed with
          requestedEnforce := false, ready := false, draining := false, startupPhase := .recovering }

/-- A transition changes the lifecycle, and arming forgets what cooled;
nothing else changes. -/
structure ManagedEffect (s s' : Store) (l : ManagedLifecycle) : Prop where
  stored : s'.lifecycle? = some l
  others : ∃ row cooling, s' = { s with managedLifecycle := row, coolingCandidates := cooling } ∧
    (cooling = s.coolingCandidates ∨ cooling = OrdMap.empty)

/-! ## Reading the transitions back -/

/-- A row that is written passes its checks. -/
theorem writeManaged_ok (h : s.writeManaged l t = .ok s') :
    l.checks = true ∧ s'.lifecycle? = some l ∧
      ∃ row, s' = { s with managedLifecycle := row } := by
  unfold writeManaged at h
  split_ifs at h with hchecks
  obtain rfl := Except.ok.inj h
  exact ⟨hchecks, rfl, _, rfl⟩

/-- What a write returns is what was written. -/
theorem writeManaged_effect (h : s.writeManaged l t = .ok s') : ManagedEffect s s' l := by
  obtain ⟨-, hstored, row, rfl⟩ := writeManaged_ok h
  exact ⟨hstored, row, s.coolingCandidates, rfl, Or.inl rfl⟩

theorem applyManagedArm_effect {c : ManagedLifecycle} {epoch : String}
    (h : s.applyManagedArm c epoch t = .ok s') : ManagedEffect s s' (armed c epoch) := by
  obtain ⟨-, hstored, row, rfl⟩ := writeManaged_ok h
  exact ⟨hstored, row, OrdMap.empty, rfl, Or.inr rfl⟩

/-- What a transition went through. -/
theorem transitionManaged_ok {generation : Nat} {instanceId : String}
    {transition : ManagedLifecycle → Nat → Except StoreError Store}
    (h : s.transitionManaged generation instanceId t transition = .ok (s', l)) :
    ∃ c, s.Current generation instanceId c ∧ transition c t = .ok s' ∧ s'.lifecycle? = some l := by
  simp only [transitionManaged, requireExactManagedIdentity, bind_eq_ok, found_eq_ok, require_eq_ok,
    sqliteMillis_eq_ok, exists_const, pure_eq_ok] at h
  obtain ⟨-, -, _, ⟨-, rfl⟩, current, hcurrent, ⟨hgeneration, hinstance⟩, s₁, htransition, row,
    hrow, heq⟩ := h
  obtain ⟨rfl, rfl⟩ := Prod.mk.inj heq
  refine ⟨current.lifecycle, ⟨?_, hgeneration, hinstance⟩, htransition, ?_⟩
  · rw [lifecycle?, hcurrent]
    rfl
  · rw [lifecycle?, hrow]
    rfl

/-- The lifecycle returned is the one stored. -/
theorem ManagedEffect.returned {l' : ManagedLifecycle} (h : ManagedEffect s s' l')
    (hreturned : s'.lifecycle? = some l) : l = l' :=
  Option.some.inj (hreturned.symm.trans h.stored)

theorem beginManagedBoot_moves {generation : Nat} {instanceId : String}
    (h : s.beginManagedBoot generation instanceId t = .ok (s', l)) :
    0 < generation ∧ l = s.booted generation instanceId ∧ ManagedEffect s s' l := by
  simp only [beginManagedBoot, validateManagedIdentity, bind_eq_ok, found_eq_ok, require_eq_ok,
    sqliteMillis_eq_ok, exists_const, pure_eq_ok] at h
  obtain ⟨⟨hgeneration, -⟩, g, ⟨-, rfl⟩, at_, -, s₁, hwrite, row, hrow, heq⟩ := h
  obtain ⟨rfl, rfl⟩ := Prod.mk.inj heq
  have heffect := writeManaged_effect hwrite
  have hreturned : row.lifecycle = _ := heffect.returned (by rw [lifecycle?, hrow]; rfl)
  have hcarry : (s.managedLifecycle.any fun row => row.lifecycle.carriesEnforce g)
      = s.lifecycle?.any fun c => c.carriesEnforce g := by
    rw [lifecycle?, Option.any_map]
  rw [hcarry] at hreturned
  refine ⟨Nat.pos_of_ne_zero hgeneration, hreturned, ?_⟩
  rw [hcarry] at heffect
  rw [hreturned]
  exact heffect

theorem clearManagedEnforceRequestOffline_moves {generation : Nat}
    (h : s.clearManagedEnforceRequestOffline generation t = .ok (s', l)) :
    ∃ c, s.lifecycle? = some c ∧ c.activationGeneration = generation ∧
      l = { c.unarmed with
        requestedEnforce := false, ready := false, draining := false, startupPhase := .recovering } ∧
      ManagedEffect s s' l := by
  simp only [clearManagedEnforceRequestOffline, bind_eq_ok, found_eq_ok, require_eq_ok,
    sqliteMillis_eq_ok, exists_const, pure_eq_ok] at h
  obtain ⟨-, _, -, at_, -, current, hcurrent, hgeneration, s₁, hwrite, row, hrow, heq⟩ := h
  obtain ⟨rfl, rfl⟩ := Prod.mk.inj heq
  have heffect := writeManaged_effect hwrite
  have hreturned := heffect.returned (l := row.lifecycle) (by rw [lifecycle?, hrow]; rfl)
  refine ⟨current.lifecycle, by rw [lifecycle?, hcurrent]; rfl, hgeneration, hreturned, ?_⟩
  rw [hreturned]
  exact heffect

/-- A transition that ends in one effect moves so. -/
theorem transitionManaged_effect {generation : Nat} {instanceId : String}
    {transition : ManagedLifecycle → Nat → Except StoreError Store}
    (h : s.transitionManaged generation instanceId t transition = .ok (s', l))
    (heffect : ∀ c, s.Current generation instanceId c → transition c t = .ok s' →
      ∃ l', s.Moves op l' ∧ ManagedEffect s s' l') :
    s.Moves op l ∧ ManagedEffect s s' l := by
  obtain ⟨c, hc, htransition, hreturned⟩ := transitionManaged_ok h
  obtain ⟨l', hmoves, heff⟩ := heffect c hc htransition
  obtain rfl := heff.returned hreturned
  exact ⟨hmoves, heff⟩

/-- **A transition that succeeds moves as it should, and changes nothing
else.** -/
theorem performManaged_ok (h : s.performManaged op = .ok (s', l)) :
    s.Moves op l ∧ ManagedEffect s s' l := by
  cases op with
  | beginManagedBoot generation instanceId at_ =>
      obtain ⟨hgeneration, rfl, heffect⟩ := beginManagedBoot_moves h
      exact ⟨.boot hgeneration, heffect⟩
  | clearManagedEnforceRequestOffline generation at_ =>
      obtain ⟨c, hc, hgeneration, rfl, heffect⟩ := clearManagedEnforceRequestOffline_moves h
      exact ⟨.cleared hc hgeneration, heffect⟩
  | finishManagedRecovery generation instanceId at_ =>
      simp only [performManaged, finishManagedRecovery] at h
      refine transitionManaged_effect h fun c hc htransition => ?_
      simp only [bind_eq_ok, require_eq_ok, exists_const] at htransition
      obtain ⟨hdraining, hwrite⟩ := htransition
      exact ⟨_, .recovered hc hdraining, writeManaged_effect hwrite⟩
  | preserveManagedPreReadyRestartIntent generation instanceId at_ =>
      simp only [performManaged, preserveManagedPreReadyRestartIntent] at h
      refine transitionManaged_effect h fun c hc htransition => ?_
      simp only [bind_eq_ok, require_eq_ok, exists_const] at htransition
      obtain ⟨hdraining, ⟨hready, -⟩, hwrite⟩ := htransition
      exact ⟨_, .preserved hc hdraining hready, writeManaged_effect hwrite⟩
  | completeManagedFirstScan generation instanceId epoch at_ =>
      simp only [performManaged, completeManagedFirstScan, bind_eq_ok] at h
      obtain ⟨-, -, h⟩ := h
      refine transitionManaged_effect h fun c hc htransition => ?_
      simp only [bind_eq_ok, require_eq_ok, exists_const] at htransition
      obtain ⟨hdraining, hphase, hwrite⟩ := htransition
      split_ifs at hwrite with hrequested hblocker
      · exact ⟨_, .scanned hc hdraining hphase, writeManaged_effect hwrite⟩
      · have hnone : s.managedArmBlocker = none := by simpa using hblocker
        exact ⟨_, .scannedArmed hc hdraining hphase hrequested hnone, applyManagedArm_effect hwrite⟩
      · -- nothing was asked for, so there is nothing to clear
        have hfalse : c.requestedEnforce = false := by simpa using hrequested
        refine ⟨_, .scanned hc hdraining hphase, ?_⟩
        have heffect := writeManaged_effect hwrite
        simp only [hfalse, Bool.false_eq_true, if_false] at heffect
        exact heffect
  | armManaged generation instanceId epoch at_ =>
      simp only [performManaged, armManaged, bind_eq_ok] at h
      obtain ⟨-, -, h⟩ := h
      refine transitionManaged_effect h fun c hc htransition => ?_
      split_ifs at htransition with harmed
      · rw [pure_eq_ok] at htransition
        subst htransition
        exact ⟨c, .alreadyArmed hc harmed.1, hc.stored, s.managedLifecycle, s.coolingCandidates, rfl,
          Or.inl rfl⟩
      · simp only [bind_eq_ok, require_eq_ok, exists_const] at htransition
        obtain ⟨hdraining, hready, hwrite⟩ := htransition
        cases hblocker : s.managedArmBlocker with
        | some blocker => simp [hblocker] at hwrite
        | none =>
            simp only [hblocker] at hwrite
            exact ⟨_, .armed hc hdraining hready hblocker, applyManagedArm_effect hwrite⟩
  | disarmManaged generation instanceId at_ =>
      simp only [performManaged, disarmManaged] at h
      exact transitionManaged_effect h fun c hc htransition =>
        ⟨_, .disarmed hc, writeManaged_effect htransition⟩
  | beginManagedDrain generation instanceId at_ =>
      simp only [performManaged, beginManagedDrain] at h
      exact transitionManaged_effect h fun c hc htransition =>
        ⟨_, .draining hc, writeManaged_effect htransition⟩
  | failManaged generation instanceId at_ =>
      simp only [performManaged, failManaged] at h
      exact transitionManaged_effect h fun c hc htransition =>
        ⟨_, .failed hc, writeManaged_effect htransition⟩

end Store

end Unlinger
