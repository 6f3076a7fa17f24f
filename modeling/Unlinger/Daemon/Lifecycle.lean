import Unlinger.Common.Transition
import Unlinger.Daemon.Helpers.Store

/-!
# The managed lifecycle keeps its promises

Over every run of the store: the phase says whether the daemon enforces and
whether it drains, and a daemon that enforces was armed under its own
generation with an epoch. It was armed where nothing blocked it, at or
after a first scan its own instance completed since the last boot. What the
owner asked for survives a boot only of the same generation, from a daemon
that enforced or that was stopped in order before it was ready.
-/

namespace Unlinger

/-! ## The property -/

/-- The phase and the flags agree. -/
structure ManagedLifecycle.WellPhased (l : ManagedLifecycle) : Prop where
  enforces_iff : l.startupPhase = .readyEnforce ↔ l.effectiveEnforce = true
  armed : l.effectiveEnforce = true → l.requestedEnforce = true ∧ l.ready = true ∧
    l.draining = false ∧ l.armedGeneration = some l.activationGeneration ∧
    l.enforcementEpoch.isSome = true
  drains_iff : l.draining = true ↔ l.startupPhase = .draining

theorem ManagedRow.generation_pos (row : ManagedRow) : 0 < row.lifecycle.activationGeneration := by
  have hchecked := row.checked
  simp only [ManagedLifecycle.checks, Bool.and_eq_true, decide_eq_true_eq] at hchecked
  exact hchecked.1.1

namespace Store

variable {s s' : Store} {token : NamespaceToken} {ops : List StoreOp} {op : StoreOp}
  {l : ManagedLifecycle}

/-- No attempt is open, and no blocked incident was left with a side effect
or an unknown one. -/
structure Unblocked (s : Store) : Prop where
  attempts : ∀ i a, s.attempts.get i = some a → a.ended ≠ none
  actions : ∀ k b, s.retryBlocks.lookup k = some b → ∀ id r, s.actions.get id = some r →
    r.attemptId = b.sourceAttemptId → ∀ c ∈ r.completed,
      c.2 ≠ .deliveryUnknown ∧ c.2 ≠ .delivered
  artifactActions : ∀ k b, s.retryBlocks.lookup k = some b →
    ∀ id r, s.artifactActions.get id = some r → r.attemptId = b.sourceAttemptId →
      ∀ c ∈ r.completed, c.2 ≠ .deliveryUnknown ∧ c.2 ≠ .removed

/-- A boot that succeeded. -/
def Boots (token : NamespaceToken) (before : List StoreOp) (op : StoreOp) : Prop :=
  ∃ generation instanceId at_ r, op = .managed (.beginManagedBoot generation instanceId at_) ∧
    (ran token before).beginManagedBoot generation instanceId at_ = .ok r

/-- The instance completed its first scan. -/
def Scans (token : NamespaceToken) (generation : Nat) (instanceId : String)
    (before : List StoreOp) (op : StoreOp) : Prop :=
  ∃ epoch at_ r, op = .managed (.completeManagedFirstScan generation instanceId epoch at_) ∧
    (ran token before).completeManagedFirstScan generation instanceId epoch at_ = .ok r

/-- The step began to enforce. -/
def Arms (token : NamespaceToken) (before : List StoreOp) (op : StoreOp) : Prop :=
  (∀ c, (ran token before).lifecycle? = some c → c.effectiveEnforce = false) ∧
    ∃ c, (ran token (before ++ [op])).lifecycle? = some c ∧ c.effectiveEnforce = true

/-- The instance completed its first scan, and no boot came after it. -/
def ScannedSinceBoot (token : NamespaceToken) (generation : Nat) (instanceId : String)
    (ops : List StoreOp) : Prop :=
  Transition.Since (Scans token generation instanceId) (fun before op => ¬ Boots token before op)
    ops

/-- The step armed a daemon that nothing blocked, at or after its first
scan. -/
def ArmsInOrder (token : NamespaceToken) (generation : Nat) (instanceId : String)
    (before : List StoreOp) (op : StoreOp) : Prop :=
  Arms token before op ∧ (ran token before).Unblocked ∧
    ScannedSinceBoot token generation instanceId (before ++ [op])

/-- A step armed the instance in order, and no boot came after it. -/
def ArmedSinceBoot (token : NamespaceToken) (generation : Nat) (instanceId : String)
    (ops : List StoreOp) : Prop :=
  Transition.Since (ArmsInOrder token generation instanceId)
    (fun before op => ¬ Boots token before op) ops

/-- What the owner asked for may survive a boot. -/
def CarriesEnforce (c : ManagedLifecycle) (generation : Nat) : Prop :=
  c.activationGeneration = generation ∧ c.requestedEnforce = true ∧
    ((c.startupPhase = .readyEnforce ∧ c.effectiveEnforce = true) ∨
      (c.startupPhase = .readyReportOnly ∧ c.ready = false ∧ c.effectiveEnforce = false ∧
        c.armedGeneration = none ∧ c.enforcementEpoch = none))

/-- **What the lifecycle promises after every run.** -/
structure KeepsLifecycle (token : NamespaceToken) (ops : List StoreOp) : Prop where
  checks : ∀ op, (ran token ops).performManaged op ≠ .error (.sqlite "managed_lifecycle")
  wellPhased : ∀ l, (ran token ops).lifecycle? = some l → l.WellPhased
  armedInOrder : ∀ l, (ran token ops).lifecycle? = some l → l.effectiveEnforce = true →
    ArmedSinceBoot token l.activationGeneration l.instanceId ops
  carried : ∀ generation instanceId at_ s' l,
    (ran token ops).beginManagedBoot generation instanceId at_ = .ok (s', l) →
      (l.requestedEnforce = true ↔
        ∃ c, (ran token ops).lifecycle? = some c ∧ CarriesEnforce c generation)

/-! ## No transition violates a check -/

/-- The computation does not fail on a constraint of a table. -/
def Checked {α : Type} (x : Except StoreError α) : Prop := ∀ table, x ≠ .error (.sqlite table)

theorem checked_ok {α : Type} {a : α} : Checked (.ok a : Except StoreError α) := by
  intro table h
  cases h

theorem checked_bind {α β : Type} {x : Except StoreError α} {f : α → Except StoreError β}
    (hx : Checked x) (hf : ∀ a, x = .ok a → Checked (f a)) : Checked (x >>= f) := by
  cases x with
  | error e =>
      intro table h
      exact hx table (congrArg Except.error (Except.error.inj h))
  | ok a => exact hf a rfl

theorem checked_require {p : Prop} [Decidable p] {message : String} :
    Checked (require p (.invalid message) : Except StoreError Unit) := by
  intro table h
  unfold require at h
  split_ifs at h
  cases h

theorem checked_found {α : Type} {o : Option α} {err : StoreError}
    (herr : ∀ table, err ≠ .sqlite table) : Checked (found o err) := by
  intro table h
  cases o with
  | none => exact herr table (Except.error.inj h)
  | some a => cases h

theorem checked_sqliteMillis {value : Nat} {label : String} :
    Checked (sqliteMillis value label) := by
  intro table h
  unfold sqliteMillis at h
  split_ifs at h
  cases h

theorem checked_writeManaged {t : Nat} (h : l.checks = true) : Checked (s.writeManaged l t) := by
  unfold writeManaged
  rw [dif_pos h]
  exact checked_ok

/-- A row that does not enforce passes the checks. -/
theorem checks_of_unarmed (hgeneration : 0 < l.activationGeneration)
    (heffective : l.effectiveEnforce = false) (harmed : l.armedGeneration = none)
    (hepoch : l.enforcementEpoch = none) : l.checks = true := by
  simp [ManagedLifecycle.checks, hgeneration, heffective, harmed, hepoch]

/-- And a row that was armed does. -/
theorem checks_armed {epoch : String} (hgeneration : 0 < l.activationGeneration) :
    (armed l epoch).checks = true := by
  simp [ManagedLifecycle.checks, armed, hgeneration]

/-- A transition is checked where what it does to the stored lifecycle is. -/
theorem checked_transitionManaged {generation t : Nat} {instanceId : String}
    {transition : ManagedLifecycle → Nat → Except StoreError Store}
    (h : ∀ c, 0 < c.activationGeneration → Checked (transition c t)) :
    Checked (s.transitionManaged generation instanceId t transition) := by
  unfold transitionManaged validateManagedIdentity requireExactManagedIdentity
  refine checked_bind (checked_bind checked_require fun _ _ => checked_require) fun _ _ => ?_
  refine checked_bind checked_sqliteMillis fun at_ hat => ?_
  obtain ⟨-, rfl⟩ := sqliteMillis_eq_ok.1 hat
  refine checked_bind (checked_found (by simp)) fun row _ => ?_
  refine checked_bind (checked_bind checked_require fun _ _ => checked_require) fun _ _ => ?_
  refine checked_bind (h _ row.generation_pos) fun _ _ => ?_
  exact checked_bind (checked_found (by simp)) fun _ _ => checked_ok

/-- **No transition violates a check**, of any store. -/
theorem checked_performManaged {op : ManagedOp} : Checked (s.performManaged op) := by
  -- every write but an arming one leaves the row unarmed, of which the checks ask nothing
  cases op with
  | beginManagedBoot generation instanceId at_ =>
      simp only [performManaged, beginManagedBoot, validateManagedIdentity]
      refine checked_bind (checked_bind checked_require fun _ _ => checked_require) fun _ hvalid => ?_
      simp only [bind_eq_ok, require_eq_ok, exists_const] at hvalid
      refine checked_bind checked_sqliteMillis fun g hg => ?_
      obtain ⟨-, rfl⟩ := sqliteMillis_eq_ok.1 hg
      refine checked_bind checked_sqliteMillis fun _ _ => ?_
      refine checked_bind (checked_writeManaged (checks_of_unarmed (Nat.pos_of_ne_zero hvalid.1)
        rfl rfl rfl)) fun _ _ => ?_
      exact checked_bind (checked_found (by simp)) fun _ _ => checked_ok
  | finishManagedRecovery generation instanceId at_ =>
      simp only [performManaged, finishManagedRecovery]
      refine checked_transitionManaged fun c hc => ?_
      refine checked_bind checked_require fun _ _ => ?_
      exact checked_writeManaged (checks_of_unarmed hc rfl rfl rfl)
  | preserveManagedPreReadyRestartIntent generation instanceId at_ =>
      simp only [performManaged, preserveManagedPreReadyRestartIntent]
      refine checked_transitionManaged fun c hc => ?_
      refine checked_bind checked_require fun _ _ => checked_bind checked_require fun _ _ => ?_
      exact checked_writeManaged (checks_of_unarmed hc rfl rfl rfl)
  | completeManagedFirstScan generation instanceId epoch at_ =>
      simp only [performManaged, completeManagedFirstScan, validateEnforcementEpoch]
      refine checked_bind checked_require fun _ _ => checked_transitionManaged fun c hc => ?_
      refine checked_bind checked_require fun _ _ => checked_bind checked_require fun _ _ => ?_
      split_ifs
      · exact checked_writeManaged (checks_of_unarmed hc rfl rfl rfl)
      · exact checked_writeManaged (checks_armed hc)
      · exact checked_writeManaged (checks_of_unarmed hc rfl rfl rfl)
  | armManaged generation instanceId epoch at_ =>
      simp only [performManaged, armManaged, validateEnforcementEpoch]
      refine checked_bind checked_require fun _ _ => checked_transitionManaged fun c hc => ?_
      split_ifs
      · exact checked_ok
      · refine checked_bind checked_require fun _ _ => checked_bind checked_require fun _ _ => ?_
        split
        · intro table h
          cases h
        · exact checked_writeManaged (checks_armed hc)
  | disarmManaged generation instanceId at_ =>
      simp only [performManaged, disarmManaged]
      exact checked_transitionManaged fun c hc =>
        checked_writeManaged (checks_of_unarmed hc rfl rfl rfl)
  | beginManagedDrain generation instanceId at_ =>
      simp only [performManaged, beginManagedDrain]
      exact checked_transitionManaged fun c hc =>
        checked_writeManaged (checks_of_unarmed hc rfl rfl rfl)
  | failManaged generation instanceId at_ =>
      simp only [performManaged, failManaged]
      exact checked_transitionManaged fun c hc =>
        checked_writeManaged (checks_of_unarmed hc rfl rfl rfl)
  | clearManagedEnforceRequestOffline generation at_ =>
      simp only [performManaged, clearManagedEnforceRequestOffline]
      refine checked_bind checked_require fun _ _ => checked_bind checked_sqliteMillis fun _ _ => ?_
      refine checked_bind checked_sqliteMillis fun _ _ => ?_
      refine checked_bind (checked_found (by simp)) fun row _ => ?_
      refine checked_bind checked_require fun _ _ => ?_
      refine checked_bind (checked_writeManaged (checks_of_unarmed row.generation_pos rfl rfl rfl))
        fun _ _ => ?_
      exact checked_bind (checked_found (by simp)) fun _ _ => checked_ok

/-! ## Phases -/

/-- Every transition leaves phase and flags in agreement. -/
theorem Moves.wellPhased {op : ManagedOp} (h : s.Moves op l)
    (hs : ∀ c, s.lifecycle? = some c → c.WellPhased) : l.WellPhased := by
  cases h with
  | boot hgeneration => exact ⟨by simp [booted], by simp [booted], by simp [booted]⟩
  | recovered hc hdraining =>
      exact ⟨by simp [ManagedLifecycle.unarmed], by simp [ManagedLifecycle.unarmed],
        by simp [ManagedLifecycle.unarmed, hdraining]⟩
  | preserved hc hdraining hready =>
      exact ⟨by simp [ManagedLifecycle.unarmed], by simp [ManagedLifecycle.unarmed], by simp⟩
  | scannedArmed hc hdraining hphase hrequested hblocker =>
      exact ⟨by simp [Store.armed], by simp [Store.armed], by simp [Store.armed]⟩
  | scanned hc hdraining hphase =>
      exact ⟨by simp [readyReportOnly, ManagedLifecycle.unarmed],
        by simp [readyReportOnly, ManagedLifecycle.unarmed], by simp [readyReportOnly]⟩
  | alreadyArmed hc heffective => exact hs l hc.stored
  | armed hc hdraining hready hblocker =>
      exact ⟨by simp [Store.armed], by simp [Store.armed], by simp [Store.armed]⟩
  | @disarmed generation instanceId at_ c hc =>
      obtain ⟨henforces, harmed, hdrains⟩ := hs c hc.stored
      refine ⟨?_, by simp [ManagedLifecycle.unarmed], ?_⟩
      · -- a daemon that is not ready does not enforce
        simp only [ManagedLifecycle.unarmed, Bool.false_eq_true, iff_false]
        split_ifs with h₁ h₂
        · simp
        · simp
        · intro hphase
          exact h₂ (harmed (henforces.1 hphase)).2.1
      · simp only [ManagedLifecycle.unarmed]
        split_ifs with h₁ h₂
        · simp [h₁]
        · simp [h₁]
        · exact hdrains
  | draining hc =>
      exact ⟨by simp [ManagedLifecycle.unarmed], by simp [ManagedLifecycle.unarmed], by simp⟩
  | @failed generation instanceId at_ c hc =>
      refine ⟨?_, by simp [ManagedLifecycle.unarmed], ?_⟩
      · simp only [ManagedLifecycle.unarmed, Bool.false_eq_true, iff_false]
        split_ifs <;> simp
      · show c.draining = true ↔ (if c.draining then _ else _) = ManagedStartupPhase.draining
        split_ifs with h₁
        · simp [h₁]
        · simp [h₁]
  | cleared hc hgeneration =>
      exact ⟨by simp [ManagedLifecycle.unarmed], by simp [ManagedLifecycle.unarmed], by simp⟩

/-! ## One operation -/

/-- Where nothing blocks arming, nothing does. -/
theorem unblocked_of_none (h : s.managedArmBlocker = none) : s.Unblocked := by
  unfold managedArmBlocker persistentEnforcementBlocker blockedWith at h
  split_ifs at h with hopen hunknown hdelivered
  simp only [Bool.not_eq_true, List.any_eq_false, Bool.or_eq_true, not_or, endedWith,
    Bool.and_eq_true, beq_iff_eq, not_and, Option.any_eq_true, not_exists] at hunknown hdelivered
  refine ⟨?_, fun k b hb id r hr hid c hc => ?_, fun k b hb id r hr hid c hc => ?_⟩
  · refine openAttempts_nil_iff.1 ?_
    simpa using hopen
  · have hblock := OrdMap.lookup_eq_some.1 hb
    have hrow : (id, r) ∈ _ := Table.mem_entries.2 hr
    exact ⟨(hunknown _ hblock).1 _ hrow hid c hc, (hdelivered _ hblock).1 _ hrow hid c hc⟩
  · have hblock := OrdMap.lookup_eq_some.1 hb
    have hrow : (id, r) ∈ _ := Table.mem_entries.2 hr
    exact ⟨(hunknown _ hblock).2 _ hrow hid c hc, (hdelivered _ hblock).2 _ hrow hid c hc⟩

/-- Only transitions change the lifecycle. -/
theorem perform_lifecycle (hs : s.Sound) (h : s.perform op = .ok s') :
    (∃ m l, op = .managed m ∧ s.performManaged m = .ok (s', l) ∧ s.Moves m l ∧
      s'.lifecycle? = some l) ∨
    ((∀ m, op ≠ .managed m) ∧ s'.lifecycle? = s.lifecycle?) := by
  by_cases hop : ∃ m, op = .managed m
  · obtain ⟨m, rfl⟩ := hop
    obtain ⟨⟨_, l⟩, hok, rfl⟩ := map_eq_ok.1 h
    obtain ⟨hmoves, heffect⟩ := performManaged_ok hok
    exact Or.inl ⟨m, l, rfl, hok, hmoves, heffect.stored⟩
  · simp only [not_exists] at hop
    refine Or.inr ⟨hop, ?_⟩
    cases perform_effect hs.oneOpen h with
    | managed hmoves hstored hcooling => exact absurd rfl (hop _)
    | _ => rfl

/-- What one more operation does to the lifecycle: nothing, and it is no
boot, or a transition. -/
theorem ran_lifecycle (token : NamespaceToken) (ops : List StoreOp) (op : StoreOp) :
    (¬ Boots token ops op ∧ (ran token (ops ++ [op])).lifecycle? = (ran token ops).lifecycle?) ∨
    ∃ m s' l, op = .managed m ∧ (ran token ops).performManaged m = .ok (s', l) ∧
      (ran token ops).Moves m l ∧ (ran token (ops ++ [op])).lifecycle? = some l := by
  rw [ran_concat]
  rcases committed_cases (ran token ops) op with ⟨s', hok, heq⟩ | ⟨e, hfails, heq⟩
  · rw [heq]
    rcases perform_lifecycle ran_sound hok with ⟨m, l, rfl, hm, hmoves, hl⟩ | ⟨hop, hsame⟩
    · exact Or.inr ⟨m, s', l, rfl, hm, hmoves, hl⟩
    · refine Or.inl ⟨?_, hsame⟩
      rintro ⟨generation, instanceId, at_, r, rfl, -⟩
      exact hop _ rfl
  · rw [heq]
    refine Or.inl ⟨?_, rfl⟩
    rintro ⟨generation, instanceId, at_, r, rfl, hok⟩
    rw [perform, performManaged, hok] at hfails
    cases hfails

/-! ## Every run -/

/-- The invariant of a run, beside the phases: a daemon that is ready has
scanned, and one that enforces was armed in order. -/
structure Earned (token : NamespaceToken) (l : ManagedLifecycle) (ops : List StoreOp) : Prop where
  wellPhased : l.WellPhased
  scanned : l.ready = true → ScannedSinceBoot token l.activationGeneration l.instanceId ops
  armed : l.effectiveEnforce = true → ArmedSinceBoot token l.activationGeneration l.instanceId ops

/-- A step that is no boot takes nothing back. -/
theorem ScannedSinceBoot.keep {generation : Nat} {instanceId : String}
    (h : ScannedSinceBoot token generation instanceId ops) (hop : ¬ Boots token ops op) :
    ScannedSinceBoot token generation instanceId (ops ++ [op]) :=
  Transition.since_concat.2 (Or.inr ⟨h, hop⟩)

theorem ArmedSinceBoot.keep {generation : Nat} {instanceId : String}
    (h : ArmedSinceBoot token generation instanceId ops) (hop : ¬ Boots token ops op) :
    ArmedSinceBoot token generation instanceId (ops ++ [op]) :=
  Transition.since_concat.2 (Or.inr ⟨h, hop⟩)

theorem not_boots {m : ManagedOp}
    (h : ∀ generation instanceId at_, m ≠ .beginManagedBoot generation instanceId at_) :
    ¬ Boots token ops (.managed m) := by
  rintro ⟨generation, instanceId, at_, -, heq, -⟩
  exact h generation instanceId at_ (StoreOp.managed.inj heq)

/-- A transition leaves only a daemon ready that has scanned. -/
theorem Moves.scannedSinceBoot {m : ManagedOp}
    (hearned : ∀ c, (ran token ops).lifecycle? = some c → Earned token c ops)
    (hok : (ran token ops).performManaged m = .ok (s', l)) (hmoves : (ran token ops).Moves m l)
    (hready : l.ready = true) :
    ScannedSinceBoot token l.activationGeneration l.instanceId (ops ++ [.managed m]) := by
  cases hmoves with
  | scannedArmed hc hdraining hphase hrequested hblocker =>
      obtain ⟨-, rfl, rfl⟩ := hc
      exact Transition.since_concat.2 (Or.inl ⟨_, _, _, rfl, hok⟩)
  | scanned hc hdraining hphase =>
      obtain ⟨-, rfl, rfl⟩ := hc
      exact Transition.since_concat.2 (Or.inl ⟨_, _, _, rfl, hok⟩)
  | alreadyArmed hc heffective =>
      exact ((hearned l hc.stored).scanned hready).keep (not_boots fun _ _ _ h => by cases h)
  | @armed _ _ _ _ c hc hdraining hcready hblocker =>
      exact ((hearned c hc.stored).scanned hcready).keep (not_boots fun _ _ _ h => by cases h)
  | @disarmed _ _ _ c hc =>
      exact ((hearned c hc.stored).scanned hready).keep (not_boots fun _ _ _ h => by cases h)
  | boot hgeneration => cases hready
  | recovered hc hdraining => cases hready
  | preserved hc hdraining hcready => cases hready
  | draining hc => cases hready
  | failed hc => cases hready
  | cleared hc hgeneration => cases hready

/-- And only a daemon enforcing that was armed in order. -/
theorem Moves.armedSinceBoot {m : ManagedOp}
    (hearned : ∀ c, (ran token ops).lifecycle? = some c → Earned token c ops)
    (hmoves : (ran token ops).Moves m l)
    (hl : (ran token (ops ++ [.managed m])).lifecycle? = some l)
    (hscanned : l.ready = true →
      ScannedSinceBoot token l.activationGeneration l.instanceId (ops ++ [.managed m]))
    (heffective : l.effectiveEnforce = true) :
    ArmedSinceBoot token l.activationGeneration l.instanceId (ops ++ [.managed m]) := by
  -- the step arms where the lifecycle before it did not enforce
  have harms : ∀ c, (ran token ops).lifecycle? = some c → c.effectiveEnforce = false →
      Arms token ops (.managed m) := by
    intro c hc hfalse
    refine ⟨fun c' hc' => ?_, l, hl, heffective⟩
    obtain rfl := Option.some.inj (hc.symm.trans hc')
    exact hfalse
  cases hmoves with
  | @scannedArmed _ _ _ _ c hc hdraining hphase hrequested hblocker =>
      have hbefore : c.effectiveEnforce = false := by
        by_contra htrue
        have hready := (hearned c hc.stored).wellPhased.enforces_iff.2 (by simpa using htrue)
        rw [hphase] at hready
        cases hready
      exact Transition.since_concat.2
        (Or.inl ⟨harms c hc.stored hbefore, unblocked_of_none hblocker, hscanned rfl⟩)
  | alreadyArmed hc hceffective =>
      exact ((hearned l hc.stored).armed heffective).keep (not_boots fun _ _ _ h => by cases h)
  | @armed _ _ _ _ c hc hdraining hready hblocker =>
      cases hbefore : c.effectiveEnforce with
      | true =>
          exact ((hearned c hc.stored).armed hbefore).keep (not_boots fun _ _ _ h => by cases h)
      | false =>
          exact Transition.since_concat.2
            (Or.inl ⟨harms c hc.stored hbefore, unblocked_of_none hblocker, hscanned rfl⟩)
  | boot hgeneration => cases heffective
  | recovered hc hdraining => cases heffective
  | preserved hc hdraining hcready => cases heffective
  | scanned hc hdraining hphase => cases heffective
  | disarmed hc => cases heffective
  | draining hc => cases heffective
  | failed hc => cases heffective
  | cleared hc hgeneration => cases heffective

/-- The lifecycle earns its flags in every run. -/
theorem ran_earned : ∀ l, (ran token ops).lifecycle? = some l → Earned token l ops := by
  induction ops using List.reverseRecOn with
  | nil =>
      intro l hl
      cases hl
  | append_singleton ops op ih =>
      intro l hl
      rcases ran_lifecycle token ops op with ⟨hop, hsame⟩ | ⟨m, s', l', rfl, hok, hmoves, hl'⟩
      · rw [hsame] at hl
        obtain ⟨hphased, hscanned, harmed⟩ := ih l hl
        exact ⟨hphased, fun hready => (hscanned hready).keep hop,
          fun heffective => (harmed heffective).keep hop⟩
      · obtain rfl := Option.some.inj (hl'.symm.trans hl)
        have hscanned := Moves.scannedSinceBoot ih hok hmoves
        exact ⟨hmoves.wellPhased fun c hc => (ih c hc).wellPhased, hscanned,
          Moves.armedSinceBoot ih hmoves hl' hscanned⟩

theorem carriesEnforce_iff {c : ManagedLifecycle} {generation : Nat} :
    c.carriesEnforce generation = true ↔ CarriesEnforce c generation := by
  simp only [ManagedLifecycle.carriesEnforce, CarriesEnforce, Bool.and_eq_true, Bool.or_eq_true,
    beq_iff_eq, Bool.not_eq_true', Option.isNone_iff_eq_none, and_assoc]

/-- **The managed lifecycle keeps its promises**, after every run of the
store from empty. -/
theorem lifecycle_kept (token : NamespaceToken) (ops : List StoreOp) : KeepsLifecycle token ops where
  checks := fun op => checked_performManaged "managed_lifecycle"
  wellPhased := fun l hl => (ran_earned l hl).wellPhased
  armedInOrder := fun l hl heffective => (ran_earned l hl).armed heffective
  carried := by
    intro generation instanceId at_ s' l h
    obtain ⟨-, rfl, -⟩ := beginManagedBoot_moves h
    simp only [booted, Option.any_eq_true, carriesEnforce_iff]

/-- A daemon that boots, recovers, scans and is armed enforces. -/
example : ((ran sampleToken [.managed (.beginManagedBoot 1 "instance" 10),
    .managed (.finishManagedRecovery 1 "instance" 11),
    .managed (.completeManagedFirstScan 1 "instance" "first" 12),
    .managed (.armManaged 1 "instance" "second" 13)]).lifecycle?.map
      fun l => (l.startupPhase, l.enforcementEpoch)) = some (.readyEnforce, some "second") := by
  decide +kernel

end Store

end Unlinger
