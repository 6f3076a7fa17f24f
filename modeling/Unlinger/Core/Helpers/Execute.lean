import Unlinger.Core.Helpers.Terminal

/-!
# Every run of the executor

The stages put together. `execute_spec` is the one statement about
`execute`, and `execute_runs` the same about its runs; the results about
the journal, the stop, the signals and the reclaim are read off it.
-/

namespace Unlinger

open Interaction

variable {plan : CleanupPlan} {policy : CleanupPolicy} {es : CleanupTrace}
  {o : Except CleanupError CleanupReceipt}

/-- What the first stage hands on. -/
structure Opened (plan : CleanupPlan) (t : CleanupTrace) (s : StageState)
    (frozen : List (RuntimeArtifactCandidate × ArtifactFreeze)) : Prop where
  ready : StageReady t s
  fresh : s.termAttempted = []
  first : ∃ initial, FirstSnapshot t initial ∧ ∀ pid, s.survivors.contains pid = true ↔
    (∃ x ∈ plan.targets, x.identity.pid = pid) ∧ initial.byPid.contains pid = true
  artifacts : frozen.map Prod.fst = plan.artifacts
  frozen : ∀ a ∈ frozen, ⟨.freezeArtifact a.1, .ok a.2⟩ ∈ t

/-- **The first stage.** -/
theorem openStage_spec :
    Sat (Permitted plan policy) (openStage plan) []
      (FlowPost EndedUnclaimed fun t a => Opened plan t a.1 a.2) := by
  have hj : Journalled [] [] (openReceipt plan) := rfl
  have h : Going [] [] (openReceipt plan) := ⟨hj, by simp [Stopped]⟩
  refine Sat.poll ?_ ?_
  · exact (hj.neutral (e := ⟨.shouldStop, true⟩) trivial).drained.endedUnclaimed rfl
  have h₁ := h.neutral (e := ⟨.shouldStop, false⟩) trivial Bool.false_ne_true
  refine Sat.bind (snapshotOrReceiptError_spec h₁) ?_ fun t' err herr => herr
  rintro t₁ initial hs
  obtain rfl : t₁ = _ := hs
  have h₂ : Going ([] ++ [⟨.shouldStop, false⟩] ++ [⟨.snapshot, .ok initial⟩]) []
      { openReceipt plan with
        resources := { (openReceipt plan).resources with
          before := some (resourceSnapshot initial plan) } } :=
    (h₁.neutral (e := ⟨.snapshot, .ok initial⟩) trivial id).receipt rfl rfl
  refine Sat.bind validateStage_spec ?_ fun t' err ho => ?_
  · rintro t₂ (reason | survivors) ⟨vs, rfl, hvs, ho⟩
    · exact ((h₂.extend hvs).refused ho).endedUnclaimed rfl
    have hval : Validated plan initial vs survivors := ho
    refine Sat.bind (freezeArtifacts_spec (h₂.extend hvs)) ?_ fun t' err herr => herr
    rintro t₃ frozen ⟨⟨es, rfl, hes, hmem⟩, hmap⟩
    have h₃ := (h₂.extend hvs).extend hes
    have hnone : Unsignalling ([] ++ [⟨.shouldStop, false⟩] ++ [⟨.snapshot, .ok initial⟩] ++ vs ++
        es) := by
      refine Unsignalling.append (Unsignalling.append (Unsignalling.append ?_
        observing_snapshot.unsignalling) hvs.unsignalling) hes.unsignalling
      rintro pid sig ⟨e, he, identity, hc, -⟩
      rw [List.mem_singleton.1 he] at hc
      cases hc
    refine ⟨⟨h₃, rfl, rfl, fun pid hp => absurd hp (hnone pid .term), by simp,
      fun pid hp => absurd hp (hnone pid .kill)⟩, rfl, ⟨initial, ?_, hval.survivors⟩, hmap,
      fun a ha => List.mem_append_right _ (hmem a ha)⟩
    refine ⟨[⟨.shouldStop, false⟩], vs ++ es, by simp, fun e he => ?_⟩
    rw [List.mem_singleton.1 he]
    exact fun hc => by cases hc
  · obtain ⟨vs, -, -, hfalse⟩ := ho
    exact hfalse.elim

/-- How a cleanup ends: with an error that names what is open, or with a
receipt that claims no reclaim or has its proof. -/
def Outcome (plan : CleanupPlan) (policy : CleanupPolicy) (t : CleanupTrace) :
    Except CleanupError CleanupReceipt → Prop
  | .error err => Erred t err
  | .ok r => Ended t r ∧ (Unclaimed t r ∨ Reclaimed plan policy t r) ∧
      (r.state = .cleared → ProvedReconciled plan t)

theorem EndedUnclaimed.outcome {t : CleanupTrace} {r : CleanupReceipt} (h : EndedUnclaimed t r) :
    Outcome plan policy t (.ok r) :=
  ⟨h.1, Or.inl h.2, fun hc => absurd hc h.2.state⟩

theorem clearedReceipt_actions (r : CleanupReceipt) :
    (clearedReceipt r).actions = r.actions ∧
      (clearedReceipt r).artifactActions = r.artifactActions ∧
      (clearedReceipt r).revivalChecksCompleted = r.revivalChecksCompleted := by
  simp only [clearedReceipt]
  split_ifs <;> exact ⟨rfl, rfl, rfl⟩

/-- **Every call of the executor is permitted, and every outcome is as it
says.** -/
theorem execute_spec :
    Sat (Permitted plan policy) (execute plan policy) [] (Outcome plan policy) := by
  refine Sat.bind openStage_spec ?_ fun t' err herr => herr
  rintro t₁ (r₁ | ⟨s, frozen⟩) h₁
  · exact EndedUnclaimed.outcome h₁
  have hopen : Opened plan t₁ s frozen := h₁
  obtain ⟨initial, hfirst, hsurv⟩ := hopen.first
  refine Sat.bind (signalStages_spec hopen.ready hopen.fresh hfirst hsurv).grows ?_
    fun t' err herr => herr.2
  rintro t₂ (r₂ | r₂) ⟨hpre₂, h₂⟩
  · exact EndedUnclaimed.outcome h₂
  refine Sat.bind (revivalStage_spec h₂).grows ?_ fun t' err herr => herr.2
  rintro t₃ (r₃ | r₃) ⟨hpre₃, h₃⟩
  · exact EndedUnclaimed.outcome h₃
  obtain ⟨hgo₃, hbare₃, hrec₃⟩ := h₃
  refine Sat.bind (artifactStage_spec ⟨hgo₃, hrec₃⟩ hopen.artifacts fun a ha =>
    (hpre₂.trans hpre₃).subset (hopen.frozen a ha)) ?_ fun t' err herr => herr
  rintro t₄ (r₄ | r₄) h₄
  · have he : EndedReclaimed plan policy t₄ r₄ := h₄
    exact ⟨he.ended, Or.inr he.reclaimed, fun hc => absurd hc he.state⟩
  · obtain ⟨hfin, hproved⟩ := h₄
    obtain ⟨ha, haa, hc⟩ := clearedReceipt_actions r₄
    have hgo : Going t₄ [] (clearedReceipt r₄) := hfin.toGoing.receipt ha haa
    exact ⟨⟨hgo.journal, fun hs => absurd hs hgo.running⟩,
      Or.inr ⟨hfin.reclaimed.waited, hfin.reclaimed.absent, hc.trans hfin.reclaimed.checks⟩,
      fun _ => hproved⟩

/-- The same of a run. -/
theorem execute_runs (h : Runs (execute plan policy) es o) :
    Guarded (Permitted plan policy) [] es ∧ Outcome plan policy es o := by
  obtain ⟨hg, ho⟩ := execute_spec.sound h
  exact ⟨hg, by simpa using ho⟩

/-- The guard at one call of a run. -/
theorem permitted_of_runs (h : Runs (execute plan policy) es o) {u v : CleanupTrace}
    {e : CleanupEvent} (he : es = u ++ e :: v) : Permitted plan policy u e.call := by
  simpa using (execute_runs h).1 u e v he

/-! ## Surroundings for concrete runs -/

/-- The signal was sent to the pid, as a test. -/
def wasSignalled (t : CleanupTrace) (pid : Pid) (sig : CleanupSignal) : Bool :=
  t.any fun e =>
    match e.call with
    | .signalExact identity s => identity.pid == pid && s == sig
    | _ => false

theorem signalled_iff {t : CleanupTrace} {pid : Pid} {sig : CleanupSignal} :
    Signalled t pid sig ↔ wasSignalled t pid sig = true := by
  rw [wasSignalled, List.any_eq_true]
  refine exists_congr fun e => and_congr Iff.rfl ?_
  obtain ⟨c, a⟩ := e
  cases c with
  | signalExact identity s =>
      simp only [Call.signalExact.injEq, Bool.and_eq_true, beq_iff_eq]
      constructor
      · rintro ⟨i, ⟨rfl, rfl⟩, hp⟩
        exact ⟨hp, rfl⟩
      · rintro ⟨hp, rfl⟩
        exact ⟨identity, ⟨rfl, rfl⟩, hp⟩
  | _ => simp

instance {t : CleanupTrace} {pid : Pid} {sig : CleanupSignal} : Decidable (Signalled t pid sig) :=
  decidable_of_iff _ signalled_iff.symm

instance {actions : List CleanupAction} {pid : Pid} : Decidable (TermActed actions pid) :=
  inferInstanceAs (Decidable (∃ a ∈ actions, _))

/-- Surroundings in which nothing fails and nothing says stop: `alive`
says which processes live after a trace, and a frozen file is there until
it is removed. -/
def calmWorld (alive : CleanupTrace → List ProcessRecord) (t : CleanupTrace) :
    (c : Call) → Answer c
  | .shouldStop => false
  | .snapshot =>
      .ok ⟨t.length, 501, alive t, ⟨(alive t).length, (alive t).length, 0, 0, 0⟩⟩
  | .lookupProcess pid => .ok ((alive t).find? fun p => p.pid = pid)
  | .clockSample => .ok ⟨t.length⟩
  | .signalExact _ _ => .delivered
  | .waitUntil _ => .ok .deadlineReached
  | .freezeArtifact c =>
      if t.any fun e => match e.call with | .removeArtifactExact _ => true | _ => false then
        .ok .absent
      else .ok (.frozen ⟨c, ⟨1, 7, 501, 0o600, 1, 1, 6, 501, 0o700⟩⟩)
  | .removeArtifactExact _ => .removed
  | .revalidate s _ phase =>
      if s.processes.isEmpty then ⟨.gone, "revalidation.tree_gone"⟩
      else
        match phase with
        | .beforeSignal => ⟨.eligible, "revalidation.eligible"⟩
        | .revivalCheck => ⟨.revived, "revalidation.revived"⟩
  | .prepareAction _ _ => .ok "action"
  | .completeAction _ _ _ => .ok ()
  | .prepareArtifactAction _ _ => .ok "artifact-action"
  | .completeArtifactAction _ _ _ => .ok ()

/-- A process of the sample incident. -/
def sampleIdentity (pid : Pid) : ProcessIdentity := ⟨pid, 1000 + pid, some 1, some pid⟩

/-- Its row in the table. -/
def sampleRecord (pid : Pid) : ProcessRecord where
  identity := sampleIdentity pid
  parentPid := 1
  processGroupId := pid
  uid := 501
  ttyDevice := none
  name := "chrome"
  executablePath := some "/opt/chrome"
  executable := ⟨some 1, some pid⟩
  arguments := some []
  residentMemoryBytes := 1024
  runtime := {}

/-- A confirmed incident of a renderer and its browser root, the renderer
listed first, with one artifact. -/
def sampleReport : IncidentReport where
  incidentId := "incident"
  trackingKey := "tracking"
  sessionFingerprint := "session"
  signaturePack := "pack"
  signatureVersion := "1"
  state := .confirmed
  root := ⟨101, 1101, "chrome", "root"⟩
  memberCount := 2
  residentMemoryBytes := 2048
  memberFingerprint := "members"
  roles := [⟨.browserRoot, 1⟩, ⟨.renderer, 1⟩]
  evidence := []
  gates := ⟨true, true, true, true, true, true, true⟩
  browserCompatibility := ⟨.chromeForTesting, none, .automatic, none⟩
  targets := [⟨sampleIdentity 102, 102, .renderer⟩, ⟨sampleIdentity 101, 101, .browserRoot⟩]
  runtimeArtifacts := [⟨.devToolsActivePort, "/tmp/p", "/tmp/p/DevToolsActivePort", 501, "session",
    "artifact"⟩]

/-- The plan frozen from it. -/
def samplePlan : CleanupPlan where
  incidentId := "incident"
  trackingKey := "tracking"
  sessionFingerprint := "session"
  signaturePack := "pack"
  signatureVersion := "1"
  rootIdentity := sampleIdentity 101
  memberFingerprint := "members"
  targets := sampleReport.targets
  artifacts := sampleReport.runtimeArtifacts

theorem samplePlan_fromConfirmed : CleanupPlan.fromConfirmed sampleReport = .ok samplePlan := rfl

/-- Both processes live until they are TERMed. -/
def obedient (t : CleanupTrace) : List ProcessRecord :=
  ([101, 102].filter fun pid => !wasSignalled t pid .term).map sampleRecord

/-- The run of the sample plan among processes that obey. -/
def obedientRun : CleanupTrace × Except CleanupError CleanupReceipt :=
  (execute samplePlan CleanupPolicy.default).runWith (calmWorld obedient) []

theorem runs_obedientRun : Runs (execute samplePlan CleanupPolicy.default) obedientRun.1 obedientRun.2 :=
  runs_of_runWith rfl

end Unlinger
