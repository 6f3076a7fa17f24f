import Unlinger.Core.Helpers.Execute

/-!
# Write-ahead journalling

Every effect of a cleanup is announced by its own journal row, at most one
row is open at a time, and the receipt is the journal: what was completed,
in order, with the dispositions that were written. A cleanup that leaves a
row open says so and names it.
-/

namespace Unlinger

open Interaction

variable {plan : CleanupPlan} {policy : CleanupPolicy} {t es : CleanupTrace} {e : CleanupEvent}
  {o : Except CleanupError CleanupReceipt}

/-! ## One row at a time -/

theorem closeAction_length (id : String) (d : SignalDisposition) (opens : List OpenAction) :
    (JournalView.closeAction id d opens).1.length ≤ opens.length := by
  induction opens with
  | nil => simp [JournalView.closeAction]
  | cons a rest ih =>
      cases a with
      | process i intent =>
          unfold JournalView.closeAction
          split_ifs
          · simp
          · simpa using ih
      | artifact i intent => simpa [JournalView.closeAction] using ih

theorem closeArtifactAction_length (id : String) (d : ArtifactDisposition)
    (opens : List OpenAction) :
    (JournalView.closeArtifactAction id d opens).1.length ≤ opens.length := by
  induction opens with
  | nil => simp [JournalView.closeArtifactAction]
  | cons a rest ih =>
      cases a with
      | artifact i intent =>
          unfold JournalView.closeArtifactAction
          split_ifs
          · simp
          · simpa using ih
      | process i intent => simpa [JournalView.closeArtifactAction] using ih

/-- Only a prepare opens a row, and it opens one. -/
theorem step_openActions_length (v : JournalView) (e : CleanupEvent) :
    (v.step e).openActions.length ≤ v.openActions.length ∨
      e.call.IsPrepare ∧ (v.step e).openActions.length ≤ v.openActions.length + 1 := by
  obtain ⟨c, a⟩ := e
  cases c with
  | prepareAction intent at_ =>
      refine Or.inr ⟨trivial, ?_⟩
      cases a <;> simp [JournalView.step]
  | prepareArtifactAction intent at_ =>
      refine Or.inr ⟨trivial, ?_⟩
      cases a <;> simp [JournalView.step]
  | completeAction id d at_ =>
      cases a with
      | ok _ => exact Or.inl (closeAction_length id d v.openActions)
      | error _ => exact Or.inl le_rfl
  | completeArtifactAction id d at_ =>
      cases a with
      | ok _ => exact Or.inl (closeArtifactAction_length id d v.openActions)
      | error _ => exact Or.inl le_rfl
  | _ => exact Or.inl le_rfl

/-- **At most one row is open, at every point of a run.** -/
theorem openActions_le_one (h : Guarded (Permitted plan policy) [] es) {u : CleanupTrace}
    (hu : u <+: es) : (journalView u).openActions.length ≤ 1 := by
  induction u using List.reverseRecOn with
  | nil => simp [journalView]
  | append_singleton u e ih =>
      obtain ⟨v, rfl⟩ := hu
      have hperm : Permitted plan policy u e.call := by simpa using h u e v (by simp)
      have hle := ih ⟨e :: v, by simp⟩
      rw [journalView_snoc]
      rcases step_openActions_length (journalView u) e with hstep | ⟨hprep, hstep⟩
      · exact hstep.trans hle
      · -- a row is only prepared when none is open
        have hnil : (journalView u).openActions = [] := by
          obtain ⟨c, a⟩ := e
          cases c <;> first | exact hperm | exact hprep.elim
        simpa [hnil] using hstep

/-! ## What precedes an effect -/

theorem Fresh.not_prepare {s : Snapshot} {vs : CleanupTrace} (h : Fresh plan s vs) :
    ∀ e ∈ vs, ¬ e.call.IsPrepare := by
  intro e he hp
  rcases h.calls e he with ⟨pid, rfl⟩ | ⟨reason, rfl⟩
  · exact hp
  · exact hp

theorem Fresh.neutral {s : Snapshot} {vs : CleanupTrace} (h : Fresh plan s vs) :
    ∀ e ∈ vs, e.call.IsNeutral := by
  intro e he
  rcases h.calls e he with ⟨pid, rfl⟩ | ⟨reason, rfl⟩
  · exact trivial
  · exact trivial

/-- The row that announces a signal: the last one prepared, still open,
about this process and this signal. -/
def Announced (t : CleanupTrace) (identity : ProcessIdentity) (sig : CleanupSignal) : Prop :=
  ∃ u v intent at_ actionId, t = u ++ ⟨.prepareAction intent at_, .ok actionId⟩ :: v ∧
    (∀ e ∈ v, ¬ e.call.IsPrepare) ∧ intent.pid = identity.pid ∧
    intent.identityFingerprint = fingerprintProcessIdentity identity ∧ intent.signal = sig ∧
    (journalView t).openActions = [.process actionId intent]

theorem Armed.announced {target : ProcessTarget} {stage : CleanupStage} {sig : CleanupSignal}
    {t₀ : CleanupTrace} (h : Armed plan target stage sig t₀ t)
    (hopen : (journalView t₀).openActions = []) : Announced t target.identity sig := by
  obtain ⟨at_, actionId, s, vs, rfl, hfresh, -, -⟩ := h
  refine ⟨t₀ ++ [⟨.shouldStop, false⟩, ⟨.clockSample, .ok at_⟩],
    [⟨.shouldStop, false⟩, ⟨.snapshot, .ok s⟩] ++ vs ++ [⟨.shouldStop, false⟩],
    signalIntent target stage sig, at_.wallUnixMillis, actionId, by simp, fun e he hp => ?_,
    rfl, rfl, rfl, ?_⟩
  · simp only [List.cons_append, List.nil_append, List.mem_cons, List.mem_append,
      List.not_mem_nil, or_false] at he
    rcases he with rfl | rfl | he | rfl
    · exact hp
    · exact hp
    · exact hfresh.not_prepare e he hp
    · exact hp
  · rw [← List.append_assoc, ← List.append_assoc, journalView_snoc,
      step_neutral (e := ⟨.shouldStop, false⟩) trivial, journalView_neutral hfresh.neutral,
      journalView_append]
    simp [JournalView.step, hopen]

/-- The row that announces a removal, of an artifact frozen before it. -/
def ArtifactAnnounced (plan : CleanupPlan) (t : CleanupTrace) (artifact : FrozenRuntimeArtifact) :
    Prop :=
  ∃ u v candidate at_ actionId, candidate ∈ plan.artifacts ∧
    t = u ++ ⟨.prepareArtifactAction candidate.intent at_, .ok actionId⟩ :: v ∧
    (∀ e ∈ v, ¬ e.call.IsPrepare) ∧
    ⟨.freezeArtifact candidate, .ok (.frozen artifact)⟩ ∈ u ∧
    (journalView t).openActions = [.artifact actionId candidate.intent]

theorem ArtifactArmed.announced {candidate : RuntimeArtifactCandidate}
    {artifact : FrozenRuntimeArtifact} {t₀ : CleanupTrace}
    (h : ArtifactArmed candidate artifact t₀ t) (hmem : candidate ∈ plan.artifacts)
    (hopen : (journalView t₀).openActions = []) : ArtifactAnnounced plan t artifact := by
  obtain ⟨at_, actionId, rfl, hfrozen⟩ := h
  refine ⟨t₀ ++ [⟨.shouldStop, false⟩, ⟨.clockSample, .ok at_⟩], [⟨.shouldStop, false⟩], candidate,
    at_.wallUnixMillis, actionId, hmem, by simp, fun e he hp => ?_,
    List.mem_append_left _ hfrozen, ?_⟩
  · rw [List.mem_singleton.1 he] at hp
    exact hp
  · rw [journalView_append]
    simp [JournalView.step, hopen]

/-! ## What the receipt says -/

/-- The journal of a run is the receipt it ends with, up to the row the
error names. -/
theorem journalView_of_outcome (h : Outcome plan policy es o) :
    ∃ opens, journalView es =
        ⟨opens, (outcomeReceipt o).actions, (outcomeReceipt o).artifactActions⟩ ∧
      ∀ id, (∃ f r, o = .error (.attemptOpen f r id)) ↔
        ∃ a, opens = [a] ∧ a.actionId = id := by
  rcases o with err | r
  · have herr : Erred es err := h
    cases herr with
    | runtime hj => exact ⟨[], hj, by simp⟩
    | @attemptOpen f r a hj =>
        refine ⟨[a], hj, fun id => ⟨?_, ?_⟩⟩
        · rintro ⟨f', r', heq⟩
          cases heq
          exact ⟨a, rfl, rfl⟩
        · rintro ⟨a', heq, rfl⟩
          cases heq
          exact ⟨f, r, rfl⟩
  · exact ⟨[], h.1.journal, by simp⟩

/-- **Write-ahead journalling.** In every run, whatever the runtime, the
revalidator, the journal and the stop callback answer: an effect is
announced by its own open row; never more than one row is open; the
receipt, returned or partial, is the completed rows in order; and the run
fails with an open attempt exactly when a row was left open, naming it. -/
theorem execute_writes_ahead (h : Runs (execute plan policy) es o) :
    (∀ u identity sig d v, es = u ++ ⟨.signalExact identity sig, d⟩ :: v →
      Announced u identity sig) ∧
    (∀ u artifact d v, es = u ++ ⟨.removeArtifactExact artifact, d⟩ :: v →
      ArtifactAnnounced plan u artifact) ∧
    (∀ u, u <+: es → (journalView u).openActions.length ≤ 1) ∧
    (journalView es).actions = (outcomeReceipt o).actions ∧
    (journalView es).artifactActions = (outcomeReceipt o).artifactActions ∧
    ∀ id, (∃ f r, o = .error (.attemptOpen f r id)) ↔
      ∃ a, (journalView es).openActions = [a] ∧ a.actionId = id := by
  obtain ⟨hg, ho⟩ := execute_runs h
  obtain ⟨opens, hview, hiff⟩ := journalView_of_outcome ho
  refine ⟨fun u identity sig d v he => ?_, fun u artifact d v he => ?_,
    fun u hu => openActions_le_one hg hu, by rw [hview], by rw [hview], fun id => ?_⟩
  · obtain ⟨t₀, target, stage, -, rfl, harmed, -, hopen, -⟩ := permitted_of_runs h he
    exact harmed.announced hopen
  · obtain ⟨t₀, candidate, hmem, harmed, -, hopen⟩ := permitted_of_runs h he
    exact harmed.announced hmem hopen
  · rw [hview]
    exact hiff id

/-- A run with two signals and a removal: all announced, all on the
receipt. -/
theorem execute_writes_ahead_obedient :
    (wasSignalled obedientRun.1 101 .term = true ∧ wasSignalled obedientRun.1 102 .term = true ∧
      (outcomeReceipt obedientRun.2).artifactActions.length = 1) ∧
    (journalView obedientRun.1).actions = (outcomeReceipt obedientRun.2).actions :=
  ⟨by decide +kernel, (execute_writes_ahead runs_obedientRun).2.2.2.1⟩

end Unlinger
