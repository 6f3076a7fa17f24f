import Unlinger.Core.Helpers.Execute

/-!
# Signals are exact, staged and bounded

For a plan frozen from a confirmed report: every signal goes to the frozen
identity of a target, after a fresh snapshot in which the whole plan was
found exact; nobody is TERMed or KILLed twice; a KILL follows a TERM; and
the members wait for the primaries that were alive when the run began.
-/

namespace Unlinger

open Interaction

variable {plan : CleanupPlan} {policy : CleanupPolicy} {t es : CleanupTrace}
  {o : Except CleanupError CleanupReceipt}

/-! ## What the journal keeps -/

/-- Completed actions stay, in order. -/
theorem journalView_actions_mono {u : CleanupTrace} (h : u <+: t) :
    (journalView u).actions <+: (journalView t).actions := by
  obtain ⟨v, rfl⟩ := h
  induction v using List.reverseRecOn with
  | nil => rw [List.append_nil]
  | append_singleton v e ih =>
      rw [← List.append_assoc, journalView_snoc]
      refine ih.trans ?_
      obtain ⟨c, a⟩ := e
      cases c with
      | completeAction id d at_ =>
          cases a with
          | ok _ => exact List.prefix_append _ _
          | error _ => exact List.prefix_rfl
      | prepareAction intent at_ => cases a <;> exact List.prefix_rfl
      | prepareArtifactAction intent at_ => cases a <;> exact List.prefix_rfl
      | completeArtifactAction id d at_ => cases a <;> exact List.prefix_rfl
      | _ => exact List.prefix_rfl

theorem TermActed.weaken {actions more : List CleanupAction} {pid : Pid}
    (h : TermActed actions pid) (hp : actions <+: more) : TermActed more pid := by
  obtain ⟨rest, rfl⟩ := hp
  exact h.mono

/-- Arming a signal sends none. -/
theorem Armed.continues {target : ProcessTarget} {stage : CleanupStage} {sig : CleanupSignal}
    {t₀ : CleanupTrace} (h : Armed plan target stage sig t₀ t) : Continues t₀ t := by
  obtain ⟨at_, actionId, s, vs, rfl, hfresh, -, -⟩ := h
  refine (Continues.refl t₀).append fun e he => ?_
  simp only [List.cons_append, List.nil_append, List.mem_cons, List.mem_append,
    List.not_mem_nil, or_false] at he
  rcases he with rfl | rfl | rfl | rfl | rfl | he | rfl
  · exact ⟨Bool.false_ne_true, id⟩
  · exact ⟨id, id⟩
  · exact ⟨id, id⟩
  · exact ⟨Bool.false_ne_true, id⟩
  · exact ⟨id, id⟩
  · rcases hfresh.calls e he with ⟨pid, rfl⟩ | ⟨reason, rfl⟩
    · exact ⟨id, id⟩
    · exact ⟨id, id⟩
  · exact ⟨Bool.false_ne_true, id⟩

/-- What was staged when the action was begun is staged when it is
delivered. -/
theorem Staged.mono {t₀ : CleanupTrace} {pid : Pid} {sig : CleanupSignal}
    (h : Staged plan policy t₀ pid sig) (hc : Continues t₀ t) : Staged plan policy t pid sig := by
  have hpre : t₀ <+: t := by
    obtain ⟨v, rfl, -⟩ := hc
    exact List.prefix_append _ _
  cases sig with
  | term => exact ⟨fun hs => h.1 (hc.signalled.1 hs), fun hm => (h.2 hm).mono hpre⟩
  | kill =>
      exact ⟨fun hs => h.1 (hc.signalled.1 hs), h.2.weaken (journalView_actions_mono hpre)⟩

/-- The actions completed by any point of a run are on its receipt, in
order and first. -/
theorem actions_prefix_of_runs (h : Runs (execute plan policy) es o) {u : CleanupTrace}
    (hu : u <+: es) : (journalView u).actions <+: (outcomeReceipt o).actions := by
  have hview : (journalView es).actions = (outcomeReceipt o).actions := by
    rcases o with err | r
    · have herr : Erred es err := (execute_runs h).2
      cases herr with
      | runtime hj => rw [hj]; rfl
      | attemptOpen hj => rw [hj]; rfl
    · rw [(execute_runs h).2.1.journal]
      rfl
  exact hview ▸ journalView_actions_mono hu

/-- **Signals are exact, staged and bounded.** In every run of a plan
frozen from a confirmed report, at every signal: it names the frozen
identity of a target; it was armed by a fresh snapshot in which every
target is exact, none alive is missing, the revalidator said Eligible and
the target is live; the same signal never went to the pid before; a KILL
finds a TERM of the pid, Delivered or AlreadyExited, among the actions
completed so far, which are first on the receipt; and a TERM of a member
finds every primary target alive in the run's first snapshot TERMed and
the primary grace waited out since. -/
theorem execute_signals_staged {report : IncidentReport}
    (hplan : CleanupPlan.fromConfirmed report = .ok plan) (h : Runs (execute plan policy) es o)
    {u v : CleanupTrace} {identity : ProcessIdentity} {sig : CleanupSignal}
    {d : SignalDisposition} (he : es = u ++ ⟨.signalExact identity sig, d⟩ :: v) :
    (∃ target ∈ plan.targets, identity = target.identity ∧
      ∃ t₀ stage, Armed plan target stage sig t₀ u) ∧
    ¬ Signalled u identity.pid sig ∧
    (sig = .kill → TermActed (journalView u).actions identity.pid ∧
      (journalView u).actions <+: (outcomeReceipt o).actions) ∧
    (sig = .term → identity.pid ∉ plan.primaryPids → PrimariesFirst plan policy u) := by
  obtain ⟨t₀, target, stage, hmem, rfl, harmed, -, -, hstaged⟩ := permitted_of_runs h he
  have hs : Staged plan policy u target.identity.pid sig :=
    (hstaged (CleanupPlan.fromConfirmed_distinct hplan)).mono harmed.continues
  have hpre : u <+: es := ⟨_, he.symm⟩
  refine ⟨⟨target, hmem, rfl, t₀, stage, harmed⟩, ?_, ?_, ?_⟩
  · cases sig with
    | term => exact hs.1
    | kill => exact hs.1
  · rintro rfl
    exact ⟨hs.2, actions_prefix_of_runs h hpre⟩
  · rintro rfl hm
    exact hs.2 hm

/-! ## A primary that comes back -/

/-- The browser root is absent until the primary grace is over, and both
processes live from then on. -/
def lateRoot (t : CleanupTrace) : List ProcessRecord :=
  if t.any fun e => match e.call with | .waitUntil _ => true | _ => false then
    [sampleRecord 102, sampleRecord 101]
  else [sampleRecord 102]

/-- The run of the sample plan against it. -/
def lateRootRun : CleanupTrace × Except CleanupError CleanupReceipt :=
  (execute samplePlan CleanupPolicy.default).runWith (calmWorld lateRoot) []

theorem runs_lateRootRun :
    Runs (execute samplePlan CleanupPolicy.default) lateRootRun.1 lateRootRun.2 :=
  runs_of_runWith rfl

/-- The calls before the first signal of that run. -/
def lateRootPrefix : CleanupTrace := lateRootRun.1.take 17

/-- **The members do not wait for every live primary.** The members' stage
takes the survivors in the plan's order: a primary that was absent from
the first snapshot and is back when the primary grace is over may be alive
in the very snapshot a member is TERMed at, and not TERMed itself. -/
theorem member_termed_before_live_primary :
    ¬ ∀ (report : IncidentReport) (plan : CleanupPlan) (policy : CleanupPolicy)
        (es : CleanupTrace) (o : Except CleanupError CleanupReceipt),
      CleanupPlan.fromConfirmed report = .ok plan → Runs (execute plan policy) es o →
      ∀ u v identity d, es = u ++ ⟨.signalExact identity .term, d⟩ :: v →
      identity.pid ∉ plan.primaryPids →
      ∀ s w x, u = w ++ ⟨.snapshot, .ok s⟩ :: x → (∀ e ∈ x, e.call ≠ .snapshot) →
      ∀ p ∈ plan.primaryTargets, s.byPid.contains p.identity.pid = true →
        Signalled u p.identity.pid .term ∨ TermActed (journalView u).actions p.identity.pid := by
  intro hall
  have hsplit : lateRootRun.1 =
      lateRootPrefix ++ ⟨.signalExact (sampleIdentity 102) .term, .delivered⟩ ::
        lateRootRun.1.drop 18 := rfl
  have hsnap : lateRootPrefix = lateRootRun.1.take 14 ++
      ⟨.snapshot, .ok ⟨14, 501, [sampleRecord 102, sampleRecord 101], ⟨2, 2, 0, 0, 0⟩⟩⟩ ::
        (lateRootRun.1.drop 15).take 2 := rfl
  have hlast : ∀ e ∈ (lateRootRun.1.drop 15).take 2, e.call ≠ .snapshot := by
    intro e he
    have hcalls : e.call ∈ ((lateRootRun.1.drop 15).take 2).map Event.call :=
      List.mem_map_of_mem he
    rcases List.mem_cons.1 hcalls with hc | hc
    · exact fun hbad => by cases hbad.symm.trans hc
    · exact fun hbad => by cases hbad.symm.trans (List.mem_singleton.1 hc)
  rcases hall sampleReport samplePlan CleanupPolicy.default _ _ samplePlan_fromConfirmed
    runs_lateRootRun _ _ _ _ hsplit (by decide +kernel) _ _ _ hsnap hlast
    ⟨sampleIdentity 101, 101, .browserRoot⟩ (by decide +kernel) (by decide +kernel) with hs | hs
  · exact absurd hs (by decide +kernel)
  · exact absurd hs (by decide +kernel)

/-- In that run the member's TERM still comes after the primaries of the
first snapshot, of which there are none, and their grace. -/
theorem execute_signals_staged_lateRoot :
    PrimariesFirst samplePlan CleanupPolicy.default lateRootPrefix :=
  (execute_signals_staged samplePlan_fromConfirmed runs_lateRootRun
    (u := lateRootPrefix) (v := lateRootRun.1.drop 18) (d := .delivered) rfl).2.2.2 rfl
    (by decide +kernel)

end Unlinger
