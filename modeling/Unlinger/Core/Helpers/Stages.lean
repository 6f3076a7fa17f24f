import Unlinger.Core.Helpers.Signal

/-!
# The signal stages

The loops over the plan and the three stages around them. Two lists
carry the argument: every pid TERMed so far was attempted, and every
attempted pid has its TERM on the receipt; every pid KILLed so far is
behind the loop.
-/

namespace Unlinger

open Interaction

variable {plan : CleanupPlan} {policy : CleanupPolicy} {t t' : CleanupTrace} {r : CleanupReceipt}
  {attempted killed : List Pid}

/-- The cleanup goes on between two signals. -/
structure Signalling (t : CleanupTrace) (r : CleanupReceipt) (attempted killed : List Pid) : Prop
    extends Going t [] r where
  bare : r.artifactActions = []
  unchecked : r.revivalChecksCompleted = 0
  termed : ∀ pid, Signalled t pid .term → pid ∈ attempted
  acted : ∀ pid ∈ attempted, TermActed r.actions pid
  killed : ∀ pid, Signalled t pid .kill → pid ∈ killed

/-! ## Persistence -/

theorem PrimariesFirst.mono (h : PrimariesFirst plan policy t) (ht : t <+: t') :
    PrimariesFirst plan policy t' := by
  obtain ⟨s, u, v, ⟨u', v', hfirst, hu'⟩, hwait, hacted⟩ := h
  obtain ⟨es, rfl⟩ := ht
  refine ⟨s, u, v ++ es, ⟨u', v' ++ es, ?_, hu'⟩, ?_, hacted⟩
  · rw [hfirst]
    simp
  · rw [hwait]
    simp

theorem FirstSnapshot.mono {s : Snapshot} (h : FirstSnapshot t s) (ht : t <+: t') :
    FirstSnapshot t' s := by
  obtain ⟨u, v, hfirst, hu⟩ := h
  obtain ⟨es, rfl⟩ := ht
  refine ⟨u, v ++ es, ?_, hu⟩
  rw [hfirst]
  simp

theorem TermActed.mono {actions more : List CleanupAction} {pid : Pid} (h : TermActed actions pid) :
    TermActed (actions ++ more) pid := by
  obtain ⟨a, ha, hrest⟩ := h
  exact ⟨a, List.mem_append_left more ha, hrest⟩

/-- Neutral events that say nothing of a stop change nothing. -/
theorem Signalling.extend {es : CleanupTrace} (h : Signalling t r attempted killed)
    (hes : Observing es) : Signalling (t ++ es) r attempted killed := by
  have hc : Continues t (t ++ es) := (Continues.refl t).append fun e he =>
    silent_of_neutral (hes e he).1 (hes e he).2
  exact ⟨h.toGoing.extend hes, h.bare, h.unchecked, fun pid hp => h.termed pid (hc.signalled.1 hp),
    h.acted, fun pid hp => h.killed pid (hc.signalled.1 hp)⟩

/-- A TERM that went through: its pid is attempted now. -/
theorem Signalling.term {target : ProcessTarget} {stage : CleanupStage} {r' : CleanupReceipt}
    (h : Signalling t r attempted killed)
    (hp : SignalPost t r (signalIntent target stage .term) t' (.ok (none, r'))) :
    Signalling t' r' (target.identity.pid :: attempted) killed := by
  obtain ⟨hgo, ⟨d, hd, rfl⟩, -, hsig⟩ := hp
  refine ⟨hgo, h.bare, h.unchecked, fun pid hpid => ?_, fun pid hpid => ?_, fun pid hpid => ?_⟩
  · rcases hsig pid .term hpid with hold | ⟨rfl, -⟩
    · exact List.mem_cons_of_mem _ (h.termed pid hold)
    · simp [signalIntent]
  · rcases List.mem_cons.1 hpid with rfl | hpid
    · exact ⟨_, List.mem_append_right _ (List.mem_singleton_self _), rfl, rfl, hd⟩
    · exact (h.acted pid hpid).mono
  · rcases hsig pid .kill hpid with hold | ⟨-, hbad⟩
    · exact h.killed pid hold
    · simp [signalIntent] at hbad

/-- A KILL that went through: its pid is killed now. -/
theorem Signalling.kill {target : ProcessTarget} {stage : CleanupStage} {r' : CleanupReceipt}
    (h : Signalling t r attempted killed)
    (hp : SignalPost t r (signalIntent target stage .kill) t' (.ok (none, r'))) :
    Signalling t' r' attempted (target.identity.pid :: killed) := by
  obtain ⟨hgo, ⟨d, hd, rfl⟩, -, hsig⟩ := hp
  refine ⟨hgo, h.bare, h.unchecked, fun pid hpid => ?_, fun pid hpid => (h.acted pid hpid).mono,
    fun pid hpid => ?_⟩
  · rcases hsig pid .term hpid with hold | ⟨-, hbad⟩
    · exact h.termed pid hold
    · simp [signalIntent] at hbad
  · rcases hsig pid .kill hpid with hold | ⟨rfl, -⟩
    · exact List.mem_cons_of_mem _ (h.killed pid hold)
    · simp [signalIntent]

/-! ## The loops -/

/-- What a loop of signals ends in. -/
def LoopPost {α : Type} (P : CleanupTrace → α → Prop) :
    CleanupTrace → Except CleanupError (Except (String × CleanupReceipt) α) → Prop
  | t, .error err => Erred t err
  | t, .ok (.error (reason, r)) => Refused t r reason ∧ r.artifactActions = []
  | t, .ok (.ok a) => P t a

/-- Among targets with distinct pids the first has none of the others'. -/
theorem nodup_pids_cons {x : ProcessTarget} {ts : List ProcessTarget}
    (h : ((x :: ts).map fun y => y.identity.pid).Nodup) :
    (ts.map fun y => y.identity.pid).Nodup ∧ ∀ y ∈ ts, y.identity.pid ≠ x.identity.pid := by
  rw [List.map_cons, List.nodup_cons] at h
  refine ⟨h.2, fun y hy heq => ?_⟩
  exact h.1 (List.mem_map.2 ⟨y, hy, heq⟩)

/-- **The TERM loop.** In a plan with distinct pids no pid is TERMed twice,
provided the selection leaves out what was attempted before. -/
theorem termLoop_spec {stage : CleanupStage} {selected : List Pid → ProcessTarget → Bool}
    {ts : List ProcessTarget} (h : Signalling t r attempted []) (hts : ∀ x ∈ ts, x ∈ plan.targets)
    (hfresh : plan.Distinct → (ts.map fun x => x.identity.pid).Nodup ∧
      ∀ x ∈ ts, x.identity.pid ∈ attempted → ∀ att, attempted ⊆ att → selected att x = false)
    (hstage : (∀ att x, selected att x = true → x.identity.pid ∈ plan.primaryPids) ∨
      PrimariesFirst plan policy t) :
    Sat (Permitted plan policy) (termLoop plan stage selected ts r attempted) t
      (LoopPost fun t' a => Signalling t' a.1 a.2 [] ∧ t <+: t' ∧
        (∀ pid ∈ attempted, pid ∈ a.2) ∧
        ∀ x ∈ ts, (∀ att, selected att x = true) → x.identity.pid ∈ a.2) := by
  induction ts generalizing t r attempted with
  | nil => exact ⟨h, List.prefix_rfl, fun _ hp => hp, by simp⟩
  | cons x ts ih =>
      unfold termLoop
      cases hsel : selected attempted x with
      | true =>
          simp only [if_true]
          -- a pid that was TERMed is in the attempted ones, which the selection leaves out
          have hstaged : plan.Distinct → Staged plan policy t x.identity.pid .term := by
            intro hd
            refine ⟨fun hsig => ?_, fun hpid => hstage.resolve_left fun hall => ?_⟩
            · have := (hfresh hd).2 x (by simp) (h.termed _ hsig) attempted (List.Subset.refl _)
              rw [hsel] at this
              cases this
            · exact hpid (hall attempted x hsel)
          refine Sat.bind (signal_spec h.toGoing (hts x (by simp)) hstaged) ?_
            fun t' err herr => herr
          rintro t' ⟨_ | reason, r'⟩ hp
          · have hnext := h.term hp
            refine Sat.mono (ih hnext (fun y hy => hts y (by simp [hy])) ?_ ?_) ?_
            · intro hd
              obtain ⟨hrest, hother⟩ := nodup_pids_cons (hfresh hd).1
              refine ⟨hrest, fun y hy hmem att hatt => ?_⟩
              rcases List.mem_cons.1 hmem with heq | hmem
              · exact absurd heq (hother y hy)
              · exact (hfresh hd).2 y (by simp [hy]) hmem att fun pid hpid =>
                  hatt (List.mem_cons_of_mem _ hpid)
            · exact hstage.imp_right fun hpf => hpf.mono hp.2.2.1
            · rintro t'' (err | ⟨reason, r''⟩ | ⟨r'', attempted'⟩) ho
              · exact ho
              · exact ho
              · obtain ⟨hs, hpre, hsub, hall⟩ := ho
                refine ⟨hs, hp.2.2.1.trans hpre,
                  fun pid hpid => hsub pid (List.mem_cons_of_mem _ hpid), fun y hy hy' => ?_⟩
                rcases List.mem_cons.1 hy with rfl | hy
                · exact hsub _ (by simp)
                · exact hall y hy hy'
          · exact ⟨hp.1, hp.2.trans h.bare⟩
      | false =>
          simp only [Bool.false_eq_true, if_false]
          refine Sat.mono (ih h (fun y hy => hts y (by simp [hy])) ?_ hstage) ?_
          · intro hd
            obtain ⟨hrest, -⟩ := nodup_pids_cons (hfresh hd).1
            exact ⟨hrest, fun y hy => (hfresh hd).2 y (by simp [hy])⟩
          · rintro t'' (err | ⟨reason, r''⟩ | ⟨r'', attempted'⟩) ho
            · exact ho
            · exact ho
            · obtain ⟨hs, hpre, hsub, hall⟩ := ho
              refine ⟨hs, hpre, hsub, fun y hy hy' => ?_⟩
              rcases List.mem_cons.1 hy with rfl | hy
              · rw [hy' attempted] at hsel
                cases hsel
              · exact hall y hy hy'

/-- **The KILL loop.** Whoever is KILLed was attempted, so has a TERM on
the receipt, and in a plan with distinct pids no pid is KILLed twice. -/
theorem killLoop_spec {survivors : Survivors} {ts : List ProcessTarget}
    (h : Signalling t r attempted killed) (hts : ∀ x ∈ ts, x ∈ plan.targets)
    (hfresh : plan.Distinct → (ts.map fun x => x.identity.pid).Nodup ∧
      ∀ x ∈ ts, x.identity.pid ∉ killed) :
    Sat (Permitted plan policy) (killLoop plan survivors attempted ts r) t
      (LoopPost fun t' r' => ∃ killed', Signalling t' r' attempted killed') := by
  induction ts generalizing t r killed with
  | nil => exact ⟨killed, h⟩
  | cons x ts ih =>
      unfold killLoop
      have hrest : ∀ y ∈ ts, y ∈ plan.targets := fun y hy => hts y (by simp [hy])
      cases hlive : survivors.contains x.identity.pid with
      | false =>
          simp only [Bool.false_eq_true, if_false]
          refine ih h hrest fun hd => ?_
          exact ⟨(nodup_pids_cons (hfresh hd).1).1, fun y hy => (hfresh hd).2 y (by simp [hy])⟩
      | true =>
          simp only [if_true]
          by_cases hatt : x.identity.pid ∈ attempted
          · simp only [hatt, not_true_eq_false, if_false]
            have hstaged : plan.Distinct → Staged plan policy t x.identity.pid .kill := by
              refine fun hd => ⟨fun hsig => (hfresh hd).2 x (by simp) (h.killed _ hsig), ?_⟩
              rw [h.journal]
              exact h.acted _ hatt
            refine Sat.bind (signal_spec h.toGoing (hts x (by simp)) hstaged) ?_
              fun t' err herr => herr
            rintro t' ⟨_ | reason, r'⟩ hp
            · refine ih (h.kill hp) hrest fun hd => ?_
              obtain ⟨hdistinct, hother⟩ := nodup_pids_cons (hfresh hd).1
              refine ⟨hdistinct, fun y hy hmem => ?_⟩
              rcases List.mem_cons.1 hmem with heq | hmem
              · exact hother y hy heq
              · exact (hfresh hd).2 y (by simp [hy]) hmem
            · exact ⟨hp.1, hp.2.trans h.bare⟩
          · simp only [hatt, not_false_eq_true, if_true]
            exact ⟨h.toGoing.refused (Or.inl (by decide)), h.bare⟩

/-! ## The stages -/

/-- The cleanup goes on between two stages. -/
def StageReady (t : CleanupTrace) (s : StageState) : Prop :=
  Signalling t s.receipt s.termAttempted []

/-- A TERM stage with survivors signalled the selected ones and then
waited its grace out, the TERMs already on the receipt. -/
def TermsWaitedOut (plan : CleanupPlan) (grace : Nat)
    (selected : List Pid → ProcessTarget → Bool) (t : CleanupTrace) : Prop :=
  ∃ u v, t = u ++ ⟨.waitUntil grace, .ok .deadlineReached⟩ :: v ∧
    ∀ x ∈ plan.targets, (∀ att, selected att x = true) →
      TermActed (journalView u).actions x.identity.pid

theorem observing_waited (duration : Nat) :
    Observing [⟨.shouldStop, false⟩, ⟨.waitUntil duration, .ok .deadlineReached⟩,
      ⟨.shouldStop, false⟩] := by
  intro e he
  simp only [List.mem_cons, List.not_mem_nil, or_false] at he
  rcases he with rfl | rfl | rfl
  · exact ⟨trivial, Bool.false_ne_true⟩
  · exact ⟨trivial, by simp [Stops]⟩
  · exact ⟨trivial, Bool.false_ne_true⟩

theorem observing_snapshot {s : Snapshot} : Observing [⟨.snapshot, .ok s⟩] :=
  observing_singleton trivial id

/-- **A TERM stage.** -/
theorem termStage_spec {stage : CleanupStage} {grace : Nat}
    {selected : List Pid → ProcessTarget → Bool} {s : StageState} (h : StageReady t s)
    (hfresh : plan.Distinct → ∀ x ∈ plan.targets, x.identity.pid ∈ s.termAttempted →
      ∀ att, s.termAttempted ⊆ att → selected att x = false)
    (hstage : s.survivors.isEmpty = false →
      (∀ att x, selected att x = true → x.identity.pid ∈ plan.primaryPids) ∨
        PrimariesFirst plan policy t) :
    Sat (Permitted plan policy) (termStage plan stage grace selected s) t
      (FlowPost EndedUnclaimed fun t' s' => StageReady t' s' ∧ t <+: t' ∧
        (s.survivors.isEmpty = true ∧ s' = s ∨ TermsWaitedOut plan grace selected t')) := by
  unfold termStage
  cases hemp : s.survivors.isEmpty with
  | true =>
      simp only [if_true]
      exact ⟨h, List.prefix_rfl, Or.inl ⟨trivial, rfl⟩⟩
  | false =>
      simp only [Bool.false_eq_true, if_false]
      refine Sat.bind (termLoop_spec h (fun _ hx => hx) (fun hd => ⟨hd, hfresh hd⟩)
        (hstage hemp)) ?_ fun t' err herr => herr
      rintro t₁ (⟨reason, r₁⟩ | ⟨r₁, attempted⟩) hloop
      · exact hloop.1.endedUnclaimed hloop.2
      obtain ⟨h₁, hpre, -, hall⟩ := hloop
      refine Sat.bind (waitInterrupted_spec h₁.toGoing) ?_ fun t' err herr => herr
      rintro t₂ (_ | _) hwait
      · obtain rfl : t₂ = _ := hwait
        have h₂ := h₁.extend (observing_waited grace)
        refine Sat.bind (snapshotOrReceiptError_spec h₂.toGoing) ?_ fun t' err herr => herr
        rintro t₃ snapshot hsnap
        obtain rfl : t₃ = _ := hsnap
        have h₃ := h₂.extend (observing_snapshot (s := snapshot))
        refine Sat.bind validateStage_spec ?_ fun t' err ho => ?_
        · rintro t₄ (reason | survivors) ⟨vs, rfl, hvs, ho⟩
          · exact ((h₃.extend hvs).toGoing.refused ho).endedUnclaimed h₁.bare
          · refine ⟨h₃.extend hvs, hpre.trans (by simp), Or.inr
              ⟨t₁ ++ [⟨.shouldStop, false⟩],
                [⟨.shouldStop, false⟩, ⟨.snapshot, .ok snapshot⟩] ++ vs, by simp,
                fun x hx hx' => ?_⟩⟩
            rw [journalView_snoc, step_neutral (e := ⟨.shouldStop, false⟩) trivial, h₁.journal]
            exact h₁.acted _ (hall x hx hx')
        · obtain ⟨vs, -, -, hfalse⟩ := ho
          exact hfalse.elim
      · have hj : Journalled t₂ [] r₁ := hwait
        exact hj.drained.endedUnclaimed h₁.bare

/-- **The primary stage.** Afterwards the live primaries of the first
snapshot are TERMed and their grace is over, unless nothing was alive. -/
theorem primaryTermStage_spec {s : StageState} {initial : Snapshot} (h : StageReady t s)
    (hatt : s.termAttempted = []) (hfirst : FirstSnapshot t initial)
    (hsurv : ∀ pid, s.survivors.contains pid = true ↔
      (∃ x ∈ plan.targets, x.identity.pid = pid) ∧ initial.byPid.contains pid = true) :
    Sat (Permitted plan policy) (primaryTermStage plan policy s) t
      (FlowPost EndedUnclaimed fun t' s' => StageReady t' s' ∧
        (s'.survivors.isEmpty = false → PrimariesFirst plan policy t')) := by
  refine Sat.mono (termStage_spec h ?_ fun _ => Or.inl ?_) ?_
  · intro _ x _ hx
    rw [hatt] at hx
    cases hx
  · intro att x hx
    simp only [Bool.and_eq_true, decide_eq_true_eq] at hx
    exact hx.2
  · rintro t' (err | r' | s') ho
    · exact ho
    · exact ho
    · obtain ⟨hready, hpre, ⟨hemp, rfl⟩ | ⟨u, v, hwait, hacted⟩⟩ := ho
      · exact ⟨hready, fun hne => by rw [hemp] at hne; cases hne⟩
      · refine ⟨hready, fun _ => ⟨initial, u, v, hfirst.mono hpre, hwait, fun x hx hlive => ?_⟩⟩
        have hmem : x ∈ plan.targets := by
          rw [CleanupPlan.primaryTargets] at hx
          split_ifs at hx
          · exact (List.mem_filter.1 hx).1
          · exact (List.mem_filter.1 hx).1
        refine hacted x hmem fun att => ?_
        rw [Bool.and_eq_true, decide_eq_true_eq]
        exact ⟨(hsurv _).2 ⟨⟨x, hmem, rfl⟩, hlive⟩, List.mem_map.2 ⟨x, hx, rfl⟩⟩

/-- **The member stage.** -/
theorem memberTermStage_spec {s : StageState} (h : StageReady t s)
    (hprim : s.survivors.isEmpty = false → PrimariesFirst plan policy t) :
    Sat (Permitted plan policy) (memberTermStage plan policy s) t
      (FlowPost EndedUnclaimed fun t' s' => StageReady t' s') := by
  refine Sat.mono (termStage_spec h ?_ fun hne => Or.inr (hprim hne)) ?_
  · intro _ x _ hx att hatt
    simp [hatt hx]
  · rintro t' (err | r' | s') ho
    · exact ho
    · exact ho
    · exact ho.1

/-- What the processes' stages hand to the revival windows. -/
structure Quiesced (t : CleanupTrace) (r : CleanupReceipt) : Prop extends Going t [] r where
  bare : r.artifactActions = []
  unchecked : r.revivalChecksCompleted = 0

/-- **The kill stage.** -/
theorem killStage_spec {s : StageState} (h : StageReady t s) :
    Sat (Permitted plan policy) (killStage plan policy s) t (FlowPost EndedUnclaimed Quiesced) := by
  unfold killStage
  cases hemp : s.survivors.isEmpty with
  | true =>
      simp only [if_true]
      exact ⟨h.toGoing, h.bare, h.unchecked⟩
  | false =>
      simp only [Bool.false_eq_true, if_false]
      refine Sat.bind (killLoop_spec h (fun _ hx => hx) fun hd => ⟨hd, by simp⟩) ?_
        fun t' err herr => herr
      rintro t₁ (⟨reason, r₁⟩ | r₁) hloop
      · exact hloop.1.endedUnclaimed hloop.2
      obtain ⟨killed, h₁⟩ := hloop
      refine Sat.bind (waitInterrupted_spec h₁.toGoing) ?_ fun t' err herr => herr
      rintro t₂ (_ | _) hwait
      · obtain rfl : t₂ = _ := hwait
        have h₂ := h₁.extend (observing_waited policy.killGrace)
        refine Sat.bind (snapshotOrReceiptError_spec h₂.toGoing) ?_ fun t' err herr => herr
        rintro t₃ snapshot hsnap
        obtain rfl : t₃ = _ := hsnap
        have h₃ := h₂.extend (observing_snapshot (s := snapshot))
        refine Sat.bind observeTargets_spec ?_ fun t' err ho => ?_
        · rintro t₄ (reason | l) ⟨es, rfl, hes, ho⟩
          · have h₄ := h₃.extend (observing_lookups hes)
            exact (h₄.toGoing.refused (plainReason_of_observation ho)).endedUnclaimed h₁.bare
          · have h₄ := h₃.extend (observing_lookups hes)
            cases hsurv : l.survivors.isEmpty with
            | true =>
                simp only [hsurv, Bool.not_true, Bool.false_eq_true, if_false]
                exact ⟨h₄.toGoing, h₄.bare, h₄.unchecked⟩
            | false =>
                simp only [hsurv, Bool.not_false, if_true]
                exact (h₄.toGoing.refused (Or.inl (by decide))).endedUnclaimed h₁.bare
        · obtain ⟨es, -, -, hfalse⟩ := ho
          exact hfalse.elim
      · have hj : Journalled t₂ [] r₁ := hwait
        exact hj.drained.endedUnclaimed h₁.bare

/-- **The signal stages together.** -/
theorem signalStages_spec {s : StageState} {initial : Snapshot} (h : StageReady t s)
    (hatt : s.termAttempted = []) (hfirst : FirstSnapshot t initial)
    (hsurv : ∀ pid, s.survivors.contains pid = true ↔
      (∃ x ∈ plan.targets, x.identity.pid = pid) ∧ initial.byPid.contains pid = true) :
    Sat (Permitted plan policy) (signalStages plan policy s) t
      (FlowPost EndedUnclaimed Quiesced) := by
  refine Sat.bind (primaryTermStage_spec h hatt hfirst hsurv) ?_ fun t' err herr => herr
  rintro t₁ (r₁ | s₁) h₁
  · exact h₁
  refine Sat.bind (memberTermStage_spec h₁.1 h₁.2) ?_ fun t' err herr => herr
  rintro t₂ (r₂ | s₂) h₂
  · exact h₂
  exact killStage_spec h₂

end Unlinger
