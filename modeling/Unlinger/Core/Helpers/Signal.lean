import Unlinger.Core.Helpers.Observe

/-!
# Signalling

What one signal does, whichever of its branches it leaves through, and
from it what the three signal stages do.
-/

namespace Unlinger

open Interaction

variable {plan : CleanupPlan} {policy : CleanupPolicy} {t : CleanupTrace} {r : CleanupReceipt}

/-! ## Completing an action -/

/-- Completing the open action closes it and puts it on the receipt; where
that fails the error names the action. -/
theorem completePrepared_spec {intent : CleanupActionIntent} {actionId : String}
    {d : SignalDisposition} (h : Journalled t [.process actionId intent] r) :
    Sat (Permitted plan policy) (completePrepared r intent actionId d) t fun t' o =>
      match o with
      | .ok r' => Continues t t' ∧ Journalled t' [] r' ∧
          r' = { r with actions := r.actions ++ [intent.completed d] }
      | .error err => Erred t' err := by
  refine Sat.ask trivial fun c => Sat.orThrow (fun at_ hc => ?_) fun f hc => ?_
  · subst hc
    have h₁ := h.neutral (e := ⟨.clockSample, .ok at_⟩) trivial
    refine Sat.ask trivial fun a => Sat.orThrow (fun u ha => ?_) fun f ha => ?_
    · subst ha
      refine ⟨((Continues.refl t).snoc ⟨id, id⟩).snoc ⟨id, id⟩, ?_, rfl⟩
      rw [Journalled, journalView_snoc, h₁]
      simp [JournalView.step, JournalView.closeAction]
    · subst ha
      refine Erred.attemptOpen (a := .process actionId intent) ?_
        fun _ => ⟨_, _, rfl, f, rfl⟩
      rw [Journalled, journalView_snoc, h₁]
      rfl
  · subst hc
    exact Erred.attemptOpen (a := .process actionId intent) (h.neutral trivial)
      fun _ => ⟨_, _, rfl, f, rfl⟩

/-! ## One signal -/

/-- How one signal ends: with a reason to stop at, or with the target
TERMed or KILLed, or found gone, and nothing else signalled. -/
def SignalPost (t : CleanupTrace) (r : CleanupReceipt) (intent : CleanupActionIntent) :
    CleanupTrace → Except CleanupError (Option String × CleanupReceipt) → Prop
  | t', .ok (some reason, r') => Refused t' r' reason ∧ r'.artifactActions = r.artifactActions
  | t', .ok (none, r') => Going t' [] r' ∧
      (∃ d, (d = .delivered ∨ d = .alreadyExited) ∧
        r' = { r with actions := r.actions ++ [intent.completed d] }) ∧
      t <+: t' ∧
      ∀ pid sig, Signalled t' pid sig → Signalled t pid sig ∨ pid = intent.pid ∧ sig = intent.signal
  | t', .error err => Erred t' err

/-- An action completed without an effect, for a reason to stop at. -/
theorem complete_refused {t₀ : CleanupTrace} {r₀ : CleanupReceipt} {intent : CleanupActionIntent}
    {actionId : String} {d : SignalDisposition} {reason : String}
    (h : Journalled t [.process actionId intent] r)
    (hr : r.artifactActions = r₀.artifactActions)
    (hd : Stopped t → reason = drainRequested) (hp : PlainReason t reason) :
    Sat (Permitted plan policy)
      (completePrepared r intent actionId d >>= fun r' => pure (some reason, r')) t
      (SignalPost t₀ r₀ intent) := by
  refine Sat.bind (completePrepared_spec h) ?_ fun t' err herr => herr
  rintro t' r' ⟨hc, hj, rfl⟩
  refine ⟨⟨hj, fun hs => hd (hc.stopped.1 hs), ?_⟩, hr⟩
  rcases hp with hp | ⟨s, p, phase, v, hmem, hv⟩
  · exact Or.inl hp
  · exact Or.inr ⟨s, p, phase, v, hc.mem hmem, hv⟩

theorem signalStopReason_plain {d : SignalDisposition} {reason : String}
    (h : signalStopReason d = some reason) : reason ∉ artifactReasons := by
  cases d <;> simp only [signalStopReason, Option.some.injEq, reduceCtorEq] at h <;> subst h <;>
    decide

theorem signalStopReason_none {d : SignalDisposition} (h : signalStopReason d = none) :
    d = .delivered ∨ d = .alreadyExited := by
  cases d <;> simp_all [signalStopReason]

/-- The effect itself: made with its action open, completed with what the
runtime answered. -/
theorem deliver_spec {t₀ : CleanupTrace} {target : ProcessTarget} {intent : CleanupActionIntent}
    {actionId : String} {sig : CleanupSignal}
    (h : Going t [.process actionId intent] r) (hc : Continues t₀ t)
    (hintent : intent.pid = target.identity.pid ∧ intent.signal = sig)
    (hperm : Permitted plan policy t (.signalExact target.identity sig)) :
    Sat (Permitted plan policy)
      (do
        let disposition ← Prog.ask (Call.signalExact target.identity sig)
        let receipt ← completePrepared r intent actionId disposition
        return (signalStopReason disposition, receipt)) t (SignalPost t₀ r intent) := by
  refine Sat.ask hperm fun d => ?_
  have hj : Journalled (t ++ [⟨.signalExact target.identity sig, d⟩])
      [.process actionId intent] r := by
    rw [Journalled, journalView_snoc, h.journal]
    rfl
  have hrun : ¬ Stopped (t ++ [⟨.signalExact target.identity sig, d⟩]) := by
    rw [stopped_append]
    rintro (hs | ⟨e, he, hs⟩)
    · exact h.running hs
    · rw [List.mem_singleton.1 he] at hs
      exact hs
  refine Sat.bind (completePrepared_spec hj) ?_ fun t' err herr => herr
  rintro t' r' ⟨hc', hj', rfl⟩
  have hrun' : ¬ Stopped t' := fun hs => hrun (hc'.stopped.1 hs)
  cases hreason : signalStopReason d with
  | some reason =>
      exact ⟨⟨hj', fun hs => absurd hs hrun', Or.inl (signalStopReason_plain hreason)⟩, rfl⟩
  | none =>
      refine ⟨⟨hj', hrun'⟩, ⟨d, signalStopReason_none hreason, rfl⟩, ?_, fun pid sig' hsig => ?_⟩
      · obtain ⟨es, rfl, -⟩ := hc
        obtain ⟨es', rfl, -⟩ := hc'
        exact ⟨es ++ [⟨.signalExact target.identity sig, d⟩] ++ es', by simp⟩
      · rw [hc'.signalled, signalled_append, hc.signalled] at hsig
        refine hsig.imp_right ?_
        rintro ⟨e, he, identity, hcall, hpid⟩
        rw [List.mem_singleton.1 he] at hcall
        cases hcall
        exact ⟨hpid.symm.trans hintent.1.symm, hintent.2.symm⟩

/-- **The second half of a signal.** Its action is open from `t₁` on. -/
theorem signalPrepared_spec {target : ProcessTarget} {intent : CleanupActionIntent}
    {actionId : String} {sig : CleanupSignal} {t₀ : CleanupTrace}
    (h : Going t [.process actionId intent] r) (hc : Continues t₀ t)
    (hintent : intent.pid = target.identity.pid ∧ intent.signal = sig)
    (hperm : ∀ s vs m, Validated plan s vs m → m.contains target.identity.pid = true →
      Permitted plan policy
        (t ++ [⟨.shouldStop, false⟩] ++ [⟨.snapshot, .ok s⟩] ++ vs ++ [⟨.shouldStop, false⟩])
        (.signalExact target.identity sig)) :
    Sat (Permitted plan policy) (signalPrepared plan r target intent actionId sig) t
      (SignalPost t₀ r intent) := by
  refine Sat.poll ?_ ?_
  · exact complete_refused (h.journal.neutral trivial) rfl (fun _ => rfl) (Or.inl (by decide))
  have h₁ := h.neutral (e := ⟨.shouldStop, false⟩) trivial Bool.false_ne_true
  have c₁ := hc.snoc (e := ⟨.shouldStop, false⟩) ⟨Bool.false_ne_true, id⟩
  refine Sat.ask trivial fun a => ?_
  rcases a with f | s
  · -- the row is closed before the error, which is the snapshot's
    have h₂ := h₁.neutral (e := ⟨.snapshot, .error f⟩) trivial id
    refine Sat.bind (completePrepared_spec h₂.journal) ?_ fun t' err herr => herr
    rintro t' r' ⟨hc', hj, rfl⟩
    exact .runtime hj fun hs => absurd (hc'.stopped.1 hs) h₂.running
  have h₂ := h₁.neutral (e := ⟨.snapshot, .ok s⟩) trivial id
  have c₂ := c₁.snoc (e := ⟨.snapshot, .ok s⟩) ⟨id, id⟩
  refine Sat.bind validateStage_spec ?_ fun t' err ho => ?_
  · rintro t' (reason | m) ⟨vs, rfl, hvs, ho⟩
    · exact complete_refused (h₂.extend hvs).journal rfl
        (fun hs => absurd hs (h₂.extend hvs).running) ho
    have hval : Validated plan s vs m := ho
    have h₃ := h₂.extend hvs
    have c₃ := c₂.append fun e he => silent_of_neutral (hvs e he).1 (hvs e he).2
    cases hlive : m.contains target.identity.pid with
    | false =>
        simp only [hlive, Bool.not_false, if_true]
        refine Sat.bind (completePrepared_spec h₃.journal) ?_ fun t' err herr => herr
        rintro t' r' ⟨hc', hj, rfl⟩
        refine ⟨⟨hj, fun hs => h₃.running (hc'.stopped.1 hs)⟩, ⟨_, Or.inr rfl, rfl⟩, ?_,
          fun pid sig hsig => Or.inl ((c₃.trans hc').signalled.1 hsig)⟩
        obtain ⟨es, hes, -⟩ := c₃.trans hc'
        exact ⟨es, hes.symm⟩
    | true =>
        simp only [hlive, Bool.not_true, Bool.false_eq_true, if_false]
        refine Sat.poll ?_ ?_
        · exact complete_refused (h₃.journal.neutral trivial) rfl (fun _ => rfl)
            (Or.inl (by decide))
        · exact deliver_spec (h₃.neutral trivial Bool.false_ne_true)
            (c₃.snoc ⟨Bool.false_ne_true, id⟩) hintent (hperm s vs m hval hlive)
  · obtain ⟨vs, -, -, hfalse⟩ := ho
    exact hfalse.elim

/-- **One signal.** Whatever is answered, the journal follows, a stop ends
it, and the effect is armed where it is made. -/
theorem signal_spec {target : ProcessTarget} {stage : CleanupStage} {sig : CleanupSignal}
    (h : Going t [] r) (htarget : target ∈ plan.targets)
    (hstaged : plan.Distinct → Staged plan policy t target.identity.pid sig) :
    Sat (Permitted plan policy) (signal plan r target stage sig) t
      (SignalPost t r (signalIntent target stage sig)) := by
  refine Sat.poll ?_ ?_
  · exact ⟨⟨h.journal.neutral trivial, fun _ => rfl, Or.inl (by decide)⟩, rfl⟩
  have h₁ := h.neutral (e := ⟨.shouldStop, false⟩) trivial Bool.false_ne_true
  refine Sat.ask trivial fun c => Sat.orThrow (fun at_ hc => ?_) fun f hc => ?_
  · subst hc
    have h₂ := h₁.neutral (e := ⟨.clockSample, .ok at_⟩) trivial id
    have c₂ : Continues t (t ++ [⟨.shouldStop, false⟩] ++ [⟨.clockSample, .ok at_⟩]) :=
      ((Continues.refl t).snoc (e := ⟨.shouldStop, false⟩) ⟨Bool.false_ne_true, id⟩).snoc ⟨id, id⟩
    refine Sat.ask (by rw [Permitted, h₂.journal]) fun p =>
      Sat.orThrow (fun actionId hp => ?_) fun f hp => ?_
    · subst hp
      have c₃ := c₂.snoc (e := ⟨.prepareAction (signalIntent target stage sig)
        at_.wallUnixMillis, .ok actionId⟩) ⟨id, id⟩
      refine signalPrepared_spec ⟨?_, fun hs => h.running (c₃.stopped.1 hs)⟩ c₃ ⟨rfl, rfl⟩
        fun s vs m hval hlive => ?_
      · rw [Journalled, journalView_snoc, h₂.journal]
        rfl
      · have hne : m.isEmpty = false := by
          rw [Bool.eq_false_iff]
          intro hemp
          simp [OrdMap.contains, OrdMap.isEmpty_iff.1 hemp] at hlive
        exact ⟨t, target, stage, htarget, rfl, ⟨at_, actionId, s, vs, by simp, hval.fresh,
          ((hval.survivors _).1 hlive).2, hval.eligible hne⟩, h.running, by rw [h.journal],
          hstaged⟩
    · -- the row was not written, so nothing is open
      subst hp
      refine .runtime ?_ fun hs => absurd hs ?_
      · rw [Journalled, journalView_snoc, h₂.journal]
        rfl
      · rw [((Continues.refl _).snoc ⟨id, id⟩).stopped]
        exact h₂.running
  · exact h₁.fails (e := ⟨.clockSample, c⟩) trivial id rfl rfl

end Unlinger
