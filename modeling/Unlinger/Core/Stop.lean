import Unlinger.Core.Helpers.Execute

/-!
# The stop latch

Once the cleanup is told to stop, by a poll of its own or by a wait that
was interrupted, it acts on nothing any more, and unless a call fails on
the way out it ends drained. Every signal is made right after a poll that
said go, with no snapshot in between.
-/

namespace Unlinger

open Interaction

variable {plan : CleanupPlan} {policy : CleanupPolicy} {t es : CleanupTrace}
  {o : Except CleanupError CleanupReceipt}

theorem Fresh.not_stopped {s : Snapshot} {vs : CleanupTrace} (h : Fresh plan s vs) :
    ¬ Stopped vs := by
  rintro ⟨e, he, hs⟩
  rcases h.calls e he with ⟨pid, rfl⟩ | ⟨reason, rfl⟩
  · exact hs
  · exact hs

/-- Arming a signal takes polls that said go. -/
theorem Armed.not_stopped {target : ProcessTarget} {stage : CleanupStage} {sig : CleanupSignal}
    {t₀ : CleanupTrace} (h : Armed plan target stage sig t₀ t) (h₀ : ¬ Stopped t₀) :
    ¬ Stopped t := by
  obtain ⟨at_, actionId, s, vs, rfl, hfresh, -, -⟩ := h
  simp only [stopped_append, not_or]
  exact ⟨h₀, ⟨by simp [Stopped, Stops], hfresh.not_stopped⟩, by simp [Stopped, Stops]⟩

theorem ArtifactArmed.not_stopped {candidate : RuntimeArtifactCandidate}
    {artifact : FrozenRuntimeArtifact} {t₀ : CleanupTrace}
    (h : ArtifactArmed candidate artifact t₀ t) (h₀ : ¬ Stopped t₀) : ¬ Stopped t := by
  obtain ⟨at_, actionId, rfl, -⟩ := h
  simp only [stopped_append, not_or]
  exact ⟨h₀, by simp [Stopped, Stops]⟩

/-- An effect is only permitted while nothing has said stop. -/
theorem Permitted.not_stopped {c : Call} (h : Permitted plan policy t c) (hc : c.IsEffect) :
    ¬ Stopped t := by
  cases c with
  | signalExact identity sig =>
      obtain ⟨t₀, target, stage, -, -, harmed, h₀, -, -⟩ := h
      exact harmed.not_stopped h₀
  | removeArtifactExact artifact =>
      obtain ⟨t₀, candidate, -, harmed, h₀, -⟩ := h
      exact harmed.not_stopped h₀
  | _ => exact hc.elim

/-- An outcome after a stop: drained, or ended by the call that failed
last. -/
theorem Outcome.of_stopped (h : Outcome plan policy es o) (hs : Stopped es) :
    (∃ r, o = .ok r ∧ r.state = .failed ∧ r.reasonId = some drainRequested) ∨ LastFails es := by
  rcases o with err | r
  · have herr : Erred es err := h
    cases herr with
    | runtime _ hstop => exact Or.inr (hstop hs)
    | attemptOpen _ hstop => exact Or.inr (hstop hs)
  · exact Or.inl ⟨r, rfl, h.1.drained hs⟩

/-- A failing call is no stop. -/
theorem Fails.not_stops {e : CleanupEvent} (h : Fails e) : ¬ Stops e := by
  obtain ⟨c, a⟩ := e
  cases c with
  | waitUntil d =>
      obtain ⟨f, rfl⟩ := h
      simp [Stops]
  | shouldStop => exact h.elim
  | _ => exact id

/-- **The stop latch.** In every run, after a poll that says stop or a
wait that was interrupted there is no signal and no removal, and unless a
call fails after it the run returns a failed receipt that says drained;
and every signal follows a poll that said go, made after the last
snapshot before the signal. -/
theorem execute_stop_latch (h : Runs (execute plan policy) es o) :
    (∀ u e v, es = u ++ e :: v → Stops e →
      (∀ x ∈ v, ¬ x.call.IsEffect) ∧
      ((∀ x ∈ v, ¬ Fails x) →
        ∃ r, o = .ok r ∧ r.state = .failed ∧ r.reasonId = some "cleanup.drain_requested")) ∧
    ∀ u identity sig d v, es = u ++ ⟨.signalExact identity sig, d⟩ :: v →
      ∃ w x, u = w ++ ⟨.shouldStop, false⟩ :: x ∧ ∀ e ∈ x, e.call ≠ .snapshot := by
  refine ⟨fun u e v he hstop => ⟨fun x hx heff => ?_, fun hok => ?_⟩, ?_⟩
  · obtain ⟨w, w', rfl⟩ := List.append_of_mem hx
    refine (permitted_of_runs h (u := u ++ e :: w) (v := w') (by simp [he])).not_stopped heff ?_
    exact ⟨e, by simp, hstop⟩
  · have hs : Stopped es := ⟨e, by simp [he], hstop⟩
    rcases (execute_runs h).2.of_stopped hs with hdone | ⟨w, f, hlast, hfails⟩
    · exact hdone
    · -- the failing call is the last one, so it comes after the stop
      exfalso
      rcases List.eq_nil_or_concat v with rfl | ⟨v', x, rfl⟩
      · have hef : w ++ [f] = u ++ [e] := hlast.symm.trans he
        obtain ⟨-, hef⟩ := List.append_inj' hef rfl
        cases hef
        exact hfails.not_stops hstop
      · have hef : w ++ [f] = (u ++ e :: v') ++ [x] := by
          rw [← hlast, he]
          simp
        obtain ⟨-, hef⟩ := List.append_inj' hef rfl
        cases hef
        exact hok f (by simp) hfails
  · intro u identity sig d v he
    obtain ⟨t₀, target, stage, -, -, ⟨at_, actionId, s, vs, rfl, -⟩, -⟩ := permitted_of_runs h he
    exact ⟨_, [], by rw [← List.append_assoc], by simp⟩

/-- Surroundings that say stop from the tenth call on. -/
def pausedWorld (t : CleanupTrace) : (c : Call) → Answer c
  | .shouldStop => decide (10 ≤ t.length)
  | c => calmWorld obedient t c

/-- A run that is told to stop with an action prepared: the action is
cancelled, nothing is signalled, and the receipt says drained. -/
theorem execute_stop_latch_paused :
    let run := (execute samplePlan CleanupPolicy.default).runWith pausedWorld []
    (journalView run.1).actions.map CleanupAction.disposition = [.cancelledBeforeDelivery] ∧
    (outcomeReceipt run.2).reasonId = some "cleanup.drain_requested" ∧
    ∀ u e v, run.1 = u ++ e :: v → Stops e → ∀ x ∈ v, ¬ x.call.IsEffect :=
  ⟨by decide +kernel, by decide +kernel, fun u e v he hs =>
    ((execute_stop_latch (runs_of_runWith rfl)).1 u e v he hs).1⟩

end Unlinger
