import Unlinger.Core.Model.Trace

/-!
# Traces growing

What the events appended to a trace leave as it was: neutral calls leave
the journal, and events that are neither stops nor effects leave whether
the cleanup was stopped and who was signalled.
-/

namespace Unlinger

open Interaction

variable {t t' es : CleanupTrace} {e : CleanupEvent}

/-! ## The journal -/

/-- Later events go on from the view of the earlier. -/
theorem journalView_append :
    journalView (t ++ es) = es.foldl JournalView.step (journalView t) := by
  simp only [journalView, List.foldl_append]

theorem journalView_snoc : journalView (t ++ [e]) = (journalView t).step e := by
  simp only [journalView_append, List.foldl_cons, List.foldl_nil]

/-- A neutral event leaves the view as it is. -/
theorem step_neutral {v : JournalView} (h : e.call.IsNeutral) : v.step e = v := by
  obtain ⟨c, a⟩ := e
  cases c <;> first | rfl | exact h.elim

/-- And so do several. -/
theorem journalView_neutral (h : ∀ e ∈ es, e.call.IsNeutral) :
    journalView (t ++ es) = journalView t := by
  induction es using List.reverseRecOn with
  | nil => rw [List.append_nil]
  | append_singleton es e ih =>
      rw [← List.append_assoc, journalView_snoc, step_neutral (h e (by simp))]
      exact ih fun x hx => h x (by simp [hx])

/-! ## Stops and effects -/

/-- A stop is in one part or the other. -/
theorem stopped_append : Stopped (t ++ es) ↔ Stopped t ∨ Stopped es := by
  simp only [Stopped, List.mem_append, or_and_right, exists_or]

/-- A signal is in one part or the other. -/
theorem signalled_append {pid : Pid} {sig : CleanupSignal} :
    Signalled (t ++ es) pid sig ↔ Signalled t pid sig ∨ Signalled es pid sig := by
  simp only [Signalled, List.mem_append, or_and_right, exists_or]

/-- The event is neither a stop nor an effect. -/
def Silent (e : CleanupEvent) : Prop := ¬ Stops e ∧ ¬ e.call.IsEffect

/-- `t'` goes on from `t` with silent events only. -/
def Continues (t t' : CleanupTrace) : Prop := ∃ es, t' = t ++ es ∧ ∀ e ∈ es, Silent e

namespace Continues

theorem refl (t : CleanupTrace) : Continues t t := ⟨[], by simp, by simp⟩

/-- One more silent event continues. -/
theorem snoc (h : Continues t t') (he : Silent e) : Continues t (t' ++ [e]) := by
  obtain ⟨es, rfl, hes⟩ := h
  refine ⟨es ++ [e], by simp, fun x hx => ?_⟩
  rcases List.mem_append.1 hx with hx | hx
  · exact hes x hx
  · rw [List.mem_singleton.1 hx]
    exact he

/-- So do several. -/
theorem append (h : Continues t t') (hes : ∀ e ∈ es, Silent e) : Continues t (t' ++ es) := by
  obtain ⟨us, rfl, hus⟩ := h
  refine ⟨us ++ es, by simp, fun x hx => ?_⟩
  rcases List.mem_append.1 hx with hx | hx
  · exact hus x hx
  · exact hes x hx

theorem trans {t'' : CleanupTrace} (h : Continues t t') (h' : Continues t' t'') :
    Continues t t'' := by
  obtain ⟨es, rfl, hes⟩ := h'
  exact h.append hes

/-- Nothing was stopped in between. -/
theorem stopped (h : Continues t t') : Stopped t' ↔ Stopped t := by
  obtain ⟨es, rfl, hes⟩ := h
  rw [stopped_append, or_iff_left]
  rintro ⟨e, he, hs⟩
  exact (hes e he).1 hs

/-- Nothing was signalled in between. -/
theorem signalled (h : Continues t t') {pid : Pid} {sig : CleanupSignal} :
    Signalled t' pid sig ↔ Signalled t pid sig := by
  obtain ⟨es, rfl, hes⟩ := h
  rw [signalled_append, or_iff_left]
  rintro ⟨e, he, identity, hc, -⟩
  exact (hes e he).2 (by rw [hc]; exact trivial)

/-- What had happened has happened. -/
theorem mem (h : Continues t t') (he : e ∈ t) : e ∈ t' := by
  obtain ⟨es, rfl, -⟩ := h
  exact List.mem_append_left es he

end Continues

/-- A neutral event that does not stop is silent. -/
theorem silent_of_neutral (h : e.call.IsNeutral) (hs : ¬ Stops e) : Silent e := by
  refine ⟨hs, fun heff => ?_⟩
  obtain ⟨c, a⟩ := e
  cases c <;> first | exact h.elim | exact heff.elim

end Unlinger
