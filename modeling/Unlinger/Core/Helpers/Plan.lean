import Unlinger.Core.Model.Cleanup

/-!
# Frozen plans

What `from_confirmed` checked of the report it froze.
-/

namespace Unlinger

namespace CleanupPlan

variable {plan : CleanupPlan} {report : IncidentReport}

/-- No pid is a target twice. -/
def Distinct (plan : CleanupPlan) : Prop :=
  (plan.targets.map fun x => x.identity.pid).Nodup

/-- The pids of the primary targets. -/
def primaryPids (plan : CleanupPlan) : List Pid :=
  plan.primaryTargets.map fun x => x.identity.pid

theorem checkTargets_nodup {seen : List Pid} {ts : List ProcessTarget}
    (h : checkTargets seen ts = .ok ()) :
    (ts.map fun x => x.identity.pid).Nodup ∧ ∀ x ∈ ts, x.identity.pid ∉ seen := by
  induction ts generalizing seen with
  | nil => simp
  | cons x ts ih =>
      unfold checkTargets at h
      split_ifs at h with hseen hid
      obtain ⟨hnd, hout⟩ := ih h
      refine ⟨?_, fun y hy => ?_⟩
      · rw [List.map_cons, List.nodup_cons]
        refine ⟨fun hmem => ?_, hnd⟩
        obtain ⟨y, hy, heq⟩ := List.mem_map.1 hmem
        exact hout y hy (by simp [heq])
      · rcases List.mem_cons.1 hy with rfl | hy
        · exact hseen
        · exact fun hmem => hout y hy (List.mem_cons_of_mem _ hmem)

/-- A plan is its report's targets under its report's session, and the
report was confirmed with every gate open. -/
theorem fromConfirmed_ok (h : fromConfirmed report = .ok plan) :
    report.state = .confirmed ∧ report.gates.cleanupEligible = true ∧
      checkTargets [] report.targets = .ok () ∧ plan.targets = report.targets ∧
      plan.sessionFingerprint = report.sessionFingerprint ∧
      plan.signaturePack = report.signaturePack ∧
      plan.signatureVersion = report.signatureVersion := by
  simp only [fromConfirmed, bind, Except.bind, throw, throwThe, MonadExceptOf.throw, pure,
    Except.pure] at h
  have hgate : report.state = .confirmed ∧ report.gates.cleanupEligible = true := by
    by_contra hno
    rw [if_pos (by simpa [Classical.or_iff_not_imp_left] using hno)] at h
    cases h
  refine ⟨hgate.1, hgate.2, ?_⟩
  split_ifs at h
  all_goals
    cases hcheck : checkTargets [] report.targets with
    | error e => simp [hcheck] at h
    | ok u => ?_
  all_goals simp only [hcheck] at h
  -- too many artifacts, no primary target, and the plan
  · cases h
  · split at h
    · cases h
    · split at h <;> cases h
  · split at h
    · cases h
    · split at h
      · cases h
      · cases h
        exact ⟨rfl, rfl, rfl, rfl, rfl⟩

theorem fromConfirmed_distinct (h : fromConfirmed report = .ok plan) : plan.Distinct := by
  obtain ⟨-, -, hcheck, htargets, -⟩ := fromConfirmed_ok h
  rw [Distinct, htargets]
  exact (checkTargets_nodup hcheck).1

end CleanupPlan

end Unlinger
