import Unlinger.Core.Helpers.Execute

/-!
# A claimed reclaim is proved

A receipt's process verdict is read from its state, its reason and its
dispositions. Whenever it says the processes are gone, the run holds the
proof: every revival window waited out and answered Gone, and a snapshot
after the last signal without any target.
-/

namespace Unlinger

open Interaction

variable {plan : CleanupPlan} {policy : CleanupPolicy} {es : CleanupTrace} {r : CleanupReceipt}

/-- The revalidator gives no reason of the artifacts' kind. -/
def RevalidatorPlain (es : CleanupTrace) : Prop :=
  ∀ s p phase v, (⟨.revalidate s p phase, v⟩ : CleanupEvent) ∈ es →
    Text.startsWith v.reasonId "cleanup.artifact_" = false

/-- Every reason the outcome reads as an artifact's starts that way. -/
theorem startsWith_of_artifactReason {reason : String} (h : reason ∈ artifactReasons) :
    Text.startsWith reason "cleanup.artifact_" = true := by
  simp only [artifactReasons, List.mem_cons, List.not_mem_nil, or_false] at h
  rcases h with rfl | rfl | rfl | rfl | rfl <;> decide

theorem PlainReason.not_mem {reason : String} (h : PlainReason es reason)
    (hrev : RevalidatorPlain es) : reason ∉ artifactReasons := by
  rcases h with h | ⟨s, p, phase, v, hmem, rfl⟩
  · exact h
  · intro hbad
    have hno := hrev s p phase v hmem
    rw [startsWith_of_artifactReason hbad] at hno
    cases hno

/-- A receipt that touched no artifact and gives no artifact reason claims
nothing about the processes. -/
theorem Unclaimed.process_ne_cleared (h : Unclaimed es r) (hrev : RevalidatorPlain es) :
    r.outcome.process ≠ .cleared := by
  obtain ⟨reason, hreason, hplain⟩ := h.plain
  have hno := hplain.not_mem hrev
  simp only [artifactReasons, List.mem_cons, List.not_mem_nil, or_false, not_or] at hno
  obtain ⟨h₁, h₂, h₃, h₄, h₅⟩ := hno
  have hres : r.artifactResidueReason = false := by
    simp [CleanupReceipt.artifactResidueReason, hreason, h₁, h₂, h₃, h₄]
  have hunk : r.artifactDeliveryUnknown = false := by
    simp [CleanupReceipt.artifactDeliveryUnknown, hreason, h.artifactActions, h₅]
  simp only [CleanupReceipt.outcome, CleanupReceipt.processOutcome, hres, hunk, h.state,
    decide_false, Bool.or_false, Bool.false_eq_true, if_false]
  split_ifs <;> simp

/-- **A claimed reclaim is proved.** For every plan, policy, runtime,
journal and stop callback, and every revalidator that gives no artifact
reason: a receipt whose outcome says the processes are cleared comes with
every revival window waited out and answered Gone, and with a snapshot
after the last signal in which no target lives, for which the revalidator
answered Gone. A receipt in state Cleared moreover comes with every
artifact frozen absent after its action, and where there are artifacts
with the absence proved once more after them. -/
theorem execute_proves_reclaim (h : Runs (execute plan policy) es (.ok r))
    (hrev : RevalidatorPlain es) (hcleared : r.outcome.process = .cleared) :
    WaitedOut plan policy.revivalWindows es ∧
    r.revivalChecksCompleted = policy.revivalWindows.length ∧
    ProvedAbsent plan es ∧
    (r.state = .cleared → ProvedReconciled plan es) := by
  obtain ⟨-, hclaim, hfull⟩ := (execute_runs h).2
  rcases hclaim with hun | hrec
  · exact absurd hcleared (hun.process_ne_cleared hrev)
  · exact ⟨hrec.waited, hrec.checks, hrec.absent, hfull⟩

/-- The revalidator's reasons in a trace, tested one by one. -/
theorem revalidatorPlain_of_all
    (h : (es.all fun e =>
      match e with
      | ⟨.revalidate _ _ _, v⟩ => !Text.startsWith v.reasonId "cleanup.artifact_"
      | _ => true) = true) : RevalidatorPlain es := by
  intro s p phase v hmem
  simpa using List.all_eq_true.1 h _ hmem

/-- The receipt of the sample run. -/
def obedientReceipt : CleanupReceipt := outcomeReceipt obedientRun.2

/-- The sample run reclaims, and its proof is there. -/
theorem execute_proves_reclaim_obedient :
    obedientReceipt.state = .cleared ∧ ProvedAbsent samplePlan obedientRun.1 ∧
      ProvedReconciled samplePlan obedientRun.1 := by
  have hrun : Runs (execute samplePlan CleanupPolicy.default) obedientRun.1 (.ok obedientReceipt) :=
    runs_obedientRun
  have hstate : obedientReceipt.state = .cleared := by decide +kernel
  have hrev : RevalidatorPlain obedientRun.1 := revalidatorPlain_of_all (by decide +kernel)
  obtain ⟨-, -, habs, hfull⟩ := execute_proves_reclaim hrun hrev (by decide +kernel)
  exact ⟨hstate, habs, hfull hstate⟩

end Unlinger
