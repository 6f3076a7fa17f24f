import Unlinger.Daemon.Helpers.StorageLedger
import Unlinger.Daemon.Helpers.Store
import Unlinger.Macos.CloneRemoval

/-!
# Clone cleanup settles

The result a reconciliation produces and the ledger that takes it count
apart from each other: the one by differences of two scans, the other by
checked arithmetic and the checks of its table. They agree on everything a
reconciliation can produce.
-/

namespace Unlinger

namespace StorageLedger

variable {previous : Option (List CloneCandidateIdentity)} {call : CloneCall}
  {handed : HandedCleanup} {result : StorageCleanupResultFacts} {l l₁ l₂ : StorageLedger}
  {fresh : NamespaceToken} {prepared : PreparedStorageCleanupAttempt} {row : StorageCleanupRow}
  {planned : List CloneCandidateIdentity} {after : CloneScan}

/-- What a row says about the two scans of its attempt is so. -/
structure Honest (planned : List CloneCandidateIdentity) (after : CloneScan)
    (row : StorageCleanupRow) : Prop where
  plan : row.plannedCandidateCount = planned.length ∧
    row.plannedCandidateCount ≤ row.beforeCandidateCount
  /-- Where the rescan shows nothing, the row has no counts. -/
  unproved : ¬ (after.observation.shapeComplete = true ∧ after.observation.status ≠ .unavailable) →
    row.disposition = some .failed ∧ row.removedCandidateCount = none ∧
      row.afterCandidateCount = none ∧ row.afterLogicalBytes = none ∧
      row.retainedNotPlannedCount = none
  counted : ∀ removed count retained, row.removedCandidateCount = some removed →
    row.afterCandidateCount = some count → row.retainedNotPlannedCount = some retained →
    count = (row.plannedCandidateCount - removed) + retained ∧ removed ≤ row.plannedCandidateCount
  complete : row.disposition = some .complete →
    after.candidates = [] ∧ row.afterCandidateCount = some 0
  partly : row.disposition = some .partly →
    (∀ c ∈ planned, c ∉ after.candidates) ∧ ∃ c ∈ after.candidates, c ∉ planned

/-- Nothing is left of the plan where as much is gone as was planned. -/
theorem planned_gone (h : removedPlanned planned after = planned.length) :
    ∀ c ∈ planned, c ∉ after.candidates := by
  intro c hc
  simpa using List.all_eq_true.1 (removedPlanned_eq_length.1 h) c hc

/-- A row settled with a proved result is honest. -/
theorem honest_settled {at_ : Nat} {attempt : StorageCleanupAttemptFacts}
    (hproved : Proved planned attempt after result) (hsettled : Settled row result at_)
    (hattempt : attempt.plannedCandidateCount = planned.length) : Honest planned after row := by
  have hplanned : row.plannedCandidateCount = attempt.plannedCandidateCount := by
    rw [hsettled.planned]
    cases hproved <;> rfl
  have hle := row.planned_le
  cases hproved with
  | uncounted hshape =>
      refine ⟨⟨hplanned.trans hattempt, hle⟩, fun _ => ?_, ?_, ?_, ?_⟩
      · exact ⟨hsettled.disposition, hsettled.removed, hsettled.afterCount, hsettled.afterBytes,
          hsettled.retained⟩
      · intro removed count retained hremoved
        rw [hsettled.removed] at hremoved
        cases hremoved
      · intro hcomplete
        rw [hsettled.disposition] at hcomplete
        cases hcomplete
      · intro hpartly
        rw [hsettled.disposition] at hpartly
        cases hpartly
  | counted hshape disposition retained haccounted =>
      refine ⟨⟨hplanned.trans hattempt, hle⟩, fun hnot => ?_, ?_, ?_, ?_⟩
      · refine absurd ?_ hnot
        simpa [provesShape] using hshape
      · intro removed count retained' hremoved hcount hretained
        obtain rfl := Option.some.inj (hsettled.removed.symm.trans hremoved)
        obtain rfl := Option.some.inj (hsettled.afterCount.symm.trans hcount)
        obtain rfl := Option.some.inj (hsettled.retained.symm.trans hretained)
        rw [hplanned]
        exact ⟨haccounted.after_eq, haccounted.removed_le⟩
      · intro hcomplete
        obtain rfl := Option.some.inj (hsettled.disposition.symm.trans hcomplete)
        have hnone := (haccounted.complete rfl).2
        exact ⟨List.length_eq_zero_iff.1 hnone, hsettled.afterCount.trans (congrArg some hnone)⟩
      · intro hpartly
        obtain rfl := Option.some.inj (hsettled.disposition.symm.trans hpartly)
        obtain ⟨hall, hretained⟩ := haccounted.partly rfl
        have hgone := planned_gone (hall.trans hattempt)
        have hleft : after.candidates ≠ [] := by
          refine List.length_pos_iff.1 ?_
          have hafter := haccounted.after_eq
          omega
        obtain ⟨c, hc⟩ := List.exists_mem_of_ne_nil _ hleft
        exact ⟨hgone, c, hc, fun hmem => hgone c hmem hc⟩

/-- **Clone cleanup settles, and honestly.** Whatever the two scans, the
result of the removal and the processes: the result and the observation of
a reconciliation are taken for the attempt that was prepared from its own
facts at its own time and is still prepared, all counts and bytes being in
range; and the row says what the two scans say. -/
theorem clone_results_settle
    (hhanded : (reconcileRootGuarded previous call).handed = some handed)
    (hresult : (reconcileRootGuarded previous call).reconciliation.cleanup = some result)
    (hbegin : l.beginStorageCleanupAttempt call.observedAtUnixMillis handed.attempt fresh =
      .ok (l₁, prepared))
    (hprepared : l₂.attempts.get prepared.id = l₁.attempts.get prepared.id)
    (hcount : call.rescan.candidates.length < 2 ^ 63)
    (hbytes : call.rescan.observation.logicalBytes < 2 ^ 63) :
    ∃ l₃ row, l₂.completeStorageCleanupAttempt prepared result
        (reconcileRootGuarded previous call).reconciliation.observation = .ok l₃ ∧
      l₃.latest = some (call.observedAtUnixMillis,
        (reconcileRootGuarded previous call).reconciliation.observation.json) ∧
      l₃.attempts.get prepared.id = some row ∧ Settled row result call.observedAtUnixMillis ∧
      Honest handed.planned call.rescan row := by
  obtain ⟨-, -, rfl⟩ := handed_iff.1 hhanded
  have houtcome := reconcile_outcome previous call
  generalize reconcileRootGuarded previous call = r at houtcome hresult
  cases houtcome with
  | undetected => cases hresult
  | observed => cases hresult
  | declined => cases hresult
  | settled removal hstatus hmode hplanned hreturned =>
      have hafter := scan_honest call.directoryAfter call.observedAtUnixMillis
      have hnodup : (call.removable previous).Nodup :=
        removable_sublist.nodup
          (scan_honest call.directory call.observedAtUnixMillis).candidates_nodup
      obtain ⟨result', hresult', hproved⟩ := @settleCleanup_proved call
        (stableCandidates previous call.scan.candidates) (call.removable previous) call.rescan
        (call.attempt previous) removal hafter hnodup rfl
      obtain rfl := Option.some.inj (hresult'.symm.trans hresult)
      obtain ⟨⟨hat, hle, hbefore, hlogical⟩, row, hrow, hprepares⟩ := begin_ok hbegin
      obtain ⟨-, -, hobserved, hcandidates, hsame⟩ := @resultObservation_counts call
        (stableCandidates previous call.scan.candidates) call.rescan
      obtain ⟨l₃, hcomplete, hlatest, row', hrow', hsettled⟩ := complete_proved hproved
        (hprepared.trans hrow) hprepares hat hle hbefore hlogical hcount hbytes
        settleCleanup_reasoned (hobserved.trans (scan_observedAt _ _))
        (hcandidates.trans hafter.counted) hsame
      exact ⟨l₃, row', hcomplete, hlatest, hrow', hsettled, honest_settled hproved hsettled rfl⟩

/-- A clone that came up beside the one in the sample root. -/
def besideEntry : CloneEntry := ⟨.text "code_sign_clone.BBBBBB", true, some ⟨true, 1, 8⟩, true, some 50⟩

/-- A call that removes the one that was seen before, with no process in
the way. -/
def sampleRemoval : CloneCall where
  root := "/X"
  observedAtUnixMillis := 5
  snapshot := some ⟨5, 501, [], ⟨0, 0, 0, 0, 0⟩⟩
  mode := .enforce
  directory := .found true true (some ⟨[⟨.text "code_sign_clone.AAAAAA", true, some ⟨true, 1, 7⟩,
    true, some 100⟩, besideEntry], by decide⟩)
  canonicalRoot := some "/private/X"
  runCleanup := fun _ => ⟨[.ok ()], some (.ok ())⟩
  directoryAfter := .found true true (some ⟨[besideEntry], by decide⟩)
  canonicalRootAfter := some "/private/X"

/-- What is left behind settles as partial, and is counted. -/
theorem clone_results_settle_partial :
    ∃ l₁ prepared l₃ row, empty.beginStorageCleanupAttempt 5 ⟨1, 2, 150⟩ Store.sampleToken =
        .ok (l₁, prepared) ∧
      l₁.completeStorageCleanupAttempt prepared
        ⟨.partly, 1, 2, 150, some 1, some 1, some 50, some 1⟩
        (reconcileRootGuarded (some [sampleClone]) sampleRemoval).reconciliation.observation
          = .ok l₃ ∧
      l₃.attempts.get prepared.id = some row ∧ row.disposition = some .partly ∧
      Honest [sampleClone] sampleRemoval.rescan row := by
  have hhanded : (reconcileRootGuarded (some [sampleClone]) sampleRemoval).handed =
      some ⟨⟨1, 2, 150⟩, [sampleClone], [[sampleClone]]⟩ := by decide
  have hresult : (reconcileRootGuarded (some [sampleClone]) sampleRemoval).reconciliation.cleanup =
      some ⟨.partly, 1, 2, 150, some 1, some 1, some 50, some 1⟩ := by decide
  have hok : (empty.beginStorageCleanupAttempt 5 ⟨1, 2, 150⟩ Store.sampleToken).isOk = true := by
    decide
  cases hbegin : empty.beginStorageCleanupAttempt 5 ⟨1, 2, 150⟩ Store.sampleToken with
  | error e => rw [hbegin] at hok; cases hok
  | ok begun =>
      obtain ⟨l₁, prepared⟩ := begun
      obtain ⟨l₃, row, hcomplete, -, hrow, hsettled, hhonest⟩ :=
        clone_results_settle hhanded hresult hbegin rfl (by decide) (by decide)
      exact ⟨l₁, prepared, l₃, row, rfl, hcomplete, hrow, hsettled.disposition, hhonest⟩

end StorageLedger

end Unlinger
