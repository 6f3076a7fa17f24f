import Unlinger.Macos.Helpers.StorageResidue

/-!
# What a deletion is settled with

The counts of a result against the two scans they come from, and the
reasons an observation can have.
-/

namespace Unlinger

/-! ## Counts -/

section Counts

variable {call : CloneCall} {stable removable : List CloneCandidateIdentity} {after : CloneScan}
  {attempt : StorageCleanupAttemptFacts} {removal : NativeResult}

/-- The planned candidates that are gone. -/
def removedPlanned (removable : List CloneCandidateIdentity) (after : CloneScan) : Nat :=
  (removable.filter fun c => !after.candidates.contains c).length

/-- The rescan shows what is left. -/
def provesShape (after : CloneScan) : Bool :=
  after.observation.shapeComplete && after.observation.status != .unavailable

theorem removedPlanned_le : removedPlanned removable after ≤ removable.length :=
  List.length_filter_le _ _

/-- What is planned and still there is some of what is there. -/
theorem retainedPlanned_le (hplanned : removable.Nodup) :
    removable.length - removedPlanned removable after ≤ after.candidates.length := by
  have hsplit := List.length_eq_length_filter_add (l := removable)
    fun c => !after.candidates.contains c
  have hkept : (removable.filter fun c => !(!after.candidates.contains c)).length ≤
      after.candidates.length := by
    refine (List.subperm_of_subset (hplanned.filter _) fun c hc => ?_).length_le
    simpa using (List.mem_filter.1 hc).2
  rw [removedPlanned]
  omega

/-- Everything planned is gone exactly where as many are as were planned. -/
theorem removedPlanned_eq_length :
    removedPlanned removable after = removable.length ↔
      (removable.all fun c => !after.candidates.contains c) = true := by
  rw [removedPlanned, List.length_filter_eq_length_iff, List.all_eq_true]

/-- The gates of what is left change neither the counts nor the status. -/
theorem resultObservation_counts :
    (resultObservation call stable after).status = after.observation.status ∧
    (resultObservation call stable after).kind = after.observation.kind ∧
    (resultObservation call stable after).observedAtUnixMillis =
      after.observation.observedAtUnixMillis ∧
    (resultObservation call stable after).candidateCount = after.observation.candidateCount ∧
    (resultObservation call stable after).logicalBytes = after.observation.logicalBytes := by
  have hgates : ∀ gates, (applyProcessGates after.observation gates).status =
        after.observation.status ∧
      (applyProcessGates after.observation gates).kind = after.observation.kind ∧
      (applyProcessGates after.observation gates).observedAtUnixMillis =
        after.observation.observedAtUnixMillis ∧
      (applyProcessGates after.observation gates).candidateCount =
        after.observation.candidateCount ∧
      (applyProcessGates after.observation gates).logicalBytes = after.observation.logicalBytes := by
    intro gates
    unfold applyProcessGates
    split_ifs <;> exact ⟨rfl, rfl, rfl, rfl, rfl⟩
  unfold resultObservation
  split_ifs
  · exact hgates _
  · exact hgates _
  · exact ⟨rfl, rfl, rfl, rfl, rfl⟩

/-- How the counts of a result hang together. -/
structure Accounted (planned removed after retained : Nat)
    (disposition : StorageCleanupDisposition) : Prop where
  removed_le : removed ≤ planned
  after_eq : after = (planned - removed) + retained
  known : disposition ≠ .deliveryUnknown
  complete : disposition = .complete → removed = planned ∧ after = 0
  partly : disposition = .partly → removed = planned ∧ 0 < retained

/-- A result as the rescan proves it: without counts where the rescan shows
nothing, and with counts that hang together where it does. -/
inductive Proved (removable : List CloneCandidateIdentity) (attempt : StorageCleanupAttemptFacts)
    (after : CloneScan) : StorageCleanupResultFacts → Prop
  | uncounted (hshape : provesShape after = false) :
      Proved removable attempt after ⟨.failed, attempt.plannedCandidateCount,
        attempt.beforeCandidateCount, attempt.beforeLogicalBytes, none, none, none, none⟩
  | counted (hshape : provesShape after = true) (disposition : StorageCleanupDisposition)
      (retained : Nat)
      (haccounted : Accounted attempt.plannedCandidateCount (removedPlanned removable after)
        after.candidates.length retained disposition) :
      Proved removable attempt after ⟨disposition, attempt.plannedCandidateCount,
        attempt.beforeCandidateCount, attempt.beforeLogicalBytes,
        some (removedPlanned removable after), some after.candidates.length,
        some after.observation.logicalBytes, some retained⟩

/-- **What a deletion is settled with is proved by its rescan.** -/
theorem settleCleanup_proved (hafter : after.Honest) (hplanned : removable.Nodup)
    (hattempt : attempt.plannedCandidateCount = removable.length) :
    ∃ result, (settleCleanup call stable removable attempt removal after).cleanup = some result ∧
      Proved removable attempt after result := by
  obtain ⟨hstatus, -, -, hcount, hbytes⟩ := @resultObservation_counts call stable after
  refine ⟨_, rfl, ?_⟩
  cases hshape : provesShape after with
  | false =>
      have hunproved : (after.observation.shapeComplete &&
        after.observation.status != .unavailable) = false := hshape
      simp only [hunproved, Bool.and_false, Bool.false_and, Bool.false_eq_true, if_false]
      exact .uncounted hshape
  | true =>
      have hproved : (after.observation.shapeComplete &&
        after.observation.status != .unavailable) = true := hshape
      simp only [hproved, Bool.and_true, if_true, hstatus, hcount, hbytes, hafter.counted]
      refine .counted hshape _ _ ⟨?_, ?_, ?_, ?_, ?_⟩
      · rw [hattempt]
        exact removedPlanned_le
      · have hle := @retainedPlanned_le _ after hplanned
        have hcounted : (removable.filter fun c => !after.candidates.contains c).length =
          removedPlanned removable after := rfl
        rw [hattempt, hcounted]
        omega
      · split_ifs <;> simp
      · intro hcomplete
        split_ifs at hcomplete with hsucceeded hclear
        have hgone := removedPlanned_eq_length.2 (Bool.and_eq_true_iff.1 hsucceeded).2
        have hempty : after.candidates = [] := by
          by_contra hne
          rw [hafter.detected.2 hne] at hclear
          cases hclear
        exact ⟨hgone.trans hattempt.symm, by rw [hempty]; rfl⟩
      · intro hpartly
        split_ifs at hpartly with hsucceeded hclear
        have hgone := removedPlanned_eq_length.2 (Bool.and_eq_true_iff.1 hsucceeded).2
        have hleft : after.candidates ≠ [] := by
          refine hafter.detected.1 ?_
          have hreadable : after.observation.status ≠ .unavailable :=
            bne_iff_ne.1 (Bool.and_eq_true_iff.1 hproved).2
          cases hother : after.observation.status with
          | clear => exact absurd hother hclear
          | detected => rfl
          | unavailable => exact absurd hother hreadable
        have hpos := List.length_pos_iff.2 hleft
        have hcounted : (removable.filter fun c => !after.candidates.contains c).length =
          removedPlanned removable after := rfl
        rw [hattempt, hcounted]
        exact ⟨hgone, by omega⟩

end Counts

/-! ## Reasons -/

/-- The reasons an observation can have. -/
def storageReasonIds : List String :=
  ["storage_residue.code_sign_clone_absent", "storage_residue.clone_root_unreadable",
    "storage_residue.clone_root_unsafe", "storage_residue.clone_shape_unexpected",
    "storage_residue.clone_tree_unreadable", "storage_residue.logical_size_overflow",
    "storage_residue.code_sign_clone_empty", "storage_residue.code_sign_clone_detected",
    "storage_residue.logical_size_not_physical_reclaim",
    "storage_residue.reference_check_incomplete", "storage_residue.process_observation_incomplete",
    "storage_residue.no_live_clone_references", "storage_residue.clone_candidate_path_referenced",
    "storage_residue.clone_cleanup_helper_active", "storage_residue.cleanup_waiting_for_stability",
    "storage_residue.automatic_cleanup_completed", "storage_residue.automatic_cleanup_partial",
    "storage_residue.automatic_cleanup_failed"]

/-- At most so many reasons, all of them known. -/
def StorageResidueObservation.Reasoned (o : StorageResidueObservation) (n : Nat) : Prop :=
  o.reasonIds.length ≤ n ∧ ∀ reason ∈ o.reasonIds, reason ∈ storageReasonIds

section Reasons

variable {o : StorageResidueObservation} {n : Nat} {reason : String}

theorem StorageResidueObservation.Reasoned.because (h : o.Reasoned n)
    (hreason : reason ∈ storageReasonIds) : (o.because reason).Reasoned (n + 1) := by
  refine ⟨?_, fun r hr => ?_⟩
  · rw [StorageResidueObservation.because, List.length_append]
    exact Nat.add_le_add_right h.1 1
  · rcases List.mem_append.1 hr with hr | hr
    · exact h.2 r hr
    · rw [List.mem_singleton.1 hr]
      exact hreason

/-- The gates have at most two reasons. -/
theorem StorageResidueObservation.Reasoned.gates (h : o.Reasoned n) (gates : List ProcessGate) :
    (applyProcessGates o gates).Reasoned (n + 2) := by
  have hrest : ∀ reasons added : List String,
      reasons = o.reasonIds.filter (fun reason =>
        reason != "storage_residue.reference_check_incomplete") ++ added →
      added.length ≤ 2 → (∀ r ∈ added, r ∈ storageReasonIds) →
      reasons.length ≤ n + 2 ∧ ∀ r ∈ reasons, r ∈ storageReasonIds := by
    rintro reasons added rfl hlength hknown
    refine ⟨?_, fun r hr => ?_⟩
    · rw [List.length_append]
      exact Nat.add_le_add ((List.length_filter_le _ _).trans h.1) hlength
    · rcases List.mem_append.1 hr with hr | hr
      · exact h.2 r (List.mem_filter.1 hr).1
      · exact hknown r hr
  unfold applyProcessGates
  split_ifs
  · exact hrest _ _ rfl (by simp) (by simp [storageReasonIds])
  · exact hrest _ _ rfl (by simp) (by simp [storageReasonIds])
  · exact hrest _ _ (List.append_assoc _ _ _) (by simp) (by simp [storageReasonIds])
  · exact hrest _ _ (List.append_assoc _ _ _) (by simp) (by simp [storageReasonIds])
  · exact hrest _ _ (List.append_assoc _ _ _) (by simp) (by simp [storageReasonIds])
  · exact hrest _ _ (List.append_assoc _ _ _) (by simp) (by simp)

theorem scanEntry_error {bytes : Nat} {entry : CloneEntry} (h : scanEntry bytes entry = .error reason) :
    reason ∈ storageReasonIds := by
  unfold scanEntry at h
  split at h
  · obtain rfl := Except.error.inj h
    simp [storageReasonIds]
  · split_ifs at h with hvalid hopened
    · split at h
      · obtain rfl := Except.error.inj h
        simp [storageReasonIds]
      · split_ifs at h with hunsafe
        · obtain rfl := Except.error.inj h
          simp [storageReasonIds]
        · split at h
          · obtain rfl := Except.error.inj h
            simp [storageReasonIds]
          · split_ifs at h with hbytes
            obtain rfl := Except.error.inj h
            simp [storageReasonIds]
    · obtain rfl := Except.error.inj h
      simp [storageReasonIds]
    · obtain rfl := Except.error.inj h
      simp [storageReasonIds]

theorem scanEntries_error {entries : List CloneEntry} {bytes : Nat}
    {acc : List CloneCandidateIdentity} (h : scanEntries entries bytes acc = .error reason) :
    reason ∈ storageReasonIds := by
  induction entries generalizing bytes acc with
  | nil => cases h
  | cons entry entries ih =>
      unfold scanEntries at h
      split at h
      · rename_i reason' hentry
        obtain rfl := Except.error.inj h
        exact scanEntry_error hentry
      · exact ih h

theorem reasoned_unavailable {at_ : Nat} (hreason : reason ∈ storageReasonIds) :
    (unavailable at_ reason).Reasoned 3 := by
  refine ⟨by simp [unavailable], fun r hr => ?_⟩
  rw [List.mem_singleton.1 hr]
  exact hreason

theorem scan_reasoned (root : CloneRoot) (at_ : Nat) :
    (scanCodeSignCloneRoot root at_).observation.Reasoned 3 := by
  cases root with
  | absent => exact ⟨by simp [scanCodeSignCloneRoot], by simp [scanCodeSignCloneRoot, storageReasonIds]⟩
  | unreadable => exact reasoned_unavailable (by simp [storageReasonIds])
  | found directory owned listing =>
      simp only [scanCodeSignCloneRoot]
      split
      · exact reasoned_unavailable (by simp [storageReasonIds])
      · cases listing with
        | none => exact reasoned_unavailable (by simp [storageReasonIds])
        | some listing =>
            simp only
            split
            · rename_i reason hscan
              exact reasoned_unavailable (scanEntries_error hscan)
            · rename_i candidates bytes hscan
              by_cases hempty : candidates.length = 0
              · simp [observeClones, hempty, StorageResidueObservation.Reasoned, storageReasonIds]
              · simp [observeClones, hempty, StorageResidueObservation.Reasoned, storageReasonIds]

/-- The observation a deletion is settled with has at most seven. -/
theorem settleCleanup_reasoned {call : CloneCall} {stable removable : List CloneCandidateIdentity}
    {attempt : StorageCleanupAttemptFacts} {removal : NativeResult} :
    (settleCleanup call stable removable attempt removal call.rescan).observation.Reasoned 7 := by
  have hscan := scan_reasoned call.directoryAfter call.observedAtUnixMillis
  have hresult : (resultObservation call stable call.rescan).Reasoned 6 := by
    unfold resultObservation
    split_ifs with hdetected hwaiting
    · exact StorageResidueObservation.Reasoned.because (n := 5)
        (hscan.gates _ : StorageResidueObservation.Reasoned _ 5) (by simp [storageReasonIds])
    · have hgated := hscan.gates
        (processGates call.snapshot call.root call.canonicalRootAfter call.rescan.candidates)
      exact ⟨hgated.1.trans (by omega), hgated.2⟩
    · exact ⟨hscan.1.trans (by omega), hscan.2⟩
  refine hresult.because ?_
  split_ifs <;> simp [storageReasonIds]

end Reasons

end Unlinger
