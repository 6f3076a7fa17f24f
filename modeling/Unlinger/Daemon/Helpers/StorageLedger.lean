import Unlinger.Daemon.Helpers.Journal
import Unlinger.Daemon.Model.StorageLedger
import Unlinger.Macos.Helpers.Result

/-!
# The ledger's own rules

How long the text of an observation can get, and what it takes to prepare
an attempt and to complete one.
-/

namespace Unlinger

/-! ## The length of an observation -/

theorem byteLength_le (text : List Char) : byteLength text ≤ 4 * text.length := by
  induction text with
  | nil => simp [byteLength]
  | cons c text ih =>
      have hchar := c.utf8Size_le_four
      have hcons : byteLength (c :: text) = c.utf8Size + byteLength text := by simp [byteLength]
      rw [hcons, List.length_cons]
      omega

theorem length_jsonNat {n : Nat} (h : n < 2 ^ 64) : (jsonNat n).length ≤ 20 := by
  have hdigits : n.repr.length ≤ 20 := (Nat.length_repr_le_iff (by omega)).2 (by omega)
  exact hdigits

/-- A known reason in JSON. -/
theorem length_reason {reason : String} (h : reason ∈ storageReasonIds) :
    (jsonString reason).length ≤ 60 := by
  have hall : (storageReasonIds.all fun reason => decide ((jsonString reason).length ≤ 60)) = true := by
    decide +kernel
  exact of_decide_eq_true (List.all_eq_true.1 hall reason h)

theorem length_jsonItems {reasons : List String}
    (h : ∀ reason ∈ reasons, reason ∈ storageReasonIds) :
    (jsonItems reasons).length ≤ 61 * reasons.length := by
  induction reasons with
  | nil => simp [jsonItems]
  | cons reason reasons ih =>
      have hfirst := length_reason (h reason (by simp))
      have hrest := ih fun r hr => h r (List.mem_cons_of_mem _ hr)
      cases reasons with
      | nil =>
          simp only [jsonItems, List.length_cons, List.length_nil]
          omega
      | cons next reasons =>
          simp only [jsonItems, List.length_append, List.length_cons] at hrest ⊢
          omega

theorem length_jsonBool (b : Bool) : (jsonBool b).length ≤ 5 := by
  cases b <;> decide

/-- **An observation with known reasons fits.** -/
theorem json_fits {o : StorageResidueObservation} (hreasoned : o.Reasoned 7)
    (hobserved : o.observedAtUnixMillis < 2 ^ 64) (hcount : o.candidateCount < 2 ^ 64)
    (hbytes : o.logicalBytes < 2 ^ 64) : byteLength o.json ≤ maxStorageResidueObservationBytes := by
  have hkind : o.kind.json.length ≤ 24 := by cases o.kind; decide
  have hstatus : o.status.json.length ≤ 24 := by cases o.status <;> decide
  have hcheck : o.referenceCheck.json.length ≤ 24 := by cases o.referenceCheck <;> decide
  have hitems : (jsonItems o.reasonIds).length ≤ 427 := by
    have hlength := length_jsonItems hreasoned.2
    have hseven := hreasoned.1
    omega
  have hnames : (jsonString "kind").length + (jsonString "status").length
      + (jsonString "observed_at_unix_millis").length + (jsonString "candidate_count").length
      + (jsonString "logical_bytes").length + (jsonString "shape_complete").length
      + (jsonString "reference_check").length + (jsonString "automatic_cleanup_eligible").length
      + (jsonString "reason_ids").length ≤ 200 := by decide +kernel
  have hobservedAt := length_jsonNat hobserved
  have hcandidates := length_jsonNat hcount
  have hlogical := length_jsonNat hbytes
  have hshape := length_jsonBool o.shapeComplete
  have heligible := length_jsonBool o.automaticCleanupEligible
  have hlength : o.json.length ≤ 1000 := by
    simp only [StorageResidueObservation.json, jsonMember, List.length_append, List.length_cons,
      List.length_nil]
    omega
  have htext := byteLength_le o.json
  rw [maxStorageResidueObservationBytes]
  omega

/-! ## Attempts -/

namespace StorageLedger

variable {l l' : StorageLedger} {facts : StorageCleanupAttemptFacts} {at_ : Nat}
  {fresh : NamespaceToken} {prepared : PreparedStorageCleanupAttempt} {row : StorageCleanupRow}
  {result : StorageCleanupResultFacts} {after : CloneScan} {removable : List CloneCandidateIdentity}

/-- The row is open and has the facts of an attempt. -/
structure Prepares (row : StorageCleanupRow) (facts : StorageCleanupAttemptFacts) (at_ : Nat)
    (token : NamespaceToken) : Prop where
  token : row.attemptToken = token
  preparedAt : row.preparedAtMs = at_
  unsettled : row.disposition = none
  planned : row.plannedCandidateCount = facts.plannedCandidateCount
  beforeCount : row.beforeCandidateCount = facts.beforeCandidateCount
  beforeBytes : row.beforeLogicalBytes = facts.beforeLogicalBytes

/-- What an attempt that began wrote. -/
theorem begin_ok (h : l.beginStorageCleanupAttempt at_ facts fresh = .ok (l', prepared)) :
    (at_ < 2 ^ 63 ∧ facts.plannedCandidateCount ≤ facts.beforeCandidateCount ∧
      facts.beforeCandidateCount < 2 ^ 63 ∧ facts.beforeLogicalBytes < 2 ^ 63) ∧
    ∃ row, l'.attempts.get prepared.id = some row ∧
      Prepares row facts at_ prepared.attemptToken := by
  simp only [beginStorageCleanupAttempt, bind_eq_ok, require_eq_ok, sqliteMillis_eq_ok,
    exists_const] at h
  obtain ⟨-, hle, _, ⟨hat, rfl⟩, _, ⟨-, rfl⟩, _, ⟨hbefore, rfl⟩, _, ⟨hbytes, rfl⟩, mid, -, -, h⟩ := h
  rw [dif_pos hle, pure_eq_ok] at h
  obtain ⟨rfl, rfl⟩ := Prod.mk.inj h
  exact ⟨⟨hat, hle, hbefore, hbytes⟩, _, Table.get_insert.trans (if_pos rfl),
    ⟨rfl, rfl, rfl, rfl, rfl, rfl⟩⟩

theorem sqliteOption_eq_ok {value value' : Option Nat} {label : String} :
    sqliteOption value label = .ok value' ↔ (∀ n ∈ value, n < 2 ^ 63) ∧ value' = value := by
  cases value with
  | none =>
      simp only [sqliteOption, Except.ok.injEq]
      constructor
      · rintro rfl
        exact ⟨by simp, rfl⟩
      · rintro ⟨-, rfl⟩
        rfl
  | some n =>
      simp only [sqliteOption, map_eq_ok, sqliteMillis_eq_ok, Option.mem_some_iff,
        forall_eq']
      constructor
      · rintro ⟨m, ⟨hlt, rfl⟩, rfl⟩
        exact ⟨hlt, rfl⟩
      · rintro ⟨hlt, rfl⟩
        exact ⟨n, ⟨hlt, rfl⟩, rfl⟩

/-- Counts that hang together are valid. -/
theorem validateCounts_proved (h : Proved removable facts after result) :
    validateCounts result = .ok () := by
  cases h with
  | uncounted => rfl
  | counted hshape disposition retained haccounted =>
      have hremoved := haccounted.removed_le
      have hafter := haccounted.after_eq
      cases disposition with
      | complete =>
          obtain ⟨hall, hnone⟩ := haccounted.complete rfl
          simp only [validateCounts, bind_eq_ok, require_eq_ok, exists_const, if_true]
          exact ⟨hall, hnone⟩
      | partly =>
          obtain ⟨hall, -⟩ := haccounted.partly rfl
          simp only [validateCounts, bind_eq_ok, require_eq_ok, exists_const, reduceCtorEq, if_false]
          exact ⟨hall, by omega⟩
      | failed =>
          simp only [validateCounts, bind_eq_ok, require_eq_ok, exists_const]
          exact ⟨hremoved, by omega, by omega⟩
      | deliveryUnknown => exact absurd rfl haccounted.known

/-- What a completion left in the row of its handle. -/
structure Settled (row : StorageCleanupRow) (result : StorageCleanupResultFacts) (at_ : Nat) :
    Prop where
  completedAt : row.completedAtMs = some at_
  disposition : row.disposition = some result.disposition
  planned : row.plannedCandidateCount = result.plannedCandidateCount
  beforeCount : row.beforeCandidateCount = result.beforeCandidateCount
  removed : row.removedCandidateCount = result.removedCandidateCount
  afterCount : row.afterCandidateCount = result.afterCandidateCount
  afterBytes : row.afterLogicalBytes = result.afterLogicalBytes
  retained : row.retainedNotPlannedCount = result.retainedNotPlannedCount

/-- **A proved result is taken for its prepared attempt.** -/
theorem complete_proved {observation : StorageResidueObservation}
    (hproved : Proved removable facts after result)
    (hrow : l.attempts.get prepared.id = some row)
    (hprepares : Prepares row facts at_ prepared.attemptToken)
    (hat : at_ < 2 ^ 63) (hplanned : facts.plannedCandidateCount ≤ facts.beforeCandidateCount)
    (hbefore : facts.beforeCandidateCount < 2 ^ 63) (hbytes : facts.beforeLogicalBytes < 2 ^ 63)
    (hcount : after.candidates.length < 2 ^ 63) (hlogical : after.observation.logicalBytes < 2 ^ 63)
    (hreasoned : observation.Reasoned 7) (hobserved : observation.observedAtUnixMillis = at_)
    (hcandidates : observation.candidateCount = after.candidates.length)
    (hsame : observation.logicalBytes = after.observation.logicalBytes) :
    ∃ l', l.completeStorageCleanupAttempt prepared result observation = .ok l' ∧
      l'.latest = some (at_, observation.json) ∧
      ∃ row', l'.attempts.get prepared.id = some row' ∧ Settled row' result at_ := by
  have hfacts : result.plannedCandidateCount = facts.plannedCandidateCount ∧
      result.beforeCandidateCount = facts.beforeCandidateCount ∧
      result.beforeLogicalBytes = facts.beforeLogicalBytes := by
    cases hproved <;> exact ⟨rfl, rfl, rfl⟩
  -- what was removed and what is left is bounded by the counts before and after, which fit
  have hcounts : (∀ n ∈ result.removedCandidateCount, n < 2 ^ 63) ∧
      (∀ n ∈ result.afterCandidateCount, n < 2 ^ 63) ∧
      (∀ n ∈ result.afterLogicalBytes, n < 2 ^ 63) ∧
      ∀ n ∈ result.retainedNotPlannedCount, n < 2 ^ 63 := by
    cases hproved with
    | uncounted => simp
    | counted hshape disposition retained haccounted =>
        have hremoved := haccounted.removed_le
        have hafter := haccounted.after_eq
        simp only [Option.mem_some_iff, forall_eq']
        omega
  have hagrees : resultAgrees result observation = true := by
    cases hproved with
    | uncounted => rfl
    | counted => simp [resultAgrees, hcandidates, hsame]
  have hfits : byteLength observation.json ≤ maxStorageResidueObservationBytes :=
    json_fits hreasoned (by omega) (by omega) (by omega)
  -- the attempt is still the prepared one: its token and its planned counts are the result's
  have hsettles : settlesRow row prepared result = true := by
    simp [settlesRow, hprepares.token, hprepares.unsettled, hprepares.planned, hprepares.beforeCount,
      hprepares.beforeBytes, hfacts]
  have htime : row.preparedAtMs ≤ at_ := hprepares.preparedAt.le
  let settled := row.settle at_ htime result.disposition result.removedCandidateCount
    result.afterCandidateCount result.afterLogicalBytes result.retainedNotPlannedCount
  obtain ⟨attempts, hattempts⟩ : ∃ t, l.attempts.update (fun id old =>
      (.ok (if id = prepared.id then settled else old) : Except StoreError StorageCleanupRow)) = .ok t :=
    Table.update_ok_iff.2 fun id old _ => ⟨_, rfl⟩
  refine ⟨⟨attempts, some (at_, observation.json)⟩, ?_, rfl, settled,
    (Table.get_update hattempts).2 ⟨row, hrow, by rw [if_pos rfl]⟩,
    ⟨rfl, rfl, hprepares.planned.trans hfacts.1.symm, hprepares.beforeCount.trans hfacts.2.1.symm,
      rfl, rfl, rfl, rfl⟩⟩
  simp only [completeStorageCleanupAttempt, payload, bind_eq_ok, require_eq_ok, sqliteMillis_eq_ok,
    sqliteOption_eq_ok, found_eq_ok, pure_eq_ok, exists_const]
  refine ⟨trivial, _, ⟨hfits, rfl⟩, by omega, (), validateCounts_proved hproved,
    _, ⟨hcounts.1, rfl⟩, _, ⟨hcounts.2.1, rfl⟩, _, ⟨hcounts.2.2.1, rfl⟩, _, ⟨hcounts.2.2.2, rfl⟩,
    _, ⟨by omega, rfl⟩, _, ⟨by omega, rfl⟩, _, ⟨by omega, rfl⟩, hagrees, _, ⟨by omega, rfl⟩, row, ?_,
    ?_⟩
  · rw [hrow]
    simp [hsettles]
  · subst hobserved
    rw [dif_pos htime, hattempts]
    rfl

end StorageLedger

end Unlinger
