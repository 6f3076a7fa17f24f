import Unlinger.Common.Fallible
import Unlinger.Common.Table
import Unlinger.Daemon.Model.Schema
import Unlinger.Macos.Model.StorageResidue

/-!
# The ledger of clone cleanups

The two tables of `unlinger-daemon/src/store.rs` that storage cleanup
writes: one row for each attempt, prepared before anything is deleted, and
the latest observation, which a result is written together with. The checks
of a table are fields of its row.
-/

namespace Unlinger

/-! ## The text of an observation -/

/-- A character inside a JSON text. -/
def jsonEscape (c : Char) : List Char :=
  if c = '"' then ['\\', '"']
  else if c = '\\' then ['\\', '\\']
  else if c.toNat = 8 then ['\\', 'b']
  else if c.toNat = 9 then ['\\', 't']
  else if c.toNat = 10 then ['\\', 'n']
  else if c.toNat = 12 then ['\\', 'f']
  else if c.toNat = 13 then ['\\', 'r']
  else if c.toNat < 0x20 then
    ['\\', 'u', '0', '0', Nat.digitChar (c.toNat / 16), Nat.digitChar (c.toNat % 16)]
  else [c]

/-- A JSON text. -/
def jsonString (s : String) : List Char := '"' :: s.toList.flatMap jsonEscape ++ ['"']

/-- JSON texts with commas between them. -/
def jsonItems : List String → List Char
  | [] => []
  | [s] => jsonString s
  | s :: t :: rest => jsonString s ++ ',' :: jsonItems (t :: rest)

/-- A number in JSON. -/
def jsonNat (n : Nat) : List Char := (Text.decimal n).toList

/-- A truth value in JSON. -/
def jsonBool (b : Bool) : List Char := (if b then "true" else "false").toList

/-- A status in snake case. -/
def StorageResidueStatus.json : StorageResidueStatus → List Char
  | .clear => jsonString "clear"
  | .detected => jsonString "detected"
  | .unavailable => jsonString "unavailable"

/-- A reference check in snake case. -/
def StorageResidueReferenceCheck.json : StorageResidueReferenceCheck → List Char
  | .incomplete => jsonString "incomplete"
  | .completeNoReferences => jsonString "complete_no_references"
  | .referenced => jsonString "referenced"

/-- A kind in snake case. -/
def StorageResidueKind.json : StorageResidueKind → List Char
  | .chromeCodeSignClone => jsonString "chrome_code_sign_clone"

/-- A member of an object. -/
def jsonMember (name : String) (value : List Char) : List Char := jsonString name ++ ':' :: value

/-- `serde_json::to_string` of an observation. -/
def StorageResidueObservation.json (o : StorageResidueObservation) : List Char :=
  '\x7b' :: jsonMember "kind" o.kind.json ++ ',' :: jsonMember "status" o.status.json
    ++ ',' :: jsonMember "observed_at_unix_millis" (jsonNat o.observedAtUnixMillis)
    ++ ',' :: jsonMember "candidate_count" (jsonNat o.candidateCount)
    ++ ',' :: jsonMember "logical_bytes" (jsonNat o.logicalBytes)
    ++ ',' :: jsonMember "shape_complete" (jsonBool o.shapeComplete)
    ++ ',' :: jsonMember "reference_check" o.referenceCheck.json
    ++ ',' :: jsonMember "automatic_cleanup_eligible" (jsonBool o.automaticCleanupEligible)
    ++ ',' :: jsonMember "reason_ids" ('[' :: jsonItems o.reasonIds ++ [']']) ++ ['\x7d']

/-- The length of a text in bytes. -/
def byteLength (text : List Char) : Nat := (text.map Char.utf8Size).sum

/-- `MAX_STORAGE_RESIDUE_OBSERVATION_BYTES`. -/
def maxStorageResidueObservationBytes : Nat := 4 * 1024

/-! ## The tables -/

/-- A row of `storage_cleanup_attempts`. -/
structure StorageCleanupRow where
  attemptToken : NamespaceToken
  preparedAtMs : Nat
  completedAtMs : Option Nat
  disposition : Option StorageCleanupDisposition
  plannedCandidateCount : Nat
  beforeCandidateCount : Nat
  beforeLogicalBytes : Nat
  removedCandidateCount : Option Nat
  afterCandidateCount : Option Nat
  afterLogicalBytes : Option Nat
  retainedNotPlannedCount : Option Nat
  planned_le : plannedCandidateCount ≤ beforeCandidateCount
  completed_le : ∀ t ∈ completedAtMs, preparedAtMs ≤ t
  ended : completedAtMs.isSome = disposition.isSome

/-- An attempt that is open has no time of completion to check. -/
theorem completed_le_none (preparedAt : Nat) : ∀ t ∈ (none : Option Nat), preparedAt ≤ t := by
  intro t ht
  cases ht

/-- The row with its end. -/
def StorageCleanupRow.settle (row : StorageCleanupRow) (completedAt : Nat)
    (h : row.preparedAtMs ≤ completedAt) (disposition : StorageCleanupDisposition)
    (removed afterCount afterBytes retained : Option Nat) : StorageCleanupRow :=
  { row with
    completedAtMs := some completedAt
    disposition := some disposition
    removedCandidateCount := removed
    afterCandidateCount := afterCount
    afterLogicalBytes := afterBytes
    retainedNotPlannedCount := retained
    completed_le := by simpa using h
    ended := rfl }

/-- Both tables; the observation is its time and its text. -/
structure StorageLedger where
  attempts : Table StorageCleanupRow
  latest : Option (Nat × List Char)

/-- What the caller of an attempt holds. -/
structure PreparedStorageCleanupAttempt where
  id : Nat
  attemptToken : NamespaceToken
  deriving DecidableEq

namespace StorageLedger

/-- Nothing prepared, nothing observed. -/
def empty : StorageLedger := ⟨.empty, none⟩

/-- The text of an observation, where it fits. -/
def payload (observation : StorageResidueObservation) : Except StoreError (List Char) := do
  require (byteLength observation.json ≤ maxStorageResidueObservationBytes)
    (.invalid "storage residue observation exceeds its storage bound")
  return observation.json

/-- An attempt that outlived its caller was delivered or not. -/
def finalizeUnknown (at_ : Nat) (row : StorageCleanupRow) : StorageCleanupRow :=
  if row.disposition = none then
    { row with
      completedAtMs := some (max at_ row.preparedAtMs)
      disposition := some .deliveryUnknown
      completed_le := by simp
      ended := rfl }
  else row

/-- `finalize_unknown_storage_cleanup_attempts`. -/
def finalizeUnknownStorageCleanupAttempts (l : StorageLedger) (at_ : Nat) :
    Except StoreError StorageLedger := do
  let attempts ← l.attempts.update fun _ row => .ok (finalizeUnknown at_ row)
  return { l with attempts := attempts }

/-- `begin_storage_cleanup_attempt`; `fresh` is the random token. -/
def beginStorageCleanupAttempt (l : StorageLedger) (preparedAtUnixMillis : Nat)
    (facts : StorageCleanupAttemptFacts) (fresh : NamespaceToken) :
    Except StoreError (StorageLedger × PreparedStorageCleanupAttempt) := do
  require (facts.plannedCandidateCount ≠ 0)
    (.invalid "a storage cleanup attempt must plan at least one candidate")
  require (facts.plannedCandidateCount ≤ facts.beforeCandidateCount)
    (.invalid "a storage cleanup plan cannot exceed the observed candidate set")
  let preparedAt ← sqliteMillis preparedAtUnixMillis "storage cleanup preparation timestamp"
  let planned ← sqliteMillis facts.plannedCandidateCount "storage cleanup planned candidate count"
  let beforeCount ← sqliteMillis facts.beforeCandidateCount
    "storage cleanup observed candidate count"
  let beforeBytes ← sqliteMillis facts.beforeLogicalBytes "storage cleanup observed logical bytes"
  let l ← l.finalizeUnknownStorageCleanupAttempts preparedAt
  require (l.attempts.entries.all (fun e => e.2.attemptToken != fresh) = true)
    (.sqlite "storage_cleanup_attempts")
  if h : planned ≤ beforeCount then
    let row : StorageCleanupRow :=
      ⟨fresh, preparedAt, none, none, planned, beforeCount, beforeBytes, none, none, none, none, h,
        completed_le_none preparedAt, rfl⟩
    return ({ l with attempts := l.attempts.insert row }, ⟨l.attempts.nextId, fresh⟩)
  else .error (.sqlite "storage_cleanup_attempts")

/-- What a result's counts have to say. -/
def validateCounts (result : StorageCleanupResultFacts) : Except StoreError Unit :=
  match result.disposition with
  | .complete | .partly =>
      match result.removedCandidateCount, result.afterCandidateCount, result.afterLogicalBytes,
        result.retainedNotPlannedCount with
      | some removed, some afterCount, some _, some retained => do
          require (removed = result.plannedCandidateCount)
            (.invalid ("a complete or partial storage cleanup result must remove every planned "
              ++ "candidate"))
          require (afterCount = if result.disposition = .complete then 0 else retained)
            (.invalid "a storage cleanup result must be internally consistent")
      | _, _, _, _ =>
          .error (.invalid "a complete or partial storage cleanup result requires proved counts")
  | .failed =>
      match result.removedCandidateCount, result.afterCandidateCount, result.afterLogicalBytes,
        result.retainedNotPlannedCount with
      | some removed, some afterCount, some _, some retained => do
          require (removed ≤ result.plannedCandidateCount)
            (.invalid "a storage cleanup result cannot remove unplanned candidates")
          let retainedPlanned := result.plannedCandidateCount - removed
          require (retainedPlanned ≤ afterCount ∧ afterCount - retainedPlanned = retained)
            (.invalid "a storage cleanup result must be internally consistent")
      | _, _, _, _ => .ok ()
  | .deliveryUnknown => .error (.invalid "delivery_unknown results are only recorded by recovery")

/-- A count that fits, where there is one. -/
def sqliteOption (value : Option Nat) (label : String) : Except StoreError (Option Nat) :=
  match value with
  | none => .ok none
  | some value => (sqliteMillis value label).map some

/-- The counts after are those of the observation. -/
def resultAgrees (result : StorageCleanupResultFacts) (observation : StorageResidueObservation) :
    Bool :=
  match result.afterCandidateCount, result.afterLogicalBytes with
  | some afterCount, some afterBytes =>
      afterCount == observation.candidateCount && afterBytes == observation.logicalBytes
  | _, _ => true

/-- The row is the open one of the handle, and its facts the result's. -/
def settlesRow (row : StorageCleanupRow) (prepared : PreparedStorageCleanupAttempt)
    (result : StorageCleanupResultFacts) : Bool :=
  row.attemptToken == prepared.attemptToken && row.disposition.isNone
    && row.plannedCandidateCount == result.plannedCandidateCount
    && row.beforeCandidateCount == result.beforeCandidateCount
    && row.beforeLogicalBytes == result.beforeLogicalBytes

/-- `complete_storage_cleanup_attempt`. -/
def completeStorageCleanupAttempt (l : StorageLedger) (prepared : PreparedStorageCleanupAttempt)
    (result : StorageCleanupResultFacts) (latestObservation : StorageResidueObservation) :
    Except StoreError StorageLedger := do
  require (latestObservation.kind = .chromeCodeSignClone)
    (.invalid "storage cleanup results must remain typed")
  let payloadJson ← payload latestObservation
  require (result.plannedCandidateCount ≤ result.beforeCandidateCount)
    (.invalid "a storage cleanup plan cannot exceed the observed candidate set")
  validateCounts result
  let removed ← sqliteOption result.removedCandidateCount "storage cleanup removed candidate count"
  let afterCount ← sqliteOption result.afterCandidateCount "storage cleanup after candidate count"
  let afterBytes ← sqliteOption result.afterLogicalBytes "storage cleanup after logical bytes"
  let retained ← sqliteOption result.retainedNotPlannedCount
    "storage cleanup retained candidate count"
  let _ ← sqliteMillis result.plannedCandidateCount "storage cleanup planned candidate count"
  let _ ← sqliteMillis result.beforeCandidateCount "storage cleanup observed candidate count"
  let _ ← sqliteMillis result.beforeLogicalBytes "storage cleanup observed logical bytes"
  require (resultAgrees result latestObservation = true)
    (.invalid "a storage cleanup result must agree with its latest residue observation")
  let completedAt ← sqliteMillis latestObservation.observedAtUnixMillis
    "storage cleanup completion timestamp"
  let row ← found ((l.attempts.get prepared.id).filter fun row => settlesRow row prepared result)
    (.invalid "storage cleanup attempt is not open or its result facts disagree with PREPARED")
  if h : row.preparedAtMs ≤ completedAt then
    let settled := row.settle completedAt h result.disposition removed afterCount afterBytes retained
    let attempts ← l.attempts.update fun id old => .ok (if id = prepared.id then settled else old)
    return { l with attempts := attempts, latest := some (completedAt, payloadJson) }
  else .error (.sqlite "storage_cleanup_attempts")

end StorageLedger

end Unlinger
