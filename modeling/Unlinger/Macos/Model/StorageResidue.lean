import Mathlib.Algebra.GroupWithZero.Nat
import Mathlib.Data.List.Sort
import Unlinger.Core.Model.Process

/-!
# Clones left behind

The storage residue of `unlinger-core/src/storage_residue.rs` and the
scanner and the cleanup of `unlinger-macos/src/storage_residue.rs`: a scan
of the directory in which Chrome leaves its code sign clones, the gate each
process of a snapshot holds against a candidate, and one reconciliation,
which remembers the candidates it saw and removes those it saw before.

The file system is what it answers: the directory at the first scan and at
the second, and the canonical form of its path. The caller's `run_cleanup`
is what it does with the action it is given: how often it calls it, and
what it returns.
-/

namespace Unlinger

/-! ## Observations -/

/-- The families of residue; there is one. -/
inductive StorageResidueKind
  | chromeCodeSignClone
  deriving DecidableEq

/-- What a scan found. -/
inductive StorageResidueStatus
  | clear
  | detected
  | unavailable
  deriving DecidableEq

/-- What is known of the processes that use a candidate. -/
inductive StorageResidueReferenceCheck
  | incomplete
  | completeNoReferences
  | referenced
  deriving DecidableEq

/-- One observation of the residue. -/
structure StorageResidueObservation where
  kind : StorageResidueKind := .chromeCodeSignClone
  status : StorageResidueStatus
  observedAtUnixMillis : Nat
  candidateCount : Nat
  logicalBytes : Nat
  shapeComplete : Bool
  referenceCheck : StorageResidueReferenceCheck := .incomplete
  automaticCleanupEligible : Bool := false
  reasonIds : List String
  deriving DecidableEq

/-- What an attempt sets out to do. -/
structure StorageCleanupAttemptFacts where
  plannedCandidateCount : Nat
  beforeCandidateCount : Nat
  beforeLogicalBytes : Nat
  deriving DecidableEq

/-- How an attempt ended. -/
inductive StorageCleanupDisposition
  | complete
  | partly
  | failed
  | deliveryUnknown
  deriving DecidableEq

/-- What an attempt did. -/
structure StorageCleanupResultFacts where
  disposition : StorageCleanupDisposition
  plannedCandidateCount : Nat
  beforeCandidateCount : Nat
  beforeLogicalBytes : Nat
  removedCandidateCount : Option Nat
  afterCandidateCount : Option Nat
  afterLogicalBytes : Option Nat
  retainedNotPlannedCount : Option Nat
  deriving DecidableEq

/-! ## Scans -/

/-- `CLONE_PREFIX`. -/
def clonePrefix : String := "code_sign_clone."

/-- Six ASCII letters or digits. -/
def validCloneSuffix (suffix : String) : Bool :=
  (Text.bytes suffix).length == 6 && suffix.toList.all Char.isAlphanum

/-- The name Chrome gives a clone. -/
def validCloneName (name : String) : Bool := (Text.stripPrefix name clonePrefix).any validCloneSuffix

/-- One clone: the scanner takes no other names. -/
structure CloneCandidateIdentity where
  name : String
  device : Nat
  inode : Nat
  valid : validCloneName name = true
  deriving DecidableEq

/-- What follows the prefix in the name. -/
def CloneCandidateIdentity.suffix (c : CloneCandidateIdentity) : Option String :=
  Text.stripPrefix c.name clonePrefix

/-- The name of an entry: text, or bytes that are none. -/
inductive EntryName
  | text (name : String)
  | undecodable (bytes : List UInt8)
  deriving DecidableEq

/-- The bytes entries are ordered by. -/
def EntryName.bytes : EntryName → List UInt8
  | .text name => Text.bytes name
  | .undecodable bytes => bytes

/-- Of an opened directory: it is the user's own, and which one it is. -/
structure CloneMetadata where
  owned : Bool
  device : Nat
  inode : Nat
  deriving DecidableEq

/-- An entry as the scanner looks at it: whether it opens as a directory,
its metadata, whether there is a bundle in it, and the bytes of its tree. -/
structure CloneEntry where
  name : EntryName
  opened : Bool
  metadata : Option CloneMetadata
  bundled : Bool
  treeBytes : Option Nat
  deriving DecidableEq

/-- What a directory lists; it has a name once. -/
structure Listing where
  entries : List CloneEntry
  nodup : (entries.map CloneEntry.name).Nodup

/-- The clone root as a scan finds it. -/
inductive CloneRoot
  | absent
  | unreadable
  | found (directory owned : Bool) (listing : Option Listing)

/-- The observation of a root that could not be read. -/
def unavailable (observedAt : Nat) (reasonId : String) : StorageResidueObservation :=
  { status := .unavailable
    observedAtUnixMillis := observedAt
    candidateCount := 0
    logicalBytes := 0
    shapeComplete := false
    reasonIds := [reasonId] }

/-- What one scan found. -/
structure CloneScan where
  observation : StorageResidueObservation
  candidates : List CloneCandidateIdentity
  deriving DecidableEq

/-- One entry of the root, and the bytes up to it; the reason where its
shape is not a clone's. -/
def scanEntry (logicalBytes : Nat) (entry : CloneEntry) :
    Except String (CloneCandidateIdentity × Nat) :=
  match entry.name with
  | .undecodable _ => .error "storage_residue.clone_shape_unexpected"
  | .text name =>
      if h : validCloneName name = true then
        if entry.opened then
          match entry.metadata with
          | none => .error "storage_residue.clone_shape_unexpected"
          | some metadata =>
              if !metadata.owned || !entry.bundled then
                .error "storage_residue.clone_shape_unexpected"
              else
                match entry.treeBytes with
                | none => .error "storage_residue.clone_tree_unreadable"
                | some bytes =>
                    if logicalBytes + bytes < 2 ^ 64 then
                      .ok (⟨name, metadata.device, metadata.inode, h⟩, logicalBytes + bytes)
                    else .error "storage_residue.logical_size_overflow"
        else .error "storage_residue.clone_shape_unexpected"
      else .error "storage_residue.clone_shape_unexpected"

/-- The entries one after another; the first that is no clone ends it. -/
def scanEntries : List CloneEntry → Nat → List CloneCandidateIdentity →
    Except String (List CloneCandidateIdentity × Nat)
  | [], logicalBytes, candidates => .ok (candidates, logicalBytes)
  | entry :: entries, logicalBytes, candidates =>
      match scanEntry logicalBytes entry with
      | .error reason => .error reason
      | .ok (candidate, total) => scanEntries entries total (candidates ++ [candidate])

/-- The entries in the order of their names' bytes. -/
def sortedEntries (entries : List CloneEntry) : List CloneEntry :=
  entries.insertionSort fun a b => a.name.bytes ≤ b.name.bytes

/-- The observation of a root all of whose entries are clones. -/
def observeClones (observedAt : Nat) (candidates : List CloneCandidateIdentity)
    (logicalBytes : Nat) : StorageResidueObservation :=
  { status := if candidates.length = 0 then .clear else .detected
    observedAtUnixMillis := observedAt
    candidateCount := candidates.length
    logicalBytes := logicalBytes
    shapeComplete := true
    reasonIds :=
      if candidates.length = 0 then ["storage_residue.code_sign_clone_empty"]
      else ["storage_residue.code_sign_clone_detected",
        "storage_residue.logical_size_not_physical_reclaim",
        "storage_residue.reference_check_incomplete"] }

/-- One scan of the clone root: all of it is clones, or none is a
candidate. -/
def scanCodeSignCloneRoot (root : CloneRoot) (observedAt : Nat) : CloneScan :=
  match root with
  | .absent =>
      { observation :=
          { status := .clear
            observedAtUnixMillis := observedAt
            candidateCount := 0
            logicalBytes := 0
            shapeComplete := true
            reasonIds := ["storage_residue.code_sign_clone_absent"] }
        candidates := [] }
  | .unreadable => ⟨unavailable observedAt "storage_residue.clone_root_unreadable", []⟩
  | .found directory owned listing =>
      if !directory || !owned then ⟨unavailable observedAt "storage_residue.clone_root_unsafe", []⟩
      else
        match listing with
        | none => ⟨unavailable observedAt "storage_residue.clone_root_unreadable", []⟩
        | some listing =>
            match scanEntries (sortedEntries listing.entries) 0 [] with
            | .error reason => ⟨unavailable observedAt reason, []⟩
            | .ok (candidates, logicalBytes) =>
                ⟨observeClones observedAt candidates logicalBytes, candidates⟩

/-! ## Processes -/

/-- What the processes say about a candidate. -/
inductive ProcessGate
  | clear
  | candidatePathReferenced
  | cleanupHelperActive
  | incomplete
  deriving DecidableEq

/-- `CLONE_CLEANUP_TYPE_ARGUMENT`. -/
def cloneCleanupTypeArgument : String := "--type=code-sign-clone-cleanup"

/-- `CLONE_CLEANUP_SUFFIX_ARGUMENT_PREFIX`. -/
def cloneCleanupSuffixArgumentPrefix : String := "--unique-temp-dir-suffix="

/-- The process is told to clean a clone up. -/
def hasCleanupType (p : ProcessRecord) : Bool :=
  p.arguments.any fun arguments => arguments.any (· == cloneCleanupTypeArgument)

/-- Chrome or one of its helpers, by the bundle. -/
def isBundleConfirmedChromeProcess (p : ProcessRecord) : Bool :=
  p.runtime.appBundle.any fun bundle =>
    bundle.bundleId == "com.google.Chrome" || bundle.bundleId == "com.google.Chrome.helper"
      || Text.startsWith bundle.bundleId "com.google.Chrome.helper."

/-- Chrome's own clone cleanup. -/
def isCloneCleanupHelper (p : ProcessRecord) : Bool :=
  isBundleConfirmedChromeProcess p && hasCleanupType p

/-- The one suffix a helper is given; an error where it is given none, an
invalid one or several. -/
def cloneCleanupHelperSuffix (p : ProcessRecord) : Option (Except Unit String) :=
  if !isCloneCleanupHelper p then none
  else
    match (p.arguments.getD []).filterMap (Text.stripPrefix · cloneCleanupSuffixArgumentPrefix) with
    | [] => some (.error ())
    | [suffix] => if validCloneSuffix suffix then some (.ok suffix) else some (.error ())
    | _ :: _ :: _ => some (.error ())

/-- The path is in the candidate, below the root or its canonical form. -/
def insideCandidate (root canonicalRoot path : String) (c : CloneCandidateIdentity) : Bool :=
  [root, canonicalRoot].any fun candidateRoot =>
    Text.pathStartsWith path (Text.joinPath candidateRoot c.name)

/-- The executable path and the arguments of a process. -/
def processPaths (p : ProcessRecord) : List String :=
  p.executablePath.toList ++ p.arguments.getD []

/-- A path of the process is in the candidate. -/
def processReferencesCandidatePath (p : ProcessRecord) (root canonicalRoot : String)
    (c : CloneCandidateIdentity) : Bool :=
  ((processPaths p).filter Text.isAbsolute).any fun path => insideCandidate root canonicalRoot path c

/-- The executable of the process is in the candidate. -/
def processExecutableReferencesCandidate (p : ProcessRecord) (root canonicalRoot : String)
    (c : CloneCandidateIdentity) : Bool :=
  p.executablePath.any fun path => insideCandidate root canonicalRoot path c

/-- A browser that runs from a clone: its bundle is not needed. -/
def missingBundleIsAccountedForByLiveCloneMain (p : ProcessRecord)
    (executableCandidateReference : Bool) : Bool :=
  executableCandidateReference && p.executableBasename == "Google Chrome" && !hasCleanupType p

/-- The process looks like Chrome. -/
def mayBeChromeProcess (p : ProcessRecord) : Bool :=
  p.executableBasename == "Google Chrome" || p.executableBasename == "Google Chrome Helper"
    || hasCleanupType p

/-- One process against all candidates; `none` where it leaves everything
open. -/
def gateProcess (root canonicalRoot : String) (candidates : List CloneCandidateIdentity)
    (gates : List ProcessGate) (p : ProcessRecord) : Option (List ProcessGate) :=
  let referenced := candidates.zipWith (fun c gate =>
    if processReferencesCandidatePath p root canonicalRoot c then .candidatePathReferenced
    else gate) gates
  if mayBeChromeProcess p && p.runtime.appBundle.isNone
      && !missingBundleIsAccountedForByLiveCloneMain p (candidates.any fun c =>
        processExecutableReferencesCandidate p root canonicalRoot c) then none
  else
    match cloneCleanupHelperSuffix p with
    | some (.ok suffix) =>
        match candidates.findIdx? fun c => c.suffix == some suffix with
        | some index => some (referenced.set index .cleanupHelperActive)
        | none => some referenced
    | none => some referenced
    | some (.error _) => none

/-- The processes one after another. -/
def gateProcesses (root canonicalRoot : String) (candidates : List CloneCandidateIdentity) :
    List ProcessRecord → List ProcessGate → Option (List ProcessGate)
  | [], gates => some gates
  | p :: processes, gates =>
      match gateProcess root canonicalRoot candidates gates p with
      | none => none
      | some gates => gateProcesses root canonicalRoot candidates processes gates

/-- The gate of every candidate. -/
def processGates (snapshot : Option Snapshot) (root : String) (canonicalRoot : Option String)
    (candidates : List CloneCandidateIdentity) : List ProcessGate :=
  let incomplete := candidates.map fun _ => ProcessGate.incomplete
  match snapshot with
  | none => incomplete
  | some snapshot =>
      if !snapshot.provesCompleteClassificationCoverage then incomplete
      else
        match canonicalRoot with
        | none => incomplete
        | some canonicalRoot =>
            (gateProcesses root canonicalRoot candidates snapshot.processes
              (candidates.map fun _ => ProcessGate.clear)).getD incomplete

/-- What the gates say, as the observation reports it. -/
def applyProcessGates (observation : StorageResidueObservation) (gates : List ProcessGate) :
    StorageResidueObservation :=
  let reasons := observation.reasonIds.filter
    fun reason => reason != "storage_residue.reference_check_incomplete"
  if gates.contains .incomplete then
    { observation with
      referenceCheck := .incomplete
      reasonIds := reasons ++ ["storage_residue.process_observation_incomplete"] }
  else if gates.all (· == .clear) then
    { observation with
      referenceCheck := .completeNoReferences
      reasonIds := reasons ++ ["storage_residue.no_live_clone_references"] }
  else
    { observation with
      referenceCheck := .referenced
      reasonIds := reasons
        ++ (if gates.contains .candidatePathReferenced then
          ["storage_residue.clone_candidate_path_referenced"] else [])
        ++ (if gates.contains .cleanupHelperActive then
          ["storage_residue.clone_cleanup_helper_active"] else []) }

/-! ## Reconciliation -/

/-- What the daemon lets the cleanup do. -/
inductive ChromeCloneCleanupMode
  | reportOnly
  | enforce
  | lifecycleBlocked
  deriving DecidableEq

/-- The result of a native call. -/
abbrev NativeResult := Except String Unit

/-- What `run_cleanup` does with the action it is given: the results of
the action, one for each time it calls it, and what it returns. -/
structure CleanupRun where
  actions : List NativeResult
  returned : Option NativeResult

/-- One call of `reconcile_root_guarded`, with the answers it gets. -/
structure CloneCall where
  root : String
  observedAtUnixMillis : Nat
  snapshot : Option Snapshot
  mode : ChromeCloneCleanupMode
  directory : CloneRoot
  canonicalRoot : Option String
  runCleanup : StorageCleanupAttemptFacts → CleanupRun
  directoryAfter : CloneRoot
  canonicalRootAfter : Option String

/-- The observation, and the result of a deletion that ran. -/
structure ChromeCloneReconciliation where
  observation : StorageResidueObservation
  cleanup : Option StorageCleanupResultFacts
  deriving DecidableEq

/-- What `run_cleanup` was handed, and the calls of the remover it made
through the action. -/
structure HandedCleanup where
  attempt : StorageCleanupAttemptFacts
  planned : List CloneCandidateIdentity
  removals : List (List CloneCandidateIdentity)
  deriving DecidableEq

/-- One reconciliation: the candidates it remembers, what it returns, the
scans it made, and what it handed out. -/
structure CloneReconciled where
  previousCandidates : Option (List CloneCandidateIdentity)
  reconciliation : ChromeCloneReconciliation
  scans : List CloneScan
  handed : Option HandedCleanup
  deriving DecidableEq

/-- The candidates seen before. -/
def stableCandidates (previous : Option (List CloneCandidateIdentity))
    (identities : List CloneCandidateIdentity) : List CloneCandidateIdentity :=
  identities.filter fun c => previous.any fun previous => previous.contains c

/-- The stable candidates no process holds. -/
def removableCandidates (stable identities : List CloneCandidateIdentity)
    (gates : List ProcessGate) : List CloneCandidateIdentity :=
  ((identities.zip gates).filter fun pair => stable.contains pair.1 && pair.2 == .clear).map Prod.fst

/-- A reason more. -/
def StorageResidueObservation.because (observation : StorageResidueObservation) (reason : String) :
    StorageResidueObservation :=
  { observation with reasonIds := observation.reasonIds ++ [reason] }

/-- The observation after a deletion, with the gates of what is left. -/
def resultObservation (call : CloneCall) (stable : List CloneCandidateIdentity) (after : CloneScan) :
    StorageResidueObservation :=
  if after.observation.status = .detected then
    let gates := processGates call.snapshot call.root call.canonicalRootAfter after.candidates
    let gated := { applyProcessGates after.observation gates with
      automaticCleanupEligible :=
        (after.candidates.zip gates).any fun pair => stable.contains pair.1 && pair.2 == .clear }
    if after.candidates.any (fun c => !stable.contains c) then
      gated.because "storage_residue.cleanup_waiting_for_stability"
    else gated
  else after.observation

/-- What a deletion that ran is settled with, from the rescan after it. -/
def settleCleanup (call : CloneCall) (stable removable : List CloneCandidateIdentity)
    (attempt : StorageCleanupAttemptFacts) (removal : NativeResult) (after : CloneScan) :
    ChromeCloneReconciliation :=
  let plannedAbsent := removable.all fun c => !after.candidates.contains c
  let removed := (removable.filter fun c => !after.candidates.contains c).length
  let provesShape := after.observation.shapeComplete && after.observation.status != .unavailable
  let result := resultObservation call stable after
  let succeeded := removal.isOk && provesShape && plannedAbsent
  let counted := fun value : Nat => if provesShape then some value else none
  { observation := result.because
      (if succeeded then
        if result.status = .clear then "storage_residue.automatic_cleanup_completed"
        else "storage_residue.automatic_cleanup_partial"
      else "storage_residue.automatic_cleanup_failed")
    cleanup := some
      { disposition :=
          if succeeded then if result.status = .clear then .complete else .partly else .failed
        plannedCandidateCount := attempt.plannedCandidateCount
        beforeCandidateCount := attempt.beforeCandidateCount
        beforeLogicalBytes := attempt.beforeLogicalBytes
        removedCandidateCount := counted removed
        afterCandidateCount := counted result.candidateCount
        afterLogicalBytes := counted result.logicalBytes
        retainedNotPlannedCount := counted (result.candidateCount - (removable.length - removed)) } }

/-- One reconciliation of the clone root. -/
def reconcileRootGuarded (previous : Option (List CloneCandidateIdentity)) (call : CloneCall) :
    CloneReconciled :=
  let scan := scanCodeSignCloneRoot call.directory call.observedAtUnixMillis
  if scan.observation.status ≠ .detected then ⟨none, ⟨scan.observation, none⟩, [scan], none⟩
  else
    let identities := scan.candidates
    let stable := stableCandidates previous identities
    let gates := processGates call.snapshot call.root call.canonicalRoot identities
    let gated := applyProcessGates scan.observation gates
    let observation :=
      if stable.length ≠ identities.length then
        gated.because "storage_residue.cleanup_waiting_for_stability"
      else gated
    let removable := removableCandidates stable identities gates
    if removable.isEmpty then ⟨some identities, ⟨observation, none⟩, [scan], none⟩
    else
      match call.mode with
      | .lifecycleBlocked =>
          ⟨some identities, ⟨observation.because "storage_residue.cleanup_lifecycle_blocked", none⟩,
            [scan], none⟩
      | .reportOnly =>
          ⟨some identities, ⟨{ observation with automaticCleanupEligible := true }.because
            "storage_residue.cleanup_report_only", none⟩, [scan], none⟩
      | .enforce =>
          let attempt : StorageCleanupAttemptFacts :=
            ⟨removable.length, observation.candidateCount, observation.logicalBytes⟩
          let run := call.runCleanup attempt
          let handed : HandedCleanup := ⟨attempt, removable, run.actions.map fun _ => removable⟩
          match run.returned with
          | none =>
              ⟨some identities, ⟨{ observation with automaticCleanupEligible := false }.because
                "storage_residue.cleanup_lifecycle_blocked", none⟩, [scan], some handed⟩
          | some removal =>
              let after := scanCodeSignCloneRoot call.directoryAfter call.observedAtUnixMillis
              ⟨if after.observation.status = .detected then some after.candidates else none,
                settleCleanup call stable removable attempt removal after, [scan, after], some handed⟩

/-- The candidates remembered after some calls of a new cleanup. -/
def remembered (calls : List CloneCall) : Option (List CloneCandidateIdentity) :=
  calls.foldl (fun previous call => (reconcileRootGuarded previous call).previousCandidates) none

end Unlinger
