import Mathlib.Algebra.Group.Int.Defs
import Unlinger.Common.Interaction
import Unlinger.Common.Utf8
import Unlinger.Core.Model.Executor

/-!
# Runtime artifacts

`freeze` and `remove_exact` of `unlinger-macos/src/artifacts.rs`: the one
file of a browser profile that is removed with it, how it is told from any
other, and the quarantine it is moved through. Every system call is a call
of its own; names are relative to the profile directory, which is opened
first and stays open.

A function that returns early with a disposition throws it.
-/

namespace Unlinger

open Interaction

namespace Artifacts

/-! ## What is observed -/

/-- A name in the directory, as the system takes it. -/
abbrev Name := List UInt8

/-- The errors that are told apart. -/
inductive Errno
  | enoent
  | eexist
  | eloop
  | enotdir
  | eacces
  | eperm
  | eisdir
  | other (code : Int)
  deriving DecidableEq

/-- An error, with the text it displays as. -/
structure SystemError where
  errno : Errno
  text : String
  deriving DecidableEq

/-- The part of `stat` that is read. -/
structure Stat where
  dev : Int
  ino : Nat
  uid : Nat
  mode : Nat
  nlink : Nat
  deriving DecidableEq

/-- `Metadata::dev`, which is `st_dev as u64`. -/
def Stat.device (m : Stat) : Nat := (m.dev % 2 ^ 64).toNat

/-- What a name stands for. -/
structure Entry where
  stat : Stat
  hasAcl : Bool
  deriving DecidableEq

/-- An open file. The program only hands it back. -/
structure File where
  entry : Entry
  deriving DecidableEq

/-- How `renameatx_np` treats an entry in its way. -/
inductive RenameFlags
  | replace
  | excl
  deriving DecidableEq

/-- The system calls, and the caller's scan. -/
inductive Call
  | openDirectory (path : String)
  | fstat (file : File)
  | aclGetFd (file : File)
  | aclGetEntry (file : File)
  | aclFree
  | openat (name : Name)
  | fstatat (name : Name)
  | getentropy
  | renameatxNp (source target : Name) (flags : RenameFlags)
  | unlinkat (name : Name)
  | referenceScan (candidate : RuntimeArtifactCandidate) (expected : RuntimeArtifactIdentity)
      (path : String)
  deriving DecidableEq

/-- What they return; of `acl_get_entry`, whether the result is zero and
whether there is an entry. -/
abbrev Answer : Call → Type
  | .openDirectory _ => Except SystemError File
  | .fstat _ => Except SystemError Stat
  | .aclGetFd _ => Except SystemError Unit
  | .aclGetEntry _ => Bool × Bool
  | .aclFree => Bool
  | .openat _ => Except SystemError File
  | .fstatat _ => Except SystemError Stat
  | .getentropy => Option (Vector UInt8 16)
  | .renameatxNp _ _ _ => Except SystemError Unit
  | .unlinkat _ => Except SystemError Unit
  | .referenceScan _ _ _ => Except Unit Bool

variable {ε α : Type}

/-! ## Opening -/

/-- `S_IFMT`. -/
def fileType : Nat := 0o170000

/-- `S_IFREG`. -/
def regularFile : Nat := 0o100000

/-- `S_IFDIR`. -/
def directory : Nat := 0o040000

inductive OpenFailure
  | absent
  | unsafeEntry
  | runtime (error : RuntimeFailure)
  deriving DecidableEq

/-- `map_open_error`. -/
def mapOpenError (error : SystemError) : OpenFailure :=
  match error.errno with
  | .enoent => .absent
  | .eloop | .enotdir | .eacces | .eperm => .unsafeEntry
  | _ => .runtime ⟨"runtime artifact open failed: " ++ error.text⟩

/-- What an allocated list of entries comes to, behind `acl_free`. -/
def allocatedAcl (entry : Bool × Bool) (freed : Bool) : Except OpenFailure Bool :=
  if !entry.1 || !entry.2 || !freed then .error .unsafeEntry else .ok false

/-- `fd_has_empty_extended_acl`. -/
def fdHasEmptyExtendedAcl (file : File) : Prog Answer ε (Except OpenFailure Bool) := do
  match ← Prog.ask (Call.aclGetFd file) with
  | .error error =>
      -- no list at all is reported as one that is not there
      if error.errno = .enoent then return .ok true else return .error .unsafeEntry
  | .ok () =>
      let entry ← Prog.ask (Call.aclGetEntry file)
      let freed ← Prog.ask Call.aclFree
      return allocatedAcl entry freed

/-- A file is handed on where it has no list. -/
def withoutAcl (file : File) : Except OpenFailure Bool → Except OpenFailure File
  | .ok true => .ok file
  | .ok false => .error .unsafeEntry
  | .error failure => .error failure

/-- `open_safe_parent`. -/
def openSafeParent (uid : Nat) (path : String) (ownerUid : Nat) :
    Prog Answer ε (Except OpenFailure File) := do
  match ← Prog.ask (Call.openDirectory path) with
  | .error error => return .error (mapOpenError error)
  | .ok file =>
      match ← Prog.ask (Call.fstat file) with
      | .error error =>
          return .error (.runtime ⟨"artifact parent metadata failed: " ++ error.text⟩)
      | .ok metadata =>
          if metadata.mode &&& fileType ≠ directory ∨ metadata.uid ≠ ownerUid ∨ ownerUid ≠ uid
              ∨ metadata.mode &&& 0o077 ≠ 0 then
            return .error .unsafeEntry
          else
            return withoutAcl file (← fdHasEmptyExtendedAcl file)

/-- `open_named_candidate`. -/
def openNamedCandidate (name : Name) : Prog Answer ε (Except OpenFailure File) := do
  match ← Prog.ask (Call.openat name) with
  | .error error => return .error (mapOpenError error)
  | .ok file => return withoutAcl file (← fdHasEmptyExtendedAcl file)

/-- `devtools_active_port_name`. -/
def devtoolsActivePortName : Name := Text.bytes "DevToolsActivePort"

/-- `open_candidate`. -/
def openCandidate : Prog Answer ε (Except OpenFailure File) :=
  openNamedCandidate devtoolsActivePortName

/-! ## Telling files apart -/

/-- `safe_candidate_metadata`. -/
def safeCandidateMetadata (uid : Nat) (metadata : Stat) (ownerUid parentDevice : Nat) : Bool :=
  metadata.mode &&& fileType == regularFile && metadata.uid == ownerUid && ownerUid == uid
    && metadata.mode &&& 0o022 == 0 && metadata.nlink == 1 && metadata.device == parentDevice

/-- `same_candidate_identity`. -/
def sameCandidateIdentity (uid : Nat) (metadata : Stat) (expected : RuntimeArtifactIdentity) :
    Bool :=
  safeCandidateMetadata uid metadata expected.ownerUid expected.parentDevice
    && metadata.device == expected.device && metadata.ino == expected.inode
    && metadata.uid == expected.ownerUid && metadata.mode == expected.mode
    && metadata.nlink == expected.linkCount

/-- What `fstatat_named_matches` compares. -/
def statMatches (expected : RuntimeArtifactIdentity) (stat : Stat) : Bool :=
  0 ≤ stat.dev && stat.dev == (expected.device : Int) && stat.ino == expected.inode
    && stat.uid == expected.ownerUid && stat.mode == expected.mode
    && stat.nlink == expected.linkCount && stat.mode &&& fileType == regularFile

/-- `fstatat_named_matches`. -/
def fstatatNamedMatches (name : Name) (expected : RuntimeArtifactIdentity) :
    Prog Answer ε Bool := do
  match ← Prog.ask (Call.fstatat name) with
  | .error _ => return false
  | .ok stat => return statMatches expected stat

/-- `fstatat_matches`. -/
def fstatatMatches (expected : RuntimeArtifactIdentity) : Prog Answer ε Bool :=
  fstatatNamedMatches devtoolsActivePortName expected

/-! ## Freezing -/

/-- A candidate of the kind that is removed, of the user who runs this. -/
def Owned (uid : Nat) (candidate : RuntimeArtifactCandidate) : Prop :=
  candidate.kind = .devToolsActivePort ∧ candidate.ownerUid ≠ 0 ∧ candidate.ownerUid = uid

instance {uid : Nat} {candidate : RuntimeArtifactCandidate} : Decidable (Owned uid candidate) :=
  inferInstanceAs (Decidable (_ ∧ _ ∧ _))

/-- What a file in a directory is frozen as. -/
def frozenIdentity (parent metadata : Stat) : RuntimeArtifactIdentity where
  device := metadata.device
  inode := metadata.ino
  ownerUid := metadata.uid
  mode := metadata.mode
  linkCount := metadata.nlink
  parentDevice := parent.device
  parentInode := parent.ino
  parentOwnerUid := parent.uid
  parentMode := parent.mode

/-- A file, frozen where it is safe. -/
def freezeFile (uid : Nat) (candidate : RuntimeArtifactCandidate) (parent metadata : Stat) :
    ArtifactFreeze :=
  if safeCandidateMetadata uid metadata candidate.ownerUid parent.device = true then
    .frozen ⟨candidate, frozenIdentity parent metadata⟩
  else .unsafeArtifact

/-- The part of `freeze` in an open directory. -/
def freezeIn (uid : Nat) (candidate : RuntimeArtifactCandidate) (parent : File) :
    Prog Answer RuntimeFailure ArtifactFreeze := do
  match ← Prog.ask (Call.fstat parent) with
  | .error error => .throw ⟨"artifact parent metadata failed: " ++ error.text⟩
  | .ok parentMetadata =>
      match ← openCandidate with
      | .error .absent => return .absent
      | .error .unsafeEntry => return .unsafeArtifact
      | .error (.runtime error) => .throw error
      | .ok file =>
          match ← Prog.ask (Call.fstat file) with
          | .error error => .throw ⟨"artifact metadata failed: " ++ error.text⟩
          | .ok metadata => return freezeFile uid candidate parentMetadata metadata

/-- `freeze`. -/
def freeze (uid : Nat) (candidate : RuntimeArtifactCandidate) :
    Prog Answer RuntimeFailure ArtifactFreeze := do
  if ¬ Owned uid candidate then return .unsafeArtifact
  else
    match ← openSafeParent uid candidate.profilePath candidate.ownerUid with
    | .error .unsafeEntry | .error .absent => return .unsafeArtifact
    | .error (.runtime error) => .throw error
    | .ok parent => freezeIn uid candidate parent

/-! ## Removal -/

/-- A part of the removal; an error is the disposition it returns early. -/
abbrev Removal (α : Type) := Prog Answer ArtifactDisposition α

/-- The disposition, wherever it was returned. -/
def returned : Except ArtifactDisposition ArtifactDisposition → ArtifactDisposition
  | .ok d => d
  | .error d => d

/-- Return `d` where `p` does not hold. -/
def demand (p : Prop) [Decidable p] (d : ArtifactDisposition) : Removal Unit :=
  if p then pure () else .throw d

/-- The file, or what failing to open it comes to. -/
def opened (absent : ArtifactDisposition) :
    Except OpenFailure File → Except ArtifactDisposition File
  | .ok file => .ok file
  | .error .absent => .error absent
  | .error .unsafeEntry => .error .unsafeArtifact
  | .error (.runtime _) => .error .rejected

/-- The parent is the one that was frozen. -/
def SameParent (metadata : Stat) (expected : RuntimeArtifactIdentity) : Prop :=
  metadata.device = expected.parentDevice ∧ metadata.ino = expected.parentInode
    ∧ metadata.uid = expected.parentOwnerUid ∧ metadata.mode = expected.parentMode

instance {metadata : Stat} {expected : RuntimeArtifactIdentity} :
    Decidable (SameParent metadata expected) :=
  inferInstanceAs (Decidable (_ ∧ _ ∧ _ ∧ _))

/-- The first and the second look at the candidate. -/
def inspectCandidate (uid : Nat) (expected : RuntimeArtifactIdentity) : Removal Unit := do
  let file ← Prog.orThrow id (opened .alreadyAbsent (← openCandidate))
  let metadata ← Prog.orThrow (fun _ => .rejected) (← Prog.ask (Call.fstat file))
  demand (sameCandidateIdentity uid metadata expected = true) .identityMismatch

/-- `QUARANTINE_PREFIX`. -/
def quarantinePrefix : String := ".unlinger-artifact-quarantine-"

/-- `QUARANTINE_ATTEMPTS`. -/
def quarantineAttempts : Nat := 4

/-- The name of a quarantine, from its random bytes. -/
def quarantineName (random : Vector UInt8 16) : String :=
  quarantinePrefix ++ String.ofList (random.toList.flatMap fun byte => hexDigits 2 byte.toNat)

/-- `random_quarantine_name`; a name with a NUL in it would be none. -/
def randomQuarantineName : Option (Vector UInt8 16) → Option Name
  | none => none
  | some random =>
      if 0 ∈ Text.bytes (quarantineName random) then none
      else some (Text.bytes (quarantineName random))

/-- What a failed rename or restore comes to, where the error does not say
more. -/
def renameFailure (errno : Errno) : ArtifactDisposition :=
  match errno with
  | .eisdir | .eperm | .eloop | .enotdir => .unsafeArtifact
  | _ => .rejected

/-- `quarantine_candidate`, so many attempts at it. -/
def quarantineCandidate : Nat → Removal Name
  | 0 => .throw .rejected
  | attempts + 1 => do
      match randomQuarantineName (← Prog.ask Call.getentropy) with
      | none => .throw .rejected
      | some quarantine =>
          match ← Prog.ask (Call.renameatxNp devtoolsActivePortName quarantine .excl) with
          | .ok () => return quarantine
          | .error error =>
              if error.errno = .eexist then quarantineCandidate attempts
              else if error.errno = .enoent then .throw .alreadyAbsent
              else .throw (renameFailure error.errno)

/-- `restore_quarantined_entry`. -/
def restoreQuarantinedEntry (quarantine : Name) : Removal Unit := do
  match ← Prog.ask (Call.renameatxNp quarantine devtoolsActivePortName .excl) with
  | .ok () => return ()
  | .error error =>
      if error.errno = .eexist ∨ error.errno = .enoent then .throw .identityMismatch
      else .throw (renameFailure error.errno)

/-- `fail_after_restoring_quarantined_entry`. -/
def failAfterRestoringQuarantinedEntry (quarantine : Name) (failure : ArtifactDisposition) :
    Removal α := do
  restoreQuarantinedEntry quarantine
  .throw failure

/-- The entry that was moved is the one that was frozen, or goes back. -/
def verifyQuarantined (uid : Nat) (expected : RuntimeArtifactIdentity) (quarantine : Name) :
    Removal Unit := do
  match opened .identityMismatch (← openNamedCandidate quarantine) with
  | .error failure => failAfterRestoringQuarantinedEntry quarantine failure
  | .ok quarantined =>
      match ← Prog.ask (Call.fstat quarantined) with
      | .error _ => failAfterRestoringQuarantinedEntry quarantine .rejected
      | .ok metadata =>
          if sameCandidateIdentity uid metadata expected = true then
            if (← fstatatNamedMatches quarantine expected) = true then return ()
            else failAfterRestoringQuarantinedEntry quarantine .identityMismatch
          else failAfterRestoringQuarantinedEntry quarantine .identityMismatch

/-- `restore_quarantined_exact`. -/
def restoreQuarantinedExact (uid : Nat) (expected : RuntimeArtifactIdentity) (quarantine : Name) :
    Removal Unit := do
  let quarantined ← Prog.orThrow id (opened .identityMismatch (← openNamedCandidate quarantine))
  let metadata ← Prog.orThrow (fun _ => .rejected) (← Prog.ask (Call.fstat quarantined))
  demand (sameCandidateIdentity uid metadata expected = true) .identityMismatch
  demand ((← fstatatNamedMatches quarantine expected) = true) .identityMismatch
  restoreQuarantinedEntry quarantine
  let metadata ← Prog.orThrow (fun _ => .rejected) (← Prog.ask (Call.fstat quarantined))
  demand (sameCandidateIdentity uid metadata expected = true) .identityMismatch
  demand ((← fstatatMatches expected) = true) .identityMismatch

/-- `canonical_entry_absent`; an entry that is there ends the removal. -/
def canonicalEntryAbsent : Removal Unit := do
  match ← Prog.ask (Call.fstatat devtoolsActivePortName) with
  | .ok _ => .throw .identityMismatch
  | .error error =>
      match error.errno with
      | .enoent => return ()
      | .eacces | .eperm | .eloop | .enotdir => .throw .unsafeArtifact
      | _ => .throw .rejected

/-- What a failed `unlinkat` comes to. -/
def unlinkFailure (errno : Errno) : ArtifactDisposition :=
  match errno with
  | .eisdir | .eperm | .eloop => .unsafeArtifact
  | _ => .rejected

/-- Reopen, compare again, and unlink. -/
def unlinkQuarantined (uid : Nat) (expected : RuntimeArtifactIdentity) (quarantine : Name) :
    Removal ArtifactDisposition := do
  let quarantined ← Prog.orThrow id (opened .identityMismatch (← openNamedCandidate quarantine))
  let metadata ← Prog.orThrow (fun _ => .rejected) (← Prog.ask (Call.fstat quarantined))
  demand (sameCandidateIdentity uid metadata expected = true) .identityMismatch
  demand ((← fstatatNamedMatches quarantine expected) = true) .identityMismatch
  canonicalEntryAbsent
  match ← Prog.ask (Call.unlinkat quarantine) with
  | .ok () => return .removed
  | .error error => .throw (unlinkFailure error.errno)

/-- The second scan, of the quarantined entry, and what follows it. -/
def removeQuarantined (uid : Nat) (frozen : FrozenRuntimeArtifact) (quarantine : Name) :
    Removal ArtifactDisposition := do
  match Utf8.decode quarantine with
  | none =>
      restoreQuarantinedExact uid frozen.identity quarantine
      .throw .unsafeArtifact
  | some component =>
      match ← Prog.ask (Call.referenceScan frozen.candidate frozen.identity
          (Text.joinPath frozen.candidate.profilePath component)) with
      | .ok true =>
          restoreQuarantinedExact uid frozen.identity quarantine
          .throw .referenced
      | .error () =>
          restoreQuarantinedExact uid frozen.identity quarantine
          .throw .unsafeArtifact
      | .ok false => unlinkQuarantined uid frozen.identity quarantine

/-- The first scan: a reference, or an error, ends the removal. -/
def scanned : Except Unit Bool → Except ArtifactDisposition Unit
  | .ok true => .error .referenced
  | .ok false => .ok ()
  | .error () => .error .unsafeArtifact

/-- `remove_exact_with_hooks`. -/
def removeExact (uid : Nat) (frozen : FrozenRuntimeArtifact) : Removal ArtifactDisposition := do
  demand (Owned uid frozen.candidate ∧ frozen.identity.ownerUid = uid) .unsafeArtifact
  let parent ← Prog.orThrow (fun _ => .unsafeArtifact)
    (← openSafeParent uid frozen.candidate.profilePath frozen.candidate.ownerUid)
  let parentMetadata ← Prog.orThrow (fun _ => .rejected) (← Prog.ask (Call.fstat parent))
  demand (SameParent parentMetadata frozen.identity) .identityMismatch
  inspectCandidate uid frozen.identity
  Prog.orThrow id (scanned (← Prog.ask (Call.referenceScan frozen.candidate frozen.identity
    frozen.candidate.artifactPath)))
  inspectCandidate uid frozen.identity
  demand ((← fstatatMatches frozen.identity) = true) .identityMismatch
  let quarantine ← quarantineCandidate quarantineAttempts
  verifyQuarantined uid frozen.identity quarantine
  removeQuarantined uid frozen quarantine

end Artifacts

end Unlinger
