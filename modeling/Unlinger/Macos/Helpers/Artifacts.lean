import Mathlib.Logic.Function.Basic
import Unlinger.Common.Framing
import Unlinger.Common.Shared
import Unlinger.Macos.Model.Artifacts

/-!
# The profile directory

The directory an artifact is removed from: a map from names to entries. A
rename and an unlink change it, `fstatat` reads it, and these three answer
as it stands; what the remaining calls say of a file that is open, of its
access list or of the processes that use it is a matter of `Right`, and
one of them may be `Failed`.
-/

namespace Unlinger

open Interaction Shared

namespace Artifacts

/-- The directory, and what it is itself. -/
structure Profile where
  parent : Entry
  dir : Name → Option Entry

/-- A name gets an entry, or loses it. -/
def Profile.put (s : Profile) (name : Name) (entry : Option Entry) : Profile :=
  { s with dir := Function.update s.dir name entry }

/-- The error is this one. -/
def IsError {α : Type} (r : Except SystemError α) (errno : Errno) : Prop :=
  ∃ text, r = .error ⟨errno, text⟩

/-! ## What calls do, and what they say -/

/-- What a rename leaves. -/
def renamed (s : Profile) (source target : Name) : Except SystemError Unit → Profile
  | .ok () => (s.put target (s.dir source)).put source none
  | .error _ => s

/-- What an unlink leaves. -/
def unlinked (s : Profile) (name : Name) : Except SystemError Unit → Profile
  | .ok () => s.put name none
  | .error _ => s

/-- What a call leaves, answered so. -/
def leaves (s : Profile) : (c : Call) → Answer c → Profile
  | .renameatxNp source target _, r => renamed s source target r
  | .unlinkat name, r => unlinked s name r
  | _, _ => s

/-- A rename as the directory has it; with `RENAME_EXCL` an entry in its
way stays. -/
def RenameTold (s : Profile) (source target : Name) (flags : RenameFlags)
    (r : Except SystemError Unit) : Prop :=
  (r = .ok () ∧ (∃ entry, s.dir source = some entry) ∧ (flags = .excl → s.dir target = none)) ∨
    (IsError r .enoent ∧ s.dir source = none) ∨
    (IsError r .eexist ∧ flags = .excl ∧ ∃ entry, s.dir target = some entry)

/-- An unlink as the directory has it. -/
def UnlinkTold (s : Profile) (name : Name) (r : Except SystemError Unit) : Prop :=
  (IsError r .enoent ∧ s.dir name = none) ∨
    ∃ entry, s.dir name = some entry ∧
      if entry.stat.mode &&& fileType = directory then IsError r .eperm else r = .ok ()

/-- `fstatat` as the directory has it. -/
def StatTold (s : Profile) (name : Name) (r : Except SystemError Stat) : Prop :=
  (IsError r .enoent ∧ s.dir name = none) ∨ ∃ entry, s.dir name = some entry ∧ r = .ok entry.stat

/-- The calls on names answer as the directory stands. -/
def Told (s : Profile) : (c : Call) → Answer c → Prop
  | .fstatat name, r => StatTold s name r
  | .renameatxNp source target flags, r => RenameTold s source target flags r
  | .unlinkat name, r => UnlinkTold s name r
  | _, _ => True

/-- `S_IFLNK`. -/
def symbolicLink : Nat := 0o120000

/-- `openat` with `O_NOFOLLOW`, as the directory has it. -/
def OpenRight (s : Profile) (name : Name) (r : Except SystemError File) : Prop :=
  (IsError r .enoent ∧ s.dir name = none) ∨
    ∃ entry, s.dir name = some entry ∧
      if entry.stat.mode &&& fileType = symbolicLink then IsError r .eloop else r = .ok ⟨entry⟩

/-- Nothing is amiss with the call: it says what is so, and the scan finds
no reference. -/
def Right (s : Profile) : (c : Call) → Answer c → Prop
  | .openDirectory _, r => r = .ok ⟨s.parent⟩
  | .fstat file, r => r = .ok file.entry.stat
  | .aclGetFd file, r => if file.entry.hasAcl = true then r = .ok () else IsError r .enoent
  | .aclGetEntry _, r => r = (true, true)
  | .aclFree, r => r = true
  | .openat name, r => OpenRight s name r
  | .fstatat name, r => StatTold s name r
  | .getentropy, r => ∃ random, r = some random
  | .renameatxNp source target flags, r => RenameTold s source target flags r
  | .unlinkat name, r => UnlinkTold s name r
  | .referenceScan _ _ _, r => r = .ok false

/-- The call failed, or the scan did not answer that there is no reference. -/
def Failed : (c : Call) → Answer c → Prop
  | .openDirectory _, r => ∃ error, r = .error error
  | .fstat _, r => ∃ error, r = .error error
  | .aclGetFd _, r => ∃ error, r = .error error
  | .aclGetEntry _, r => r ≠ (true, true)
  | .aclFree, r => r = false
  | .openat _, r => ∃ error, r = .error error
  | .fstatat _, r => ∃ error, r = .error error
  | .getentropy, r => r = none
  | .renameatxNp _ _ _, r => ∃ error, r = .error error
  | .unlinkat _, r => ∃ error, r = .error error
  | .referenceScan _ _ _, r => r ≠ .ok false

/-! ## Worlds -/

abbrev Step := Move Answer Profile

/-- Something was amiss with the call. -/
def Adverse (m : Step) : Prop := ∃ e, m.event = some e ∧ ¬ Right m.before e.call e.answer

/-- The name a call drew. -/
def drawnBy : Event Answer → Option Name
  | ⟨.getentropy, r⟩ => randomQuarantineName r
  | _ => none

/-- The name drawn last. -/
def drawn (past : List Step) : Option Name :=
  past.reverse.findSome? fun m => m.event.bind drawnBy

/-- Others do what they like with every name but the one drawn last, and
files that are open, access lists and references are as they may be. -/
def interfered : World Answer Profile where
  serves _ s c r s' := Told s c r ∧ s' = leaves s c r
  others past s s' := ∀ name, drawn past = some name → s'.dir name = s.dir name

/-- Nobody else is there, and at most one call is amiss. -/
def oneFailure : World Answer Profile where
  serves past s c r s' :=
    (Right s c r ∨ Failed c r ∧ ∀ m ∈ past, ¬ Adverse m) ∧ s' = leaves s c r
  others _ _ _ := False

/-- Nobody else is there, and nothing is amiss. -/
def calm : World Answer Profile where
  serves _ s c r s' := Right s c r ∧ s' = leaves s c r
  others _ _ _ := False

/-! ## Calls that only look -/

/-- Neither a rename, nor an unlink, nor a draw. -/
def Looks : Call → Prop
  | .renameatxNp _ _ _ | .unlinkat _ | .getentropy => False
  | _ => True

theorem leaves_of_looks {s : Profile} {c : Call} (h : Looks c) (r : Answer c) :
    leaves s c r = s := by
  cases c with
  | renameatxNp source target flags => exact h.elim
  | unlinkat name => exact h.elim
  | _ => rfl

theorem drawnBy_of_looks {c : Call} (h : Looks c) (r : Answer c) : drawnBy ⟨c, r⟩ = none := by
  cases c with
  | getentropy => exact h.elim
  | _ => rfl

theorem drawn_snoc (past : List Step) (m : Step) :
    drawn (past ++ [m]) = (m.event.bind drawnBy).or (drawn past) := by
  unfold drawn
  rw [List.reverse_append, List.reverse_singleton, List.singleton_append, List.findSome?_cons]
  cases m.event.bind drawnBy with
  | none => rfl
  | some name => rfl

theorem drawn_other (past : List Step) (s s' : Profile) :
    drawn (past ++ [⟨none, s, s'⟩]) = drawn past := drawn_snoc past _

/-! ## Quarantines -/

/-- The name of a quarantine is a text, and not that of the artifact. -/
theorem quarantine_of_random {r : Option (Vector UInt8 16)} {quarantine : Name}
    (h : randomQuarantineName r = some quarantine) :
    quarantine ≠ devtoolsActivePortName ∧ ∃ component, quarantine = Text.bytes component := by
  cases r with
  | none => cases h
  | some random =>
    rw [randomQuarantineName] at h
    split at h
    · cases h
    · obtain rfl := Option.some.inj h
      refine ⟨fun heq => ?_, _, rfl⟩
      have hname : quarantineName random = "DevToolsActivePort" := Text.bytes_inj.mp heq
      have hhead := congrArg (fun name => name.toList.head?) hname
      rw [quarantineName] at hhead
      simp [quarantinePrefix] at hhead

/-! ## What a rename moves -/

section Renames

variable {s : Profile} {source target name : Name}

theorem renamed_target (h : source ≠ target) :
    (renamed s source target (.ok ())).dir target = s.dir source := by
  simp [renamed, Profile.put, Function.update_of_ne h.symm]

theorem renamed_source : (renamed s source target (.ok ())).dir source = none := by
  simp [renamed, Profile.put]

theorem renamed_other (hs : name ≠ source) (ht : name ≠ target) :
    (renamed s source target (.ok ())).dir name = s.dir name := by
  simp [renamed, Profile.put, Function.update_of_ne hs, Function.update_of_ne ht]

end Renames

variable {ε : Type}

theorem looks_fdHasEmptyExtendedAcl (file : File) :
    Yields Looks (fdHasEmptyExtendedAcl file : Prog Answer ε _) := by
  refine Yields.ask trivial fun r => ?_
  cases r with
  | error error =>
    by_cases h : error.errno = .enoent
    · simp only [h]
      exact trivial
    · simp only [h]
      exact trivial
  | ok found => exact ⟨trivial, fun _ => ⟨trivial, fun _ => trivial⟩⟩

theorem looks_openSafeParent (uid : Nat) (path : String) (ownerUid : Nat) :
    Yields Looks (openSafeParent uid path ownerUid : Prog Answer ε _) := by
  refine Yields.ask trivial fun r => ?_
  cases r with
  | error error => exact trivial
  | ok file =>
    refine Yields.ask trivial fun r => ?_
    cases r with
    | error error => exact trivial
    | ok metadata =>
      change Yields Looks (ite _ _ _)
      split
      · exact trivial
      · exact Yields.bind (looks_fdHasEmptyExtendedAcl file) fun _ => trivial

theorem looks_openNamedCandidate (name : Name) :
    Yields Looks (openNamedCandidate name : Prog Answer ε _) := by
  refine Yields.ask trivial fun r => ?_
  cases r with
  | error error => exact trivial
  | ok file => exact Yields.bind (looks_fdHasEmptyExtendedAcl file) fun _ => trivial

/-! ## Renames that go over nothing -/

/-- A rename is asked for with `RENAME_EXCL`. -/
def Exclusive : Call → Prop
  | .renameatxNp _ _ flags => flags = .excl
  | _ => True

theorem Looks.exclusive {c : Call} (h : Looks c) : Exclusive c := by
  cases c with
  | renameatxNp source target flags => exact h.elim
  | _ => trivial

theorem only_demand {G : Call → Prop} {p : Prop} [Decidable p] {d : ArtifactDisposition} :
    (demand p d).Only G := by
  unfold demand
  split
  · exact trivial
  · exact trivial

theorem exclusive_openNamedCandidate (name : Name) :
    (openNamedCandidate name : Prog Answer ε _).Only Exclusive :=
  (looks_openNamedCandidate name).only fun _ h => h.exclusive

theorem exclusive_fstatatNamedMatches (name : Name) (expected : RuntimeArtifactIdentity) :
    (fstatatNamedMatches name expected : Prog Answer ε _).Only Exclusive := by
  refine Prog.Only.ask trivial fun r => ?_
  cases r with
  | error error => exact trivial
  | ok stat => exact trivial

theorem exclusive_inspectCandidate (uid : Nat) (expected : RuntimeArtifactIdentity) :
    (inspectCandidate uid expected).Only Exclusive := by
  refine Prog.Only.bind (exclusive_openNamedCandidate _) fun r => ?_
  refine Prog.Only.bind Prog.only_orThrow fun file => ?_
  refine Prog.Only.ask trivial fun r => ?_
  exact Prog.Only.bind Prog.only_orThrow fun _ => only_demand

theorem exclusive_quarantineCandidate (attempts : Nat) :
    (quarantineCandidate attempts).Only Exclusive := by
  induction attempts with
  | zero => exact trivial
  | succ attempts ih =>
    refine Prog.Only.ask trivial fun r => ?_
    cases randomQuarantineName r with
    | none => exact trivial
    | some quarantine =>
      refine Prog.Only.ask rfl fun r => ?_
      cases r with
      | ok u => exact trivial
      | error error =>
        dsimp only
        split
        · exact ih
        · split
          · exact trivial
          · exact trivial

theorem exclusive_restoreQuarantinedEntry (quarantine : Name) :
    (restoreQuarantinedEntry quarantine).Only Exclusive := by
  refine Prog.Only.ask rfl fun r => ?_
  cases r with
  | ok u => exact trivial
  | error error =>
    dsimp only
    split
    · exact trivial
    · exact trivial

theorem exclusive_failAfterRestoring {α : Type} (quarantine : Name)
    (failure : ArtifactDisposition) :
    (failAfterRestoringQuarantinedEntry quarantine failure : Removal α).Only Exclusive :=
  Prog.Only.bind (exclusive_restoreQuarantinedEntry quarantine) fun _ => trivial

theorem exclusive_verifyQuarantined (uid : Nat) (expected : RuntimeArtifactIdentity)
    (quarantine : Name) : (verifyQuarantined uid expected quarantine).Only Exclusive := by
  refine Prog.Only.bind (exclusive_openNamedCandidate _) fun r => ?_
  cases opened .identityMismatch r with
  | error failure => exact exclusive_failAfterRestoring quarantine failure
  | ok quarantined =>
    refine Prog.Only.ask trivial fun r => ?_
    cases r with
    | error error => exact exclusive_failAfterRestoring quarantine .rejected
    | ok metadata =>
      dsimp only
      split
      · refine Prog.Only.bind (exclusive_fstatatNamedMatches _ _) fun b => ?_
        split
        · exact trivial
        · exact exclusive_failAfterRestoring quarantine .identityMismatch
      · exact exclusive_failAfterRestoring quarantine .identityMismatch

theorem exclusive_restoreQuarantinedExact (uid : Nat) (expected : RuntimeArtifactIdentity)
    (quarantine : Name) : (restoreQuarantinedExact uid expected quarantine).Only Exclusive := by
  refine Prog.Only.bind (exclusive_openNamedCandidate _) fun r => ?_
  refine Prog.Only.bind Prog.only_orThrow fun file => ?_
  refine Prog.Only.ask trivial fun r => ?_
  refine Prog.Only.bind Prog.only_orThrow fun metadata => ?_
  refine Prog.Only.bind only_demand fun _ => ?_
  refine Prog.Only.bind (exclusive_fstatatNamedMatches _ _) fun b => ?_
  refine Prog.Only.bind only_demand fun _ => ?_
  refine Prog.Only.bind (exclusive_restoreQuarantinedEntry quarantine) fun _ => ?_
  refine Prog.Only.ask trivial fun r => ?_
  refine Prog.Only.bind Prog.only_orThrow fun metadata => ?_
  refine Prog.Only.bind only_demand fun _ => ?_
  exact Prog.Only.bind (exclusive_fstatatNamedMatches _ _) fun b => only_demand

theorem exclusive_unlinkQuarantined (uid : Nat) (expected : RuntimeArtifactIdentity)
    (quarantine : Name) : (unlinkQuarantined uid expected quarantine).Only Exclusive := by
  refine Prog.Only.bind (exclusive_openNamedCandidate _) fun r => ?_
  refine Prog.Only.bind Prog.only_orThrow fun file => ?_
  refine Prog.Only.ask trivial fun r => ?_
  refine Prog.Only.bind Prog.only_orThrow fun metadata => ?_
  refine Prog.Only.bind only_demand fun _ => ?_
  refine Prog.Only.bind (exclusive_fstatatNamedMatches _ _) fun b => ?_
  refine Prog.Only.bind only_demand fun _ => ?_
  refine Prog.Only.bind ?_ fun _ => ?_
  · refine Prog.Only.ask trivial fun r => ?_
    cases r with
    | ok stat => exact trivial
    | error error =>
      obtain ⟨errno, text⟩ := error
      cases errno <;> exact trivial
  · refine Prog.Only.ask trivial fun r => ?_
    cases r with
    | ok u => exact trivial
    | error error => exact trivial

theorem exclusive_removeQuarantined (uid : Nat) (frozen : FrozenRuntimeArtifact)
    (quarantine : Name) : (removeQuarantined uid frozen quarantine).Only Exclusive := by
  have hrestore : ∀ d : ArtifactDisposition,
      (restoreQuarantinedExact uid frozen.identity quarantine >>= fun _ =>
        (.throw d : Removal ArtifactDisposition)).Only Exclusive :=
    fun d => Prog.Only.bind (exclusive_restoreQuarantinedExact uid _ _) fun _ => trivial
  unfold removeQuarantined
  cases Utf8.decode quarantine with
  | none => exact hrestore .unsafeArtifact
  | some component =>
    refine Prog.Only.ask trivial fun r => ?_
    cases r with
    | error u => exact hrestore .unsafeArtifact
    | ok referenced =>
      cases referenced with
      | true => exact hrestore .referenced
      | false => exact exclusive_unlinkQuarantined uid frozen.identity quarantine

theorem exclusive_removeExact (uid : Nat) (frozen : FrozenRuntimeArtifact) :
    (removeExact uid frozen).Only Exclusive := by
  refine Prog.Only.bind only_demand fun _ => ?_
  refine Prog.Only.bind ((looks_openSafeParent uid _ _).only fun _ h => h.exclusive) fun r => ?_
  refine Prog.Only.bind Prog.only_orThrow fun parent => ?_
  refine Prog.Only.ask trivial fun r => ?_
  refine Prog.Only.bind Prog.only_orThrow fun metadata => ?_
  refine Prog.Only.bind only_demand fun _ => ?_
  refine Prog.Only.bind (exclusive_inspectCandidate _ _) fun _ => ?_
  refine Prog.Only.ask trivial fun r => ?_
  refine Prog.Only.bind Prog.only_orThrow fun _ => ?_
  refine Prog.Only.bind (exclusive_inspectCandidate _ _) fun _ => ?_
  refine Prog.Only.bind (exclusive_fstatatNamedMatches _ _) fun b => ?_
  refine Prog.Only.bind only_demand fun _ => ?_
  refine Prog.Only.bind (exclusive_quarantineCandidate _) fun quarantine => ?_
  exact Prog.Only.bind (exclusive_verifyQuarantined _ _ _) fun _ => exclusive_removeQuarantined _ _ _

/-! ## Surroundings for concrete runs -/

/-- An access list as it is. -/
def aclOf (file : File) : Except SystemError Unit :=
  if file.entry.hasAcl = true then .ok () else .error ⟨.enoent, ""⟩

/-- `openat` of an entry. -/
def openOf : Option Entry → Except SystemError File
  | none => .error ⟨.enoent, ""⟩
  | some entry =>
      if entry.stat.mode &&& fileType = symbolicLink then .error ⟨.eloop, ""⟩ else .ok ⟨entry⟩

/-- `fstatat` of an entry. -/
def statOf : Option Entry → Except SystemError Stat
  | none => .error ⟨.enoent, ""⟩
  | some entry => .ok entry.stat

/-- A rename of an entry, over another. -/
def renameOf (flags : RenameFlags) : Option Entry → Option Entry → Except SystemError Unit
  | none, _ => .error ⟨.enoent, ""⟩
  | some _, none => .ok ()
  | some _, some _ => if flags = .excl then .error ⟨.eexist, ""⟩ else .ok ()

/-- An unlink of an entry. -/
def unlinkOf : Option Entry → Except SystemError Unit
  | none => .error ⟨.enoent, ""⟩
  | some entry =>
      if entry.stat.mode &&& fileType = directory then .error ⟨.eperm, ""⟩ else .ok ()

/-- A call of which nothing is amiss; the name drawn is always the same. -/
def rightly (s : Profile) : (c : Call) → Answer c
  | .openDirectory _ => .ok ⟨s.parent⟩
  | .fstat file => .ok file.entry.stat
  | .aclGetFd file => aclOf file
  | .aclGetEntry _ => (true, true)
  | .aclFree => true
  | .openat name => openOf (s.dir name)
  | .fstatat name => statOf (s.dir name)
  | .getentropy => some (Vector.replicate 16 0)
  | .renameatxNp source target flags => renameOf flags (s.dir source) (s.dir target)
  | .unlinkat name => unlinkOf (s.dir name)
  | .referenceScan _ _ _ => .ok false

theorem right_rightly (s : Profile) (c : Call) : Right s c (rightly s c) := by
  cases c with
  | aclGetFd file =>
    change if _ then _ else _
    split
    · rename_i hacl
      exact if_pos hacl
    · rename_i hacl
      exact ⟨"", if_neg hacl⟩
  | openat name =>
    change OpenRight s name (openOf (s.dir name))
    cases hname : s.dir name with
    | none => exact Or.inl ⟨⟨"", rfl⟩, hname⟩
    | some entry =>
      refine Or.inr ⟨entry, hname, ?_⟩
      split
      · rename_i hlink
        exact ⟨"", if_pos hlink⟩
      · rename_i hlink
        exact if_neg hlink
  | fstatat name =>
    change StatTold s name (statOf (s.dir name))
    cases hname : s.dir name with
    | none => exact Or.inl ⟨⟨"", rfl⟩, hname⟩
    | some entry => exact Or.inr ⟨entry, hname, rfl⟩
  | getentropy => exact ⟨_, rfl⟩
  | renameatxNp source target flags =>
    change RenameTold s source target flags (renameOf flags (s.dir source) (s.dir target))
    cases hsource : s.dir source with
    | none => exact Or.inr (Or.inl ⟨⟨"", rfl⟩, hsource⟩)
    | some entry =>
      cases htarget : s.dir target with
      | none => exact Or.inl ⟨rfl, ⟨entry, hsource⟩, fun _ => htarget⟩
      | some other =>
        by_cases hflags : flags = .excl
        · exact Or.inr (Or.inr ⟨⟨"", if_pos hflags⟩, hflags, other, htarget⟩)
        · exact Or.inl ⟨if_neg hflags, ⟨entry, hsource⟩, fun h => absurd h hflags⟩
  | unlinkat name =>
    change UnlinkTold s name (unlinkOf (s.dir name))
    cases hname : s.dir name with
    | none => exact Or.inl ⟨⟨"", rfl⟩, hname⟩
    | some entry =>
      refine Or.inr ⟨entry, hname, ?_⟩
      split
      · rename_i hdirectory
        exact ⟨"", if_pos hdirectory⟩
      · rename_i hdirectory
        exact if_neg hdirectory
  | _ => rfl

/-- What is right is what the directory tells. -/
theorem Right.told {s : Profile} {c : Call} {r : Answer c} (h : Right s c r) : Told s c r := by
  cases c with
  | fstatat name => exact h
  | renameatxNp source target flags => exact h
  | unlinkat name => exact h
  | _ => trivial

/-- A file of the user, in a directory of the user. -/
def sampleEntry : Entry := ⟨⟨1, 7, 501, 0o100600, 1⟩, false⟩

/-- The directory that holds it. -/
def sampleProfile : Profile where
  parent := ⟨⟨1, 6, 501, 0o040700, 2⟩, false⟩
  dir := fun name => if name = devtoolsActivePortName then some sampleEntry else none

/-- The candidate of that directory. -/
def sampleCandidate : RuntimeArtifactCandidate :=
  ⟨.devToolsActivePort, "/tmp/p", "/tmp/p/DevToolsActivePort", 501, "session", "artifact"⟩

/-- What it is frozen as. -/
def sampleFrozen : FrozenRuntimeArtifact :=
  ⟨sampleCandidate, frozenIdentity sampleProfile.parent.stat sampleEntry.stat⟩

end Artifacts

end Unlinger
