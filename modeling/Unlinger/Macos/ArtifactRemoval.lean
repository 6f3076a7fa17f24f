import Unlinger.Macos.Helpers.Artifacts

/-!
# What a removal does to the directory

`remove_exact` among others who create, replace, rename and remove entries
between any two of its calls. The entry it unlinks is the frozen one, and
every entry somebody else put there is still where that one left it, or,
where restoring it met another, in the quarantine.

`Kept` carries the proof: where each entry that was ever seen in the
directory is now, or the move of somebody else that took it away.
-/

namespace Unlinger

open Interaction Shared

namespace Artifacts

/-! ## What is claimed of a history -/

/-- The entry is the frozen artifact. -/
def IsFrozen (expected : RuntimeArtifactIdentity) (entry : Entry) : Prop :=
  entry.stat.dev = expected.device ∧ entry.stat.ino = expected.inode
    ∧ entry.stat.uid = expected.ownerUid ∧ entry.stat.mode = expected.mode
    ∧ entry.stat.nlink = expected.linkCount

/-- The first scan found no reference to the canonical path. -/
def FirstScan (frozen : FrozenRuntimeArtifact) (m : Step) : Prop :=
  m.event = some ⟨.referenceScan frozen.candidate frozen.identity frozen.candidate.artifactPath,
    .ok false⟩

/-- The canonical entry was moved to the quarantine. -/
def Quarantines (quarantine : Name) (m : Step) : Prop :=
  m.event = some ⟨.renameatxNp devtoolsActivePortName quarantine .excl, .ok ()⟩

/-- The second scan found no reference to the quarantined path. -/
def SecondScan (frozen : FrozenRuntimeArtifact) (quarantine : Name) (m : Step) : Prop :=
  ∃ component, quarantine = Text.bytes component ∧
    m.event = some ⟨.referenceScan frozen.candidate frozen.identity
      (Text.joinPath frozen.candidate.profilePath component), .ok false⟩

/-- `fstatat` found no canonical entry, and there was none. -/
def CanonicalAbsent (m : Step) : Prop :=
  m.before.dir devtoolsActivePortName = none ∧
    ∃ text, m.event = some ⟨.fstatat devtoolsActivePortName, .error ⟨.enoent, text⟩⟩

/-- An unlink was called for. -/
def Unlinks (m : Step) : Prop := ∃ name r, m.event = some ⟨.unlinkat name, r⟩

/-- What stood before the unlink: both scans, the move between them, and
last of all the look for a canonical entry. -/
def Licensed (frozen : FrozenRuntimeArtifact) (quarantine : Name) (past : List Step) : Prop :=
  ∃ earlier check gap, past = earlier ++ check :: gap ∧
    Saw [FirstScan frozen, Quarantines quarantine, SecondScan frozen quarantine] earlier ∧
    CanonicalAbsent check ∧ ∀ m ∈ gap, m.event = none

/-- The move unlinked the quarantined entry, which was the frozen one, by
a license. -/
def UnlinksFrozen (frozen : FrozenRuntimeArtifact) (past : List Step) (m : Step) : Prop :=
  ∃ quarantine entry, m.event = some ⟨.unlinkat quarantine, .ok ()⟩ ∧
    m.before.dir quarantine = some entry ∧ IsFrozen frozen.identity entry ∧
    Licensed frozen quarantine past

/-- Somebody else took the entry from the name. -/
def TakenAway (ms : List Step) (name : Name) (entry : Entry) : Prop :=
  ∃ m ∈ ms, m.event = none ∧ m.before.dir name = some entry ∧ m.after.dir name ≠ some entry

/-- Every entry that stood under a name, the name drawn last and the
frozen artifact apart, was taken away by somebody else or is placed. -/
def Kept (expected : RuntimeArtifactIdentity) (past : List Step) (placed : Name → Entry → Prop) :
    Prop :=
  ∀ before m after, past = before ++ m :: after → ∀ name entry, m.before.dir name = some entry →
    drawn before ≠ some name → ¬ (name = devtoolsActivePortName ∧ IsFrozen expected entry) →
    TakenAway (m :: after) name entry ∨ placed name entry

/-- Restoring the quarantine met a canonical entry. -/
def Conflict (quarantine : Name) (m : Step) : Prop :=
  (∃ text, m.event = some ⟨.renameatxNp quarantine devtoolsActivePortName .excl,
    .error ⟨.eexist, text⟩⟩) ∧ ∃ entry, m.before.dir devtoolsActivePortName = some entry

/-- Under its own name, or in the quarantine, behind a conflict. -/
def Retained (past : List Step) (s : Profile) (name : Name) (entry : Entry) : Prop :=
  s.dir name = some entry ∨ name = devtoolsActivePortName ∧
    ∃ quarantine, drawn past = some quarantine ∧ s.dir quarantine = some entry ∧
      ∃ m ∈ past, Conflict quarantine m

/-- No rename went over an entry. -/
def OverwritesNothing (past : List Step) : Prop :=
  ∀ m ∈ past, ∀ source target flags,
    m.event = some ⟨.renameatxNp source target flags, .ok ()⟩ → m.before.dir target = none

/-! ## Entries are kept -/

variable {expected : RuntimeArtifactIdentity} {frozen : FrozenRuntimeArtifact} {past : List Step}
  {s s' : Profile} {placed placed' : Name → Entry → Prop} {quarantine : Name} {uid : Nat}

theorem TakenAway.later {ms : List Step} {name : Name} {entry : Entry}
    (h : TakenAway ms name entry) (more : List Step) : TakenAway (ms ++ more) name entry := by
  obtain ⟨m, hm, htaken⟩ := h
  exact ⟨m, List.mem_append_left more hm, htaken⟩

theorem Kept.mono (h : Kept expected past placed)
    (himp : ∀ name entry, ¬ (name = devtoolsActivePortName ∧ IsFrozen expected entry) →
      placed name entry → placed' name entry) : Kept expected past placed' := by
  intro before m after hpast name entry hname hdrawn hother
  rcases h before m after hpast name entry hname hdrawn hother with htaken | hplaced
  · exact Or.inl htaken
  · exact Or.inr (himp name entry hother hplaced)

/-- **One more move** keeps the entries that were placed, and those that
stand in the directory before it. -/
theorem Kept.snoc (h : Kept expected past placed) {m : Step}
    (hold : ∀ name entry, ¬ (name = devtoolsActivePortName ∧ IsFrozen expected entry) →
      placed name entry → TakenAway [m] name entry ∨ placed' name entry)
    (hnew : ∀ name entry, m.before.dir name = some entry → drawn past ≠ some name →
      ¬ (name = devtoolsActivePortName ∧ IsFrozen expected entry) →
      TakenAway [m] name entry ∨ placed' name entry) :
    Kept expected (past ++ [m]) placed' := by
  intro before x after hpast name entry hname hdrawn hother
  rcases List.eq_nil_or_concat after with rfl | ⟨after', y, rfl⟩
  · obtain ⟨rfl, hx⟩ := List.append_inj' hpast rfl
    obtain rfl := List.singleton_inj.mp hx
    exact hnew name entry hname hdrawn hother
  · have hsplit : past ++ [m] = (before ++ x :: after') ++ [y] := by simpa using hpast
    obtain ⟨rfl, hy⟩ := List.append_inj' hsplit rfl
    obtain rfl := List.singleton_inj.mp hy
    rw [List.concat_eq_append]
    rcases h before x after' rfl name entry hname hdrawn hother with htaken | hplaced
    · exact Or.inl (htaken.later [m])
    · rcases hold name entry hother hplaced with ⟨z, hz, htaken⟩ | hplaced'
      · obtain rfl := List.mem_singleton.mp hz
        exact Or.inl ⟨z, by simp, htaken⟩
      · exact Or.inr hplaced'

/-- What others do with a name is a move of theirs. -/
theorem others_keep {name : Name} {entry : Entry} (h : s.dir name = some entry) :
    TakenAway [⟨none, s, s'⟩] name entry ∨ s'.dir name = some entry := by
  by_cases hafter : s'.dir name = some entry
  · exact Or.inr hafter
  · exact Or.inl ⟨_, List.mem_singleton_self _, rfl, h, hafter⟩

/-! ## Assertions of the proof -/

/-- An assertion that neither others nor a look at the directory touch. -/
structure Lasting (P : Assertion Answer Profile) : Prop where
  stable : Stable interfered P
  looks : ∀ past s c r, Looks c → Told s c r → P past s → P (past ++ [⟨some ⟨c, r⟩, s, s⟩]) s

/-- A call that only looks keeps it. -/
theorem Lasting.served {P : Assertion Answer Profile} (hP : Lasting P) {c : Call} {r : Answer c}
    (hc : Looks c) (hs : P past s) (hserve : interfered.serves past s c r s') :
    P (past ++ [⟨some ⟨c, r⟩, s, s'⟩]) s' := by
  obtain ⟨htold, rfl⟩ := hserve
  rw [leaves_of_looks hc]
  exact hP.looks past s c r hc htold hs

/-- A program that only looks keeps it for what follows. -/
theorem Lasting.yields {P : Assertion Answer Profile} (hP : Lasting P) {ε α β : Type}
    {p : Prog Answer ε β} {f : β → Prog Answer ε α} {Q : Except ε α → Assertion Answer Profile}
    (h : Yields Looks p) (hf : ∀ b, Triple interfered P (f b) Q) :
    Triple interfered P (p >>= f) Q :=
  Triple.yields h hP.stable (fun _ _ _ _ _ hc hs hserve => hP.served hc hs hserve) hf

/-- So does a call. -/
theorem Lasting.ask {P : Assertion Answer Profile} (hP : Lasting P) {ε α : Type} {c : Call}
    {f : Answer c → Prog Answer ε α} {Q : Except ε α → Assertion Answer Profile} (hc : Looks c)
    (hf : ∀ r, Triple interfered P (f r) Q) : Triple interfered P (Prog.ask c >>= f) Q :=
  Triple.ask hP.stable (fun _ _ _ _ hs hserve => hP.served hc hs hserve) hf

theorem drawn_looks {c : Call} (hc : Looks c) (r : Answer c) (past : List Step) :
    drawn (past ++ [⟨some ⟨c, r⟩, s, s'⟩]) = drawn past := by
  rw [drawn_snoc, Option.bind_some, drawnBy_of_looks hc]
  rfl

/-- Nothing was unlinked. -/
def NoUnlink (past : List Step) : Prop := ∀ m ∈ past, ¬ Unlinks m

theorem NoUnlink.other (h : NoUnlink past) : NoUnlink (past ++ [⟨none, s, s'⟩]) := by
  intro m hm
  rcases List.mem_append.mp hm with hm | hm
  · exact h m hm
  · obtain rfl := List.mem_singleton.mp hm
    rintro ⟨name, r, hevent⟩
    cases hevent

theorem NoUnlink.own (h : NoUnlink past) {c : Call} {r : Answer c}
    (hc : ∀ name, c ≠ .unlinkat name) : NoUnlink (past ++ [⟨some ⟨c, r⟩, s, s'⟩]) := by
  intro m hm
  rcases List.mem_append.mp hm with hm | hm
  · exact h m hm
  · obtain rfl := List.mem_singleton.mp hm
    rintro ⟨name, r', hevent⟩
    exact hc name (congrArg Event.call (Option.some.inj hevent))

theorem Looks.notUnlink {c : Call} (h : Looks c) (name : Name) : c ≠ .unlinkat name := by
  rintro rfl
  exact h

/-- The directory is as others left it. -/
structure Untouched (expected : RuntimeArtifactIdentity) (past : List Step) (s : Profile) :
    Prop where
  kept : Kept expected past fun name entry => s.dir name = some entry
  unlinks : NoUnlink past

/-- The canonical entry was moved to the quarantine and is there. -/
structure Held (expected : RuntimeArtifactIdentity) (quarantine : Name) (past : List Step)
    (s : Profile) : Prop where
  drawn : drawn past = some quarantine
  entry : ∃ entry, s.dir quarantine = some entry
  kept : Kept expected past fun name entry =>
    name ≠ quarantine ∧ s.dir name = some entry ∨
      name = devtoolsActivePortName ∧ s.dir quarantine = some entry
  unlinks : NoUnlink past

/-- And it is the frozen one. -/
def HeldFrozen (expected : RuntimeArtifactIdentity) (quarantine : Name) (past : List Step)
    (s : Profile) : Prop :=
  Held expected quarantine past s ∧ ∃ entry, s.dir quarantine = some entry ∧ IsFrozen expected entry

/-- How the removal may leave the directory without an unlink. -/
structure Left (expected : RuntimeArtifactIdentity) (past : List Step) (s : Profile) : Prop where
  kept : Kept expected past (Retained past s)
  unlinks : NoUnlink past

theorem Untouched.lasting : Lasting (Untouched expected) where
  stable past s s' h _ := by
    refine ⟨h.kept.snoc (fun name entry _ hs => others_keep hs) fun name entry hs _ _ => ?_,
      h.unlinks.other⟩
    exact others_keep hs
  looks past s c r hc _ h := by
    refine ⟨h.kept.snoc (fun name entry _ hs => Or.inr hs) fun name entry hs _ _ => Or.inr hs,
      h.unlinks.own hc.notUnlink⟩

theorem Held.lasting : Lasting (Held expected quarantine) where
  stable past s s' h hother := by
    have hsame : s'.dir quarantine = s.dir quarantine := hother quarantine h.drawn
    refine ⟨(drawn_other past s s').trans h.drawn, ?_, ?_, h.unlinks.other⟩
    · obtain ⟨entry, hentry⟩ := h.entry
      exact ⟨entry, hsame.trans hentry⟩
    · refine h.kept.snoc (fun name entry _ hs => ?_) fun name entry hs hdrawn _ => ?_
      · rcases hs with ⟨hne, hs⟩ | ⟨hname, hs⟩
        · exact (others_keep hs).imp_right fun hafter => Or.inl ⟨hne, hafter⟩
        · exact Or.inr (Or.inr ⟨hname, hsame.trans hs⟩)
      · have hne : name ≠ quarantine := by
          rintro rfl
          exact hdrawn h.drawn
        exact (others_keep hs).imp_right fun hafter => Or.inl ⟨hne, hafter⟩
  looks past s c r hc _ h := by
    refine ⟨(drawn_looks hc r past).trans h.drawn, h.entry, ?_, h.unlinks.own hc.notUnlink⟩
    refine h.kept.snoc (fun name entry _ hs => Or.inr hs) fun name entry hs hdrawn _ => ?_
    refine Or.inr (Or.inl ⟨?_, hs⟩)
    rintro rfl
    exact hdrawn h.drawn

theorem HeldFrozen.lasting : Lasting (HeldFrozen expected quarantine) where
  stable past s s' h hother := by
    have hsame : s'.dir quarantine = s.dir quarantine := hother quarantine h.1.drawn
    obtain ⟨entry, hentry, hfrozen⟩ := h.2
    exact ⟨Held.lasting.stable past s s' h.1 hother, entry, hsame.trans hentry, hfrozen⟩
  looks past s c r hc htold h := ⟨Held.lasting.looks past s c r hc htold h.1, h.2⟩

theorem Left.lasting : Lasting (Left expected) where
  stable past s s' h hother := by
    refine ⟨h.kept.snoc (fun name entry _ hs => ?_) fun name entry hs _ _ => ?_, h.unlinks.other⟩
    · rcases hs with hs | ⟨hname, quarantine, hdrawn, hs, m, hm, hconflict⟩
      · exact (others_keep hs).imp_right Or.inl
      · refine Or.inr (Or.inr ⟨hname, quarantine, (drawn_other past s s').trans hdrawn, ?_, m, ?_,
          hconflict⟩)
        · exact (hother quarantine hdrawn).trans hs
        · exact List.mem_append_left _ hm
    · exact (others_keep hs).imp_right Or.inl
  looks past s c r hc _ h := by
    refine ⟨h.kept.snoc (fun name entry _ hs => Or.inr ?_) fun name entry hs _ _ =>
      Or.inr (Or.inl hs), h.unlinks.own hc.notUnlink⟩
    rcases hs with hs | ⟨hname, quarantine, hdrawn, hs, m, hm, hconflict⟩
    · exact Or.inl hs
    · exact Or.inr ⟨hname, quarantine, (drawn_looks hc r past).trans hdrawn, hs, m,
        List.mem_append_left _ hm, hconflict⟩

theorem Untouched.left (h : Untouched expected past s) : Left expected past s :=
  ⟨h.kept.mono fun _ _ _ hs => Or.inl hs, h.unlinks⟩

/-- The frozen artifact may stay in the quarantine. -/
theorem HeldFrozen.left (h : HeldFrozen expected quarantine past s) : Left expected past s := by
  obtain ⟨frozenEntry, hfrozenEntry, hfrozen⟩ := h.2
  refine ⟨h.1.kept.mono fun name entry hother hs => ?_, h.1.unlinks⟩
  rcases hs with ⟨-, hs⟩ | ⟨hname, hs⟩
  · exact Or.inl hs
  · rw [hfrozenEntry] at hs
    obtain rfl := Option.some.inj hs
    exact absurd ⟨hname, hfrozen⟩ hother

/-! ## The parts of the removal -/

theorem opened_ne_removed {absent d : ArtifactDisposition} (h : absent ≠ .removed)
    {r : Except OpenFailure File} (hr : opened absent r = .error d) : d ≠ .removed := by
  cases r with
  | ok file => cases hr
  | error failure =>
    cases failure with
    | absent =>
      obtain rfl := Except.error.inj hr
      exact h
    | unsafeEntry =>
      obtain rfl := Except.error.inj hr
      exact nofun
    | runtime error =>
      obtain rfl := Except.error.inj hr
      exact nofun

theorem renameFailure_ne_removed (errno : Errno) : renameFailure errno ≠ .removed := by
  cases errno <;> exact nofun

/-- What a part of the removal owes: `P` where it ends with a value, and
where it returns early something that is not `Removed` and leaves the
directory as it may be left. -/
def Ends {α : Type} (expected : RuntimeArtifactIdentity) (P : α → Assertion Answer Profile) :
    Except ArtifactDisposition α → Assertion Answer Profile
  | .ok a, past, s => P a past s
  | .error d, past, s => d ≠ .removed ∧ Left expected past s

theorem ends_throw {α : Type} {P : Assertion Answer Profile} {d : ArtifactDisposition}
    {Q : α → Assertion Answer Profile} (hd : d ≠ .removed)
    (hP : ∀ past s, P past s → Left expected past s) :
    Triple interfered P (.throw d) (Ends expected Q) :=
  Triple.throw (fun past s s' h hother => ⟨h.1, Left.lasting.stable past s s' h.2 hother⟩)
    fun past s h => ⟨hd, hP past s h⟩

theorem ends_bind {α β : Type} {P : Assertion Answer Profile} {M : α → Assertion Answer Profile}
    {Q : β → Assertion Answer Profile} {p : Removal α} {f : α → Removal β}
    (hp : Triple interfered P p (Ends expected M))
    (hf : ∀ a, Triple interfered (M a) (f a) (Ends expected Q)) :
    Triple interfered P (p >>= f) (Ends expected Q) :=
  Triple.bind hp hf fun _ _ _ h => h

section Parts

variable {P : Assertion Answer Profile} {α : Type} {Q : α → Assertion Answer Profile}

theorem ends_demand {p : Prop} [Decidable p] {d : ArtifactDisposition} {f : Unit → Removal α}
    (hd : d ≠ .removed) (hleft : ∀ past s, P past s → Left expected past s)
    (hf : p → Triple interfered P (f ()) (Ends expected Q)) :
    Triple interfered P (demand p d >>= f) (Ends expected Q) := by
  unfold demand
  split
  · rename_i hp
    exact hf hp
  · exact ends_throw hd hleft

theorem ends_orThrow {δ β : Type} {g : δ → ArtifactDisposition} {x : Except δ β}
    {f : β → Removal α} (hg : ∀ e, x = .error e → g e ≠ .removed)
    (hleft : ∀ past s, P past s → Left expected past s)
    (hf : ∀ b, Triple interfered P (f b) (Ends expected Q)) :
    Triple interfered P (Prog.orThrow g x >>= f) (Ends expected Q) :=
  Triple.orThrow (fun b _ => hf b) fun e he => ends_throw (hg e he) hleft

/-- A file is opened, and its metadata is that of the frozen artifact. -/
theorem ends_inspect (hP : Lasting P) (hleft : ∀ past s, P past s → Left expected past s)
    (absent : ArtifactDisposition) (habsent : absent ≠ .removed) (name : Name)
    {f : File → Removal α}
    (hf : ∀ file, Triple interfered P (f file) (Ends expected Q)) :
    Triple interfered P
      (openNamedCandidate name >>= fun r => Prog.orThrow id (opened absent r) >>= fun file =>
        Prog.ask (Call.fstat file) >>= fun r =>
          Prog.orThrow (fun _ => .rejected) r >>= fun metadata =>
            demand (sameCandidateIdentity uid metadata expected = true) .identityMismatch >>=
              fun _ => f file) (Ends expected Q) := by
  refine hP.yields (looks_openNamedCandidate name) fun r => ?_
  refine ends_orThrow (fun e he => opened_ne_removed habsent he) hleft fun file => ?_
  refine hP.ask trivial fun r => ?_
  refine ends_orThrow (fun _ _ => nofun) hleft fun metadata => ?_
  exact ends_demand nofun hleft fun _ => hf file

theorem inspectCandidate_spec (hP : Lasting P) (hleft : ∀ past s, P past s → Left expected past s) :
    Triple interfered P (inspectCandidate uid expected) (Ends expected fun _ => P) := by
  refine hP.yields (looks_openNamedCandidate devtoolsActivePortName) fun r => ?_
  refine ends_orThrow (fun e he => opened_ne_removed (by decide) he) hleft fun file => ?_
  refine hP.ask trivial fun r => ?_
  refine ends_orThrow (fun _ _ => nofun) hleft fun metadata => ?_
  unfold demand
  split
  · exact Triple.ret hP.stable fun past s h => h
  · exact ends_throw nofun hleft

/-- A name that matches has an entry that does. -/
theorem ends_matches (hP : Lasting P) {f : Bool → Removal α} (name : Name)
    (hf : ∀ b, Triple interfered
      (fun past s => P past s ∧ (b = true → ∃ entry, s.dir name = some entry ∧
        statMatches expected entry.stat = true)) (f b) (Ends expected Q)) :
    Triple interfered P (fstatatNamedMatches name expected >>= f) (Ends expected Q) := by
  refine Triple.ask hP.stable (M := fun r past s => P past s ∧
    ∀ stat, r = .ok stat → ∃ entry, s.dir name = some entry ∧ stat = entry.stat) ?_ fun r => ?_
  · intro past s r s' hs hserve
    refine ⟨hP.served (c := .fstatat name) trivial hs hserve, ?_⟩
    rintro stat rfl
    obtain ⟨htold, rfl⟩ := hserve
    rcases htold with ⟨⟨text, herror⟩, -⟩ | ⟨entry, hentry, hok⟩
    · cases herror
    · exact ⟨entry, hentry, Except.ok.inj hok⟩
  · cases r with
    | error error =>
      refine Triple.mono (hf false) ?_ fun _ _ _ h => h
      exact fun past s h => ⟨h.1, nofun⟩
    | ok stat =>
      refine Triple.mono (hf (statMatches expected stat)) ?_ fun _ _ _ h => h
      rintro past s ⟨hs, hstat⟩
      refine ⟨hs, fun hmatch => ?_⟩
      obtain ⟨entry, hentry, rfl⟩ := hstat stat rfl
      exact ⟨entry, hentry, hmatch⟩

end Parts

theorem isFrozen_of_statMatches {entry : Entry} (h : statMatches expected entry.stat = true) :
    IsFrozen expected entry ∧ entry.stat.mode &&& fileType = regularFile := by
  simp only [statMatches, Bool.and_eq_true, decide_eq_true_eq, beq_iff_eq] at h
  obtain ⟨⟨⟨⟨⟨⟨-, hdev⟩, hino⟩, huid⟩, hmode⟩, hnlink⟩, htype⟩ := h
  exact ⟨⟨hdev, hino, huid, hmode, hnlink⟩, htype⟩

/-- An assertion together with what was seen. -/
theorem Lasting.saw {P : Assertion Answer Profile} (hP : Lasting P)
    (kinds : List (Step → Prop)) : Lasting fun past s => P past s ∧ Saw kinds past where
  stable past s s' h hother := ⟨hP.stable past s s' h.1 hother, h.2.later _⟩
  looks past s c r hc htold h := ⟨hP.looks past s c r hc htold h.1, h.2.later _⟩

/-- **The entry goes back**, or meets one that stands in its place. -/
theorem restoreQuarantinedEntry_spec (hname : quarantine ≠ devtoolsActivePortName) :
    Triple interfered (Held expected quarantine) (restoreQuarantinedEntry quarantine)
      (Ends expected fun _ => Untouched expected) := by
  refine Triple.ask Held.lasting.stable (M := fun r past s =>
    (r = .ok () → Untouched expected past s) ∧ ∀ e, r = .error e → Left expected past s) ?_ ?_
  · rintro past s r s' h ⟨htold, rfl⟩
    have hunlinks : NoUnlink (past ++ [⟨some ⟨.renameatxNp quarantine devtoolsActivePortName .excl,
        r⟩, s, renamed s quarantine devtoolsActivePortName r⟩]) := h.unlinks.own nofun
    rcases htold with ⟨rfl, ⟨moved, hmoved⟩, habsent⟩ | ⟨-, hgone⟩ | ⟨⟨text, rfl⟩, -, hthere⟩
    · refine ⟨fun _ => ⟨?_, hunlinks⟩, nofun⟩
      have habsent := habsent rfl
      refine h.kept.snoc (fun name entry _ hs => Or.inr ?_) fun name entry hs hdrawn _ => Or.inr ?_
      · rcases hs with ⟨hne, hs⟩ | ⟨rfl, hs⟩
        · have hcanonical : name ≠ devtoolsActivePortName := by
            rintro rfl
            rw [habsent] at hs
            cases hs
          exact (renamed_other hne hcanonical).trans hs
        · exact (renamed_target hname).trans hs
      · have hne : name ≠ quarantine := by
          rintro rfl
          exact hdrawn h.drawn
        have hcanonical : name ≠ devtoolsActivePortName := by
          rintro rfl
          rw [habsent] at hs
          cases hs
        exact (renamed_other hne hcanonical).trans hs
    · obtain ⟨entry, hentry⟩ := h.entry
      rw [hgone] at hentry
      cases hentry
    · refine ⟨nofun, fun e _ => ⟨?_, hunlinks⟩⟩
      -- the entry stays in the quarantine, behind the conflict
      refine h.kept.snoc (fun name entry _ hs => Or.inr ?_) fun name entry hs _ _ =>
        Or.inr (Or.inl hs)
      rcases hs with ⟨-, hs⟩ | ⟨rfl, hs⟩
      · exact Or.inl hs
      · refine Or.inr ⟨rfl, quarantine, ?_, hs, _,
          List.mem_append_right _ (List.mem_singleton_self _), ⟨text, rfl⟩, hthere⟩
        rw [drawn_snoc]
        exact h.drawn
  · intro r
    cases r with
    | ok u =>
      refine Triple.ret (Untouched.lasting.stable) fun past s h => h.1 rfl
    | error e =>
      have hleft : ∀ past s, ((Except.error e = .ok () → Untouched expected past s) ∧
          ∀ e', (Except.error e : Except SystemError Unit) = .error e' → Left expected past s) →
          Left expected past s := fun past s h => h.2 e rfl
      dsimp only
      split
      · exact ends_throw nofun hleft
      · exact ends_throw (renameFailure_ne_removed e.errno) hleft

/-- A quarantine whose name is one, behind the first scan. -/
def Quarantined (frozen : FrozenRuntimeArtifact) (quarantine : Name) (past : List Step)
    (s : Profile) : Prop :=
  (quarantine ≠ devtoolsActivePortName ∧ ∃ component, quarantine = Text.bytes component) ∧
    Held frozen.identity quarantine past s ∧ Saw [FirstScan frozen, Quarantines quarantine] past

/-- **The canonical entry goes to the quarantine.** -/
theorem quarantineCandidate_spec (attempts : Nat) :
    Triple interfered
      (fun past s => Untouched frozen.identity past s ∧ Saw [FirstScan frozen] past)
      (quarantineCandidate attempts) (Ends frozen.identity fun q => Quarantined frozen q) := by
  have huntouched : Lasting (Untouched frozen.identity) := Untouched.lasting
  have hlasting := huntouched.saw [FirstScan frozen]
  -- each round draws a name of its own, so the invariant is that of the first
  induction attempts with
  | zero => exact ends_throw nofun fun past s h => h.1.left
  | succ attempts ih =>
    refine Triple.ask hlasting.stable (M := fun r past s =>
      (Untouched frozen.identity past s ∧ Saw [FirstScan frozen] past) ∧
        (∀ q, randomQuarantineName r = some q → drawn past = some q)) ?_ fun r => ?_
    · rintro past s r s' ⟨h, hsaw⟩ ⟨-, rfl⟩
      refine ⟨⟨⟨?_, h.unlinks.own nofun⟩, hsaw.later _⟩, fun q hq => ?_⟩
      · exact h.kept.snoc (fun _ _ _ hs => Or.inr hs) fun _ _ hs _ _ => Or.inr hs
      · rw [drawn_snoc, Option.bind_some, drawnBy, hq]
        rfl
    cases hname : randomQuarantineName r with
    | none => exact ends_throw nofun fun past s h => h.1.1.left
    | some quarantine =>
      obtain ⟨hne, hcomponent⟩ := quarantine_of_random hname
      refine Triple.ask ?_ (M := fun r past s =>
        (r = .ok () → Quarantined frozen quarantine past s) ∧
          ∀ e, r = .error e → Untouched frozen.identity past s ∧ Saw [FirstScan frozen] past)
        ?_ fun r => ?_
      · rintro past s s' ⟨h, hdrawn⟩ hother
        refine ⟨hlasting.stable past s s' h hother, fun q hq => ?_⟩
        rw [drawn_other]
        exact hdrawn q hq
      · rintro past s r s' ⟨⟨h, hsaw⟩, hdrawn⟩ ⟨htold, rfl⟩
        have hdrawn := hdrawn quarantine rfl
        have herror : ∀ e, r = .error e → Untouched frozen.identity
            (past ++ [⟨some ⟨.renameatxNp devtoolsActivePortName quarantine .excl, r⟩, s,
              renamed s devtoolsActivePortName quarantine r⟩])
            (renamed s devtoolsActivePortName quarantine r) ∧
              Saw [FirstScan frozen] (past ++ [⟨some ⟨.renameatxNp devtoolsActivePortName quarantine
                .excl, r⟩, s, renamed s devtoolsActivePortName quarantine r⟩]) := by
          rintro e rfl
          refine ⟨⟨?_, h.unlinks.own nofun⟩, hsaw.later _⟩
          exact h.kept.snoc (fun _ _ _ hs => Or.inr hs) fun _ _ hs _ _ => Or.inr hs
        refine ⟨?_, herror⟩
        rintro rfl
        rcases htold with ⟨-, ⟨moved, hmoved⟩, habsent⟩ | ⟨⟨_, hbad⟩, -⟩ | ⟨⟨_, hbad⟩, -⟩
        · have habsent := habsent rfl
          refine ⟨⟨hne, hcomponent⟩, ⟨?_, ⟨moved, (renamed_target hne.symm).trans hmoved⟩, ?_,
            h.unlinks.own nofun⟩, hsaw.snoc rfl⟩
          · rw [drawn_snoc]
            exact hdrawn
          · -- the target was absent, so what the rename put there overwrote nothing
            have hplaced : ∀ name entry, s.dir name = some entry →
                (name ≠ quarantine ∧ (renamed s devtoolsActivePortName quarantine (.ok ())).dir name
                    = some entry) ∨
                  name = devtoolsActivePortName ∧
                    (renamed s devtoolsActivePortName quarantine (.ok ())).dir quarantine
                      = some entry := by
              intro name entry hs
              by_cases hc : name = devtoolsActivePortName
              · subst hc
                exact Or.inr ⟨rfl, (renamed_target hne.symm).trans hs⟩
              · have hq : name ≠ quarantine := by
                  rintro rfl
                  rw [habsent] at hs
                  cases hs
                exact Or.inl ⟨hq, (renamed_other hc hq).trans hs⟩
            exact h.kept.snoc (fun name entry _ hs => Or.inr (hplaced name entry hs))
              fun name entry hs _ _ => Or.inr (hplaced name entry hs)
        · cases hbad
        · cases hbad
      · cases r with
        | ok u =>
          refine Triple.ret ?_ fun past s h => h.1 rfl
          exact fun past s s' h hother =>
            ⟨h.1, (Lasting.saw Held.lasting _).stable past s s' h.2 hother⟩
        | error e =>
          have hback : ∀ past s, _ → _ := fun (past : List Step) (s : Profile)
            (h : ((Except.error e : Except SystemError Unit) = .ok () →
              Quarantined frozen quarantine past s) ∧
                ∀ e', (Except.error e : Except SystemError Unit) = .error e' →
                  Untouched frozen.identity past s ∧ Saw [FirstScan frozen] past) =>
            h.2 e rfl
          dsimp only
          split
          · exact Triple.mono ih hback fun _ _ _ h => h
          · split
            · exact ends_throw nofun fun past s h => (hback past s h).1.left
            · exact ends_throw (renameFailure_ne_removed e.errno)
                fun past s h => (hback past s h).1.left

/-- The entry goes back, whatever is to be returned. -/
theorem failAfterRestoring_spec {α : Type} {P : Assertion Answer Profile}
    {Q : α → Assertion Answer Profile} (hname : quarantine ≠ devtoolsActivePortName)
    (hP : ∀ past s, P past s → Held expected quarantine past s) {failure : ArtifactDisposition}
    (hfailure : failure ≠ .removed) :
    Triple interfered P (failAfterRestoringQuarantinedEntry quarantine failure : Removal α)
      (Ends expected Q) := by
  have hrestore : Triple interfered P (restoreQuarantinedEntry quarantine)
      (Ends expected fun _ => Untouched expected) :=
    (restoreQuarantinedEntry_spec hname).mono hP fun _ _ _ h => h
  exact ends_bind hrestore fun _ => ends_throw hfailure fun past s h => h.left

/-- **What was moved is the frozen artifact, or goes back.** -/
theorem verifyQuarantined_spec :
    Triple interfered (Quarantined frozen quarantine)
      (verifyQuarantined uid frozen.identity quarantine)
      (Ends frozen.identity fun _ past s => Quarantined frozen quarantine past s ∧
        HeldFrozen frozen.identity quarantine past s) := by
  intro past₀ s₀ ms₀ o₀ s₁ h₀ hist
  refine Triple.mono (P := Quarantined frozen quarantine) ?_ (fun _ _ h => h)
    (fun _ _ _ h => h) past₀ s₀ ms₀ o₀ s₁ h₀ hist
  have hname := h₀.1
  have hlasting : Lasting (Quarantined frozen quarantine) :=
    ⟨fun past s s' h hother => ⟨h.1, (Lasting.saw Held.lasting _).stable past s s' h.2 hother⟩,
      fun past s c r hc ht h => ⟨h.1, (Lasting.saw Held.lasting _).looks past s c r hc ht h.2⟩⟩
  have hback : ∀ failure, failure ≠ ArtifactDisposition.removed →
      Triple interfered (Quarantined frozen quarantine)
        (failAfterRestoringQuarantinedEntry quarantine failure : Removal Unit)
        (Ends frozen.identity fun _ past s => Quarantined frozen quarantine past s ∧
          HeldFrozen frozen.identity quarantine past s) :=
    fun failure hfailure => failAfterRestoring_spec hname.1 (fun past s h => h.2.1) hfailure
  refine hlasting.yields (looks_openNamedCandidate quarantine) fun r => ?_
  cases hr : opened .identityMismatch r with
  | error failure => exact hback failure (opened_ne_removed (by decide) hr)
  | ok quarantined =>
    refine hlasting.ask trivial fun r => ?_
    cases r with
    | error error => exact hback .rejected nofun
    | ok metadata =>
      dsimp only
      split
      · refine ends_matches hlasting quarantine fun b => ?_
        split
        · rename_i hmatch
          refine Triple.ret ?_ fun past s h => ?_
          · exact fun past s s' h hother => ⟨hlasting.stable past s s' h.1 hother,
              HeldFrozen.lasting.stable past s s' h.2 hother⟩
          · obtain ⟨entry, hentry, hstat⟩ := h.2 hmatch
            exact ⟨h.1, h.1.2.1, entry, hentry, (isFrozen_of_statMatches hstat).1⟩
        · exact (hback .identityMismatch nofun).mono (fun past s h => h.1) fun _ _ _ h => h
      · exact hback .identityMismatch nofun

/-- **The frozen artifact goes back.** -/
theorem restoreQuarantinedExact_spec (hname : quarantine ≠ devtoolsActivePortName) :
    Triple interfered (HeldFrozen expected quarantine)
      (restoreQuarantinedExact uid expected quarantine)
      (Ends expected fun _ => Untouched expected) := by
  have hleft : ∀ past s, HeldFrozen expected quarantine past s → Left expected past s :=
    fun _ _ h => h.left
  have huntouched : ∀ past s, Untouched expected past s → Left expected past s :=
    fun _ _ h => h.left
  refine ends_inspect HeldFrozen.lasting hleft .identityMismatch nofun quarantine fun file => ?_
  refine ends_matches HeldFrozen.lasting quarantine fun b => ?_
  refine ends_demand nofun (fun past s h => hleft past s h.1) fun _ => ?_
  refine ends_bind ((restoreQuarantinedEntry_spec hname).mono (fun past s h => h.1.1)
    fun _ _ _ h => h) fun _ => ?_
  refine Untouched.lasting.ask trivial fun r => ?_
  refine ends_orThrow (fun _ _ => nofun) huntouched fun metadata => ?_
  refine ends_demand nofun huntouched fun _ => ?_
  refine ends_matches Untouched.lasting devtoolsActivePortName fun b => ?_
  unfold demand
  split
  · exact Triple.ret Untouched.lasting.stable fun past s h => h.1
  · exact ends_throw nofun fun past s h => h.1.left

/-- The canonical path is looked at last. -/
def Checked (frozen : FrozenRuntimeArtifact) (quarantine : Name) (past : List Step)
    (s : Profile) : Prop :=
  HeldFrozen frozen.identity quarantine past s ∧ Licensed frozen quarantine past ∧
    ∃ entry, s.dir quarantine = some entry ∧ statMatches frozen.identity entry.stat = true

/-- **The unlink was licensed**, and nothing followed it. -/
def Removed (frozen : FrozenRuntimeArtifact) (past : List Step) (s : Profile) : Prop :=
  Kept frozen.identity past (fun name entry => s.dir name = some entry) ∧
    ∃ before m after, past = before ++ m :: after ∧ NoUnlink before ∧
      UnlinksFrozen frozen before m ∧ ∀ x ∈ after, x.event = none

/-- Both scans found nothing, and the frozen artifact is in the quarantine. -/
def TwiceScanned (frozen : FrozenRuntimeArtifact) (quarantine : Name) (past : List Step)
    (s : Profile) : Prop :=
  HeldFrozen frozen.identity quarantine past s ∧
    Saw [FirstScan frozen, Quarantines quarantine, SecondScan frozen quarantine] past

theorem Licensed.other (h : Licensed frozen quarantine past) :
    Licensed frozen quarantine (past ++ [⟨none, s, s'⟩]) := by
  obtain ⟨earlier, check, gap, rfl, hsaw, hcheck, hgap⟩ := h
  refine ⟨earlier, check, gap ++ [⟨none, s, s'⟩], by simp, hsaw, hcheck, fun m hm => ?_⟩
  rcases List.mem_append.mp hm with hm | hm
  · exact hgap m hm
  · rw [List.mem_singleton.mp hm]

theorem checked_stable : Stable interfered (Checked frozen quarantine) := by
  rintro past s s' ⟨h, hlicensed, entry, hentry, hstat⟩ hother
  refine ⟨HeldFrozen.lasting.stable past s s' h hother, hlicensed.other, entry, ?_, hstat⟩
  exact (hother quarantine h.1.drawn).trans hentry

theorem removed_stable : Stable interfered (Removed frozen) := by
  rintro past s s' ⟨hkept, before, m, after, rfl, hbefore, hunlinks, hafter⟩ hother
  refine ⟨hkept.snoc (fun name entry _ hs => others_keep hs) fun name entry hs _ _ =>
    others_keep hs, before, m, after ++ [⟨none, s, s'⟩], by simp, hbefore, hunlinks, fun x hx => ?_⟩
  rcases List.mem_append.mp hx with hx | hx
  · exact hafter x hx
  · rw [List.mem_singleton.mp hx]

/-- **The frozen artifact is unlinked**, or stays in the quarantine. -/
theorem unlinkQuarantined_spec :
    Triple interfered (TwiceScanned frozen quarantine)
      (unlinkQuarantined uid frozen.identity quarantine)
      (Ends frozen.identity fun d past s => d = .removed ∧ Removed frozen past s) := by
  have hlasting : Lasting (TwiceScanned frozen quarantine) := Lasting.saw HeldFrozen.lasting _
  have hleft : ∀ past s, TwiceScanned frozen quarantine past s → Left frozen.identity past s :=
    fun _ _ h => h.1.left
  refine ends_inspect hlasting hleft .identityMismatch ArtifactDisposition.noConfusion quarantine
    fun file => ?_
  refine ends_matches hlasting quarantine fun b => ?_
  refine ends_demand ArtifactDisposition.noConfusion (fun past s h => hleft past s h.1)
    fun hb => ?_
  subst hb
  -- the canonical path must be absent before the unlink; only ENOENT says so
  refine ends_bind (M := fun _ => Checked frozen quarantine) ?_ fun _ => ?_
  · refine Triple.ask ?_ (M := fun r past s => HeldFrozen frozen.identity quarantine past s ∧
      ∀ text, r = .error ⟨.enoent, text⟩ → Checked frozen quarantine past s) ?_ fun r => ?_
    · rintro past s s' ⟨h, hmatch⟩ hother
      obtain ⟨entry, hentry, hstat⟩ := hmatch rfl
      exact ⟨hlasting.stable past s s' h hother, fun _ => ⟨entry,
        (hother quarantine h.1.1.drawn).trans hentry, hstat⟩⟩
    · rintro past s r s' ⟨h, hmatch⟩ ⟨htold, hafter⟩
      obtain rfl : s = s' := hafter.symm
      have hheld : HeldFrozen frozen.identity quarantine (past ++ [⟨some ⟨.fstatat
          devtoolsActivePortName, r⟩, s, s⟩]) s :=
        HeldFrozen.lasting.looks past s (.fstatat devtoolsActivePortName) r trivial htold h.1
      refine ⟨hheld, ?_⟩
      rintro text rfl
      refine ⟨hheld, ⟨past, _, [], rfl, h.2, ⟨?_, text, rfl⟩, by simp⟩, hmatch rfl⟩
      rcases htold with ⟨-, habsent⟩ | ⟨entry, -, hbad⟩
      · exact habsent
      · cases hbad
    · cases r with
      | ok stat => exact ends_throw ArtifactDisposition.noConfusion fun past s h => h.1.left
      | error error =>
        obtain ⟨errno, text⟩ := error
        cases errno with
        | enoent => exact Triple.ret checked_stable fun past s h => h.2 text rfl
        | _ => exact ends_throw ArtifactDisposition.noConfusion fun past s h => h.1.left
  · refine Triple.ask checked_stable (M := fun r past s => r = .ok () ∧ Removed frozen past s) ?_
      fun r => ?_
    · rintro past s r s' ⟨h, hlicensed, entry, hentry, hstat⟩ ⟨htold, rfl⟩
      obtain ⟨hfrozen, hregular⟩ := isFrozen_of_statMatches hstat
      rcases htold with ⟨-, hgone⟩ | ⟨found, hfound, hr⟩
      · rw [hgone] at hentry
        cases hentry
      · rw [hentry] at hfound
        obtain rfl := Option.some.inj hfound
        rw [if_neg (by rw [hregular]; decide)] at hr
        subst hr
        refine ⟨rfl, ?_, past, _, [], rfl, h.1.unlinks, ⟨quarantine, entry, rfl, hentry, hfrozen,
          hlicensed⟩, by simp⟩
        -- the unlink takes the quarantine name and no other
        have hplaced : ∀ name, name ≠ quarantine →
            (leaves s (.unlinkat quarantine) (.ok ())).dir name = s.dir name := by
          intro name hne
          simp [leaves, unlinked, Profile.put, Function.update_of_ne hne]
        refine h.1.kept.snoc (fun name other hother hs => Or.inr ?_)
          fun name other hs hd _ => Or.inr ?_
        · rcases hs with ⟨hne, hs⟩ | ⟨hname, hs⟩
          · exact (hplaced name hne).trans hs
          · rw [hentry] at hs
            obtain rfl := Option.some.inj hs
            exact absurd ⟨hname, hfrozen⟩ hother
        · refine (hplaced name ?_).trans hs
          rintro rfl
          exact hd h.1.drawn
    · cases r with
      | ok u =>
        refine Triple.ret ?_ fun past s h => ⟨rfl, h.2⟩
        exact fun past s s' h hother => ⟨h.1, removed_stable past s s' h.2 hother⟩
      | error error =>
        intro past s ms o s' h hist
        cases h.1

/-- The second scan, and what follows it. -/
theorem removeQuarantined_spec :
    Triple interfered
      (fun past s => Quarantined frozen quarantine past s ∧
        HeldFrozen frozen.identity quarantine past s)
      (removeQuarantined uid frozen quarantine)
      (Ends frozen.identity fun d past s => d = .removed ∧ Removed frozen past s) := by
  intro past₀ s₀ ms₀ o₀ s₁ h₀ hist
  obtain ⟨hname, component, hcomponent⟩ := h₀.1.1
  have hstable : Stable interfered fun past s => Quarantined frozen quarantine past s ∧
      HeldFrozen frozen.identity quarantine past s := fun past s s' h hother =>
    ⟨⟨h.1.1, (Lasting.saw Held.lasting _).stable past s s' h.1.2 hother⟩,
      HeldFrozen.lasting.stable past s s' h.2 hother⟩
  have hrestore : ∀ d : ArtifactDisposition, d ≠ .removed →
      Triple interfered (HeldFrozen frozen.identity quarantine)
        (restoreQuarantinedExact uid frozen.identity quarantine >>= fun _ => .throw d)
        (Ends frozen.identity fun (d : ArtifactDisposition) past s =>
          d = .removed ∧ Removed frozen past s) :=
    fun d hd => ends_bind (restoreQuarantinedExact_spec hname) fun _ =>
      ends_throw hd fun past s h => h.left
  refine Triple.mono (P := fun past s => Quarantined frozen quarantine past s ∧
    HeldFrozen frozen.identity quarantine past s) (p := removeQuarantined uid frozen quarantine) ?_
    (fun _ _ h => h) (fun _ _ _ h => h) past₀ s₀ ms₀ o₀ s₁ h₀ hist
  rw [removeQuarantined, hcomponent, Utf8.decode_bytes, ← hcomponent]
  refine Triple.ask hstable (M := fun r past s => HeldFrozen frozen.identity quarantine past s ∧
    (r = .ok false → TwiceScanned frozen quarantine past s)) ?_ fun r => ?_
  · rintro past s r s' ⟨⟨-, hheld, hsaw⟩, hfrozen⟩ ⟨htold, hafter⟩
    obtain rfl : s = s' := hafter.symm
    have hlooks := HeldFrozen.lasting.looks past s (.referenceScan frozen.candidate frozen.identity
      (Text.joinPath frozen.candidate.profilePath component)) r trivial htold hfrozen
    refine ⟨hlooks, ?_⟩
    rintro rfl
    exact ⟨hlooks, hsaw.snoc ⟨component, hcomponent, rfl⟩⟩
  · cases r with
    | error u => exact (hrestore .unsafeArtifact nofun).mono (fun past s h => h.1) fun _ _ _ h => h
    | ok referenced =>
      cases referenced with
      | true => exact (hrestore .referenced nofun).mono (fun past s h => h.1) fun _ _ _ h => h
      | false => exact unlinkQuarantined_spec.mono (fun past s h => h.2 rfl) fun _ _ _ h => h

/-- **The whole removal**, from a directory as others have it. -/
theorem removeExact_spec :
    Triple interfered (Untouched frozen.identity) (removeExact uid frozen)
      (Ends frozen.identity fun d past s => d = .removed ∧ Removed frozen past s) := by
  have hleft : ∀ past s, Untouched frozen.identity past s → Left frozen.identity past s :=
    fun _ _ h => h.left
  have huntouched : Lasting (Untouched frozen.identity) := Untouched.lasting
  have hlasting := huntouched.saw [FirstScan frozen]
  refine ends_demand nofun hleft fun _ => ?_
  refine Untouched.lasting.yields (looks_openSafeParent uid _ _) fun r => ?_
  refine ends_orThrow (fun _ _ => nofun) hleft fun parent => ?_
  refine Untouched.lasting.ask trivial fun r => ?_
  refine ends_orThrow (fun _ _ => nofun) hleft fun parentMetadata => ?_
  refine ends_demand nofun hleft fun _ => ?_
  refine ends_bind (M := fun _ => Untouched frozen.identity) ?_ fun _ => ?_
  · exact inspectCandidate_spec Untouched.lasting hleft
  refine Triple.ask Untouched.lasting.stable (M := fun r past s =>
    Untouched frozen.identity past s ∧ (r = .ok false → Saw [FirstScan frozen] past)) ?_
    fun r => ?_
  · rintro past s r s' h ⟨htold, hafter⟩
    obtain rfl : s = s' := hafter.symm
    refine ⟨Untouched.lasting.looks past s (.referenceScan frozen.candidate frozen.identity
      frozen.candidate.artifactPath) r trivial htold h, ?_⟩
    rintro rfl
    exact (saw_nil past).snoc rfl
  refine Triple.orThrow (fun _ hr => ?_) fun d hr => ?_
  · have hclear : r = .ok false := by
      cases r with
      | error u => cases hr
      | ok referenced =>
        cases referenced with
        | true => cases hr
        | false => rfl
    subst hclear
    refine Triple.mono (P := fun past s => Untouched frozen.identity past s ∧
      Saw [FirstScan frozen] past) ?_ (fun past s h => ⟨h.1, h.2 rfl⟩) fun _ _ _ h => h
    refine ends_bind (inspectCandidate_spec hlasting fun past s h => hleft past s h.1) fun _ => ?_
    refine ends_matches hlasting devtoolsActivePortName fun b => ?_
    refine ends_demand nofun (fun past s h => hleft past s h.1.1) fun _ => ?_
    refine ends_bind ((quarantineCandidate_spec quarantineAttempts).mono (fun past s h => h.1)
      fun _ _ _ h => h) fun quarantine => ?_
    exact ends_bind verifyQuarantined_spec fun _ => removeQuarantined_spec
  · refine ends_throw ?_ fun past s h => hleft past s h.1
    cases r with
    | error u =>
      obtain rfl := Except.error.inj hr
      exact nofun
    | ok referenced =>
      cases referenced with
      | true =>
        obtain rfl := Except.error.inj hr
        exact nofun
      | false => cases hr

theorem overwritesNothing {o : Except ArtifactDisposition ArtifactDisposition} {hist : List Step}
    (h : Interleaved interfered past s (removeExact uid frozen) hist o s') :
    OverwritesNothing hist := by
  intro m hm source target flags hevent
  obtain ⟨hflags, before, htold, -⟩ := h.served (exclusive_removeExact uid frozen) m hm _ hevent
  obtain rfl : flags = .excl := hflags
  rcases htold with ⟨-, -, habsent⟩ | ⟨⟨text, hbad⟩, -⟩ | ⟨⟨text, hbad⟩, -⟩
  · exact habsent rfl
  · cases hbad
  · cases hbad

/-- **Removal is exact.** Whatever others do to the directory meanwhile, and
whatever the scans answer: what is unlinked is the quarantined entry and
frozen artifact, at most once and behind both scans; no rename goes over an
entry; `Removed` says that the unlink happened; and what others placed is
retained. -/
theorem removeExact_exact {o : Except ArtifactDisposition ArtifactDisposition} {hist : List Step}
    (h : Interleaved interfered [] s (removeExact uid frozen) hist o s') :
    (∀ before m after, hist = before ++ m :: after → Unlinks m →
        UnlinksFrozen frozen before m ∧ NoUnlink before ∧ NoUnlink after) ∧
      OverwritesNothing hist ∧
      (returned o = .removed ↔
        ∃ before m after, hist = before ++ m :: after ∧ UnlinksFrozen frozen before m) ∧
      Kept frozen.identity hist (Retained hist s') := by
  have hstart : Untouched frozen.identity [] s := by
    refine ⟨fun before m after hpast => ?_, fun m hm => absurd hm List.not_mem_nil⟩
    exact absurd hpast (by simp)
  have hend := removeExact_spec [] s hist o s' hstart h
  rw [List.nil_append] at hend
  refine and_left_comm.mp ⟨overwritesNothing h, ?_⟩
  cases o with
  | error d =>
    obtain ⟨hd, hleft⟩ := hend
    have hnone : ∀ before m after, hist = before ++ m :: after → ¬ Unlinks m := by
      rintro before m after rfl
      exact hleft.unlinks m (by simp)
    refine ⟨fun before m after hhist hm => absurd hm (hnone before m after hhist),
      ⟨fun hr => absurd hr hd, ?_⟩, hleft.kept⟩
    rintro ⟨before, m, after, hhist, quarantine, entry, hevent, -⟩
    exact absurd ⟨quarantine, _, hevent⟩ (hnone before m after hhist)
  | ok d =>
    obtain ⟨rfl, hkept, past, u, rest, rfl, hpast, hunlinks, hrest⟩ := hend
    have hafter : NoUnlink rest := by
      rintro m hm ⟨name, r, hevent⟩
      rw [hrest m hm] at hevent
      cases hevent
    refine ⟨fun before m after hhist hm => ?_,
      ⟨fun _ => ⟨past, u, rest, rfl, hunlinks⟩, fun _ => rfl⟩, hkept.mono fun _ _ _ hs => Or.inl hs⟩
    -- the unlink is the only one
    rcases List.append_eq_append_iff.mp hhist with ⟨mid, rfl, hmid⟩ | ⟨mid, rfl, hmid⟩
    · cases mid with
      | nil =>
        obtain ⟨rfl, rfl⟩ := List.cons.inj hmid
        rw [List.append_nil]
        exact ⟨hunlinks, hpast, hafter⟩
      | cons x mid =>
        obtain ⟨rfl, rfl⟩ := List.cons.inj hmid
        exact absurd hm (hafter m (by simp))
    · cases mid with
      | nil =>
        obtain ⟨rfl, rfl⟩ := List.cons.inj hmid
        rw [List.append_nil] at hpast hunlinks
        exact ⟨hunlinks, hpast, hafter⟩
      | cons x mid =>
        obtain ⟨rfl, rfl⟩ := List.cons.inj hmid
        exact absurd hm (hpast m (by simp))

/-! ## A file in its place -/

/-- A file of the user's that is not the sample artifact. -/
def laterEntry : Entry := ⟨⟨1, 9, 501, 0o100600, 1⟩, false⟩

/-- Somebody puts it in the artifact's place, when the artifact is about to
be unlinked in the quarantine. -/
def replaces (_ : List Step) (s : Profile) : Call → Option Profile
  | .unlinkat _ => some (s.put devtoolsActivePortName (some laterEntry))
  | _ => none

/-- The removal of the sample artifact meanwhile. -/
def replacedRun : List Step × Except ArtifactDisposition ArtifactDisposition × Profile :=
  playAmong replaces (fun _ => rightly) leaves (removeExact 501 sampleFrozen) [] sampleProfile

theorem history_replacedRun : Interleaved interfered [] sampleProfile
    (removeExact 501 sampleFrozen) replacedRun.1 replacedRun.2.1 replacedRun.2.2 := by
  -- the name that is drawn is never the artifact's
  refine history_playAmong (W := interfered)
    (I := fun past => drawn past ≠ some devtoolsActivePortName) (fun past s c s' hI hacts => ?_)
    (fun past s c hI => ⟨⟨(right_rightly s c).told, rfl⟩, ?_⟩) _ (by decide) _
  · refine ⟨fun name hname => ?_, ?_⟩
    · cases c with
      | unlinkat target =>
        obtain rfl := Option.some.inj hacts
        have hne : name ≠ devtoolsActivePortName := by
          rintro rfl
          exact hI hname
        exact Function.update_of_ne hne _ _
      | _ => cases hacts
    · rw [drawn_snoc]
      exact hI
  · rw [drawn_snoc]
    cases c with
    | getentropy =>
      have hname : randomQuarantineName (some (Vector.replicate 16 0)) =
          some (Text.bytes (quarantineName (Vector.replicate 16 0))) := by decide +kernel
      change (randomQuarantineName (some (Vector.replicate 16 0))).or (drawn past) ≠ _
      rw [hname, Option.some_or]
      decide +kernel
    | _ => exact hI

/-- The artifact is removed, and the file in its place stays. -/
theorem removeExact_exact_replaced :
    (∃ m ∈ replacedRun.1, m.event = none) ∧ returned replacedRun.2.1 = .removed ∧
      (∃ before m after, replacedRun.1 = before ++ m :: after ∧
        UnlinksFrozen sampleFrozen before m) ∧
      Kept sampleFrozen.identity replacedRun.1 (Retained replacedRun.1 replacedRun.2.2) ∧
      replacedRun.2.2.dir devtoolsActivePortName = some laterEntry := by
  have hother : (replacedRun.1.any fun m => m.event.isNone) = true := by decide +kernel
  have hremoved : returned replacedRun.2.1 = .removed := by decide +kernel
  obtain ⟨m, hm, hnone⟩ := List.any_eq_true.1 hother
  obtain ⟨-, -, htells, hkept⟩ := removeExact_exact history_replacedRun
  exact ⟨⟨m, hm, Option.isNone_iff_eq_none.1 hnone⟩, hremoved, htells.1 hremoved, hkept,
    by decide +kernel⟩

end Artifacts

end Unlinger
