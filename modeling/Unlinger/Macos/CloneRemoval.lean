import Unlinger.Macos.Helpers.StorageResidue

/-!
# What is removed

The remover is reached through the action alone, and what it is given was
seen twice, by this call and by the one before it, while no process held
it. The other way round, every such candidate is in the plan.
-/

namespace Unlinger

variable {calls : List CloneCall} {call : CloneCall} {c : CloneCandidateIdentity}
  {snapshot : Snapshot} {canonicalRoot : String}

/-- The candidate is in the last scan of the call before, which detected
something. -/
def SeenBefore (calls : List CloneCall) (c : CloneCandidateIdentity) : Prop :=
  ∃ before last scan, calls = before ++ [last] ∧
    (reconcileRootGuarded (remembered before) last).scans.getLast? = some scan ∧
    scan.observation.status = .detected ∧ c ∈ scan.candidates

/-- What it takes to remove a candidate. -/
structure Eligible (calls : List CloneCall) (call : CloneCall) (snapshot : Snapshot)
    (canonicalRoot : String) (c : CloneCandidateIdentity) : Prop where
  mode : call.mode = .enforce
  scanned : c ∈ call.scan.candidates
  seenBefore : SeenBefore calls c
  present : call.snapshot = some snapshot
  covered : snapshot.provesCompleteClassificationCoverage = true
  resolved : call.canonicalRoot = some canonicalRoot
  /-- A process that looks like Chrome has a bundle, or is a browser that
  runs from a candidate of this scan. -/
  bundled : ∀ p ∈ snapshot.processes, mayBeChromeProcess p = true → p.runtime.appBundle = none →
    p.executableBasename = "Google Chrome" ∧ hasCleanupType p = false ∧
      ∃ path, p.executablePath = some path ∧
        ∃ other ∈ call.scan.candidates, insideCandidate call.root canonicalRoot path other = true
  /-- Every helper has one suffix that is valid. -/
  told : ∀ p ∈ snapshot.processes, cloneCleanupHelperSuffix p ≠ some (.error ())
  unreferenced : ∀ p ∈ snapshot.processes, ∀ path ∈ processPaths p, Text.isAbsolute path = true →
    insideCandidate call.root canonicalRoot path c = false
  unnamed : ∀ p ∈ snapshot.processes, ∀ suffix, c.suffix = some suffix →
    cloneCleanupHelperSuffix p ≠ some (.ok suffix)

/-- What is remembered, in the words of the call before. -/
theorem remembered_iff :
    (∃ previous, remembered calls = some previous ∧ c ∈ previous) ↔ SeenBefore calls c := by
  rcases List.eq_nil_or_concat calls with rfl | ⟨before, last, rfl⟩
  · constructor
    · rintro ⟨previous, hprevious, -⟩
      cases hprevious
    · rintro ⟨before, last, scan, hcalls, -⟩
      simp at hcalls
  · obtain ⟨scan, hlast, hremembers⟩ := reconcile_remembers (remembered before) last
    rw [List.concat_eq_append, remembered_concat, hremembers]
    constructor
    · rintro ⟨previous, hprevious, hc⟩
      split_ifs at hprevious with hdetected
      obtain rfl := Option.some.inj hprevious
      exact ⟨before, last, scan, rfl, hlast, hdetected, hc⟩
    · rintro ⟨before', last', scan', hcalls, hlast', hdetected, hc⟩
      obtain ⟨rfl, hsame⟩ := List.append_inj' hcalls rfl
      obtain rfl := List.singleton_inj.1 hsame
      obtain rfl := Option.some.inj (hlast.symm.trans hlast')
      exact ⟨scan.candidates, if_pos hdetected, hc⟩

/-- When no process leaves everything open. -/
theorem not_blinds_iff {root : String} {candidates : List CloneCandidateIdentity}
    {p : ProcessRecord} : ¬ Blinds root canonicalRoot candidates p ↔
      (mayBeChromeProcess p = true → p.runtime.appBundle = none →
        p.executableBasename = "Google Chrome" ∧ hasCleanupType p = false ∧
          ∃ path, p.executablePath = some path ∧
            ∃ other ∈ candidates, insideCandidate root canonicalRoot path other = true) ∧
      cloneCleanupHelperSuffix p ≠ some (.error ()) := by
  have hmain : missingBundleIsAccountedForByLiveCloneMain p (candidates.any fun c =>
      processExecutableReferencesCandidate p root canonicalRoot c) = true ↔
      p.executableBasename = "Google Chrome" ∧ hasCleanupType p = false ∧
        ∃ path, p.executablePath = some path ∧
          ∃ other ∈ candidates, insideCandidate root canonicalRoot path other = true := by
    simp only [missingBundleIsAccountedForByLiveCloneMain, processExecutableReferencesCandidate,
      Bool.and_eq_true, List.any_eq_true, Option.any_eq_true, beq_iff_eq, Bool.not_eq_true']
    constructor
    · rintro ⟨⟨⟨other, hother, path, hpath, hinside⟩, hname⟩, htype⟩
      exact ⟨hname, htype, path, hpath, other, hother, hinside⟩
    · rintro ⟨hname, htype, path, hpath, other, hother, hinside⟩
      exact ⟨⟨⟨other, hother, path, hpath, hinside⟩, hname⟩, htype⟩
  rw [Blinds, not_or, ← hmain, ← Bool.not_eq_true]
  tauto

/-- No process holds the candidate, said of its paths and its suffix. -/
theorem unheld_iff {root : String} : Unheld root canonicalRoot snapshot c ↔
    (∀ p ∈ snapshot.processes, ∀ path ∈ processPaths p, Text.isAbsolute path = true →
      insideCandidate root canonicalRoot path c = false) ∧
    ∀ p ∈ snapshot.processes, ∀ suffix, c.suffix = some suffix →
      cloneCleanupHelperSuffix p ≠ some (.ok suffix) := by
  have hhelper : ∀ p, helperNames p c = false ↔ ∀ suffix, c.suffix = some suffix →
      cloneCleanupHelperSuffix p ≠ some (.ok suffix) := by
    intro p
    unfold helperNames
    split
    · rename_i suffix hsuffix
      rw [hsuffix, beq_eq_false_iff_ne]
      constructor
      · rintro hne other hother heq
        obtain rfl := Except.ok.inj (Option.some.inj heq)
        exact hne hother
      · rintro h heq
        exact h suffix heq rfl
    · rename_i hother
      exact ⟨fun _ suffix _ heq => hother suffix heq, fun _ => rfl⟩
  have hreference : ∀ p, processReferencesCandidatePath p root canonicalRoot c = false ↔
      ∀ path ∈ processPaths p, Text.isAbsolute path = true →
        insideCandidate root canonicalRoot path c = false := by
    intro p
    simp [processReferencesCandidatePath]
  simp only [Unheld, hhelper, hreference]
  exact ⟨fun h => ⟨fun p hp => (h p hp).2, fun p hp => (h p hp).1⟩,
    fun h p hp => ⟨h.2 p hp, h.1 p hp⟩⟩

/-- **Clones are removed under guard, and none that may be is kept.** After
any calls of a new cleanup: the remover is called through the action handed
out alone, with the plan; and the plan is, in the mode that enforces,
exactly the candidates of this scan that the last scan of the call before
had with the same name, device and inode, under a snapshot that covers
everything, in which no absolute executable path and no absolute argument
lies in the candidate and no helper names its suffix, nothing at all being
planned where a process that looks like Chrome has no bundle, unless it is
a browser in a candidate, or a helper has no one valid suffix. -/
theorem clone_removal_guarded (calls : List CloneCall) (call : CloneCall) :
    (∀ handed, (reconcileRootGuarded (remembered calls) call).handed = some handed →
      ∀ removed ∈ handed.removals, removed = handed.planned) ∧
    ∀ c, (∃ handed, (reconcileRootGuarded (remembered calls) call).handed = some handed ∧
        c ∈ handed.planned) ↔
      ∃ snapshot canonicalRoot, Eligible calls call snapshot canonicalRoot c := by
  constructor
  · intro handed hhanded removed hremoved
    obtain ⟨-, -, rfl⟩ := handed_iff.1 hhanded
    obtain ⟨_, -, rfl⟩ := List.mem_map.1 hremoved
    rfl
  · intro c
    constructor
    · rintro ⟨handed, hhanded, hc⟩
      obtain ⟨hmode, -, rfl⟩ := handed_iff.1 hhanded
      obtain ⟨hscanned, hremembered, snapshot, canonicalRoot, hseen, hunheld⟩ := mem_removable.1 hc
      obtain ⟨hunreferenced, hunnamed⟩ := unheld_iff.1 hunheld
      exact ⟨snapshot, canonicalRoot, hmode, hscanned, remembered_iff.1 hremembered, hseen.present,
        hseen.covered, hseen.resolved,
        fun p hp => (not_blinds_iff.1 (hseen.unblinded p hp)).1,
        fun p hp => (not_blinds_iff.1 (hseen.unblinded p hp)).2, hunreferenced, hunnamed⟩
    · rintro ⟨snapshot, canonicalRoot, h⟩
      have hc : c ∈ call.removable (remembered calls) := by
        refine mem_removable.2 ⟨h.scanned, remembered_iff.2 h.seenBefore, snapshot, canonicalRoot,
          ⟨h.present, h.covered, h.resolved, fun p hp => ?_⟩, ?_⟩
        · exact not_blinds_iff.2 ⟨h.bundled p hp, h.told p hp⟩
        · exact unheld_iff.2 ⟨h.unreferenced, h.unnamed⟩
      exact ⟨_, handed_iff.2 ⟨h.mode, List.ne_nil_of_mem hc, rfl⟩, hc⟩

/-! ## A relative root -/

/-- A root with one clone in it. -/
def sampleCloneRoot : CloneRoot :=
  .found true true (some ⟨[⟨.text "code_sign_clone.AAAAAA", true, some ⟨true, 1, 7⟩, true, some 100⟩],
    by decide⟩)

/-- The clone in it. -/
def sampleClone : CloneCandidateIdentity := ⟨"code_sign_clone.AAAAAA", 1, 7, by decide⟩

/-- A browser whose executable path is relative, and in the clone. -/
def relativeBrowser : ProcessRecord where
  identity := ⟨50, 1000, some 1, some 2⟩
  parentPid := 1
  processGroupId := 50
  uid := 501
  ttyDevice := none
  name := "Google Chrome"
  executablePath := some "X/code_sign_clone.AAAAAA/Google Chrome.app/Contents/MacOS/Google Chrome"
  executable := ⟨some 1, some 2⟩
  arguments := some []
  residentMemoryBytes := 0
  runtime := { appBundle := some ⟨"com.google.Chrome", "140.0"⟩ }

/-- A call that enforces, below a relative root. -/
def relativeCall (at_ : Nat) : CloneCall where
  root := "X"
  observedAtUnixMillis := at_
  snapshot := some ⟨at_, 501, [relativeBrowser], ⟨1, 1, 0, 0, 0⟩⟩
  mode := .enforce
  directory := sampleCloneRoot
  canonicalRoot := some "/private/X"
  runCleanup := fun _ => ⟨[.ok ()], some (.ok ())⟩
  directoryAfter := sampleCloneRoot
  canonicalRootAfter := some "/private/X"

/-- Paths that are not absolute are not looked at, an executable's as
little as an argument's: below a relative root a browser whose executable
path is relative too does not hold the clone it is in. -/
theorem relative_executable_unseen :
    ¬ ∀ calls call handed, (reconcileRootGuarded (remembered calls) call).handed = some handed →
      ∀ snapshot canonicalRoot, call.snapshot = some snapshot →
        call.canonicalRoot = some canonicalRoot →
        ∀ removed ∈ handed.removals, ∀ c ∈ removed, ∀ p ∈ snapshot.processes,
          ∀ path, p.executablePath = some path →
            insideCandidate call.root canonicalRoot path c = false := by
  intro h
  have hhanded : (reconcileRootGuarded (remembered [relativeCall 1]) (relativeCall 2)).handed =
      some ⟨⟨1, 1, 100⟩, [sampleClone], [[sampleClone]]⟩ := by decide
  have hout := h [relativeCall 1] (relativeCall 2) _ hhanded _ _ rfl rfl [sampleClone] (by simp)
    sampleClone (by simp) relativeBrowser (by simp) _ rfl
  exact absurd hout (by decide)

end Unlinger
