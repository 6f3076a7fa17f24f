import Unlinger.Macos.Model.StorageResidue

/-!
# Scans and gates

What a scan's candidates are, whatever the directory, and what the gate of
each candidate says about the processes of the snapshot.
-/

namespace Unlinger

/-! ## Scans -/

/-- The candidate of an entry has its name. -/
theorem scanEntry_ok {bytes total : Nat} {entry : CloneEntry} {c : CloneCandidateIdentity}
    (h : scanEntry bytes entry = .ok (c, total)) :
    entry.name = .text c.name ∧ total < 2 ^ 64 := by
  unfold scanEntry at h
  split at h
  · cases h
  · rename_i name hname
    split_ifs at h with hvalid hopened
    split at h
    · cases h
    · split_ifs at h with hunsafe
      split at h
      · cases h
      · split_ifs at h with hbytes
        obtain ⟨rfl, rfl⟩ := Prod.mk.inj (Except.ok.inj h)
        exact ⟨hname, hbytes⟩

/-- The candidates are the entries, in their order. -/
theorem scanEntries_ok {entries : List CloneEntry} {bytes total : Nat}
    {acc candidates : List CloneCandidateIdentity} (hbytes : bytes < 2 ^ 64)
    (h : scanEntries entries bytes acc = .ok (candidates, total)) :
    candidates.map (fun c => EntryName.text c.name) =
        acc.map (fun c => EntryName.text c.name) ++ entries.map CloneEntry.name ∧
      total < 2 ^ 64 := by
  induction entries generalizing bytes acc with
  | nil =>
      obtain ⟨rfl, rfl⟩ := Prod.mk.inj (Except.ok.inj h)
      exact ⟨by simp, hbytes⟩
  | cons entry entries ih =>
      unfold scanEntries at h
      split at h
      · cases h
      · rename_i c total' hentry
        obtain ⟨hname, htotal⟩ := scanEntry_ok hentry
        obtain ⟨hnames, hlt⟩ := ih htotal h
        refine ⟨?_, hlt⟩
        rw [hnames]
        simp [hname]

/-- What every scan says, and what its candidates are. -/
structure CloneScan.Honest (scan : CloneScan) : Prop where
  counted : scan.observation.candidateCount = scan.candidates.length
  names : (scan.candidates.map CloneCandidateIdentity.name).Nodup
  detected : scan.observation.status = .detected ↔ scan.candidates ≠ []
  shape : scan.observation.shapeComplete = true ↔ scan.observation.status ≠ .unavailable

theorem CloneScan.Honest.candidates_nodup {scan : CloneScan} (h : scan.Honest) :
    scan.candidates.Nodup :=
  h.names.of_map _

/-- A root that could not be read has no candidates. -/
theorem honest_unavailable (at_ : Nat) (reason : String) :
    (CloneScan.mk (unavailable at_ reason) []).Honest where
  counted := rfl
  names := by simp
  detected := by simp [unavailable]
  shape := by simp [unavailable]

theorem scan_honest (root : CloneRoot) (at_ : Nat) : (scanCodeSignCloneRoot root at_).Honest := by
  cases root with
  | absent => exact ⟨rfl, by simp [scanCodeSignCloneRoot], by simp [scanCodeSignCloneRoot],
      by simp [scanCodeSignCloneRoot]⟩
  | unreadable => exact honest_unavailable at_ _
  | found directory owned listing =>
      simp only [scanCodeSignCloneRoot]
      split
      · exact honest_unavailable at_ _
      · cases listing with
        | none => exact honest_unavailable at_ _
        | some listing =>
            simp only
            split
            · exact honest_unavailable at_ _
            · rename_i candidates bytes hscan
              obtain ⟨hnames, -⟩ := scanEntries_ok (by decide) hscan
              have hsorted : ((sortedEntries listing.entries).map CloneEntry.name).Nodup :=
                ((List.perm_insertionSort _ listing.entries).map _).nodup_iff.2 listing.nodup
              have hnodup : (candidates.map CloneCandidateIdentity.name).Nodup := by
                refine List.Nodup.of_map EntryName.text ?_
                rw [List.map_map]
                simpa [Function.comp_def] using hnames ▸ hsorted
              refine ⟨rfl, hnodup, ?_, ?_⟩
              · by_cases hempty : candidates = []
                · simp [observeClones, hempty]
                · simp [observeClones, hempty]
              · by_cases hempty : candidates = []
                · simp [observeClones, hempty]
                · simp [observeClones, hempty]

/-- An observation has the time of its scan. -/
theorem scan_observedAt (root : CloneRoot) (at_ : Nat) :
    (scanCodeSignCloneRoot root at_).observation.observedAtUnixMillis = at_ := by
  unfold scanCodeSignCloneRoot
  repeat' split
  all_goals rfl

/-! ## Gates -/

section Gates

variable {root canonicalRoot : String} {candidates : List CloneCandidateIdentity}
  {p : ProcessRecord} {processes : List ProcessRecord} {c : CloneCandidateIdentity}

/-- The name of a clone is the prefix and its suffix. -/
theorem CloneCandidateIdentity.name_of_suffix {suffix : String} (h : c.suffix = some suffix) :
    c.name.toList = clonePrefix.toList ++ suffix.toList := by
  simp only [CloneCandidateIdentity.suffix, Text.stripPrefix, Option.map_eq_some_iff] at h
  obtain ⟨rest, hrest, rfl⟩ := h
  rw [String.toList_ofList]
  exact List.isPrefixOf?_eq_some_iff_append_eq.1 hrest |>.symm

/-- Writing at the one place a test holds. -/
theorem set_findIdx?_map {α β : Type} {q : α → Bool} {f : α → β} {v : β} {l : List α}
    (hone : l.Pairwise fun a b => ¬ (q a = true ∧ q b = true)) :
    (match l.findIdx? q with
      | some index => (l.map f).set index v
      | none => l.map f) = l.map fun a => if q a then v else f a := by
  induction l with
  | nil => rfl
  | cons a l ih =>
      obtain ⟨hfirst, hrest⟩ := List.pairwise_cons.1 hone
      rw [List.findIdx?_cons]
      by_cases hq : q a = true
      · -- the test holds here, and so nowhere after it
        have hlater : l.map (fun a => if q a then v else f a) = l.map f :=
          List.map_congr_left fun b hb => if_neg fun hqb => hfirst b hb ⟨hq, hqb⟩
        simp [hq, hlater]
      · have hstep := ih hrest
        cases hfind : l.findIdx? q with
        | none =>
            rw [hfind] at hstep
            simpa [hq] using hstep
        | some index =>
            rw [hfind] at hstep
            simpa [hq] using hstep

/-- The process leaves everything open: it looks like Chrome and has no
bundle, and does not run from a candidate; or it is a helper whose suffix
cannot be told. -/
def Blinds (root canonicalRoot : String) (candidates : List CloneCandidateIdentity)
    (p : ProcessRecord) : Prop :=
  mayBeChromeProcess p = true ∧ p.runtime.appBundle = none ∧
      missingBundleIsAccountedForByLiveCloneMain p (candidates.any fun c =>
        processExecutableReferencesCandidate p root canonicalRoot c) = false ∨
    cloneCleanupHelperSuffix p = some (.error ())

/-- The process is a helper for the candidate's suffix. -/
def helperNames (p : ProcessRecord) (c : CloneCandidateIdentity) : Bool :=
  match cloneCleanupHelperSuffix p with
  | some (.ok suffix) => c.suffix == some suffix
  | _ => false

/-- What the process makes of a candidate's gate. -/
def gateAfter (root canonicalRoot : String) (p : ProcessRecord) (c : CloneCandidateIdentity)
    (gate : ProcessGate) : ProcessGate :=
  if helperNames p c then .cleanupHelperActive
  else if processReferencesCandidatePath p root canonicalRoot c then .candidatePathReferenced
  else gate

/-- Candidates of different names have different suffixes. -/
theorem suffix_once {suffix : String} (h : (candidates.map CloneCandidateIdentity.name).Nodup) :
    candidates.Pairwise fun a b => ¬ ((a.suffix == some suffix) = true ∧
      (b.suffix == some suffix) = true) := by
  refine (List.pairwise_map.1 h).imp fun hne ⟨ha, hb⟩ => hne ?_
  have hsame := (CloneCandidateIdentity.name_of_suffix (beq_iff_eq.1 ha)).trans
    (CloneCandidateIdentity.name_of_suffix (beq_iff_eq.1 hb)).symm
  exact String.toList_inj.1 hsame

/-- One process, candidate by candidate. -/
theorem gateProcess_eq (h : (candidates.map CloneCandidateIdentity.name).Nodup)
    {f : CloneCandidateIdentity → ProcessGate} {gates : List ProcessGate} :
    gateProcess root canonicalRoot candidates (candidates.map f) p = some gates ↔
      ¬ Blinds root canonicalRoot candidates p ∧
        gates = candidates.map fun c => gateAfter root canonicalRoot p c (f c) := by
  have hzip : candidates.zipWith (fun c gate =>
      if processReferencesCandidatePath p root canonicalRoot c then
        ProcessGate.candidatePathReferenced else gate) (candidates.map f) =
      candidates.map fun c => if processReferencesCandidatePath p root canonicalRoot c then
        ProcessGate.candidatePathReferenced else f c := by
    rw [List.zipWith_map_right, List.zipWith_self]
  unfold gateProcess Blinds
  simp only [hzip]
  split_ifs with hblind
  · simp only [Bool.and_eq_true, Option.isNone_iff_eq_none, Bool.not_eq_true'] at hblind
    simp [hblind.1.1, hblind.1.2, hblind.2]
  · have hsee : ¬ (mayBeChromeProcess p = true ∧ p.runtime.appBundle = none ∧
        missingBundleIsAccountedForByLiveCloneMain p (candidates.any fun c =>
          processExecutableReferencesCandidate p root canonicalRoot c) = false) := by
      simpa [and_assoc] using hblind
    cases hsuffix : cloneCleanupHelperSuffix p with
    | none =>
        simp only [hsee, gateAfter, helperNames, hsuffix, false_or, reduceCtorEq,
          Option.some.injEq, not_false_eq_true, true_and, Bool.false_eq_true, if_false]
        exact eq_comm
    | some answer =>
        cases answer with
        | error u => simp
        | ok suffix =>
            simp only [hsee, gateAfter, helperNames, hsuffix, false_or, reduceCtorEq,
              Option.some.injEq, not_false_eq_true, true_and]
            rw [← set_findIdx?_map (suffix_once h)]
            cases candidates.findIdx? fun c => c.suffix == some suffix with
            | none =>
                rw [Option.some.injEq]
                exact eq_comm
            | some index =>
                rw [Option.some.injEq]
                exact eq_comm

/-- All of them. -/
theorem gateProcesses_eq (h : (candidates.map CloneCandidateIdentity.name).Nodup)
    {f : CloneCandidateIdentity → ProcessGate} {gates : List ProcessGate} :
    gateProcesses root canonicalRoot candidates processes (candidates.map f) = some gates ↔
      (∀ p ∈ processes, ¬ Blinds root canonicalRoot candidates p) ∧
        gates = candidates.map fun c =>
          processes.foldl (fun gate p => gateAfter root canonicalRoot p c gate) (f c) := by
  induction processes generalizing f with
  | nil => simp [gateProcesses, eq_comm]
  | cons p processes ih =>
      unfold gateProcesses
      cases hgate : gateProcess root canonicalRoot candidates (candidates.map f) p with
      | none =>
          have hblind : Blinds root canonicalRoot candidates p := by
            by_contra hsee
            rw [(gateProcess_eq h).2 ⟨hsee, rfl⟩] at hgate
            cases hgate
          simp [hblind]
      | some gates' =>
          obtain ⟨hsee, rfl⟩ := (gateProcess_eq h).1 hgate
          simp only [ih, List.mem_cons, forall_eq_or_imp, hsee, not_false_eq_true, true_and,
            List.foldl_cons]

/-- A gate that is clear in the end was never touched. -/
theorem foldl_gateAfter_clear {gate : ProcessGate} :
    processes.foldl (fun gate p => gateAfter root canonicalRoot p c gate) gate = .clear ↔
      gate = .clear ∧ ∀ p ∈ processes, helperNames p c = false ∧
        processReferencesCandidatePath p root canonicalRoot c = false := by
  induction processes generalizing gate with
  | nil => simp
  | cons p processes ih =>
      rw [List.foldl_cons, ih]
      simp only [List.mem_cons, forall_eq_or_imp]
      by_cases hhelper : helperNames p c = true
      · simp [gateAfter, hhelper]
      · by_cases hreference : processReferencesCandidatePath p root canonicalRoot c = true
        · simp [gateAfter, hhelper, hreference]
        · simp [gateAfter, hhelper, hreference]

theorem mem_zip_map {α β : Type} {l : List α} {f : α → β} {a : α} {b : β} :
    (a, b) ∈ l.zip (l.map f) ↔ a ∈ l ∧ b = f a := by
  have hzip : l.zip (l.map f) = l.map fun a => (a, f a) := by
    rw [← List.zip_map', List.map_id']
  rw [hzip, List.mem_map]
  constructor
  · rintro ⟨a', hmem, heq⟩
    obtain ⟨rfl, rfl⟩ := Prod.mk.inj heq
    exact ⟨hmem, rfl⟩
  · rintro ⟨hmem, rfl⟩
    exact ⟨a, hmem, rfl⟩

/-- The snapshot and the canonical root leave nothing open. -/
structure ProcessesSeen (snapshot : Option Snapshot) (root : String) (canonicalRoot : Option String)
    (candidates : List CloneCandidateIdentity) (s : Snapshot) (canonical : String) : Prop where
  present : snapshot = some s
  covered : s.provesCompleteClassificationCoverage = true
  resolved : canonicalRoot = some canonical
  unblinded : ∀ p ∈ s.processes, ¬ Blinds root canonical candidates p

/-- No process holds the candidate. -/
def Unheld (root canonicalRoot : String) (s : Snapshot) (c : CloneCandidateIdentity) : Prop :=
  ∀ p ∈ s.processes, helperNames p c = false ∧
    processReferencesCandidatePath p root canonicalRoot c = false

/-- **When the gate of a candidate is clear.** -/
theorem mem_zip_processGates {snapshot : Option Snapshot} {canonical : Option String}
    (h : (candidates.map CloneCandidateIdentity.name).Nodup) :
    (c, ProcessGate.clear) ∈ candidates.zip (processGates snapshot root canonical candidates) ↔
      c ∈ candidates ∧ ∃ s canonicalRoot,
        ProcessesSeen snapshot root canonical candidates s canonicalRoot ∧
        Unheld root canonicalRoot s c := by
  have hincomplete : (c, ProcessGate.clear) ∉
      candidates.zip (candidates.map fun _ => ProcessGate.incomplete) := by
    intro hmem
    cases (mem_zip_map.1 hmem).2
  unfold processGates
  cases snapshot with
  | none =>
      exact ⟨fun hmem => absurd hmem hincomplete, fun ⟨_, s, _, hseen, _⟩ => by cases hseen.present⟩
  | some s =>
      by_cases hcovered : s.provesCompleteClassificationCoverage = true
      · cases canonical with
        | none =>
            simp only [hcovered, Bool.not_true, Bool.false_eq_true, if_false]
            exact ⟨fun hmem => absurd hmem hincomplete,
              fun ⟨_, s, _, hseen, _⟩ => by cases hseen.resolved⟩
        | some canonicalRoot =>
            simp only [hcovered, Bool.not_true, Bool.false_eq_true, if_false]
            cases hgates : gateProcesses root canonicalRoot candidates s.processes
                (candidates.map fun _ => ProcessGate.clear) with
            | none =>
                refine ⟨fun hmem => absurd hmem hincomplete, fun ⟨_, s', root', hseen, _⟩ => ?_⟩
                obtain rfl := Option.some.inj hseen.present
                obtain rfl := Option.some.inj hseen.resolved
                rw [(gateProcesses_eq h).2 ⟨hseen.unblinded, rfl⟩] at hgates
                cases hgates
            | some gates =>
                obtain ⟨hsee, rfl⟩ := (gateProcesses_eq h).1 hgates
                rw [Option.getD_some, mem_zip_map, eq_comm, foldl_gateAfter_clear]
                constructor
                · rintro ⟨hmem, -, hunheld⟩
                  exact ⟨hmem, s, canonicalRoot, ⟨rfl, hcovered, rfl, hsee⟩, hunheld⟩
                · rintro ⟨hmem, s', root', hseen, hunheld⟩
                  obtain rfl := Option.some.inj hseen.present
                  obtain rfl := Option.some.inj hseen.resolved
                  exact ⟨hmem, rfl, hunheld⟩
      · simp only [hcovered, Bool.not_false, if_true]
        refine ⟨fun hmem => absurd hmem hincomplete, fun ⟨_, s', _, hseen, _⟩ => ?_⟩
        obtain rfl := Option.some.inj hseen.present
        exact absurd hseen.covered hcovered

end Gates

/-! ## One reconciliation -/

section Reconciliation

variable {previous : Option (List CloneCandidateIdentity)} {call : CloneCall}
  {c : CloneCandidateIdentity} {handed : HandedCleanup}

/-- The first scan of a call. -/
def CloneCall.scan (call : CloneCall) : CloneScan :=
  scanCodeSignCloneRoot call.directory call.observedAtUnixMillis

/-- The scan after a deletion that ran. -/
def CloneCall.rescan (call : CloneCall) : CloneScan :=
  scanCodeSignCloneRoot call.directoryAfter call.observedAtUnixMillis

/-- The gates of the candidates of the first scan. -/
def CloneCall.gates (call : CloneCall) : List ProcessGate :=
  processGates call.snapshot call.root call.canonicalRoot call.scan.candidates

/-- What a call plans to remove. -/
def CloneCall.removable (call : CloneCall) (previous : Option (List CloneCandidateIdentity)) :
    List CloneCandidateIdentity :=
  removableCandidates (stableCandidates previous call.scan.candidates) call.scan.candidates call.gates

theorem mem_stableCandidates {identities : List CloneCandidateIdentity} :
    c ∈ stableCandidates previous identities ↔
      c ∈ identities ∧ ∃ remembered, previous = some remembered ∧ c ∈ remembered := by
  simp only [stableCandidates, List.mem_filter, and_congr_right_iff]
  intro _
  cases previous <;> simp

theorem mem_removableCandidates {stable identities : List CloneCandidateIdentity}
    {gates : List ProcessGate} : c ∈ removableCandidates stable identities gates ↔
      c ∈ stable ∧ (c, ProcessGate.clear) ∈ identities.zip gates := by
  simp only [removableCandidates, List.mem_map, List.mem_filter, Bool.and_eq_true,
    List.contains_iff_mem, beq_iff_eq]
  constructor
  · rintro ⟨⟨a, gate⟩, ⟨hmem, hstable, hclear⟩, rfl⟩
    exact ⟨hstable, hclear ▸ hmem⟩
  · rintro ⟨hstable, hmem⟩
    exact ⟨(c, .clear), ⟨hmem, hstable, rfl⟩, rfl⟩

/-- **What a call removes**: what it scanned, remembers and sees no
process hold. -/
theorem mem_removable : c ∈ call.removable previous ↔
    c ∈ call.scan.candidates ∧ (∃ remembered, previous = some remembered ∧ c ∈ remembered) ∧
      ∃ s canonicalRoot, ProcessesSeen call.snapshot call.root call.canonicalRoot
          call.scan.candidates s canonicalRoot ∧ Unheld call.root canonicalRoot s c := by
  have hhonest : call.scan.Honest := scan_honest call.directory call.observedAtUnixMillis
  rw [CloneCall.removable, mem_removableCandidates, mem_stableCandidates, CloneCall.gates,
    mem_zip_processGates hhonest.names]
  constructor
  · rintro ⟨⟨hmem, hremembered⟩, -, hseen⟩
    exact ⟨hmem, hremembered, hseen⟩
  · rintro ⟨hmem, hremembered, hseen⟩
    exact ⟨⟨hmem, hremembered⟩, hmem, hseen⟩

theorem map_fst_zip_sublist {α β : Type} {l : List α} {l' : List β} :
    ((l.zip l').map Prod.fst).Sublist l := by
  induction l generalizing l' with
  | nil => simp
  | cons a l ih =>
      cases l' with
      | nil => simp
      | cons b l' =>
          rw [List.zip_cons_cons, List.map_cons]
          exact ih.cons_cons a

/-- A plan is a part of the scan. -/
theorem removable_sublist : (call.removable previous).Sublist call.scan.candidates := by
  have hpairs : (((call.scan.candidates.zip call.gates).filter fun pair =>
      (stableCandidates previous call.scan.candidates).contains pair.1 && pair.2 == .clear).map
        Prod.fst).Sublist ((call.scan.candidates.zip call.gates).map Prod.fst) :=
    List.filter_sublist.map _
  exact hpairs.trans map_fst_zip_sublist

/-- The observation of the first scan, with the gates. -/
def CloneCall.observation (call : CloneCall) (previous : Option (List CloneCandidateIdentity)) :
    StorageResidueObservation :=
  let gated := applyProcessGates call.scan.observation call.gates
  if (stableCandidates previous call.scan.candidates).length ≠ call.scan.candidates.length then
    gated.because "storage_residue.cleanup_waiting_for_stability"
  else gated

/-- What a call sets out to do. -/
def CloneCall.attempt (call : CloneCall) (previous : Option (List CloneCandidateIdentity)) :
    StorageCleanupAttemptFacts :=
  ⟨(call.removable previous).length, call.scan.observation.candidateCount,
    call.scan.observation.logicalBytes⟩

/-- What a call makes of its answers. -/
inductive CallOutcome (previous : Option (List CloneCandidateIdentity)) (call : CloneCall) :
    CloneReconciled → Prop
  | undetected (hstatus : call.scan.observation.status ≠ .detected) :
      CallOutcome previous call ⟨none, ⟨call.scan.observation, none⟩, [call.scan], none⟩
  | observed (hstatus : call.scan.observation.status = .detected)
      (hidle : call.removable previous = [] ∨ call.mode ≠ .enforce)
      (observation : StorageResidueObservation) :
      CallOutcome previous call
        ⟨some call.scan.candidates, ⟨observation, none⟩, [call.scan], none⟩
  | declined (observation : StorageResidueObservation)
      (hstatus : call.scan.observation.status = .detected)
      (hmode : call.mode = .enforce) (hplanned : call.removable previous ≠ [])
      (hreturned : (call.runCleanup (call.attempt previous)).returned = none) :
      CallOutcome previous call ⟨some call.scan.candidates, ⟨observation, none⟩, [call.scan],
        some ⟨call.attempt previous, call.removable previous,
          (call.runCleanup (call.attempt previous)).actions.map fun _ => call.removable previous⟩⟩
  | settled (removal : NativeResult)
      (hstatus : call.scan.observation.status = .detected)
      (hmode : call.mode = .enforce) (hplanned : call.removable previous ≠ [])
      (hreturned : (call.runCleanup (call.attempt previous)).returned = some removal) :
      CallOutcome previous call
        ⟨if call.rescan.observation.status = .detected then some call.rescan.candidates else none,
          settleCleanup call (stableCandidates previous call.scan.candidates)
            (call.removable previous) (call.attempt previous) removal call.rescan,
          [call.scan, call.rescan],
          some ⟨call.attempt previous, call.removable previous,
            (call.runCleanup (call.attempt previous)).actions.map fun _ =>
              call.removable previous⟩⟩

/-- The gates change neither the count nor the bytes. -/
theorem applyProcessGates_counts {observation : StorageResidueObservation}
    {gates : List ProcessGate} :
    (applyProcessGates observation gates).candidateCount = observation.candidateCount ∧
      (applyProcessGates observation gates).logicalBytes = observation.logicalBytes := by
  unfold applyProcessGates
  split_ifs <;> exact ⟨rfl, rfl⟩

theorem attempt_eq : StorageCleanupAttemptFacts.mk (call.removable previous).length
    (call.observation previous).candidateCount (call.observation previous).logicalBytes =
      call.attempt previous := by
  have hcounts : (call.observation previous).candidateCount = call.scan.observation.candidateCount ∧
      (call.observation previous).logicalBytes = call.scan.observation.logicalBytes := by
    unfold CloneCall.observation
    split_ifs
    · exact applyProcessGates_counts
    · exact applyProcessGates_counts
  rw [CloneCall.attempt, hcounts.1, hcounts.2]

/-- A reconciliation in the words of its call. -/
theorem reconcile_eq : reconcileRootGuarded previous call =
    if call.scan.observation.status ≠ .detected then
      ⟨none, ⟨call.scan.observation, none⟩, [call.scan], none⟩
    else if (call.removable previous).isEmpty then
      ⟨some call.scan.candidates, ⟨call.observation previous, none⟩, [call.scan], none⟩
    else
      match call.mode with
      | .lifecycleBlocked =>
          ⟨some call.scan.candidates, ⟨(call.observation previous).because
            "storage_residue.cleanup_lifecycle_blocked", none⟩, [call.scan], none⟩
      | .reportOnly =>
          ⟨some call.scan.candidates,
            ⟨{ call.observation previous with automaticCleanupEligible := true }.because
              "storage_residue.cleanup_report_only", none⟩, [call.scan], none⟩
      | .enforce =>
          match (call.runCleanup (call.attempt previous)).returned with
          | none =>
              ⟨some call.scan.candidates,
                ⟨{ call.observation previous with automaticCleanupEligible := false }.because
                  "storage_residue.cleanup_lifecycle_blocked", none⟩, [call.scan],
                some ⟨call.attempt previous, call.removable previous,
                  (call.runCleanup (call.attempt previous)).actions.map fun _ =>
                    call.removable previous⟩⟩
          | some removal =>
              ⟨if call.rescan.observation.status = .detected then some call.rescan.candidates
                else none,
                settleCleanup call (stableCandidates previous call.scan.candidates)
                  (call.removable previous) (call.attempt previous) removal call.rescan,
                [call.scan, call.rescan],
                some ⟨call.attempt previous, call.removable previous,
                  (call.runCleanup (call.attempt previous)).actions.map fun _ =>
                    call.removable previous⟩⟩ := by
  rw [← attempt_eq]
  rfl

/-- **Every call ends in one of four ways.** -/
theorem reconcile_outcome (previous : Option (List CloneCandidateIdentity)) (call : CloneCall) :
    CallOutcome previous call (reconcileRootGuarded previous call) := by
  rw [reconcile_eq]
  by_cases hstatus : call.scan.observation.status = .detected
  · rw [if_neg (not_not.2 hstatus)]
    by_cases hempty : call.removable previous = []
    · rw [if_pos (by simp [hempty])]
      exact .observed hstatus (Or.inl hempty) _
    · rw [if_neg (by simp [hempty])]
      cases hmode : call.mode with
      | lifecycleBlocked => exact .observed hstatus (Or.inr (by simp [hmode])) _
      | reportOnly => exact .observed hstatus (Or.inr (by simp [hmode])) _
      | enforce =>
          cases hreturned : (call.runCleanup (call.attempt previous)).returned with
          | none => exact .declined _ hstatus hmode hempty hreturned
          | some removal => exact .settled removal hstatus hmode hempty hreturned
  · rw [if_pos hstatus]
    exact .undetected hstatus

/-- What a call remembers is the last scan it made. -/
theorem reconcile_remembers (previous : Option (List CloneCandidateIdentity)) (call : CloneCall) :
    ∃ last, (reconcileRootGuarded previous call).scans.getLast? = some last ∧
      (reconcileRootGuarded previous call).previousCandidates =
        if last.observation.status = .detected then some last.candidates else none := by
  have houtcome := reconcile_outcome previous call
  generalize reconcileRootGuarded previous call = r at houtcome ⊢
  cases houtcome with
  | undetected hstatus => exact ⟨call.scan, rfl, by rw [if_neg hstatus]⟩
  | observed hstatus => exact ⟨call.scan, rfl, by rw [if_pos hstatus]⟩
  | declined observation hstatus => exact ⟨call.scan, rfl, by rw [if_pos hstatus]⟩
  | settled removal => exact ⟨call.rescan, rfl, rfl⟩

/-- What a call hands out, and when. -/
theorem handed_iff : (reconcileRootGuarded previous call).handed = some handed ↔
    call.mode = .enforce ∧ call.removable previous ≠ [] ∧
      handed = ⟨call.attempt previous, call.removable previous,
        (call.runCleanup (call.attempt previous)).actions.map fun _ => call.removable previous⟩ := by
  -- a plan is a part of a scan that detected something
  have hdetected : call.removable previous ≠ [] → call.scan.observation.status = .detected := by
    intro hplanned
    obtain ⟨c, hc⟩ := List.exists_mem_of_ne_nil _ hplanned
    exact (scan_honest call.directory call.observedAtUnixMillis).detected.2
      (List.ne_nil_of_mem (mem_removable.1 hc).1)
  have houtcome := reconcile_outcome previous call
  generalize reconcileRootGuarded previous call = r at houtcome ⊢
  cases houtcome with
  | undetected hstatus =>
      exact ⟨fun h => (by cases h), fun h => absurd (hdetected h.2.1) hstatus⟩
  | observed hstatus hidle =>
      refine ⟨fun h => (by cases h), fun h => ?_⟩
      rcases hidle with hempty | hmode
      · exact absurd hempty h.2.1
      · exact absurd h.1 hmode
  | declined observation hstatus hmode hplanned =>
      rw [Option.some.injEq]
      exact ⟨fun h => ⟨hmode, hplanned, h.symm⟩, fun h => h.2.2.symm⟩
  | settled removal hstatus hmode hplanned =>
      rw [Option.some.injEq]
      exact ⟨fun h => ⟨hmode, hplanned, h.symm⟩, fun h => h.2.2.symm⟩

/-- What is remembered after some calls is the last scan of the last. -/
theorem remembered_concat {calls : List CloneCall} {last : CloneCall} :
    remembered (calls ++ [last]) =
      (reconcileRootGuarded (remembered calls) last).previousCandidates := by
  rw [remembered, List.foldl_append]
  rfl

end Reconciliation

end Unlinger
