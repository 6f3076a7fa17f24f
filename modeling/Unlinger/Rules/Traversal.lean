import Unlinger.Core.Helpers.Traversal
import Unlinger.Rules.Revalidation

/-!
# The graph walks the parent relation

What the walks of the process graph find is told of the snapshot itself:
its rows, and the parent each row names. Whatever the parents are, a walk
ends and finds exactly what its chain of parents says, and a session holds
everything below its browsers.
-/

namespace Unlinger

open Chain

namespace Snapshot

/-- The pids of the rows. -/
def pids (s : Snapshot) : List Pid := s.processes.map ProcessRecord.pid

/-- The row of a pid. -/
def rowOf (s : Snapshot) (pid : Pid) : Option ProcessRecord :=
  s.processes.find? fun p => p.pid == pid

/-- The parent the row of a pid names. -/
def parentOf (s : Snapshot) (pid : Pid) : Option Pid := (s.rowOf pid).map ProcessRecord.parentPid

/-- The parent again, unless it is `0` or `1`. -/
def lineageOf (s : Snapshot) (pid : Pid) : Option Pid :=
  (s.parentOf pid).filter fun parent => parent != 0 && parent != 1

end Snapshot

variable {a : Analyzer} {s : Snapshot} {g : ProcessGraph} {c : Candidate}

/-! ## The graph of a snapshot -/

theorem keyed_of_fromSnapshot (h : ProcessGraph.fromSnapshot s = .ok g) : g.Keyed :=
  fun _ _ hp => (get_mem h hp).2

/-- The graph holds the rows of the snapshot. -/
theorem get_eq_rowOf (h : ProcessGraph.fromSnapshot s = .ok g) (pid : Pid) :
    g.get pid = s.rowOf pid := by
  cases hrow : s.rowOf pid with
  | none =>
      rw [Option.eq_none_iff_forall_ne_some]
      intro p hp
      obtain ⟨hmem, hpid⟩ := get_mem h hp
      exact List.find?_eq_none.1 hrow p hmem (beq_iff_eq.2 hpid)
  | some p =>
      have hfound := List.find?_some hrow
      have hpid : p.pid = pid := beq_iff_eq.1 hfound
      rw [← hpid]
      exact get_of_mem h (List.mem_of_find?_eq_some hrow)

theorem parentOf_eq (h : ProcessGraph.fromSnapshot s = .ok g) : g.parentOf = s.parentOf :=
  funext fun pid => by rw [ProcessGraph.parentOf, get_eq_rowOf h, Snapshot.parentOf]

theorem up_eq (h : ProcessGraph.fromSnapshot s = .ok g) : g.up = s.lineageOf := by
  funext pid
  rw [ProcessGraph.up, get_eq_rowOf h, Snapshot.lineageOf, Snapshot.parentOf]
  cases s.rowOf pid with
  | none => rfl
  | some p => simp [Option.filter, bne_iff_ne]

theorem get_isSome_iff (h : ProcessGraph.fromSnapshot s = .ok g) {pid : Pid} :
    (g.get pid).isSome = true ↔ pid ∈ s.pids := by
  rw [Option.isSome_iff_exists]
  constructor
  · rintro ⟨p, hp⟩
    obtain ⟨hmem, rfl⟩ := get_mem h hp
    exact List.mem_map_of_mem hmem
  · intro hpid
    obtain ⟨p, hp, rfl⟩ := List.mem_map.1 hpid
    exact ⟨p, get_of_mem h hp⟩

/-! ## Candidates -/

/-- Everything below a browser of a candidate is a member. -/
theorem packCandidates_descendants {pack : SignaturePack} (h : c ∈ packCandidates g pack)
    {browser pid : Pid} (hbrowser : browser ∈ c.browserRootPids)
    (hpid : pid ∈ g.descendantPids browser) : pid ∈ c.memberPids := by
  simp only [packCandidates, List.mem_append, List.mem_map, List.mem_filter] at h
  rcases h with (⟨ctl, -, rfl⟩ | ⟨ctl, -, rfl⟩) | ⟨b, -, rfl⟩
  · simp only [ownedCandidate, List.mem_dedup, List.mem_insertionSort, List.mem_cons,
      List.mem_append, List.mem_flatMap]
    exact Or.inr (Or.inl ⟨browser, hbrowser, hpid⟩)
  · exact absurd hbrowser List.not_mem_nil
  · obtain rfl : browser = b := List.mem_singleton.1 hbrowser
    exact hpid

/-- The root of a candidate is a process. -/
theorem packCandidates_root (hg : ProcessGraph.fromSnapshot s = .ok g) {pack : SignaturePack}
    (h : c ∈ packCandidates g pack) : ∃ root, g.get c.rootPid = some root := by
  have hprocess : ∀ (keep : ProcessRecord → Bool) pid,
      pid ∈ (g.processes.filter keep).map ProcessRecord.pid → ∃ root, g.get pid = some root := by
    intro keep pid hpid
    obtain ⟨p, hp, rfl⟩ := List.mem_map.1 hpid
    exact ⟨p, (mem_processes hg).1 (List.mem_filter.1 hp).1⟩
  simp only [packCandidates, List.mem_append, List.mem_map, List.mem_filter] at h
  rcases h with (⟨ctl, ⟨hctl, -⟩, rfl⟩ | ⟨ctl, ⟨hctl, -⟩, rfl⟩) | ⟨b, ⟨hb, -⟩, rfl⟩
  · exact hprocess _ ctl hctl
  · exact hprocess _ ctl hctl
  · exact hprocess _ b hb

/-- The targets of a candidate's report hold everything below its
browsers. -/
theorem classify_targets (hg : ProcessGraph.fromSnapshot s = .ok g) (hc : c ∈ a.candidates g)
    (at_ : Nat) :
    ∃ r, a.classify g c at_ = some r ∧ ∀ browser ∈ c.browserRootPids, ∀ p ∈ s.processes,
      p.pid ∈ g.descendantPids browser →
        ⟨p.identity, p.processGroupId, processRole p c⟩ ∈ r.targets := by
  obtain ⟨pack, -, hcand⟩ := candidate_pack hc
  obtain ⟨root, hroot⟩ := packCandidates_root hg hcand
  refine ⟨_, by rw [Analyzer.classify, Session.of, hroot, Option.map_some, Option.map_some], ?_⟩
  intro browser hbrowser p hp hbelow
  have hmember : p.pid ∈ c.memberPids := packCandidates_descendants hcand hbrowser hbelow
  refine List.mem_map.2 ⟨p, ?_, rfl⟩
  exact List.mem_filterMap.2 ⟨p.pid, hmember, get_of_mem hg hp⟩

/-! ## The walks -/

/-- What the walks of a graph say of the snapshot it was made from. -/
structure ExactWalks (s : Snapshot) (g : ProcessGraph) : Prop where
  /-- Descendants in strict order. -/
  descendants_sorted : ∀ root, (g.descendantPids root).Pairwise (· < ·)
  /-- The rows from which the root is reached by parents, none or more. -/
  mem_descendants : ∀ root pid,
    pid ∈ g.descendantPids root ↔ pid ∈ s.pids ∧ Leads s.parentOf pid root
  /-- The parents in order, from the nearest. -/
  ancestors_places : ∀ pid, Places s.parentOf (s.parentOf pid) (g.ancestorPids pid)
  ancestors_nodup : ∀ pid, (g.ancestorPids pid).Nodup
  ancestors_nonzero : ∀ pid, 0 ∉ g.ancestorPids pid
  /-- Nothing follows them, for the last has no row, or `0`, or one of them again. -/
  ancestors_end : ∀ pid next,
    after s.parentOf ((g.ancestorPids pid).length + 1) pid = some next →
      next = 0 ∨ next ∈ g.ancestorPids pid
  /-- Above and below are one relation, unless a chain passes `0` on the way. -/
  ancestor_iff_descendant : ∀ above pid, above ≠ 0 → pid ≠ above → above ∈ s.pids → pid ∈ s.pids →
    (∀ k n, k < n → after s.parentOf n pid = some above →
      after s.parentOf (k + 1) pid ≠ some 0) →
    (above ∈ g.ancestorPids pid ↔ pid ∈ g.descendantPids above)
  /-- A cycle is a chain of parents other than `0` and `1` that repeats. -/
  cycle_iff : ∀ pid, g.lineageHasCycle pid = true ↔ Revisits s.lineageOf pid
  /-- The walks have ended: more steps find nothing else. -/
  descendants_ended : ∀ root fuel, g.processes.length + 2 ≤ fuel →
    (ProcessGraph.descendants g fuel [root] [] []).insertionSort (· ≤ ·) = g.descendantPids root
  ancestors_ended : ∀ pid fuel, g.processes.length + 2 ≤ fuel →
    ProcessGraph.ancestors g fuel ((g.get pid).map ProcessRecord.parentPid) [] = g.ancestorPids pid
  cycles_ended : ∀ pid fuel, g.processes.length + 2 ≤ fuel →
    ProcessGraph.cycles g fuel (some pid) [] = g.lineageHasCycle pid

theorem exactWalks (h : ProcessGraph.fromSnapshot s = .ok g) : ExactWalks s g := by
  have hkeyed := keyed_of_fromSnapshot h
  have hparent := parentOf_eq h
  refine ⟨fun root => ProcessGraph.descendantPids_sorted hkeyed, fun root pid => ?_, fun pid => ?_,
    fun pid => ?_, fun pid => ?_, fun pid next hnext => ?_,
    fun above pid hzero hne _ hpid havoid => ?_, fun pid => ?_, fun root fuel hfuel => ?_,
    fun pid fuel hfuel => ?_, fun pid fuel hfuel => ?_⟩
  · rw [ProcessGraph.mem_descendantPids_iff hkeyed, get_isSome_iff h, hparent]
  · rw [← hparent]
    exact (ProcessGraph.ancestorPids_exact pid).1
  · exact (ProcessGraph.ancestorPids_exact pid).2.1
  · exact (ProcessGraph.ancestorPids_exact pid).2.2.1
  · rw [← hparent] at hnext
    exact (ProcessGraph.ancestorPids_exact pid).2.2.2 next hnext
  · rw [← hparent] at havoid
    exact ProcessGraph.mem_ancestorPids_iff_mem_descendantPids hkeyed hzero hne
      ((get_isSome_iff h).2 hpid) havoid
  · rw [ProcessGraph.lineageHasCycle_iff, up_eq h]
  · rw [ProcessGraph.descendantPids, ProcessGraph.descendants_fuel
      (ProcessGraph.start_fuel hfuel) (ProcessGraph.start_fuel (Nat.le_refl _))]
  · exact ProcessGraph.ancestors_fuel ProcessGraph.ascending_start hfuel (Nat.le_refl _)
  · exact ProcessGraph.cycles_fuel ProcessGraph.ascending_start hfuel (Nat.le_refl _)

/-- **The walks are exact**, whatever the parents of a snapshot of distinct
pids are, and a session holds everything below its browsers. -/
theorem fromSnapshot_walks_exact (huniq : s.pids.Nodup) :
    ∃ g, ProcessGraph.fromSnapshot s = .ok g ∧ ExactWalks s g ∧
      ∀ (a : Analyzer) c, c ∈ a.candidates g → ∀ at_, ∃ r, a.classify g c at_ = some r ∧
        ∀ browser ∈ c.browserRootPids, ∀ p ∈ s.processes, Leads s.parentOf p.pid browser →
          ⟨p.identity, p.processGroupId, processRole p c⟩ ∈ r.targets := by
  obtain ⟨g, hg⟩ := fromSnapshot_isSome.2 huniq
  have hwalks := exactWalks hg
  refine ⟨g, hg, hwalks, fun a c hc at_ => ?_⟩
  obtain ⟨r, hr, htargets⟩ := classify_targets hg hc at_
  refine ⟨r, hr, fun browser hbrowser p hp hleads => htargets browser hbrowser p hp ?_⟩
  exact (hwalks.mem_descendants browser p.pid).2 ⟨List.mem_map_of_mem hp, hleads⟩

/-- A table with two parents of each other, one of itself, one unlisted and
the system's own pid. -/
def tangledSnapshot : Snapshot :=
  sampleSnapshot [sampleBrowser 0 0 [], sampleBrowser 10 11 [], sampleBrowser 11 10 [],
    sampleBrowser 12 11 [], sampleBrowser 20 20 [], sampleBrowser 30 29 []]

/-- In the tangled table `12` is below both processes of the loop, and `29`
is above `30` without a row of its own. -/
theorem fromSnapshot_walks_exact_tangled :
    ∃ g, ProcessGraph.fromSnapshot tangledSnapshot = .ok g ∧
      (12 ∈ g.descendantPids 10 ↔ 12 ∈ tangledSnapshot.pids ∧
        Leads tangledSnapshot.parentOf 12 10) ∧
      g.descendantPids 10 = [10, 11, 12] ∧ g.ancestorPids 12 = [11, 10] ∧
      g.ancestorPids 30 = [29] ∧ g.lineageHasCycle 20 = true := by
  obtain ⟨g, hg, hwalks, -⟩ := fromSnapshot_walks_exact (s := tangledSnapshot) (by decide)
  refine ⟨g, hg, hwalks.mem_descendants 10 12, ?_⟩
  have heval : (ProcessGraph.fromSnapshot tangledSnapshot).toOption.map (fun g =>
      (g.descendantPids 10, g.ancestorPids 12, g.ancestorPids 30, g.lineageHasCycle 20))
        = some ([10, 11, 12], [11, 10], [29], true) := by decide +kernel
  rw [hg] at heval
  simpa [Except.toOption] using heval

end Unlinger
