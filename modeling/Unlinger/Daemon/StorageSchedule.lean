import Unlinger.Daemon.Model.StorageSchedule
import Unlinger.Macos.Helpers.StorageResidue

/-!
# The window between two looks

What the worker remembers is the last scan it made, and a cycle is due from
the start of the one before: how long the one before took in between is not
looked at. Where every cycle waits the interval out from the scan it
remembers, what it removes was there an interval before it started.
-/

namespace Unlinger

namespace StorageSchedule

variable {s : StorageSchedule} {a : ScheduleStep} {steps : List ScheduleStep}
  {cleanup : ChromeCloneCleanup} {c : CloneCandidateIdentity}

/-- What was handed to the remover was there in a scan an interval before
its cycle started. -/
def WindowKept (s : StorageSchedule) : Prop :=
  ∀ removed ∈ s.handed, ∃ seen ∈ s.scans,
    seen.1 + storageResidueObservationIntervalMillis ≤ removed.1 ∧ removed.2 ∈ seen.2.candidates

instance (s : StorageSchedule) : Decidable s.WindowKept :=
  inferInstanceAs (Decidable (∀ removed ∈ s.handed, _))

/-- A cycle that starts with candidates to remember starts an interval
after the scan they are from. -/
def Waits (s : StorageSchedule) : ScheduleStep → Prop
  | .poll now readback => s.starts now readback = true → ∀ cleanup ∈ s.collect.cleanup,
      cleanup.previousCandidates ≠ none →
        cleanup.seenAt + storageResidueObservationIntervalMillis ≤ now
  | .work _ _ => True
  | .restart _ _ => True

instance (s : StorageSchedule) : ∀ a, Decidable (s.Waits a)
  | .poll _ _ => inferInstanceAs (Decidable (_ → _))
  | .work _ _ => .isTrue trivial
  | .restart _ _ => .isTrue trivial

/-- What is remembered is a scan that was made. -/
def Backed (scans : List (Nat × CloneScan)) (cleanup : ChromeCloneCleanup) : Prop :=
  ∀ candidates, cleanup.previousCandidates = some candidates →
    ∃ scan, (cleanup.seenAt, scan) ∈ scans ∧ scan.candidates = candidates

theorem Backed.mono {scans scans' : List (Nat × CloneScan)} (h : Backed scans cleanup)
    (hsub : ∀ seen ∈ scans, seen ∈ scans') : Backed scans' cleanup := by
  intro candidates hprevious
  obtain ⟨scan, hmem, hcandidates⟩ := h candidates hprevious
  exact ⟨scan, hsub _ hmem, hcandidates⟩

theorem backed_new {scans : List (Nat × CloneScan)} : Backed scans .new := by
  intro candidates hprevious
  cases hprevious

/-- The cleanup of a worker that runs waited. -/
def Waited (startedAt : Nat) (cleanup : ChromeCloneCleanup) : Prop :=
  cleanup.previousCandidates ≠ none →
    cleanup.seenAt + storageResidueObservationIntervalMillis ≤ startedAt

/-- What holds in every state of a run that waits. -/
structure Kept (s : StorageSchedule) : Prop where
  idle : ∀ cleanup, s.cleanup = some cleanup → Backed s.scans cleanup
  running : ∀ startedAt cleanup, s.handle = .running startedAt cleanup →
    Backed s.scans cleanup ∧ Waited startedAt cleanup
  finished : ∀ cleanup, s.handle = .finished (some cleanup) → Backed s.scans cleanup
  window : s.WindowKept

theorem start_kept : start.Kept where
  idle cleanup hcleanup := by cases hcleanup
  running startedAt cleanup hhandle := by cases hhandle
  finished cleanup hhandle := by cases hhandle
  window removed hremoved := by cases hremoved

/-- Collecting moves what was given back. -/
theorem Kept.collect (h : s.Kept) : s.collect.Kept := by
  unfold StorageSchedule.collect
  split
  · rename_i cleanup hhandle
    refine ⟨fun other hother => ?_, fun startedAt other hother => ?_, fun other hother => ?_, h.window⟩
    · obtain rfl := Option.some.inj hother
      exact h.finished _ hhandle
    · cases hother
    · cases hother
  · refine ⟨h.idle, fun startedAt other hother => ?_, fun other hother => ?_, h.window⟩
    · cases hother
    · cases hother
  · exact h
  · exact h

/-- A pass of the loop keeps it. -/
theorem Kept.poll (h : s.Kept) {now : Nat} {readback : Bool} (hwaits : s.Waits (.poll now readback)) :
    (s.poll now readback).Kept := by
  have hcollect := h.collect
  unfold StorageSchedule.poll
  split_ifs with hstarts
  · refine ⟨fun cleanup hcleanup => ?_, fun startedAt cleanup hhandle => ?_,
      fun cleanup hhandle => ?_, hcollect.window⟩
    · cases hcleanup
    · obtain ⟨rfl, rfl⟩ := StorageHandle.running.inj hhandle
      cases hheld : s.collect.cleanup with
      | none => exact ⟨backed_new, fun hsome => absurd rfl hsome⟩
      | some held => exact ⟨hcollect.idle held hheld, fun hsome => hwaits hstarts held hheld hsome⟩
    · cases hhandle
  · exact ⟨hcollect.idle, hcollect.running, hcollect.finished, hcollect.window⟩

/-- The scan remembered is the last of one or two. -/
theorem reconcile_seen {previous : Option (List CloneCandidateIdentity)} {call : CloneCall}
    {scanAt rescanAt : Nat} :
    Backed ([scanAt, rescanAt].zip (reconcileRootGuarded previous call).scans)
      ⟨(reconcileRootGuarded previous call).previousCandidates,
        if (reconcileRootGuarded previous call).scans.length = 1 then scanAt else rescanAt⟩ := by
  have houtcome := reconcile_outcome previous call
  generalize reconcileRootGuarded previous call = r at houtcome
  intro candidates hprevious
  cases houtcome with
  | undetected => cases hprevious
  | observed =>
      obtain rfl := Option.some.inj hprevious
      exact ⟨call.scan, by simp, rfl⟩
  | declined =>
      obtain rfl := Option.some.inj hprevious
      exact ⟨call.scan, by simp, rfl⟩
  | settled =>
      dsimp only at hprevious
      split_ifs at hprevious
      obtain rfl := Option.some.inj hprevious
      exact ⟨call.rescan, by simp, rfl⟩

/-- What a call hands to the remover it remembers. -/
theorem removals_remembered {previous : Option (List CloneCandidateIdentity)} {call : CloneCall}
    (h : c ∈ ((reconcileRootGuarded previous call).handed.toList.flatMap
      HandedCleanup.removals).flatten) :
    ∃ candidates, previous = some candidates ∧ c ∈ candidates := by
  simp only [List.mem_flatten, List.mem_flatMap, Option.mem_toList] at h
  obtain ⟨removed, ⟨handed, hhanded, hremoved⟩, hc⟩ := h
  obtain ⟨-, -, rfl⟩ := handed_iff.1 hhanded
  obtain ⟨-, -, rfl⟩ := List.mem_map.1 hremoved
  exact (mem_removable.1 hc).2.1

/-- The worker's cycle keeps it. -/
theorem Kept.work (h : s.Kept) (cycle : StorageCycle) (finishedAt : Nat) :
    (s.work cycle finishedAt).Kept := by
  unfold StorageSchedule.work
  split
  · exact h
  · exact h
  · rename_i startedAt cleanup hhandle
    obtain ⟨hbacked, hwaited⟩ := h.running startedAt cleanup hhandle
    cases cycle with
    | skipped =>
        refine ⟨h.idle, fun _ other hother => (by cases hother), fun other hother => ?_, h.window⟩
        obtain rfl := Option.some.inj (StorageHandle.finished.inj hother)
        exact hbacked
    | unwound =>
        refine ⟨h.idle, fun _ other hother => (by cases hother), fun other hother => ?_, h.window⟩
        cases hother
    | rootless persists =>
        refine ⟨h.idle, fun _ other hother => (by cases hother), fun other hother => ?_, h.window⟩
        obtain rfl := Option.some.inj (StorageHandle.finished.inj hother)
        intro candidates hprevious
        cases hprevious
    | reconciled call scanAt rescanAt persists unwinds =>
        refine ⟨fun other hother => ?_, fun _ other hother => (by cases hother),
          fun other hother => ?_, fun removed hremoved => ?_⟩
        · exact (h.idle other hother).mono fun seen hseen => List.mem_append_left _ hseen
        · cases unwinds with
          | true => cases hother
          | false =>
              obtain rfl := Option.some.inj (StorageHandle.finished.inj hother)
              exact reconcile_seen.mono fun seen hseen => List.mem_append_right _ hseen
        · rcases List.mem_append.1 hremoved with hold | hnew
          · obtain ⟨seen, hseen, hkept⟩ := h.window removed hold
            exact ⟨seen, List.mem_append_left _ hseen, hkept⟩
          · -- what is removed now is in the scan the cycle started with
            obtain ⟨c, hc, rfl⟩ := List.mem_map.1 hnew
            obtain ⟨candidates, hprevious, hmem⟩ := removals_remembered hc
            obtain ⟨scan, hscan, rfl⟩ := hbacked candidates hprevious
            refine ⟨(cleanup.seenAt, scan), List.mem_append_left _ hscan, hwaited ?_, hmem⟩
            rw [hprevious]
            exact Option.some_ne_none _

/-- What one step that waits keeps. -/
theorem Kept.step (h : s.Kept) (hwaits : s.Waits a) : (s.step a).Kept := by
  cases a with
  | poll now readback => exact h.poll hwaits
  | work cycle finishedAt => exact h.work cycle finishedAt
  | restart now kept =>
      refine ⟨fun cleanup hcleanup => ?_, fun startedAt cleanup hhandle => ?_,
        fun cleanup hhandle => ?_, h.window⟩
      · cases hcleanup
      · cases hhandle
      · cases hhandle

/-- **The window is kept where every cycle waits.** In every run with a
clock that goes on, whatever scans, removals and rescans take and whatever
the store fails at: where each cycle that starts with candidates to
remember starts an interval after the scan they are from, every candidate
handed to the remover was there, with its identity, in a scan an interval
before its cycle started. -/
theorem window_kept_where_cycles_wait
    (h : Transition.Along step (fun s a => s.Timely a ∧ s.Waits a) start steps) :
    (steps.foldl step start).WindowKept := by
  have hkept : (steps.foldl step start).Kept :=
    h.invariant (fun s a hs hok => hs.step hok.2) start_kept
  exact hkept.window

/-! ## A deletion that takes long -/

/-- A root with one clone of a name in it. -/
def rootWith (name : String) (inode : Nat) : CloneRoot :=
  .found true true (some ⟨[⟨.text name, true, some ⟨true, 1, inode⟩, true, some 100⟩], by simp⟩)

/-- A call that finds one clone and then, if it deletes, another. -/
def callBetween (before after : CloneRoot) : CloneCall where
  root := "/X"
  observedAtUnixMillis := 0
  snapshot := some ⟨0, 501, [], ⟨0, 0, 0, 0, 0⟩⟩
  mode := .enforce
  directory := before
  canonicalRoot := some "/X"
  runCleanup := fun _ => ⟨[.ok ()], some (.ok ())⟩
  directoryAfter := after
  canonicalRootAfter := some "/X"

/-- The first clone is seen at once, and removed by the next cycle, which
starts on time and takes half an hour; meanwhile there is a second one. -/
def firstCycles : List ScheduleStep :=
  let first := rootWith "code_sign_clone.AAAAAA" 7
  let second := rootWith "code_sign_clone.BBBBBB" 8
  [.poll 0 true, .work (.reconciled (callBetween first second) 0 0 true false) 0,
    .poll 900000 true,
    .work (.reconciled (callBetween first second) 900000 2700000 true false) 2700000]

/-- The second cycle waited, and removed what had been there. -/
theorem window_kept_where_cycles_wait_first :
    (900000, ⟨"code_sign_clone.AAAAAA", 1, 7, by decide⟩) ∈ (firstCycles.foldl step start).handed ∧
      (firstCycles.foldl step start).WindowKept :=
  ⟨by decide +kernel, window_kept_where_cycles_wait (by decide +kernel)⟩

/-- The third cycle is due at once. -/
def hastyCycles : List ScheduleStep :=
  let second := rootWith "code_sign_clone.BBBBBB" 8
  firstCycles ++ [.poll 2700001 true,
    .work (.reconciled (callBetween second .absent) 2700001 2700002 true false) 2700002]

/-- The second clone is removed a millisecond after it was first seen. -/
theorem window_collapses_after_long_deletion :
    ¬ ∀ steps : List ScheduleStep, Transition.Along step Timely start steps →
      (steps.foldl step start).WindowKept := by
  intro h
  have htimely : Transition.Along step Timely start hastyCycles := by decide +kernel
  exact absurd (h hastyCycles htimely) (by decide +kernel)

end StorageSchedule

end Unlinger
