import Unlinger.Common.Transition
import Unlinger.Macos.Model.StorageResidue

/-!
# When the clones are looked at

The storage part of the main loop of `unlinger-daemon/src/main.rs`: a poll
collects the worker that finished and starts the next cycle where one is
due, and the worker runs one cycle, `run_storage_cycle`, at times of its
own. What the store does is whether it does it. Beside the state of the
daemon stand the scans with their times and what was handed to the remover,
with the start of its cycle.
-/

namespace Unlinger

/-- `STORAGE_RESIDUE_OBSERVATION_INTERVAL_MILLIS`. -/
def storageResidueObservationIntervalMillis : Nat := 15 * 60 * 1000

/-- The later of two times, where there is one. -/
def laterOf : Option Nat → Option Nat → Option Nat
  | some a, some b => some (max a b)
  | some a, none => some a
  | none, b => b

/-- Is a cycle due? -/
def storageResidueObservationDue (now : Nat) (persistedObservationAt lastAttemptAt : Option Nat) :
    Bool :=
  match laterOf persistedObservationAt lastAttemptAt with
  | none => true
  | some last => storageResidueObservationIntervalMillis ≤ now - last

/-- The cleanup the worker keeps between cycles, with the time of the scan
it remembers. -/
structure ChromeCloneCleanup where
  previousCandidates : Option (List CloneCandidateIdentity)
  seenAt : Nat
  deriving DecidableEq

/-- A new one remembers nothing. -/
def ChromeCloneCleanup.new : ChromeCloneCleanup := ⟨none, 0⟩

/-- The worker: there is none; it runs a cycle with the cleanup it took; or
it is finished, with the cleanup it gives back where it did not unwind. -/
inductive StorageHandle
  | idle
  | running (startedAt : Nat) (cleanup : ChromeCloneCleanup)
  | finished (completion : Option ChromeCloneCleanup)
  deriving DecidableEq

/-- How a cycle goes. -/
inductive StorageCycle
  /-- An earlier attempt could not be recovered, and the cycle is
  skipped. -/
  | skipped
  /-- The worker unwound before it looked. -/
  | unwound
  /-- There is no directory to look in. -/
  | rootless (persists : Bool)
  /-- The scan of the call at its time, and the rescan at its own where
  there is one; whether the store took the result, and whether the worker
  unwound after it. -/
  | reconciled (call : CloneCall) (scanAt rescanAt : Nat) (persists unwinds : Bool)

/-- What happens to the daemon. -/
inductive ScheduleStep
  /-- A pass of the loop, and whether the latest observation could be read
  back. -/
  | poll (now : Nat) (readback : Bool)
  /-- The worker's cycle, and when it is finished. -/
  | work (cycle : StorageCycle) (finishedAt : Nat)
  /-- A new process, with the database or without it. -/
  | restart (now : Nat) (kept : Bool)

/-- The daemon's schedule. -/
structure StorageSchedule where
  clock : Nat
  lastStorageResidueAttemptAt : Option Nat
  persistedObservationAt : Option Nat
  handle : StorageHandle
  cleanup : Option ChromeCloneCleanup
  scans : List (Nat × CloneScan)
  handed : List (Nat × CloneCandidateIdentity)
  deriving DecidableEq

namespace StorageSchedule

/-- A daemon that has done nothing. -/
def start : StorageSchedule := ⟨0, none, none, .idle, none, [], []⟩

/-- `StorageWorker::collect`. -/
def collect (s : StorageSchedule) : StorageSchedule :=
  match s.handle with
  | .finished (some cleanup) => { s with handle := .idle, cleanup := some cleanup }
  | .finished none => { s with handle := .idle }
  | .idle | .running _ _ => s

/-- A poll starts a cycle. -/
def starts (s : StorageSchedule) (now : Nat) (readback : Bool) : Bool :=
  readback && s.collect.handle == .idle
    && storageResidueObservationDue now s.persistedObservationAt s.lastStorageResidueAttemptAt

/-- A pass of the loop. -/
def poll (s : StorageSchedule) (now : Nat) (readback : Bool) : StorageSchedule :=
  if s.starts now readback then
    { s.collect with
      clock := now
      lastStorageResidueAttemptAt := some now
      handle := .running now (s.collect.cleanup.getD .new)
      cleanup := none }
  else { s.collect with clock := now }

/-- The worker's cycle. -/
def work (s : StorageSchedule) (cycle : StorageCycle) (finishedAt : Nat) : StorageSchedule :=
  match s.handle with
  | .idle | .finished _ => s
  | .running startedAt cleanup =>
      let s := { s with clock := finishedAt }
      let persisted := fun persists : Bool =>
        if persists then some startedAt else s.persistedObservationAt
      match cycle with
      | .skipped => { s with handle := .finished (some cleanup) }
      | .unwound => { s with handle := .finished none }
      | .rootless persists =>
          { s with
            persistedObservationAt := persisted persists
            handle := .finished (some ⟨none, finishedAt⟩) }
      | .reconciled call scanAt rescanAt persists unwinds =>
          let r := reconcileRootGuarded cleanup.previousCandidates
            { call with observedAtUnixMillis := startedAt }
          let times := [scanAt, rescanAt]
          { s with
            persistedObservationAt := persisted persists
            handle := .finished (if unwinds then none
              else some ⟨r.previousCandidates, if r.scans.length = 1 then scanAt else rescanAt⟩)
            scans := s.scans ++ times.zip r.scans
            handed := s.handed
              ++ ((r.handed.toList.flatMap HandedCleanup.removals).flatten.map fun c =>
                (startedAt, c)) }

/-- One step. -/
def step (s : StorageSchedule) : ScheduleStep → StorageSchedule
  | .poll now readback => s.poll now readback
  | .work cycle finishedAt => s.work cycle finishedAt
  | .restart now kept =>
      { s with
        clock := now
        lastStorageResidueAttemptAt := none
        persistedObservationAt := if kept then s.persistedObservationAt else none
        handle := .idle
        cleanup := none }

/-- The times of a cycle stand between its start and its end. -/
def CycleTimely (finishedAt : Nat) : StorageHandle → StorageCycle → Prop
  | .running startedAt _, .reconciled _ scanAt rescanAt _ _ =>
      startedAt ≤ scanAt ∧ scanAt ≤ rescanAt ∧ rescanAt ≤ finishedAt
  | _, _ => True

instance (finishedAt : Nat) :
    ∀ handle cycle, Decidable (CycleTimely finishedAt handle cycle)
  | .running _ _, .reconciled _ _ _ _ _ => inferInstanceAs (Decidable (_ ∧ _))
  | .running _ _, .skipped => .isTrue trivial
  | .running _ _, .unwound => .isTrue trivial
  | .running _ _, .rootless _ => .isTrue trivial
  | .idle, _ => .isTrue trivial
  | .finished _, _ => .isTrue trivial

/-- The clock goes on, and a cycle's times are its own. -/
def Timely (s : StorageSchedule) : ScheduleStep → Prop
  | .poll now _ => s.clock ≤ now
  | .restart now _ => s.clock ≤ now
  | .work cycle finishedAt => s.clock ≤ finishedAt ∧ CycleTimely finishedAt s.handle cycle

instance (s : StorageSchedule) : ∀ a, Decidable (s.Timely a)
  | .poll _ _ => inferInstanceAs (Decidable (_ ≤ _))
  | .restart _ _ => inferInstanceAs (Decidable (_ ≤ _))
  | .work _ _ => inferInstanceAs (Decidable (_ ∧ _))

end StorageSchedule

end Unlinger
