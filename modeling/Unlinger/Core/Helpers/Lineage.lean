import Mathlib.Data.List.Perm.Subperm
import Unlinger.Core.Model.Graph

/-!
# A parent chain that ends

`lineageHasCycle` walks up from a process and remembers where it has been.
The processes it remembers are distinct and all in the graph, so it meets
one again, or reaches the end of the chain, before its fuel is gone.
-/

namespace Unlinger

namespace ProcessGraph

variable {g : ProcessGraph} {pid : Pid}

/-- The parent of a process, unless it is the system's. -/
def up (g : ProcessGraph) (pid : Pid) : Option Pid :=
  (g.get pid).bind fun p =>
    if p.parentPid ≠ 0 ∧ p.parentPid ≠ 1 then some p.parentPid else none

/-- The parent chain of a process ends, so it has no cycle. -/
def LineageEnds (g : ProcessGraph) (pid : Pid) : Prop :=
  Acc (fun parent child => g.up child = some parent) pid

/-- Distinct pids of processes are no more than the processes. -/
theorem length_le_processes {seen : List Pid} (hseen : seen.Nodup)
    (hin : ∀ q ∈ seen, (g.get q).isSome = true) : seen.length ≤ g.processes.length := by
  have hkeys : seen ⊆ g.table.keys := by
    intro q hq
    obtain ⟨p, hp⟩ := Option.isSome_iff_exists.1 (hin q hq)
    exact List.mem_map.2 ⟨(q, p), OrdMap.lookup_eq_some.1 hp, rfl⟩
  have hle := (List.subperm_of_subset hseen hkeys).length_le
  simpa [OrdMap.keys, processes, OrdMap.values] using hle

/-- The walk that comes back nowhere has reached the end. -/
theorem cycles_ends {fuel : Nat} {current : Pid} {seen : List Pid} (hseen : seen.Nodup)
    (hin : ∀ q ∈ seen, (g.get q).isSome = true)
    (hfuel : g.processes.length + 2 ≤ fuel + seen.length)
    (h : cycles g fuel (some current) seen = false) : g.LineageEnds current := by
  induction fuel generalizing current seen with
  | zero =>
      have hle := length_le_processes hseen hin
      omega
  | succ fuel ih =>
      unfold cycles at h
      by_cases hmet : current ∈ seen
      · simp [hmet] at h
      · rw [if_neg hmet] at h
        refine Acc.intro current fun parent hup => ?_
        obtain ⟨p, hp, -⟩ := Option.bind_eq_some_iff.1 hup
        refine ih (List.nodup_cons.2 ⟨hmet, hseen⟩) ?_ ?_ (hup ▸ h)
        · intro q hq
          rcases List.mem_cons.1 hq with rfl | hq
          · simp [hp]
          · exact hin q hq
        · rw [List.length_cons]
          omega

/-- A process whose lineage has no cycle has a chain that ends. -/
theorem lineageEnds (h : g.lineageHasCycle pid = false) : g.LineageEnds pid :=
  cycles_ends List.nodup_nil (by simp) (by simp) h

end ProcessGraph

end Unlinger
