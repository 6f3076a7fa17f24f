import Unlinger.Core.Model.Fingerprint

/-!
# The process graph

`ProcessGraph` of `unlinger-core/src/graph.rs`: the processes of one
snapshot by pid, with the parent relation walked in both directions. A
snapshot that lists a pid twice has no graph.

The three walks run on fuel. A walk upwards visits a pid at most once and
goes on from processes only, so it ends within one step more than there
are processes; the walk downwards queues every process at most once, as
the child of its one parent.
-/

namespace Unlinger

/-- The processes of a snapshot by pid. -/
structure ProcessGraph where
  currentUid : Nat
  table : OrdMap Pid ProcessRecord

/-- Why a snapshot has no graph. -/
inductive GraphError
  | duplicatePid (pid : Pid)
  deriving DecidableEq

namespace ProcessGraph

/-- Enter the processes one by one; a pid that is there already is an
error. -/
def insertAll (m : OrdMap Pid ProcessRecord) :
    List ProcessRecord → Except GraphError (OrdMap Pid ProcessRecord)
  | [] => .ok m
  | p :: ps => if m.contains p.pid then .error (.duplicatePid p.pid) else insertAll (m.insert p.pid p) ps

/-- The graph of a snapshot. -/
def fromSnapshot (s : Snapshot) : Except GraphError ProcessGraph := do
  let table ← insertAll OrdMap.empty s.processes
  return ⟨s.currentUid, table⟩

/-- Every process, in pid order. -/
def processes (g : ProcessGraph) : List ProcessRecord := g.table.values

/-- The process of a pid. -/
def get (g : ProcessGraph) (pid : Pid) : Option ProcessRecord := g.table.lookup pid

/-- The children of a pid, in pid order. -/
def childrenOf (g : ProcessGraph) (pid : Pid) : List Pid :=
  (g.processes.filter fun p => p.parentPid == pid).map ProcessRecord.pid

/-- Breadth first from the queue; what was found is kept in reverse. -/
def descendants (g : ProcessGraph) : Nat → List Pid → List Pid → List Pid → List Pid
  | 0, _, _, found => found
  | _ + 1, [], _, found => found
  | fuel + 1, pid :: queue, seen, found =>
      if pid ∈ seen then descendants g fuel queue seen found
      else
        descendants g fuel (queue ++ g.childrenOf pid) (pid :: seen)
          (if (g.get pid).isSome then pid :: found else found)

/-- A process with everything below it, in pid order. -/
def descendantPids (g : ProcessGraph) (root : Pid) : List Pid :=
  (descendants g (g.processes.length + 2) [root] [] []).insertionSort (· ≤ ·)

/-- Upwards from a pid that may be there, stopping at `0` and at a pid
met before. -/
def ancestors (g : ProcessGraph) : Nat → Option Pid → List Pid → List Pid
  | 0, _, _ => []
  | _ + 1, none, _ => []
  | fuel + 1, some parent, seen =>
      if parent = 0 ∨ parent ∈ seen then []
      else parent :: ancestors g fuel ((g.get parent).map ProcessRecord.parentPid) (parent :: seen)

/-- The pids above a process, nearest first. -/
def ancestorPids (g : ProcessGraph) (pid : Pid) : List Pid :=
  ancestors g (g.processes.length + 2) ((g.get pid).map ProcessRecord.parentPid) []

/-- Upwards again, looking for a pid met before; the system's pids end
the walk. -/
def cycles (g : ProcessGraph) : Nat → Option Pid → List Pid → Bool
  | 0, _, _ => false
  | _ + 1, none, _ => false
  | fuel + 1, some current, seen =>
      if current ∈ seen then true
      else
        cycles g fuel
          ((g.get current).bind fun p =>
            if p.parentPid ≠ 0 ∧ p.parentPid ≠ 1 then some p.parentPid else none)
          (current :: seen)

/-- The lineage of a pid comes back to itself. -/
def lineageHasCycle (g : ProcessGraph) (pid : Pid) : Bool :=
  cycles g (g.processes.length + 2) (some pid) []

/-- The parent of a process is neither the system's nor listed. -/
def hasUnresolvedParent (g : ProcessGraph) (pid : Pid) : Bool :=
  match g.get pid with
  | some p => decide (1 < p.parentPid) && (g.get p.parentPid).isNone
  | none => false

/-- The fingerprint of the processes of some pids. -/
def processSetFingerprint (g : ProcessGraph) (pids : List Pid) : String :=
  fingerprintProcessSet ((pids.filterMap g.get).map ProcessRecord.identity)

end ProcessGraph

end Unlinger
