import Unlinger.Common.Text
import Unlinger.Common.OrdMap

/-!
# Processes and snapshots

The process records of `unlinger-core/src/model.rs`: an identity is a
pid with the birth and the executable that make it one process, and a
snapshot is the table read in one listing, with the coverage the reader
reports about it. Fields no modelled function reads are left out.
-/

namespace Unlinger

/-- Process identifiers; `0` and `1` are the system's. -/
abbrev Pid := Nat

/-- Device and inode of the executable the process maps. -/
structure ExecutableIdentity where
  device : Option Nat
  inode : Option Nat
  deriving DecidableEq

/-- Both halves are known. -/
def ExecutableIdentity.isComplete (e : ExecutableIdentity) : Bool :=
  e.device.isSome && e.inode.isSome

/-- One process: pid, birth and executable. -/
structure ProcessIdentity where
  pid : Pid
  startedAtUnixMicros : Nat
  executableDevice : Option Nat
  executableInode : Option Nat
  deriving DecidableEq

/-- The same process, known exactly: an identity without its executable
matches nothing, itself included. -/
def ProcessIdentity.exactMatch (self other : ProcessIdentity) : Bool :=
  self == other && self.executableDevice.isSome && self.executableInode.isSome

theorem ProcessIdentity.exactMatch_iff {a b : ProcessIdentity} :
    a.exactMatch b = true ↔
      a = b ∧ a.executableDevice.isSome = true ∧ a.executableInode.isSome = true := by
  simp [exactMatch, and_assoc]

/-- Bundle identifier and version of an application bundle. -/
structure AppBundleVersion where
  bundleId : String
  shortVersion : String
  deriving DecidableEq

/-- What a recognised Playwright CLI controller says about its session. -/
structure PlaywrightCliRuntime where
  sessionName : String
  version : String
  persistent : Bool
  attached : Bool
  selectorFingerprint : Option String
  deriving DecidableEq

/-- The native facts the safety rules read. -/
structure ProcessRuntimeFacts where
  descriptorFactsComplete : Bool := false
  debugTransportFactsComplete : Bool := false
  attachedDebugTransport : Bool := false
  appBundle : Option AppBundleVersion := none
  crashpadBundle : Option AppBundleVersion := none
  taskSessionName : Option String := none
  taskSessionFactsComplete : Bool := false
  connectedNamedUnixSocketFingerprints : List String := []
  playwrightCli : Option PlaywrightCliRuntime := none
  deriving DecidableEq

/-- One row of the process table. -/
structure ProcessRecord where
  identity : ProcessIdentity
  parentPid : Pid
  processGroupId : Nat
  uid : Nat
  ttyDevice : Option Nat
  name : String
  executablePath : Option String
  executable : ExecutableIdentity
  arguments : Option (List String)
  residentMemoryBytes : Nat
  runtime : ProcessRuntimeFacts
  deriving DecidableEq

namespace ProcessRecord

/-- The pid of a record is its identity's. -/
def pid (p : ProcessRecord) : Pid := p.identity.pid

/-- The file name of the executable, or the process name where the path
has none. -/
def executableBasename (p : ProcessRecord) : String :=
  match p.executablePath.bind Text.fileName with
  | some n => if n = "" then p.name else n
  | none => p.name

/-- Everything classification reads is there. -/
def hasCompleteClassificationFacts (p : ProcessRecord) : Bool :=
  p.executablePath.isSome && p.arguments.isSome && p.executable.isComplete
    && p.identity.executableDevice.isSome && p.identity.executableInode.isSome

end ProcessRecord

/-- What the reader says it could not read. -/
structure SnapshotCoverage where
  listedProcesses : Nat
  inspectedProcesses : Nat
  unreadableProcesses : Nat
  argumentsUnavailable : Nat
  executableIdentityUnavailable : Nat
  deriving DecidableEq

/-- One listing of the process table. -/
structure Snapshot where
  observedAtUnixMillis : Nat
  currentUid : Nat
  processes : List ProcessRecord
  coverage : SnapshotCoverage
  deriving DecidableEq

namespace Snapshot

/-- The listing proves an exact process absent when it lists everything,
and everything it lists with its identity. -/
def provesCompleteExactIdentityCoverage (s : Snapshot) : Bool :=
  s.coverage.listedProcesses == s.coverage.inspectedProcesses
    && s.coverage.unreadableProcesses == 0
    && s.coverage.executableIdentityUnavailable == 0
    && s.processes.length == s.coverage.inspectedProcesses
    && s.processes.all fun p =>
        decide (0 < p.identity.startedAtUnixMicros) && p.identity.executableDevice.isSome
          && p.identity.executableInode.isSome

/-- The listing supports a negative classification. -/
def provesCompleteClassificationCoverage (s : Snapshot) : Bool :=
  s.provesCompleteExactIdentityCoverage
    && s.coverage.argumentsUnavailable == 0
    && s.processes.all ProcessRecord.hasCompleteClassificationFacts

/-- The table by pid; of two rows of one pid the later one counts. -/
def byPid (s : Snapshot) : OrdMap Pid ProcessRecord :=
  OrdMap.ofList (s.processes.map fun p => (p.pid, p))

end Snapshot

end Unlinger
