import Unlinger.Core.Model.Session
import Unlinger.Common.Table
import Unlinger.Daemon.Model.Schema

/-!
# Tasks

The task registry of `unlinger-daemon/src/store/tasks.rs`: two tables,
one of the tasks that were reserved and one of the controllers bound to
them. A call of the store is one transaction, `bind_task_controllers`
apart: it reads the tasks, writes the controllers in a transaction, reads
the controllers and deletes tasks one by one, and other calls come in
between. The system at the end of the file runs it in these pieces; only
the engine calls it, which has one scan at a time.
-/

namespace Unlinger

/-- Who registers a task or runs its command. -/
structure TaskOwnerIdentity where
  pid : Pid
  startedAtUnixMicros : Nat
  uid : Nat
  deriving DecidableEq

namespace TaskOwnerIdentity

/-- The owner a process can be: a user's, not the first one. -/
def fromProcess (process : ProcessRecord) : Option TaskOwnerIdentity :=
  if 1 < process.pid ∧ 0 < process.identity.startedAtUnixMicros ∧ process.uid ≠ 0 then
    some ⟨process.pid, process.identity.startedAtUnixMicros, process.uid⟩
  else none

/-- The process is the owner. -/
def «matches» (owner : TaskOwnerIdentity) (process : ProcessRecord) : Bool :=
  owner.pid == process.pid && owner.startedAtUnixMicros == process.identity.startedAtUnixMicros
    && owner.uid == process.uid

end TaskOwnerIdentity

/-- A number of the unsigned 64 bits, or the largest of them. -/
def saturated (n : Nat) : Nat := min n (2 ^ 64 - 1)

/-- How far a task is. -/
inductive TaskPhase
  | reserved
  | active
  | released
  deriving DecidableEq

/-- The phases in the order a task goes through them. -/
def TaskPhase.rank : TaskPhase → Nat
  | .reserved => 0
  | .active => 1
  | .released => 2

/-- A row of `task_scopes`, without its key. -/
structure TaskRow where
  capability : NamespaceToken
  registrar : TaskOwnerIdentity
  owner : Option TaskOwnerIdentity
  createdAtMillis : Nat
  activatedAtMicros : Option Nat
  releasedAtMicros : Option Nat
  releaseReason : Option String
  deriving DecidableEq

/-- The phase a status reports of a row. -/
def TaskRow.phase (row : TaskRow) : TaskPhase :=
  if row.releasedAtMicros.isSome then .released
  else if row.activatedAtMicros.isSome then .active
  else .reserved

/-- A row of `task_controllers`, without its key. -/
structure TaskController where
  taskId : String
  identity : ProcessIdentity
  incidentId : String
  deriving DecidableEq

/-- A task as `task_scopes` reads it. -/
structure TaskScope where
  taskId : String
  registrar : TaskOwnerIdentity
  owner : Option TaskOwnerIdentity
  activatedAtMicros : Option Nat
  releasedAtMicros : Option Nat
  deriving DecidableEq

/-- What a registrar is given. -/
structure TaskLease where
  taskId : String
  sessionName : String
  capability : NamespaceToken
  deriving DecidableEq

/-- The session name of a task. -/
def taskSession (taskId : String) : String := "unlinger-" ++ taskId

/-- The two tables. -/
structure TaskTables where
  scopes : OrdMap String TaskRow
  controllers : OrdMap String TaskController

namespace TaskTables

/-- Nothing reserved. -/
def empty : TaskTables := ⟨OrdMap.empty, OrdMap.empty⟩

/-- Write the row of a task. -/
def putScope (t : TaskTables) (taskId : String) (row : TaskRow) : TaskTables :=
  { t with scopes := t.scopes.insert taskId row }

/-! ## A task's own calls -/

/-- Reserve a task, or find the reservation the registrar has. `fresh` is
the capability drawn for a new one. -/
def reserveTask (t : TaskTables) (taskId : String) (registrar : TaskOwnerIdentity) (now : Nat)
    (fresh : NamespaceToken) : Except StoreError (TaskTables × TaskLease) := do
  require (validTaskId taskId = true) (.invalid "invalid task identifier")
  match t.scopes.lookup taskId with
  | some row =>
      require (row.registrar = registrar) (.invalid "task belongs to another registrar")
      return (t, ⟨taskId, taskSession taskId, row.capability⟩)
  | none =>
      require (t.scopes.entries.length < 4096) (.invalid "task registry capacity reached")
      let created ← sqliteMillis now "task creation"
      return (t.putScope taskId ⟨fresh, registrar, none, created, none, none, none⟩,
        ⟨taskId, taskSession taskId, fresh⟩)

/-- Every task, as it stands. The rows come in no order that is promised. -/
def taskScopes (t : TaskTables) : List TaskScope :=
  t.scopes.entries.map fun e =>
    ⟨e.1, e.2.registrar, e.2.owner, e.2.activatedAtMicros, e.2.releasedAtMicros⟩

/-- The task of a capability. -/
def authorizeTask (t : TaskTables) (taskId capability : String) : Except StoreError TaskScope := do
  require ((t.scopes.lookup taskId).any fun row => row.capability.value == capability)
    (.invalid "task capability does not match")
  found (t.taskScopes.find? fun scope => scope.taskId == taskId) (.invalid "task is unavailable")

/-- Record the command that runs a task. A second call for the same
command changes nothing. -/
def activateTask (t : TaskTables) (taskId : String) (owner : TaskOwnerIdentity) (now : Nat) :
    Except StoreError TaskTables := do
  let row ← found (t.scopes.lookup taskId) (.sqlite "task_scopes")
  require (row.releasedAtMicros = none) (.invalid "released tasks cannot be activated")
  match row.owner with
  | some prior =>
      require (prior = owner) (.invalid "task command owner cannot be replaced")
      return t
  | none =>
      let activated ← sqliteMillis (saturated (now * 1000)) "task activation"
      return t.putScope taskId
        { row with owner := some owner, activatedAtMicros := some activated }

/-- Release a task that still has the owner the caller read. -/
def releaseTask (t : TaskTables) (taskId : String) (now : Nat) (reason : String)
    (owner : Option TaskOwnerIdentity) : Except StoreError TaskTables := do
  let released ← sqliteMillis (saturated (saturated (now + 1) * 1000)) "task release"
  match t.scopes.lookup taskId with
  | some row =>
      if row.releasedAtMicros = none ∧ row.owner = owner then
        return t.putScope taskId
          { row with releasedAtMicros := some released, releaseReason := some reason }
      else return t
  | none => return t

/-! ## Binding the controllers of a snapshot -/

/-- The task a process is a controller of, by the tasks as they were
read. -/
def controlledScope (scopes : List TaskScope) (process : ProcessRecord) : Option TaskScope := do
  let cli ← process.runtime.playwrightCli
  let taskId ← taskIdFromSession cli.sessionName
  let scope ← scopes.find? fun scope => scope.taskId == taskId
  let activated ← scope.activatedAtMicros
  let birth := process.identity.startedAtUnixMicros
  if process.uid ≠ scope.registrar.uid || birth < activated
      || scope.releasedAtMicros.any (fun cutoff => decide (cutoff < birth))
      || !process.identity.exactMatch process.identity then none
  else some scope

/-- The incident a controller's processes are reported under. -/
def controllerIncidentId (identity : ProcessIdentity) : String :=
  "inc-" ++ fingerprintParts [Text.bytes ("playwright:" ++ Text.decimal identity.pid ++ ":"
    ++ fingerprintProcessIdentity identity)]

/-- Bind one controller, where it is not bound yet. The table refuses a
task that is not there. -/
def bindController (t : TaskTables) (taskId : String) (identity : ProcessIdentity) :
    Except StoreError TaskTables :=
  if t.controllers.contains (fingerprintProcessIdentity identity) then .ok t
  else do
    require (t.scopes.contains taskId = true) (.sqlite "task_controllers")
    let row : TaskController := ⟨taskId, identity, controllerIncidentId identity⟩
    return { t with controllers := t.controllers.insert (fingerprintProcessIdentity identity) row }

/-- The transaction of a scan. -/
def insertControllers (t : TaskTables) (scopes : List TaskScope) (snapshot : Snapshot) :
    Except StoreError TaskTables :=
  snapshot.processes.foldlM (fun t process =>
    match controlledScope scopes process with
    | none => .ok t
    | some scope => t.bindController scope.taskId process.identity) t

/-- Every controller with its task's state. -/
def taskControllerBindings (t : TaskTables) : List TaskControllerBinding :=
  t.controllers.values.filterMap fun c =>
    (t.scopes.lookup c.taskId).map fun row => ⟨c.taskId, c.identity, row.releasedAtMicros.isSome⟩

/-- So long a released task is kept, in milliseconds. -/
def taskRetentionMillis : Nat := 14 * 24 * 60 * 60 * 1000

/-- A task released before this is old. -/
def taskCutoff (snapshot : Snapshot) : Nat :=
  saturated ((snapshot.observedAtUnixMillis - taskRetentionMillis) * 1000)

/-- A task that may go: released long ago, and nothing in the snapshot is
left of it. -/
def expiredScope (snapshot : Snapshot) (bindings : List TaskControllerBinding)
    (scope : TaskScope) : Bool :=
  scope.releasedAtMicros.any (fun released => decide (released < taskCutoff snapshot))
    && !snapshot.processes.any fun process =>
        process.runtime.taskSessionName.bind taskIdFromSession == some scope.taskId
          || bindings.any fun binding =>
              binding.taskId == scope.taskId && binding.controller.exactMatch process.identity

/-- Delete a task, its controllers with it. -/
def deleteScope (t : TaskTables) (taskId : String) : TaskTables where
  scopes := t.scopes.erase taskId
  controllers := t.controllers.filter fun _ c => c.taskId != taskId

/-- Delete a task that was found to be old. -/
def pruneScope (snapshot : Snapshot) (bindings : List TaskControllerBinding) (t : TaskTables)
    (scope : TaskScope) : TaskTables :=
  if expiredScope snapshot bindings scope then t.deleteScope scope.taskId else t

/-- The whole call, where nothing comes in between. -/
def bindTaskControllers (t : TaskTables) (snapshot : Snapshot) : Except StoreError TaskTables := do
  let scopes := t.taskScopes
  let t ← t.insertControllers scopes snapshot
  if snapshot.provesCompleteExactIdentityCoverage then
    let bindings := t.taskControllerBindings
    return scopes.foldl (pruneScope snapshot bindings) t
  else return t

end TaskTables

/-! ## The registry as a system -/

/-- A call of `bind_task_controllers`, as far as it got. -/
inductive BindScan
  /-- The tasks are read. -/
  | read (snapshot : Snapshot) (scopes : List TaskScope)
  /-- The controllers are written, and the snapshot is complete. -/
  | inserted (snapshot : Snapshot) (scopes : List TaskScope)
  /-- The controllers are read, and these tasks are still to be looked at. -/
  | pruning (snapshot : Snapshot) (bindings : List TaskControllerBinding) (scopes : List TaskScope)

/-- The tables, and what the engine is doing. -/
structure TaskSystem where
  tables : TaskTables
  scan : Option BindScan

/-- What can happen to the registry. The arguments are what the caller
read earlier, however long ago. -/
inductive TaskStep
  | reserve (taskId : String) (registrar : TaskOwnerIdentity) (now : Nat) (fresh : NamespaceToken)
  | authorize (taskId capability : String)
  | activate (taskId : String) (owner : TaskOwnerIdentity) (now : Nat)
  | release (taskId : String) (now : Nat) (reason : String) (owner : Option TaskOwnerIdentity)
  /-- The engine calls `bind_task_controllers` for a snapshot. -/
  | bindRead (snapshot : Snapshot)
  | bindInsert
  | bindBindings
  | bindPrune
  /-- The call ends early, with an error of the database. -/
  | bindAbort

namespace TaskSystem

/-- A call that failed changed nothing. -/
def keep (s : TaskSystem) (r : Except StoreError TaskTables) : TaskSystem :=
  match r with
  | .ok t => { s with tables := t }
  | .error _ => s

/-- One step. A piece of a scan that is not its next one does not
happen. -/
def step (s : TaskSystem) : TaskStep → TaskSystem
  | .reserve taskId registrar now fresh =>
      s.keep ((s.tables.reserveTask taskId registrar now fresh).map Prod.fst)
  | .authorize taskId capability =>
      s.keep ((s.tables.authorizeTask taskId capability).map fun _ => s.tables)
  | .activate taskId owner now => s.keep (s.tables.activateTask taskId owner now)
  | .release taskId now reason owner => s.keep (s.tables.releaseTask taskId now reason owner)
  | .bindRead snapshot =>
      match s.scan with
      | none => { s with scan := some (.read snapshot s.tables.taskScopes) }
      | some _ => s
  | .bindInsert =>
      match s.scan with
      | some (.read snapshot scopes) =>
          match s.tables.insertControllers scopes snapshot with
          | .ok t =>
              ⟨t, if snapshot.provesCompleteExactIdentityCoverage then
                some (.inserted snapshot scopes) else none⟩
          | .error _ => { s with scan := none }
      | _ => s
  | .bindBindings =>
      match s.scan with
      | some (.inserted snapshot scopes) =>
          { s with scan := some (.pruning snapshot s.tables.taskControllerBindings scopes) }
      | _ => s
  | .bindPrune =>
      match s.scan with
      | some (.pruning _ _ []) => { s with scan := none }
      | some (.pruning snapshot bindings (scope :: rest)) =>
          ⟨TaskTables.pruneScope snapshot bindings s.tables scope,
            some (.pruning snapshot bindings rest)⟩
      | _ => s
  | .bindAbort => { s with scan := none }

/-- An empty registry and an idle engine. -/
def start : TaskSystem := ⟨TaskTables.empty, none⟩

/-- The system after a run. -/
def ran (steps : List TaskStep) : TaskSystem := steps.foldl step start

/-- The row of a task. -/
def row (s : TaskSystem) (taskId : String) : Option TaskRow := s.tables.scopes.lookup taskId

/-- The controller of a key. -/
def controller (s : TaskSystem) (key : String) : Option TaskController :=
  s.tables.controllers.lookup key

end TaskSystem

end Unlinger
