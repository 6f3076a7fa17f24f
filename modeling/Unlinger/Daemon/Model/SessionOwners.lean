import Unlinger.Daemon.Model.Tasks

/-!
# Session owners

The registry of `unlinger-daemon/src/store/session_owners.rs`: a host
declares that it owns an ordinary session, and the controllers found of
that session are bound to the declared lease. Leases of one session are
told apart by their generation, and only the newest that is left supplies
evidence.
-/

namespace Unlinger

/-- A row of `session_owner_leases`, without its key. -/
structure SessionOwnerRow where
  capability : NamespaceToken
  selectorFingerprint : String
  sessionName : String
  controllerVersion : String
  generation : Nat
  registrar : TaskOwnerIdentity
  owner : Option TaskOwnerIdentity
  createdAtMillis : Nat
  activatedAtMicros : Option Nat
  releasedAtMicros : Option Nat
  releaseReason : Option String
  deriving DecidableEq

/-- A row of `session_owner_controllers`, without its key. -/
structure SessionOwnerController where
  leaseId : String
  identity : ProcessIdentity
  incidentId : String
  deriving DecidableEq

/-- A lease as `session_owner_scopes` reads it. -/
structure SessionOwnerScope where
  leaseId : String
  selectorFingerprint : String
  sessionName : String
  controllerVersion : String
  generation : Nat
  registrar : TaskOwnerIdentity
  owner : Option TaskOwnerIdentity
  activatedAtMicros : Option Nat
  releasedAtMicros : Option Nat
  deriving DecidableEq

/-- What a host is given. -/
structure SessionOwnerLease where
  leaseId : String
  sessionName : String
  selectorFingerprint : String
  generation : Nat
  capability : NamespaceToken
  deriving DecidableEq

/-- The two tables. -/
structure SessionOwnerTables where
  leases : OrdMap String SessionOwnerRow
  controllers : OrdMap String SessionOwnerController
  deriving DecidableEq

namespace SessionOwnerTables

/-- Nothing declared. -/
def empty : SessionOwnerTables := ⟨OrdMap.empty, OrdMap.empty⟩

/-- Write the row of a lease. -/
def putLease (t : SessionOwnerTables) (leaseId : String) (row : SessionOwnerRow) :
    SessionOwnerTables :=
  { t with leases := t.leases.insert leaseId row }

/-- Sixteen lower-case hexadecimal digits. -/
def validSelector (value : String) : Bool :=
  value.toList.length == 16
    && value.toList.all fun c =>
        (48 ≤ c.toNat && c.toNat ≤ 57) || (97 ≤ c.toNat && c.toNat ≤ 102)

/-- The length SQLite gives a text: it ends at the first NUL. -/
def sqliteLength (value : String) : Nat := (value.toList.takeWhile fun c => c.toNat != 0).length

/-! ## A lease's own calls -/

/-- The lease of a selector that is not released, the newest one if there
were several. -/
def activeLease (t : SessionOwnerTables) (selector : String) : Option (String × SessionOwnerRow) :=
  ((t.leases.entries.filter fun e =>
    e.2.selectorFingerprint == selector && e.2.releasedAtMicros.isNone).insertionSort
      fun a b => b.2.generation ≤ a.2.generation).head?

/-- The generation after those of a selector's leases that are left. -/
def nextGeneration (t : SessionOwnerTables) (selector : String) : Nat :=
  ((t.leases.values.filter fun row => row.selectorFingerprint == selector).map
    SessionOwnerRow.generation).max?.getD 0 + 1

/-- Declare an ordinary session owned, or find the lease the registrar
has. `freshId` and `freshCapability` are drawn for a new one. -/
def declareSessionOwner (t : SessionOwnerTables) (selector sessionName controllerVersion : String)
    (registrar : TaskOwnerIdentity) (now : Nat) (freshId freshCapability : NamespaceToken) :
    Except StoreError (SessionOwnerTables × SessionOwnerLease) := do
  require (validSelector selector = true) (.invalid "invalid session-owner selector fingerprint")
  require (validOrdinarySessionName sessionName = true) (.invalid "invalid ordinary session name")
  require (controllerVersion ≠ "" ∧ (Text.bytes controllerVersion).length ≤ 64)
    (.invalid "session-owner controller version must be 1..=64 bytes")
  match t.activeLease selector with
  | some (leaseId, prior) =>
      require (prior.registrar = registrar) (.invalid "session owner belongs to another registrar")
      require (prior.sessionName = sessionName ∧ prior.controllerVersion = controllerVersion)
        (.invalid "active session-owner selector facts cannot be replaced")
      let stored ← found (t.leases.lookup leaseId) (.sqlite "session_owner_leases")
      require (stored.sessionName = sessionName ∧ stored.controllerVersion = controllerVersion)
        (.invalid "session owner is already declared with different selector facts")
      return (t, ⟨leaseId, sessionName, selector, prior.generation, prior.capability⟩)
  | none =>
      require (t.leases.entries.length < 4096) (.invalid "session-owner registry capacity reached")
      let created ← sqliteMillis now "session-owner declaration"
      require (1 ≤ sqliteLength controllerVersion ∧ t.leases.lookup freshId.value = none)
        (.sqlite "session_owner_leases")
      let generation := t.nextGeneration selector
      return (t.putLease freshId.value ⟨freshCapability, selector, sessionName, controllerVersion,
          generation, registrar, none, created, none, none, none⟩,
        ⟨freshId.value, sessionName, selector, generation, freshCapability⟩)

/-- Record the process that owns the session. A second call for the same
process changes nothing. -/
def activateSessionOwner (t : SessionOwnerTables) (leaseId : String) (owner : TaskOwnerIdentity)
    (now : Nat) : Except StoreError SessionOwnerTables := do
  let row ← found (t.leases.lookup leaseId) (.sqlite "session_owner_leases")
  require (row.releasedAtMicros = none) (.invalid "released session owners cannot be activated")
  match row.owner with
  | some prior =>
      require (prior = owner) (.invalid "session owner cannot be replaced")
      return t
  | none =>
      let activated ← sqliteMillis (saturated (now * 1000)) "session-owner activation"
      return t.putLease leaseId
        { row with owner := some owner, activatedAtMicros := some activated }

/-- The time a release is written with: the end of the next millisecond. -/
def releaseMicros (now : Nat) : Nat := saturated (saturated (now + 1) * 1000)

/-- Release a lease that still has the owner the caller read. -/
def releaseSessionOwner (t : SessionOwnerTables) (leaseId : String) (now : Nat) (reason : String)
    (owner : Option TaskOwnerIdentity) : Except StoreError SessionOwnerTables := do
  let released ← sqliteMillis (releaseMicros now) "session-owner release"
  match t.leases.lookup leaseId with
  | some row =>
      if row.releasedAtMicros = none ∧ row.owner = owner then
        return t.putLease leaseId
          { row with releasedAtMicros := some released, releaseReason := some reason }
      else return t
  | none => return t

/-! ## Scopes -/

/-- Every lease, as it stands. -/
def sessionOwnerScopes (t : SessionOwnerTables) : List SessionOwnerScope :=
  t.leases.entries.map fun e =>
    ⟨e.1, e.2.selectorFingerprint, e.2.sessionName, e.2.controllerVersion, e.2.generation,
      e.2.registrar, e.2.owner, e.2.activatedAtMicros, e.2.releasedAtMicros⟩

/-- The lease of a capability. -/
def authorizeSessionOwner (t : SessionOwnerTables) (leaseId capability : String) :
    Except StoreError SessionOwnerScope := do
  require ((t.leases.lookup leaseId).any fun row => row.capability.value == capability)
    (.invalid "session-owner capability does not match")
  found (t.sessionOwnerScopes.find? fun scope => scope.leaseId == leaseId)
    (.invalid "session owner is unavailable")

/-- Of each selector the lease of the highest generation. -/
def currentSessionOwnerScopes (t : SessionOwnerTables) : List SessionOwnerScope :=
  (OrdMap.greatestBy SessionOwnerScope.selectorFingerprint SessionOwnerScope.generation
    t.sessionOwnerScopes).values

/-! ## Binding the controllers of a snapshot -/

/-- The lease a process is a controller of, by the leases as they were
read. The sessions of tasks are not adopted. -/
def admittedScope (scopes : List SessionOwnerScope) (process : ProcessRecord) :
    Option SessionOwnerScope := do
  let cli ← process.runtime.playwrightCli
  if (taskIdFromSession cli.sessionName).isSome then none
  let selector ← cli.selectorFingerprint
  let scope ← scopes.find? fun scope =>
    scope.selectorFingerprint == selector && scope.sessionName == cli.sessionName
      && scope.controllerVersion == cli.version
  let activated ← scope.activatedAtMicros
  let birth := process.identity.startedAtUnixMicros
  if process.uid ≠ scope.registrar.uid || birth < activated
      || scope.releasedAtMicros.any (fun cutoff => decide (cutoff < birth))
      || process.identity.executableDevice.isNone || process.identity.executableInode.isNone then
    none
  else some scope

/-- Bind one controller, where it is not bound yet. The table refuses a
lease that is not there. -/
def bindController (t : SessionOwnerTables) (leaseId : String) (identity : ProcessIdentity) :
    Except StoreError SessionOwnerTables :=
  if t.controllers.contains (fingerprintProcessIdentity identity) then .ok t
  else do
    require (t.leases.contains leaseId = true) (.sqlite "session_owner_controllers")
    let row : SessionOwnerController := ⟨leaseId, identity, TaskTables.controllerIncidentId identity⟩
    return { t with controllers := t.controllers.insert (fingerprintProcessIdentity identity) row }

/-- The transaction of a scan. -/
def insertControllers (t : SessionOwnerTables) (scopes : List SessionOwnerScope)
    (snapshot : Snapshot) : Except StoreError SessionOwnerTables :=
  snapshot.processes.foldlM (fun t process =>
    match admittedScope scopes process with
    | none => .ok t
    | some scope => t.bindController scope.leaseId process.identity) t

/-- The bindings of the newest leases. -/
def sessionOwnerBindings (t : SessionOwnerTables) : List SessionOwnerBinding :=
  let current := OrdMap.ofList (t.currentSessionOwnerScopes.map fun scope => (scope.leaseId, scope))
  (t.controllers.values.insertionSort fun a b => a.leaseId ≤ b.leaseId).filterMap fun c =>
    (current.lookup c.leaseId).map fun scope =>
      ⟨c.leaseId, scope.selectorFingerprint, scope.sessionName, scope.controllerVersion,
        c.identity, scope.releasedAtMicros.isSome⟩

/-- So long a released lease is kept, in milliseconds. -/
def sessionOwnerRetentionMillis : Nat := 14 * 24 * 60 * 60 * 1000

/-- A lease released before this is old. -/
def sessionOwnerCutoff (snapshot : Snapshot) : Nat :=
  saturated ((snapshot.observedAtUnixMillis - sessionOwnerRetentionMillis) * 1000)

/-- A lease that may go: released long ago, and nothing in the snapshot has
its selector. -/
def expiredScope (snapshot : Snapshot) (scope : SessionOwnerScope) : Bool :=
  scope.releasedAtMicros.any (fun released => decide (released < sessionOwnerCutoff snapshot))
    && !snapshot.processes.any fun process =>
        process.runtime.playwrightCli.bind PlaywrightCliRuntime.selectorFingerprint
          == some scope.selectorFingerprint

/-- Delete a lease, its controllers with it. -/
def deleteLease (t : SessionOwnerTables) (leaseId : String) : SessionOwnerTables where
  leases := t.leases.erase leaseId
  controllers := t.controllers.filter fun _ c => c.leaseId != leaseId

/-- Delete the leases that are old. -/
def pruneSessionOwnerLeases (t : SessionOwnerTables) (snapshot : Snapshot) : SessionOwnerTables :=
  if snapshot.provesCompleteExactIdentityCoverage then
    t.sessionOwnerScopes.foldl (fun t scope =>
      if expiredScope snapshot scope then t.deleteLease scope.leaseId else t) t
  else t

/-- Bind the controllers of a snapshot to the newest leases, and prune. -/
def bindSessionOwnerControllers (t : SessionOwnerTables) (snapshot : Snapshot) :
    Except StoreError SessionOwnerTables := do
  let t ← t.insertControllers t.currentSessionOwnerScopes snapshot
  return t.pruneSessionOwnerLeases snapshot

end SessionOwnerTables

/-! ## The registry as a system -/

/-- A call of the registry, with what is drawn for it. -/
inductive SessionOwnerStep
  | declare (selector sessionName controllerVersion : String) (registrar : TaskOwnerIdentity)
      (now : Nat) (freshId freshCapability : NamespaceToken)
  | activate (leaseId : String) (owner : TaskOwnerIdentity) (now : Nat)
  | release (leaseId : String) (now : Nat) (reason : String) (owner : Option TaskOwnerIdentity)
  | bind (snapshot : Snapshot)

/-- When a call is made. -/
def SessionOwnerStep.now : SessionOwnerStep → Nat
  | .declare _ _ _ _ now _ _ => now
  | .activate _ _ now => now
  | .release _ now _ _ => now
  | .bind snapshot => snapshot.observedAtUnixMillis

/-- The tables, and the leases there ever were, in the order they were
declared. -/
structure SessionOwnerSystem where
  tables : SessionOwnerTables
  declared : List SessionOwnerLease

namespace SessionOwnerSystem

/-- A call that failed changed nothing. -/
def keep (s : SessionOwnerSystem) (r : Except StoreError SessionOwnerTables) : SessionOwnerSystem :=
  match r with
  | .ok t => { s with tables := t }
  | .error _ => s

/-- One call. -/
def step (s : SessionOwnerSystem) : SessionOwnerStep → SessionOwnerSystem
  | .declare selector sessionName controllerVersion registrar now freshId freshCapability =>
      match s.tables.declareSessionOwner selector sessionName controllerVersion registrar now freshId
        freshCapability with
      | .ok (t, lease) =>
          -- a lease that is found again is none that is declared anew
          ⟨t, if s.tables.leases.contains lease.leaseId then s.declared else s.declared ++ [lease]⟩
      | .error _ => s
  | .activate leaseId owner now => s.keep (s.tables.activateSessionOwner leaseId owner now)
  | .release leaseId now reason owner =>
      s.keep (s.tables.releaseSessionOwner leaseId now reason owner)
  | .bind snapshot => s.keep (s.tables.bindSessionOwnerControllers snapshot)

/-- An empty registry. -/
def start : SessionOwnerSystem := ⟨SessionOwnerTables.empty, []⟩

/-- The registry after a run. -/
def ran (steps : List SessionOwnerStep) : SessionOwnerSystem := steps.foldl step start

/-- The row of a lease. -/
def lease (s : SessionOwnerSystem) (leaseId : String) : Option SessionOwnerRow :=
  s.tables.leases.lookup leaseId

/-- The lease declared last for a selector. -/
def newest (s : SessionOwnerSystem) (selector : String) : Option SessionOwnerLease :=
  (s.declared.filter fun lease => lease.selectorFingerprint == selector).getLast?

end SessionOwnerSystem

end Unlinger
