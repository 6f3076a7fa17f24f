import Unlinger.Daemon.Model.Control

/-!
# The service

The rest of `ControlPlane` in `unlinger-daemon/src/ipc.rs`: the lifecycle
commands, the ends of a cycle, the fail-close, and the leases of the
cleanups that are not of processes; and the ends of a cycle as
`unlinger-daemon/src/engine.rs` calls them. The status here is the one of
the plane with what these read and write besides.

A call of the store that can fail is given the failure: `some e` is a
database that refuses, which leaves the store as it was. Texts drawn from
a counter, a clock or `randomblob` are arguments.
-/

namespace Unlinger

/-! ## Status -/

/-- The failure an instance reported first, and where it was called. -/
structure FirstFailure where
  occurredAtUnixMillis : Nat
  message : String
  sourceFile : String
  sourceLine : Nat
  deriving DecidableEq

/-- The status of the plane, with the activity in it and its health. -/
structure ServiceStatus extends DaemonStatus where
  healthy : Bool
  scanInProgress : Bool
  cleanupInProgress : Bool
  processActivity : Option String
  lastError : Option String
  firstFailure : Option FirstFailure
  deriving DecidableEq

namespace ServiceStatus

/-- The status of a daemon that starts. -/
def new (mode : DaemonMode) (instanceId : String) : ServiceStatus where
  toDaemonStatus := .new mode instanceId
  healthy := false
  scanInProgress := false
  cleanupInProgress := false
  processActivity := none
  lastError := none
  firstFailure := none

/-- A cleanup is in progress while somebody owns one. -/
def refreshCleanupActivity (s : ServiceStatus) : ServiceStatus :=
  { s with cleanupInProgress :=
      s.processActivity.isSome || s.cacheActivity.isSome || s.storageActivity.isSome }

/-- Cancel what runs beside the cleanup of processes. -/
def cancelActivities (s : ServiceStatus) : ServiceStatus :=
  { s with toDaemonStatus := s.toDaemonStatus.cancelPromptActivities }

/-- Take a lifecycle over. -/
def applyLifecycle (s : ServiceStatus) (lifecycle : ManagedLifecycle) : ServiceStatus :=
  { s with toDaemonStatus := applyManagedLifecycle s.toDaemonStatus lifecycle }

/-- The gate of delivery, closed without the store: the instance has
failed. -/
def closeVolatile (s : ServiceStatus) : ServiceStatus :=
  let status := s.toDaemonStatus.setEffectiveMode .reportOnly
  { s with
    toDaemonStatus := { status with
      requestedMode := .reportOnly
      armedGeneration := none
      enforcementEpoch := none
      ready := false
      startupState := .failed }
    healthy := false }

/-- A cycle is over and nothing went wrong. -/
def settle (s : ServiceStatus) : ServiceStatus :=
  { s with
    toDaemonStatus := { s.toDaemonStatus with
      ready := s.ready || !s.managed
      startupState :=
        if s.draining then .draining
        else if s.effectiveMode = .enforce then .readyEnforce
        else .readyReportOnly }
    healthy := !s.draining }

/-- May a cleanup that is not of processes start? -/
def storageCleanupGateOpen (s : ServiceStatus) : Bool :=
  s.healthy && s.ready && s.startupState == .readyEnforce && s.effectiveMode == .enforce
    && s.enforcementEpoch.isSome
    && (!s.managed || (s.activationGeneration.isSome
      && s.armedGeneration == s.activationGeneration))
    && !s.draining && !s.scanInProgress && !s.cleanupInProgress && s.pausedUntilUnixMillis.isNone

/-- This very attempt owns the activity, uncancelled. -/
def ownedBy (activity : Option PromptActivity) (token epoch : String) : Bool :=
  activity.any fun a => a.token == token && a.epoch == epoch && !a.cancelRequested

/-- May the storage cleanup of an attempt go on? Scans and process
cleanups do not stand in its way. -/
def storageActionMayContinue (s : ServiceStatus) (token epoch : String) : Bool :=
  if !ownedBy s.storageActivity token epoch then false
  else
    let gate := refreshCleanupActivity { s with
      storageActivity := none, processActivity := none, scanInProgress := false }
    gate.storageCleanupGateOpen && gate.enforcementEpoch == some epoch

/-- May the cache maintenance of an attempt go on? -/
def toolCacheActionMayContinue (s : ServiceStatus) (token epoch : String) : Bool :=
  if !ownedBy s.cacheActivity token epoch then false
  else
    let gate := refreshCleanupActivity { s with
      cacheActivity := none, processActivity := none, scanInProgress := false }
    gate.storageCleanupGateOpen && gate.enforcementEpoch == some epoch

/-- The generation and instance a managed status acts for. -/
def managedIdentity (s : ServiceStatus) : Except ControlError (Nat × String) := do
  require (s.managed = true) (.unavailable "daemon is not managed by an activation generation")
  let generation ← found s.activationGeneration
    (.unavailable "managed daemon has no activation generation")
  require (s.instanceId ≠ "") (.unavailable "managed daemon has no instance identity")
  return (generation, s.instanceId)

/-- The caller means this generation and instance. -/
def requireExactStatusIdentity (s : ServiceStatus) (activationGeneration : Nat)
    (instanceId : String) : Except ControlError Unit := do
  let (activeGeneration, activeInstance) ← s.managedIdentity
  require (activeGeneration = activationGeneration)
    (.invalidArgument ("activation generation mismatch: active " ++ Text.decimal activeGeneration
      ++ ", requested " ++ Text.decimal activationGeneration))
  require (activeInstance = instanceId)
    (.invalidArgument "instance ID does not match the active daemon")

end ServiceStatus

/-- The name of a startup state, as a message has it. -/
def StartupState.name : StartupState → String
  | .legacy => "Legacy"
  | .booting => "Booting"
  | .recovering => "Recovering"
  | .firstScanReportOnly => "FirstScanReportOnly"
  | .readyReportOnly => "ReadyReportOnly"
  | .readyEnforce => "ReadyEnforce"
  | .draining => "Draining"
  | .failed => "Failed"

/-- The text of a failure of the store. What SQLite itself says is not
told apart by more than the table. -/
def StoreError.text : StoreError → String
  | .sqlite table => "history SQLite failed " ++ table
  | .corrupt message => "history data is corrupt: " ++ message
  | .range message => "history value is out of range: " ++ message
  | .invalid message => "invalid history operation: " ++ message
  | .conflict message => "history operation conflicts: " ++ message
  | .authorityLost message => "mutation receipt authority was lost: " ++ message
  | .capacity message => "history capacity is unavailable: " ++ message

/-- The message of a request that failed. -/
def ControlError.message : ControlError → String
  | .invalidArgument message | .conflict message | .notFound message | .authorityLost message
  | .storeMessage message | .unavailable message => message
  | .store e => boundedMessage e.text

/-- A call of the store, which a failure of the database may forestall. -/
def faulted {α : Type} (fault : Option StoreError) (x : Except StoreError α) : Except StoreError α :=
  match fault with
  | some e => .error e
  | none => x

/-- How old the list of incidents is that the owner is shown. -/
inductive RosterFreshness
  | current
  | scanInProgress
  | staleAfterFailure
  | neverObserved
  deriving DecidableEq

/-- Which cycle the list is of, and which one is replacing it. -/
structure RosterState where
  cycleToken : Option String
  freshness : RosterFreshness
  activeCycleToken : Option String
  deriving DecidableEq

/-- The commands of the service's owner. -/
inductive LifecycleCommand
  | status
  | arm (activationGeneration : Nat) (instanceId : String)
  | disarm (activationGeneration : Nat) (instanceId : String)
  | beginDrain (activationGeneration : Nat) (instanceId : String)
  deriving DecidableEq

/-- Which cache is maintained. -/
inductive ToolCacheKind
  | uvCache
  | nodeCompileCache
  deriving DecidableEq

/-- **The service**: the control plane as a whole. -/
structure Service where
  store : Store
  status : ServiceStatus
  cleanupPolicyRevision : Nat
  roster : RosterState

namespace Service

/-- The service over a store, restored. -/
def new (store : Store) (status : ServiceStatus) : Service where
  store := store
  status := { status with pausedUntilUnixMillis := store.pauseUntil }
  cleanupPolicyRevision := store.cleanupPolicyRevision
  roster := ⟨none, .neverObserved, none⟩

/-- The plane of the service. -/
def plane (p : Service) : ControlPlane := ⟨p.store, p.status.toDaemonStatus, p.cleanupPolicyRevision⟩

/-- The service with another plane. -/
def withPlane (p : Service) (q : ControlPlane) : Service :=
  { p with
    store := q.store
    status := { p.status with toDaemonStatus := q.status }
    cleanupPolicyRevision := q.cleanupPolicyRevision }

/-- Change the status; an error in it is kept short. -/
def updateStatus (p : Service) (update : ServiceStatus → ServiceStatus) : Service :=
  let status := update p.status
  { p with status := { status with lastError := status.lastError.map boundedMessage } }

/-! ## Requests -/

/-- Carry out a command of the operator. -/
def handleAt (p : Service) (command : IpcCommand) (now : Nat) (fault : Option StoreError) :
    Service × Except ControlError IpcPayload :=
  match p.plane.handleAt command now with
  | .error e => (p, .error e)
  | .ok (q, payload) =>
      match fault with
      | some e => (p, .error (.store e))
      | none => (p.withPlane q, .ok payload)

/-- Commit a public mutation. -/
def commitPublicMutation (p : Service) (context : MutationContext) (mutation : OrdinaryMutation)
    (now : Nat) (fault : Option StoreError) : Service × Except ControlError MutationCommit :=
  match fault with
  | some e => (p, .error (mapStoreError e))
  | none =>
      let (q, result) := p.plane.commitPublicMutation context mutation now
      (p.withPlane q, result)

/-- A pause whose time has come is over, in the store and in the status. -/
def expirePause (p : Service) (now : Nat) (fault : Option StoreError) :
    Except ControlError Service :=
  if p.status.pausedUntilUnixMillis.any fun deadline => decide (deadline ≤ now) then
    match fault with
    | some e => .error (.store e)
    | none => .ok (p.withPlane (p.plane.expirePause now))
  else .ok p

/-- Arm, for an instance that is ready and only reports, or is armed
already. -/
def arm (p : Service) (activationGeneration : Nat) (instanceId : String) (now : Nat)
    (epoch : String) (fault : Option StoreError) : Except ControlError Service := do
  let s := p.status
  s.requireExactStatusIdentity activationGeneration instanceId
  let readyReportOnly := s.startupState = .readyReportOnly ∧ s.effectiveMode = .reportOnly
    ∧ s.armedGeneration = none ∧ s.enforcementEpoch = none
  let alreadyReadyEnforce := s.startupState = .readyEnforce ∧ s.effectiveMode = .enforce
    ∧ s.armedGeneration = some activationGeneration ∧ s.enforcementEpoch.isSome
  require (s.healthy ∧ s.ready ∧ s.draining = false ∧ (readyReportOnly ∨ alreadyReadyEnforce))
    (.unavailable "managed daemon lifecycle is not ready to arm")
  let (store, lifecycle) ←
    (faulted fault (p.store.armManaged activationGeneration instanceId epoch now)).mapError
      mapStoreError
  return { p with
    store := store
    status := { s.applyLifecycle lifecycle with healthy := true, lastError := none } }

/-- Disarm; an instance that failed stays failed. -/
def disarm (p : Service) (activationGeneration : Nat) (instanceId : String) (now : Nat)
    (fault : Option StoreError) : Except ControlError Service := do
  let s := p.status
  s.requireExactStatusIdentity activationGeneration instanceId
  if s.startupState = .failed then
    let (store, lifecycle) ←
      (faulted fault (p.store.failManaged activationGeneration instanceId now)).mapError mapStoreError
    return { p with
      store := store
      status := { s.applyLifecycle lifecycle with healthy := false, lastError := s.lastError } }
  else
    let (store, lifecycle) ←
      (faulted fault (p.store.disarmManaged activationGeneration instanceId now)).mapError
        mapStoreError
    return { p with
      store := store, status := { s.applyLifecycle lifecycle with lastError := none } }

/-- Drain. -/
def beginDrain (p : Service) (activationGeneration : Nat) (instanceId : String) (now : Nat)
    (fault : Option StoreError) : Except ControlError Service := do
  let s := p.status
  s.requireExactStatusIdentity activationGeneration instanceId
  let (store, lifecycle) ←
    (faulted fault (p.store.beginManagedDrain activationGeneration instanceId now)).mapError
      mapStoreError
  return { p with
    store := store
    status := { s.applyLifecycle lifecycle with healthy := true, lastError := none } }

/-- Carry out a command of the service's owner. The status itself is only
read; before that a pause may expire. -/
def handleLifecycleAt (p : Service) (command : LifecycleCommand) (now : Nat) (epoch : String)
    (fault : Option StoreError) : Except ControlError Service :=
  match command with
  | .status => p.expirePause now fault
  | .arm generation instanceId => p.arm generation instanceId now epoch fault
  | .disarm generation instanceId => p.disarm generation instanceId now fault
  | .beginDrain generation instanceId => p.beginDrain generation instanceId now fault

/-! ## Cycles -/

/-- A cycle begins. -/
def beginObservationCycle (p : Service) (cycleToken : String) : Service :=
  let roster := { p.roster with activeCycleToken := some cycleToken, freshness := .scanInProgress }
  updateStatus { p with roster := roster } fun s =>
    { s with
      scanInProgress := true
      lastError := if s.startupState = .failed then s.lastError else none }

/-- The cycle replaces the list, if it is still the active one. -/
def publishRoster (p : Service) (cycleToken : String) : Service :=
  if p.roster.activeCycleToken = some cycleToken then
    { p with roster := { p.roster with cycleToken := some cycleToken } }
  else p

/-- The cycle is over, if it is still the active one. -/
def finishObservationCycle (p : Service) (cycleToken : String) (succeeded : Bool) : Service :=
  if p.roster.activeCycleToken = some cycleToken then
    let replaced := p.roster.cycleToken == some cycleToken
    { p with roster := { p.roster with
        freshness := if succeeded || replaced then .current else .staleAfterFailure
        activeCycleToken := none } }
  else p

/-- What the engine tells the status after a cycle that succeeded. -/
def noteCycleSucceeded (p : Service) : Service :=
  p.updateStatus fun s =>
    { s with
      scanInProgress := false
      lastError := if s.startupState = .failed then s.lastError else none }

/-- What it tells after a cycle that failed. -/
def noteCycleFailed (p : Service) (message : String) : Service :=
  p.updateStatus fun s => { s with scanInProgress := false, lastError := some message }

/-- Fail in the store; where it refuses, fail without it. -/
def failCycle (p : Service) (generation : Nat) (instanceId : String) (now : Nat)
    (fault : Option StoreError) (lastError : Option String) (failed : ControlError)
    (account : String) : Service × Except ControlError Unit :=
  match faulted fault (p.store.failManaged generation instanceId now) with
  | .ok (store, lifecycle) =>
      ({ p with
          store := store
          status := { p.status.applyLifecycle lifecycle with
            healthy := false, lastError := lastError } }, .error failed)
  | .error e =>
      ({ p with status := { p.status.closeVolatile with lastError := lastError } },
        .error (.storeMessage (boundedMessage (account ++ e.text))))

/-- A cycle succeeded: the first one makes a managed daemon ready. -/
def completeSuccessfulCycle (p : Service) (now : Nat) (epoch : String)
    (scanFault failFault : Option StoreError) : Service × Except ControlError Unit :=
  let s := p.status
  if s.managed = false ∧ s.startupState = .failed then
    (p, .error (.unavailable "daemon instance remains terminal Failed; restart is required"))
  else if s.managed ∧ s.startupState = .failed then
    match s.managedIdentity with
    | .error e => (p, .error e)
    | .ok (generation, instanceId) =>
        p.failCycle generation instanceId now failFault s.lastError
          (.unavailable "managed lifecycle is failed; exact service restart is required")
          "managed lifecycle remains failed; durable fail-close retry failed: "
  else if s.managed ∧ s.draining = false ∧ s.ready = false then
    match s.managedIdentity with
    | .error e => (p, .error e)
    | .ok (generation, instanceId) =>
        if s.startupState ≠ .firstScanReportOnly then
          let message := boundedMessage
            ("managed cycle completed in invalid startup state " ++ s.startupState.name)
          p.failCycle generation instanceId now failFault (some message) (.unavailable message)
            (message ++ "; durable fail-close also failed: ")
        else
          match faulted scanFault
              (p.store.completeManagedFirstScan generation instanceId epoch now) with
          | .ok (store, lifecycle) =>
              ({ p with store := store, status := (s.applyLifecycle lifecycle).settle }, .ok ())
          | .error e =>
              let completionError := mapStoreError e
              p.failCycle generation instanceId now failFault
                (some (boundedMessage
                  ("managed first-scan completion failed: " ++ completionError.message)))
                completionError (completionError.message ++ "; durable fail-close also failed: ")
  else ({ p with status := s.settle }, .ok ())

/-- The last component of a path of the source. -/
def sourceFileName (file : String) : String :=
  String.ofList (((Text.splitOn '/' file.toList).getLast?.bind fun c =>
    (Text.splitOn '\\' c).getLast?).getD [])

/-- **Fail closed**: whether or not the store takes it, this instance
delivers nothing any more. -/
def failClosed (p : Service) (now : Nat) (message sourceFile : String) (sourceLine : Nat)
    (fault : Option StoreError) : Service × Except ControlError Unit :=
  let message := boundedMessage message
  let s := p.status.cancelActivities
  let s := { s with firstFailure :=
      s.firstFailure.or (some ⟨now, message, sourceFileName sourceFile, sourceLine⟩) }
  let durable : Except ControlError (Option (Store × ManagedLifecycle)) :=
    if s.managed then do
      let (generation, instanceId) ← s.managedIdentity
      ((faulted fault (p.store.failManaged generation instanceId now)).mapError mapStoreError).map some
    else .ok none
  let (store, s) :=
    match durable with
    | .ok (some (store, lifecycle)) => (store, s.applyLifecycle lifecycle)
    | _ => (p.store, s)
  ({ p with store := store, status := { s.closeVolatile with lastError := some message } },
    durable.map fun _ => ())

/-! ## Leases -/

/-- Start a storage cleanup: `prepared` is the token of the attempt the
store prepared for it, or why it could not. -/
def startStorageCleanupIfReadyEnforce (p : Service) (now : Nat) (fault : Option StoreError)
    (prepared : Except StoreError String) :
    Service × Except ControlError (Option (String × String)) :=
  match p.expirePause now fault with
  | .error e => (p, .error e)
  | .ok p =>
      if p.status.storageCleanupGateOpen then
        match prepared with
        | .error e => (p, .error (mapStoreError e))
        | .ok token =>
            -- the gate asks for an epoch
            let epoch := p.status.enforcementEpoch.getD ""
            let status := { p.status with storageActivity := some ⟨token, epoch, false⟩ }
            ({ p with status := status.refreshCleanupActivity }, .ok (some (token, epoch)))
      else (p, .ok none)

/-- Start the maintenance of a cache; the lease is taken where the child
started. -/
def startCacheIfReadyEnforce (p : Service) (now : Nat) (kind : ToolCacheKind)
    (fault : Option StoreError) (prepared : ToolCacheKind → Except StoreError String)
    (spawned : Bool) : Service × Except ControlError (Option (String × Bool × String)) :=
  match p.expirePause now fault with
  | .error e => (p, .error e)
  | .ok p =>
      if p.status.storageCleanupGateOpen then
        match prepared kind with
        | .error e => (p, .error (mapStoreError e))
        | .ok token =>
            let epoch := p.status.enforcementEpoch.getD ""
            let status := { p.status with cacheActivity := some ⟨token, epoch, false⟩ }
            (if spawned then { p with status := status.refreshCleanupActivity } else p,
              .ok (some (token, spawned, epoch)))
      else (p, .ok none)

/-- Start the maintenance of the tool cache. -/
def startToolCacheIfReadyEnforce (p : Service) (now : Nat) (fault : Option StoreError)
    (prepared : ToolCacheKind → Except StoreError String) (spawned : Bool) :
    Service × Except ControlError (Option (String × Bool × String)) :=
  p.startCacheIfReadyEnforce now .uvCache fault prepared spawned

/-- Start the maintenance of the compile cache. -/
def startNodeCompileCacheIfReadyEnforce (p : Service) (now : Nat) (fault : Option StoreError)
    (prepared : ToolCacheKind → Except StoreError String) (spawned : Bool) :
    Service × Except ControlError (Option (String × Bool × String)) :=
  p.startCacheIfReadyEnforce now .nodeCompileCache fault prepared spawned

/-- Release the lease of a storage cleanup. -/
def finishStorageAction (p : Service) (token : String) : Except ControlError Service := do
  require (p.status.storageActivity.all (fun a => a.token == token) = true)
    (.unavailable "storage activity belongs to another attempt")
  let status := { p.status with storageActivity := none }
  return { p with status := status.refreshCleanupActivity }

/-- Release the lease of a cache. -/
def finishToolCacheAction (p : Service) (token : String) : Except ControlError Service := do
  require (p.status.cacheActivity.all (fun a => a.token == token) = true)
    (.unavailable "cache activity belongs to another attempt")
  let status := { p.status with cacheActivity := none }
  return { p with status := status.refreshCleanupActivity }

/-- A cleanup of processes begins. -/
def beginProcessCleanupActivity (p : Service) (token : String) : Except ControlError Service := do
  require (p.status.processActivity = none) (.unavailable "process cleanup already active")
  let status := { p.status with processActivity := some token }
  return { p with status := status.refreshCleanupActivity }

/-- The owner of a cleanup of processes is dropped. -/
def dropProcessCleanupActivity (p : Service) (token : String) : Service :=
  if p.status.processActivity = some token then
    let status := { p.status with processActivity := none }
    { p with status := status.refreshCleanupActivity }
  else p

/-- A call that failed left the service as it was. -/
def orKept (p : Service) (r : Except ControlError Service) : Service :=
  match r with
  | .ok q => q
  | .error _ => p

end Service

/-! ## The service as a system -/

/-- What happens in one instance of the service, each under the lock of
the status. A cycle and its two ends are steps of their own, so that
whatever comes in between does. -/
inductive ServiceStep
  | operator (command : IpcCommand) (now : Nat) (fault : Option StoreError)
  | lifecycle (command : LifecycleCommand) (now : Nat) (epoch : String) (fault : Option StoreError)
  | publicMutation (context : MutationContext) (mutation : OrdinaryMutation) (now : Nat)
      (fault : Option StoreError)
  | expirePause (now : Nat) (fault : Option StoreError)
  | beginObservationCycle (cycleToken : String)
  | publishRoster (cycleToken : String)
  | finishObservationCycle (cycleToken : String) (succeeded : Bool)
  | noteCycleSucceeded
  | noteCycleFailed (message : String)
  | completeSuccessfulCycle (now : Nat) (epoch : String) (scanFault failFault : Option StoreError)
  | failClosed (now : Nat) (message sourceFile : String) (sourceLine : Nat)
      (fault : Option StoreError)
  | startStorageCleanup (now : Nat) (fault : Option StoreError)
      (prepared : Except StoreError String)
  | startToolCache (now : Nat) (fault : Option StoreError)
      (prepared : ToolCacheKind → Except StoreError String) (spawned : Bool)
  | startNodeCompileCache (now : Nat) (fault : Option StoreError)
      (prepared : ToolCacheKind → Except StoreError String) (spawned : Bool)
  | finishStorageAction (token : String)
  | finishToolCacheAction (token : String)
  | beginProcessCleanup (token : String)
  | dropProcessCleanup (token : String)

namespace Service

/-- One step. -/
def step (p : Service) : ServiceStep → Service
  | .operator command now fault => (p.handleAt command now fault).1
  | .lifecycle command now epoch fault => p.orKept (p.handleLifecycleAt command now epoch fault)
  | .publicMutation context mutation now fault =>
      (p.commitPublicMutation context mutation now fault).1
  | .expirePause now fault => p.orKept (p.expirePause now fault)
  | .beginObservationCycle cycleToken => p.beginObservationCycle cycleToken
  | .publishRoster cycleToken => p.publishRoster cycleToken
  | .finishObservationCycle cycleToken succeeded => p.finishObservationCycle cycleToken succeeded
  | .noteCycleSucceeded => p.noteCycleSucceeded
  | .noteCycleFailed message => p.noteCycleFailed message
  | .completeSuccessfulCycle now epoch scanFault failFault =>
      (p.completeSuccessfulCycle now epoch scanFault failFault).1
  | .failClosed now message sourceFile sourceLine fault =>
      (p.failClosed now message sourceFile sourceLine fault).1
  | .startStorageCleanup now fault prepared =>
      (p.startStorageCleanupIfReadyEnforce now fault prepared).1
  | .startToolCache now fault prepared spawned =>
      (p.startToolCacheIfReadyEnforce now fault prepared spawned).1
  | .startNodeCompileCache now fault prepared spawned =>
      (p.startNodeCompileCacheIfReadyEnforce now fault prepared spawned).1
  | .finishStorageAction token => p.orKept (p.finishStorageAction token)
  | .finishToolCacheAction token => p.orKept (p.finishToolCacheAction token)
  | .beginProcessCleanup token => p.orKept (p.beginProcessCleanupActivity token)
  | .dropProcessCleanup token => p.dropProcessCleanupActivity token

/-- The service after steps. -/
def run (p : Service) (steps : List ServiceStep) : Service := steps.foldl step p

end Service

end Unlinger
