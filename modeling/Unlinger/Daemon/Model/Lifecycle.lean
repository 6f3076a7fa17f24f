import Unlinger.Daemon.Model.Journal

/-!
# The managed lifecycle

The transitions of the one row of `managed_lifecycle` in
`unlinger-daemon/src/store.rs`. A daemon boots under a generation and an
instance, recovers, scans once without signals, and is then ready; it
enforces only where it was asked to and nothing blocks it. A transition is
one transaction and names the generation and instance it is of; a row that
violates a `CHECK` fails it.
-/

namespace Unlinger

/-- A printable name of at most 192 bytes, and a generation. -/
def validateManagedIdentity (activationGeneration : Nat) (instanceId : String) :
    Except StoreError Unit := do
  require (activationGeneration ≠ 0)
    (.invalid "managed activation generation must be greater than zero")
  require (Text.isBlank instanceId = false ∧ instanceId.utf8ByteSize ≤ 192
      ∧ instanceId.toList.any Text.isControl = false)
    (.invalid "managed instance ID must contain 1 to 192 printable bytes")

/-- An epoch of 1 to 192 bytes. -/
def validateEnforcementEpoch (enforcementEpoch : String) : Except StoreError Unit :=
  require (Text.isBlank enforcementEpoch = false ∧ enforcementEpoch.utf8ByteSize ≤ 192)
    (.invalid "managed arm requires a bounded non-empty enforcement epoch")

/-- The lifecycle is of this generation and instance. -/
def requireExactManagedIdentity (lifecycle : ManagedLifecycle) (activationGeneration : Nat)
    (instanceId : String) : Except StoreError Unit := do
  require (lifecycle.activationGeneration = activationGeneration)
    (.invalid ("managed activation generation mismatch: active "
      ++ Text.decimal lifecycle.activationGeneration ++ ", requested "
      ++ Text.decimal activationGeneration))
  require (lifecycle.instanceId = instanceId)
    (.invalid "managed instance ID does not match the active daemon")

/-- The enforcement asked for survives a restart: of a daemon that
enforced, or of one that was stopped in order before it was ready. -/
def ManagedLifecycle.carriesEnforce (l : ManagedLifecycle) (activationGeneration : Nat) : Bool :=
  let readyEnforceRestart := l.startupPhase == .readyEnforce && l.effectiveEnforce
  let gracefulPreReadyRestart := l.startupPhase == .readyReportOnly && !l.ready
    && !l.effectiveEnforce && l.armedGeneration.isNone && l.enforcementEpoch.isNone
  l.activationGeneration == activationGeneration && l.requestedEnforce
    && (readyEnforceRestart || gracefulPreReadyRestart)

/-- The lifecycle without what enforcement needs. -/
def ManagedLifecycle.unarmed (l : ManagedLifecycle) : ManagedLifecycle :=
  { l with effectiveEnforce := false, armedGeneration := none, enforcementEpoch := none }

namespace Store

/-! ## What blocks enforcement -/

/-- The attempt of some retry block has an action that ended so. -/
def blockedWith (s : Store) (disposition : SignalDisposition)
    (artifactDisposition : ArtifactDisposition) : Bool :=
  s.retryBlocks.entries.any fun e =>
    endedWith s.actions e.2.sourceAttemptId disposition
      || endedWith s.artifactActions e.2.sourceAttemptId artifactDisposition

/-- What a failed cleanup left that only the owner may lift. -/
def persistentEnforcementBlocker (s : Store) : Option String :=
  if s.blockedWith .deliveryUnknown .deliveryUnknown then
    some "managed arm is blocked by unresolved delivery-unknown cleanup"
  else if s.blockedWith .delivered .removed then
    some "managed arm is blocked by cleanup interrupted after a delivered side effect"
  else none

/-- What stands in the way of arming. -/
def managedArmBlocker (s : Store) : Option String :=
  if !s.openAttempts.isEmpty then
    some "managed arm is blocked by an incomplete cleanup attempt"
  else s.persistentEnforcementBlocker

/-! ## Transitions -/

/-- Write the row. -/
def writeManaged (s : Store) (lifecycle : ManagedLifecycle) (updatedAt : Nat) :
    Except StoreError Store :=
  if h : lifecycle.checks = true then
    .ok { s with managedLifecycle := some ⟨lifecycle, updatedAt, h⟩ }
  else .error (.sqlite "managed_lifecycle")

/-- Begin a lifecycle, whatever became of the one before. -/
def beginManagedBoot (s : Store) (activationGeneration : Nat) (instanceId : String)
    (occurredAt : Nat) : Except StoreError (Store × ManagedLifecycle) := do
  validateManagedIdentity activationGeneration instanceId
  let generation ← sqliteMillis activationGeneration "activation generation"
  let at_ ← sqliteMillis occurredAt "managed boot timestamp"
  let carry := s.managedLifecycle.any fun row => row.lifecycle.carriesEnforce activationGeneration
  let s ← s.writeManaged
    { activationGeneration := generation
      instanceId := instanceId
      requestedEnforce := carry
      effectiveEnforce := false
      armedGeneration := none
      enforcementEpoch := none
      ready := false
      draining := false
      startupPhase := .recovering } at_
  let row ← found s.managedLifecycle (.corrupt "managed boot did not create lifecycle state")
  return (s, row.lifecycle)

/-- A transition of the lifecycle of a generation and instance. -/
def transitionManaged (s : Store) (activationGeneration : Nat) (instanceId : String)
    (occurredAt : Nat) (transition : ManagedLifecycle → Nat → Except StoreError Store) :
    Except StoreError (Store × ManagedLifecycle) := do
  validateManagedIdentity activationGeneration instanceId
  let at_ ← sqliteMillis occurredAt "managed lifecycle timestamp"
  let current ← found s.managedLifecycle (.invalid "managed lifecycle has not begun")
  requireExactManagedIdentity current.lifecycle activationGeneration instanceId
  let s ← transition current.lifecycle at_
  let row ← found s.managedLifecycle (.corrupt "managed lifecycle disappeared during transition")
  return (s, row.lifecycle)

/-- Arm: whatever cooled before starts again. -/
def applyManagedArm (s : Store) (current : ManagedLifecycle) (enforcementEpoch : String)
    (occurredAt : Nat) : Except StoreError Store :=
  { s with coolingCandidates := OrdMap.empty }.writeManaged
    { current with
      requestedEnforce := true
      effectiveEnforce := true
      armedGeneration := some current.activationGeneration
      enforcementEpoch := some enforcementEpoch
      ready := true
      draining := false
      startupPhase := .readyEnforce } occurredAt

/-- Ready, without enforcing. -/
def applyManagedReportOnlyReady (s : Store) (current : ManagedLifecycle) (occurredAt : Nat)
    (clearRequestedEnforce : Bool) : Except StoreError Store :=
  s.writeManaged
    { current.unarmed with
      requestedEnforce := if clearRequestedEnforce then false else current.requestedEnforce
      ready := true
      draining := false
      startupPhase := .readyReportOnly } occurredAt

/-- What the crash left is recovered; the first scan comes next. -/
def finishManagedRecovery (s : Store) (activationGeneration : Nat) (instanceId : String)
    (occurredAt : Nat) : Except StoreError (Store × ManagedLifecycle) :=
  s.transitionManaged activationGeneration instanceId occurredAt fun current at_ => do
    require (current.draining = false) (.invalid "managed daemon is already draining")
    s.writeManaged
      { current.unarmed with ready := false, startupPhase := .firstScanReportOnly } at_

/-- Keep what was asked for across a stop in order before the first scan is
complete. -/
def preserveManagedPreReadyRestartIntent (s : Store) (activationGeneration : Nat)
    (instanceId : String) (occurredAt : Nat) : Except StoreError (Store × ManagedLifecycle) :=
  s.transitionManaged activationGeneration instanceId occurredAt fun current at_ => do
    require (current.draining = false)
      (.invalid "draining managed daemon cannot preserve restart intent")
    require (current.ready = false ∧ (current.startupPhase = .recovering
        ∨ current.startupPhase = .firstScanReportOnly))
      (.invalid "managed daemon is not in pre-ready startup")
    s.writeManaged
      { current.unarmed with ready := false, draining := false, startupPhase := .readyReportOnly } at_

/-- The first scan is complete: the daemon is ready, and enforces where it
was asked to and nothing blocks it. -/
def completeManagedFirstScan (s : Store) (activationGeneration : Nat) (instanceId : String)
    (enforcementEpoch : String) (occurredAt : Nat) :
    Except StoreError (Store × ManagedLifecycle) := do
  validateEnforcementEpoch enforcementEpoch
  s.transitionManaged activationGeneration instanceId occurredAt fun current at_ => do
    require (current.draining = false) (.invalid "managed daemon is already draining")
    require (current.startupPhase = .firstScanReportOnly)
      (.invalid "managed daemon is not awaiting its first report-only scan")
    if current.requestedEnforce then
      if s.managedArmBlocker.isSome then s.applyManagedReportOnlyReady current at_ true
      else s.applyManagedArm current enforcementEpoch at_
    else s.applyManagedReportOnlyReady current at_ false

/-- Enforce from now on. -/
def armManaged (s : Store) (activationGeneration : Nat) (instanceId : String)
    (enforcementEpoch : String) (occurredAt : Nat) :
    Except StoreError (Store × ManagedLifecycle) := do
  validateEnforcementEpoch enforcementEpoch
  s.transitionManaged activationGeneration instanceId occurredAt fun current at_ => do
    -- a daemon that is armed keeps its epoch
    if current.effectiveEnforce ∧ current.armedGeneration = some activationGeneration
        ∧ current.enforcementEpoch.isSome then
      return s
    else
      require (current.draining = false) (.invalid "managed daemon is draining and cannot arm")
      require (current.ready = true) (.invalid "managed daemon is not ready for enforcement")
      match s.managedArmBlocker with
      | some blocker => .error (.invalid blocker)
      | none => s.applyManagedArm current enforcementEpoch at_

/-- Forget what was asked for while no daemon runs. -/
def clearManagedEnforceRequestOffline (s : Store) (activationGeneration : Nat)
    (occurredAt : Nat) : Except StoreError (Store × ManagedLifecycle) := do
  require (activationGeneration ≠ 0)
    (.invalid "managed activation generation must be greater than zero")
  let _ ← sqliteMillis activationGeneration "activation generation"
  let at_ ← sqliteMillis occurredAt "offline managed report-only recovery timestamp"
  let current ← found s.managedLifecycle (.invalid "managed lifecycle has not begun")
  require (current.lifecycle.activationGeneration = activationGeneration)
    (.invalid ("managed activation generation mismatch: expected "
      ++ Text.decimal current.lifecycle.activationGeneration ++ ", got "
      ++ Text.decimal activationGeneration))
  let s ← s.writeManaged
    { current.lifecycle.unarmed with
      requestedEnforce := false
      ready := false
      draining := false
      startupPhase := .recovering } at_
  let row ← found s.managedLifecycle
    (.corrupt "managed lifecycle disappeared during offline report-only recovery")
  return (s, row.lifecycle)

/-- Enforce no more, and forget that it was asked for. -/
def disarmManaged (s : Store) (activationGeneration : Nat) (instanceId : String)
    (occurredAt : Nat) : Except StoreError (Store × ManagedLifecycle) :=
  s.transitionManaged activationGeneration instanceId occurredAt fun current at_ =>
    s.writeManaged
      { current.unarmed with
        requestedEnforce := false
        startupPhase :=
          if current.draining then .draining
          else if current.ready then .readyReportOnly
          else current.startupPhase } at_

/-- Drain. -/
def beginManagedDrain (s : Store) (activationGeneration : Nat) (instanceId : String)
    (occurredAt : Nat) : Except StoreError (Store × ManagedLifecycle) :=
  s.transitionManaged activationGeneration instanceId occurredAt fun current at_ =>
    s.writeManaged
      { current.unarmed with
        requestedEnforce := false
        ready := false
        draining := true
        startupPhase := .draining } at_

/-- Fail; a daemon that drains goes on draining. -/
def failManaged (s : Store) (activationGeneration : Nat) (instanceId : String)
    (occurredAt : Nat) : Except StoreError (Store × ManagedLifecycle) :=
  s.transitionManaged activationGeneration instanceId occurredAt fun current at_ =>
    s.writeManaged
      { current.unarmed with
        requestedEnforce := false
        ready := false
        draining := current.draining
        startupPhase := if current.draining then .draining else .failed } at_

end Store

/-! ## All transitions -/

/-- A transition, with its arguments. -/
inductive ManagedOp
  | beginManagedBoot (activationGeneration : Nat) (instanceId : String) (occurredAt : Nat)
  | finishManagedRecovery (activationGeneration : Nat) (instanceId : String) (occurredAt : Nat)
  | preserveManagedPreReadyRestartIntent (activationGeneration : Nat) (instanceId : String)
      (occurredAt : Nat)
  | completeManagedFirstScan (activationGeneration : Nat) (instanceId enforcementEpoch : String)
      (occurredAt : Nat)
  | armManaged (activationGeneration : Nat) (instanceId enforcementEpoch : String)
      (occurredAt : Nat)
  | disarmManaged (activationGeneration : Nat) (instanceId : String) (occurredAt : Nat)
  | beginManagedDrain (activationGeneration : Nat) (instanceId : String) (occurredAt : Nat)
  | failManaged (activationGeneration : Nat) (instanceId : String) (occurredAt : Nat)
  | clearManagedEnforceRequestOffline (activationGeneration : Nat) (occurredAt : Nat)
  deriving DecidableEq

/-- Carry a transition out. -/
def Store.performManaged (s : Store) : ManagedOp → Except StoreError (Store × ManagedLifecycle)
  | .beginManagedBoot generation instanceId at_ => s.beginManagedBoot generation instanceId at_
  | .finishManagedRecovery generation instanceId at_ =>
      s.finishManagedRecovery generation instanceId at_
  | .preserveManagedPreReadyRestartIntent generation instanceId at_ =>
      s.preserveManagedPreReadyRestartIntent generation instanceId at_
  | .completeManagedFirstScan generation instanceId epoch at_ =>
      s.completeManagedFirstScan generation instanceId epoch at_
  | .armManaged generation instanceId epoch at_ => s.armManaged generation instanceId epoch at_
  | .disarmManaged generation instanceId at_ => s.disarmManaged generation instanceId at_
  | .beginManagedDrain generation instanceId at_ => s.beginManagedDrain generation instanceId at_
  | .failManaged generation instanceId at_ => s.failManaged generation instanceId at_
  | .clearManagedEnforceRequestOffline generation at_ =>
      s.clearManagedEnforceRequestOffline generation at_

end Unlinger
