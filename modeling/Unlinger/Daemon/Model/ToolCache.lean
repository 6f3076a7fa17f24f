import Unlinger.Common.Fallible
import Unlinger.Common.Interaction
import Unlinger.Common.Transition
import Unlinger.Daemon.Model.Service

/-!
# Cache maintenance

The two ledgers of `unlinger-daemon/src/store/tool_cache.rs`, one row
each: the latest observation of a cache and the latest attempt to maintain
it. Below them the two producers of results: `RunningUvMaintenance::wait`
of `tool_cache.rs`, which reads the one object its supervisor writes, and
`remove_files` of `node_compile_cache.rs`, which unlinks the files of a
frozen plan.

The two summaries of an attempt have the same fields and are one type
here, and so are the two native results.
-/

namespace Unlinger

open Interaction

/-- Whether a cache is there to be maintained. -/
inductive ToolCacheAvailability
  | available
  | absent
  | unsupported
  | unavailable
  deriving DecidableEq

/-- How an attempt stands. -/
inductive ToolCacheOutcome
  | running
  | noOp
  | completed
  | busy
  | failed
  | deliveryUnknown
  deriving DecidableEq

/-- `ToolCacheAttemptSummary` and `NodeCompileCacheAttemptSummary`. -/
structure CacheAttempt where
  outcome : ToolCacheOutcome
  preparedAtUnixMillis : Nat
  completedAtUnixMillis : Option Nat
  removedEntryCount : Option Nat
  removedLogicalBytes : Option Nat
  deriving DecidableEq

/-- The row of a ledger. -/
structure CacheRow where
  observedAtMillis : Nat
  availability : ToolCacheAvailability
  attemptToken : Option NamespaceToken
  attempt : Option CacheAttempt
  deriving DecidableEq

/-- What the caller of an attempt holds. -/
structure PreparedToolCacheAttempt where
  token : NamespaceToken
  preparedAtUnixMillis : Nat
  kind : ToolCacheKind
  deriving DecidableEq

/-! ## Both ledgers -/

/-- Write an observation beside the attempt. -/
def recordObservation (label : String) (row : Option CacheRow) (now : Nat)
    (availability : ToolCacheAvailability) : Except StoreError CacheRow := do
  let observed ← sqliteMillis now label
  match row with
  | some row => return { row with observedAtMillis := observed, availability := availability }
  | none => return ⟨observed, availability, none, none⟩

/-- Open an attempt, where none is open. -/
def beginAttempt (kind : ToolCacheKind) (label refusal : String) (isOpen : Bool)
    (row : Option CacheRow) (now : Nat) (fresh : NamespaceToken) :
    Except StoreError (CacheRow × PreparedToolCacheAttempt) := do
  require (isOpen = false) (.invalid refusal)
  let row ← recordObservation label row now .available
  return ({ row with
      attemptToken := some fresh
      attempt := some ⟨.running, now, none, none, none⟩ },
    ⟨fresh, now, kind⟩)

/-- Settle the attempt of a token, with the observation after it. -/
def settleAttempt (label refusal : String) (row : Option CacheRow)
    (prepared : PreparedToolCacheAttempt) (result : CacheAttempt) (completed : Nat)
    (availability : ToolCacheAvailability) : Except StoreError CacheRow := do
  let row ← found row (.invalid refusal)
  require (row.attemptToken = some prepared.token) (.invalid refusal)
  recordObservation label (some { row with attempt := some result, attemptToken := none }) completed
    availability

/-- What is open when the caller is gone was delivered or not. `none` where
nothing is open. -/
def recoverAttempt (row : Option CacheRow) (now : Nat) : Except StoreError (Option CacheRow) :=
  match row with
  | none => .ok none
  | some row =>
      if row.attemptToken = none then .ok none
      else do
        let attempt ← found row.attempt (.sqlite "attempt_json")
        return some { row with
          attemptToken := none
          attempt := some ⟨.deliveryUnknown, attempt.preparedAtUnixMillis,
            some (max now attempt.preparedAtUnixMillis), none, none⟩ }

/-! ## The uv cache -/

/-- The attempt on record is running. -/
def CacheRow.running (row : CacheRow) : Bool :=
  row.attempt.any fun attempt => attempt.outcome == .running

/-- Open an attempt on the uv cache; what is open is told by the outcome. -/
def beginToolCacheAttempt (row : Option CacheRow) (now : Nat) (fresh : NamespaceToken) :
    Except StoreError (CacheRow × PreparedToolCacheAttempt) :=
  beginAttempt .uvCache "cache observation" "cache maintenance already prepared"
    (row.any CacheRow.running) row now fresh

/-- A result contradicts itself or its attempt. -/
def toolCacheResultInconsistent (prepared : PreparedToolCacheAttempt) (result : CacheAttempt)
    (completed : Nat) : Prop :=
  prepared.kind ≠ .uvCache ∨ result.outcome = .running ∨ result.outcome = .noOp
    ∨ result.preparedAtUnixMillis ≠ prepared.preparedAtUnixMillis
    ∨ completed < prepared.preparedAtUnixMillis
    ∨ (¬ (result.outcome = .completed ∨ result.outcome = .noOp)
      ∧ (result.removedEntryCount.isSome = true ∨ result.removedLogicalBytes.isSome = true))
    ∨ (result.outcome = .noOp
      ∧ (result.removedEntryCount ≠ some 0 ∨ result.removedLogicalBytes ≠ some 0))

instance {prepared : PreparedToolCacheAttempt} {result : CacheAttempt} {completed : Nat} :
    Decidable (toolCacheResultInconsistent prepared result completed) :=
  inferInstanceAs (Decidable (_ ∨ _))

/-- Complete an attempt on the uv cache. -/
def completeToolCacheAttempt (row : Option CacheRow) (prepared : PreparedToolCacheAttempt)
    (result : CacheAttempt) (availability : ToolCacheAvailability) : Except StoreError CacheRow := do
  let completed ← found result.completedAtUnixMillis (.invalid "cache result has no completion time")
  require (¬ toolCacheResultInconsistent prepared result completed)
    (.invalid "inconsistent cache result")
  settleAttempt "cache observation" "cache attempt is no longer prepared" row prepared result
    completed availability

/-! ## The node compile cache -/

/-- Open an attempt on the node cache; what is open is told by the
token. -/
def beginNodeCompileCacheAttempt (row : Option CacheRow) (now : Nat) (fresh : NamespaceToken) :
    Except StoreError (CacheRow × PreparedToolCacheAttempt) :=
  beginAttempt .nodeCompileCache "node cache observation" "node cache maintenance already prepared"
    (row.any fun row => row.attemptToken.isSome) row now fresh

/-- A result contradicts itself or its attempt. Here a completed one has
its counters. -/
def nodeCompileCacheResultInconsistent (prepared : PreparedToolCacheAttempt)
    (result : CacheAttempt) (completed : Nat) : Prop :=
  prepared.kind ≠ .nodeCompileCache ∨ result.outcome = .running ∨ result.outcome = .noOp
    ∨ result.preparedAtUnixMillis ≠ prepared.preparedAtUnixMillis
    ∨ completed < prepared.preparedAtUnixMillis
    ∨ (result.outcome ≠ .completed
      ∧ (result.removedEntryCount.isSome = true ∨ result.removedLogicalBytes.isSome = true))
    ∨ (result.outcome = .completed
      ∧ (result.removedEntryCount = none ∨ result.removedLogicalBytes = none))

instance {prepared : PreparedToolCacheAttempt} {result : CacheAttempt} {completed : Nat} :
    Decidable (nodeCompileCacheResultInconsistent prepared result completed) :=
  inferInstanceAs (Decidable (_ ∨ _))

/-- Complete an attempt on the node cache. -/
def completeNodeCompileCacheAttempt (row : Option CacheRow) (prepared : PreparedToolCacheAttempt)
    (result : CacheAttempt) (availability : ToolCacheAvailability) : Except StoreError CacheRow := do
  let completed ← found result.completedAtUnixMillis
    (.invalid "node cache result has no completion time")
  require (¬ nodeCompileCacheResultInconsistent prepared result completed)
    (.invalid "inconsistent node cache result")
  settleAttempt "node cache observation" "node cache attempt is no longer prepared" row prepared
    result completed availability

/-! ## Native results -/

/-- `ToolCacheNativeResult` and `NodeCompileCacheResult`. -/
structure NativeCacheResult where
  outcome : ToolCacheOutcome
  removedEntryCount : Option Nat
  removedLogicalBytes : Option Nat
  deriving DecidableEq

/-- A result without counters. -/
def NativeCacheResult.unsuccessful (outcome : ToolCacheOutcome) : NativeCacheResult :=
  ⟨outcome, none, none⟩

/-- The attempt a native result settles. -/
def NativeCacheResult.settles (result : NativeCacheResult) (preparedAt completedAt : Nat) :
    CacheAttempt :=
  ⟨result.outcome, preparedAt, some completedAt, result.removedEntryCount,
    result.removedLogicalBytes⟩

/-! ### uv -/

/-- The object the supervisor writes. -/
structure SupervisorResult where
  outcome : String
  removedEntryCount : Option Nat
  removedLogicalBytes : Option Nat

/-- More output than this is not read. -/
def stdoutCapBytes : Nat := 16 * 1024

/-- The supervisor's object as a result; `fromSlice` is the parser of its
JSON text. -/
def parseSupervisorResult (fromSlice : List UInt8 → Option SupervisorResult) (bytes : List UInt8) :
    Option NativeCacheResult :=
  if bytes = [] ∨ stdoutCapBytes < bytes.length then none
  else do
    let parsed ← fromSlice bytes
    if parsed.outcome = "completed" then
      match parsed.removedEntryCount, parsed.removedLogicalBytes with
      | none, none => some ⟨.completed, none, none⟩
      | some count, some bytes => some ⟨.completed, some count, some bytes⟩
      | _, _ => none
    else if parsed.outcome = "busy" ∧ parsed.removedEntryCount = none
        ∧ parsed.removedLogicalBytes = none then
      some (.unsuccessful .busy)
    else if parsed.outcome = "failed" ∧ parsed.removedEntryCount = none
        ∧ parsed.removedLogicalBytes = none then
      some (.unsuccessful .failed)
    else none

/-- One read of the pipe. -/
inductive PipeRead
  | closed
  | bytes (chunk : List UInt8)
  | wouldBlock
  | interrupted
  | failed

/-- Read what there is; `none` where the output grows too large or cannot
be read. -/
def drainOutput : List PipeRead → List UInt8 → Option (List UInt8)
  | [], output => some output
  | .closed :: _, output => some output
  | .wouldBlock :: _, output => some output
  | .interrupted :: reads, output => drainOutput reads output
  | .failed :: _, _ => none
  | .bytes chunk :: reads, output =>
      if stdoutCapBytes < output.length + chunk.length then none
      else drainOutput reads (output ++ chunk)

/-- What the supervisor is found to be. -/
inductive TryWait
  | exited (success : Bool)
  | running
  | failed

/-- One round of the loop: what is read, how the child stands, what is
read after it exited, and whether the caller or the clock ends it. -/
structure UvPoll where
  reads : List PipeRead
  status : TryWait
  finalReads : List PipeRead
  stopped : Bool

/-- Wait for the supervised child. The loop has no end of its own: `none`
where the rounds given do not end it. -/
def waitUvMaintenance (fromSlice : List UInt8 → Option SupervisorResult) (readable : Bool) :
    List UvPoll → List UInt8 → Option NativeCacheResult
  | [], _ => none
  | poll :: polls, output =>
      if !readable then some (.unsuccessful .deliveryUnknown)
      else
        match drainOutput poll.reads output with
        | none => some (.unsuccessful .deliveryUnknown)
        | some output =>
            match poll.status with
            | .exited success =>
                match drainOutput poll.finalReads output with
                | none => some (.unsuccessful .deliveryUnknown)
                | some output =>
                    if success then
                      some ((parseSupervisorResult fromSlice output).getD
                        (.unsuccessful .deliveryUnknown))
                    else some (.unsuccessful .deliveryUnknown)
            | .failed => some (.unsuccessful .deliveryUnknown)
            | .running =>
                if poll.stopped then some (.unsuccessful .deliveryUnknown)
                else waitUvMaintenance fromSlice readable polls output

/-! ### Node -/

/-- What a file is recognised by. -/
structure CacheFileIdentity where
  device : Nat
  inode : Nat
  length : Nat
  modified : Int × Int
  changed : Int × Int
  deriving DecidableEq

/-- A file of the plan. -/
structure CacheEntry where
  name : List UInt8
  identity : CacheFileIdentity
  deriving DecidableEq

/-- Why the bucket could not be listed. -/
inductive NodeScanError
  | busy
  | unsafeShape
  | io

/-- What a file's metadata says: a file of the user's own with one link,
and which one. -/
structure CacheFileMetadata where
  safe : Bool
  identity : CacheFileIdentity

/-- What `remove_files` asks of its surroundings. -/
inductive NodeCall
  | cancelled
  | expired
  | bindingsCurrent
  | scanEntries
  | openAt (name : List UInt8)
  | metadata (name : List UInt8)
  | entryMetadata (name : List UInt8)
  | unlink (name : List UInt8)

/-- What the answers are. -/
def NodeAnswer : NodeCall → Type
  | .cancelled => Bool
  | .expired => Bool
  | .bindingsCurrent => Bool
  | .scanEntries => Except NodeScanError (List CacheEntry)
  | .openAt _ => Bool
  | .metadata _ => Option CacheFileMetadata
  | .entryMetadata _ => Option CacheFileMetadata
  | .unlink _ => Bool

/-- Unlink the files of the plan one by one. -/
def removeEach : List CacheEntry → Nat → Nat → Prog NodeAnswer Empty NativeCacheResult
  | [], count, bytes => pure ⟨.completed, some count, some bytes⟩
  | entry :: entries, count, bytes => do
      let cancelled : Bool ← Prog.ask NodeCall.cancelled
      if cancelled then return .unsuccessful .failed
      let expired : Bool ← Prog.ask NodeCall.expired
      if expired then return .unsuccessful .failed
      let current : Bool ← Prog.ask NodeCall.bindingsCurrent
      if !current then return .unsuccessful .failed
      let opened : Bool ← Prog.ask (NodeCall.openAt entry.name)
      if !opened then return .unsuccessful .failed
      let held : Option CacheFileMetadata ← Prog.ask (NodeCall.metadata entry.name)
      if !(held.any fun file => file.safe && file.identity == entry.identity) then
        return .unsuccessful .failed
      let linked : Option CacheFileMetadata ← Prog.ask (NodeCall.entryMetadata entry.name)
      if !(linked.any fun file => file.safe && file.identity == entry.identity) then
        return .unsuccessful .failed
      let cancelled : Bool ← Prog.ask NodeCall.cancelled
      if cancelled then return .unsuccessful .failed
      let unlinked : Bool ← Prog.ask (NodeCall.unlink entry.name)
      if !unlinked then return .unsuccessful .deliveryUnknown
      removeEach entries (count + 1) (bytes + entry.identity.length)

/-- Carry out a frozen plan, if the bucket still holds exactly it. -/
def removeFiles (entries : List CacheEntry) : Prog NodeAnswer Empty NativeCacheResult := do
  let cancelled : Bool ← Prog.ask NodeCall.cancelled
  if cancelled then return .unsuccessful .failed
  let current : Bool ← Prog.ask NodeCall.bindingsCurrent
  if !current then return .unsuccessful .failed
  let scanned : Except NodeScanError (List CacheEntry) ← Prog.ask NodeCall.scanEntries
  match scanned with
  | .error .busy => return .unsuccessful .busy
  | .error _ => return .unsuccessful .failed
  | .ok listed =>
      if listed.length ≠ entries.length
          ∨ (listed.zip entries).any (fun pair => pair.1.name != pair.2.name
              || pair.1.identity != pair.2.identity) = true then
        return .unsuccessful .busy
      removeEach entries 0 0

/-! ## The ledgers as a system -/

/-- A call of the store. Reopening it reads the rows as they are. -/
inductive CacheStep
  | observe (kind : ToolCacheKind) (now : Nat) (availability : ToolCacheAvailability)
  | begin (kind : ToolCacheKind) (now : Nat) (fresh : NamespaceToken)
  | complete (kind : ToolCacheKind) (prepared : PreparedToolCacheAttempt) (result : CacheAttempt)
      (availability : ToolCacheAvailability)
  | recover (kind : ToolCacheKind) (now : Nat)
  | reopen

/-- The rows, and every handle that was ever given out. -/
structure CacheSystem where
  row : ToolCacheKind → Option CacheRow
  issued : List PreparedToolCacheAttempt

namespace CacheSystem

/-- Write the row of a cache. -/
def put (s : CacheSystem) (kind : ToolCacheKind) (row : CacheRow) : CacheSystem :=
  { s with row := fun other => if other = kind then some row else s.row other }

/-- The call to observe, by its cache. -/
def observe (s : CacheSystem) : ToolCacheKind → Nat → ToolCacheAvailability → Except StoreError CacheRow
  | .uvCache => recordObservation "cache observation" (s.row .uvCache)
  | .nodeCompileCache => recordObservation "node cache observation" (s.row .nodeCompileCache)

/-- The call to begin, by its cache. -/
def begin (s : CacheSystem) : ToolCacheKind → Nat → NamespaceToken →
    Except StoreError (CacheRow × PreparedToolCacheAttempt)
  | .uvCache => beginToolCacheAttempt (s.row .uvCache)
  | .nodeCompileCache => beginNodeCompileCacheAttempt (s.row .nodeCompileCache)

/-- The call to complete, by its cache. -/
def complete (s : CacheSystem) : ToolCacheKind → PreparedToolCacheAttempt → CacheAttempt →
    ToolCacheAvailability → Except StoreError CacheRow
  | .uvCache => completeToolCacheAttempt (s.row .uvCache)
  | .nodeCompileCache => completeNodeCompileCacheAttempt (s.row .nodeCompileCache)

/-- The call to recover. -/
def recover (s : CacheSystem) (kind : ToolCacheKind) (now : Nat) :
    Except StoreError (Option CacheRow) :=
  recoverAttempt (s.row kind) now

/-- One call; one that failed changed nothing. -/
def step (s : CacheSystem) : CacheStep → CacheSystem
  | .observe kind now availability =>
      match s.observe kind now availability with
      | .ok row => s.put kind row
      | .error _ => s
  | .begin kind now fresh =>
      match s.begin kind now fresh with
      | .ok (row, prepared) => { s.put kind row with issued := prepared :: s.issued }
      | .error _ => s
  | .complete kind prepared result availability =>
      match s.complete kind prepared result availability with
      | .ok row => s.put kind row
      | .error _ => s
  | .recover kind now =>
      match s.recover kind now with
      | .ok (some row) => s.put kind row
      | .ok none | .error _ => s
  | .reopen => s

/-- A token is drawn that no handle has, and a handle is one that was given
out. -/
def Allowed (s : CacheSystem) : CacheStep → Prop
  | .begin _ _ fresh => ∀ prepared ∈ s.issued, prepared.token ≠ fresh
  | .complete _ prepared _ _ => prepared ∈ s.issued
  | _ => True

/-- Nothing observed, nothing begun. -/
def start : CacheSystem := ⟨fun _ => none, []⟩

/-- The state of a run of calls. -/
def Reachable (s : CacheSystem) : Prop :=
  ∃ steps, Transition.Along step Allowed start steps ∧ s = steps.foldl step start

end CacheSystem

end Unlinger
