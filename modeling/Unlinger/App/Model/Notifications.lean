import Mathlib.Data.String.Basic
import Unlinger.Common.Actor
import Unlinger.Common.Table
import Unlinger.Common.Text

/-!
# Notifications of the App

`NotificationCoordinator` of
`UnlingerKit/Notifications/NotificationCoordinator.swift`, the ledger it
keeps (`NotificationLedger.swift`), and what it reads of a refresh. The
coordinator is an actor: its methods are programs over the accesses of its
fields and over what they await, the ledger file and the scheduler.

A dictionary or a set has no order of its own in Swift. Where the code
goes through one, or breaks a tie by it, the order is a rank of the keys
that each call is given.
-/

namespace Unlinger

namespace App

open Interaction

/-! ## What a refresh shows -/

inductive Readiness
  | starting
  | ready
  | draining
  | failed
  | unknown (wire : String)
deriving DecidableEq

inductive ProcessOutcome
  | cleared
  | revived
  | failed
  | deliveryUnknown
  | unknown (wire : String)
deriving DecidableEq

inductive ArtifactOutcome
  | notApplicable
  | reconciled
  | residue
  | deliveryUnknown
  | unknown (wire : String)
deriving DecidableEq

inductive OverallOutcome
  | cleared
  | clearedWithResidue
  | revived
  | failed
  | unknown (wire : String)
deriving DecidableEq

inductive IncidentState
  | isProtected
  | active
  | cooling
  | confirmed
  | ambiguous
  | reclaiming
  | cleared
  | revived
  | failed
  | unknown (wire : String)
deriving DecidableEq

inductive AttentionKind
  | cleanupFailed
  | cleanupRevived
  | cleanupResidue
  | daemonUnhealthy
  | eventSourceDegraded
  | storageRecovered
  | unknown (wire : String)
deriving DecidableEq

structure CleanupReceipt where
  state : IncidentState
  reasonId : Option String
  processOutcome : ProcessOutcome
  artifactOutcome : ArtifactOutcome
  overallOutcome : OverallOutcome
deriving DecidableEq

/-- The tree was gone before anything was done about it. -/
def CleanupReceipt.endedWithoutIntervention (r : CleanupReceipt) : Bool :=
  r.state == .cleared && r.processOutcome == .cleared && r.overallOutcome == .cleared
    && r.artifactOutcome == .notApplicable
    && r.reasonId == some "cleanup.tree_gone_without_signal"

inductive HistoryPayload
  | observation
  | cleanup (receipt : CleanupReceipt)
  | unknown (wire : String)
deriving DecidableEq

structure HistoryEvent where
  eventToken : String
  incidentId : String
  payload : HistoryPayload
deriving DecidableEq

structure AttentionItem where
  eventToken : Option String
  kind : AttentionKind
  incidentId : Option String
deriving DecidableEq

structure ReclaimSummary where
  eventToken : String
  incidentId : String
  overallOutcome : OverallOutcome
deriving DecidableEq

structure PublicStatus where
  healthy : Bool
  readiness : Readiness
  mostRecentReclaim : Option ReclaimSummary
  eventSourceHealthy : Bool
  /-- The token of the last storage recovery. -/
  lastRecovery : Option String
  attention : List AttentionItem
deriving DecidableEq

/-! ## Notifications -/

inductive NotificationMode
  | off
  | attention
  | attentionAndReclaims
deriving DecidableEq

inductive NotificationAuthorization
  | notDetermined
  | denied
  | authorized
  | provisional
  | ephemeral
  | unavailable
  | unknown
deriving DecidableEq

inductive NotificationRoute
  | status
  | incident (incidentId : String)
deriving DecidableEq

structure LocalNotification where
  identifier : String
  titleKey : String
  bodyKey : String
  route : NotificationRoute
  eventToken : Option String
deriving DecidableEq

structure NotificationCandidate where
  eventToken : String
  titleKey : String
  bodyKey : String
  route : NotificationRoute
  attentionEligible : Bool
deriving DecidableEq

/-! ## The ledger -/

inductive NotificationClaimDisposition
  | claimed
  | scheduled
  | failedToSchedule
  | suppressed
deriving DecidableEq

structure NotificationClaim where
  claimedAtUnixMillis : Nat
  disposition : NotificationClaimDisposition
deriving DecidableEq

structure UnavailableNotificationEpisode where
  firstFailureAtUnixMillis : Nat
  consecutiveFailures : Nat
  handled : Bool
  claimKey : Option String
deriving DecidableEq

structure NotificationLedgerState where
  schemaVersion : Nat
  baselineComplete : Bool
  seenEventTokens : OrdMap String Nat
  claims : OrdMap String NotificationClaim
  activeEpisodes : OrdMap String String
  unavailableEpisode : Option UnavailableNotificationEpisode
  promptAttempted : Bool
  authorizationSummary : NotificationAuthorization
deriving DecidableEq

/-- The ledger where there is no file. -/
def NotificationLedgerState.fresh : NotificationLedgerState :=
  ⟨1, false, .empty, .empty, .empty, none, false, .notDetermined⟩

namespace NotificationLedgerState

def maximumLedgerEntries : Nat := 512
def retentionMillis : Nat := 30 * 24 * 60 * 60 * 1000
def unavailableFailureThreshold : Nat := 3
def unavailableDurationThresholdMillis : Nat := 15000

/-- The orders a call finds its dictionaries and its set of tokens in. -/
structure Order where
  seen : String → Nat
  claims : String → Nat
  tokens : String → Nat

/-- The newest entries, as many as the ledger holds. -/
def bounded {ν : Type} (rank : String → Nat) (timestamp : ν → Nat) (values : OrdMap String ν) :
    OrdMap String ν :=
  .ofList ((values.entries.insertionSort fun a b =>
    timestamp b.2 < timestamp a.2 ∨ timestamp a.2 = timestamp b.2 ∧ rank a.1 ≤ rank b.1).take
      maximumLedgerEntries)

/-- Entries beyond the retention are forgotten, and beyond the size. -/
def prune (state : NotificationLedgerState) (now : Nat) (order : Order) : NotificationLedgerState :=
  let cutoff := if retentionMillis < now then now - retentionMillis else 0
  { state with
    seenEventTokens := bounded order.seen id (state.seenEventTokens.filter fun _ at_ => cutoff ≤ at_)
    claims := bounded order.claims NotificationClaim.claimedAtUnixMillis
      (state.claims.filter fun _ c => cutoff ≤ c.claimedAtUnixMillis) }

/-- What the ledger and the notifications to schedule have become. -/
abbrev Composed := NotificationLedgerState × List LocalNotification

end NotificationLedgerState

open NotificationLedgerState

/-! ## Candidates -/

/-- What a cleanup of the history would be notified as. -/
def HistoryEvent.candidate (event : HistoryEvent) : Option NotificationCandidate :=
  match event.payload with
  | .cleanup cleanup =>
      if cleanup.endedWithoutIntervention then none
      else
        let attentionEligible := cleanup.overallOutcome == .failed
          || cleanup.overallOutcome == .revived || cleanup.processOutcome == .deliveryUnknown
        let bodyKey := match cleanup.overallOutcome with
          | .failed =>
              if cleanup.processOutcome = .deliveryUnknown then "notification.cleanup_delivery_unknown"
              else "notification.cleanup_failed"
          | .revived => "notification.cleanup_revived"
          | .clearedWithResidue => "notification.cleared_with_residue"
          | .cleared => "notification.reclaimed"
          | .unknown _ => "notification.cleanup_failed"
        some ⟨event.eventToken,
          if attentionEligible then "notification.title.attention" else "notification.title.reclaim",
          bodyKey, .incident event.incidentId, attentionEligible⟩
  | _ => none

/-- What an attention item would be, where it has a token. -/
def AttentionItem.candidate (item : AttentionItem) : Option NotificationCandidate :=
  item.eventToken.map fun token =>
    let bodyKey := match item.kind with
      | .cleanupFailed => "notification.cleanup_failed"
      | .cleanupRevived => "notification.cleanup_revived"
      | .cleanupResidue => "notification.cleared_with_residue"
      | .storageRecovered => "notification.storage_recovered"
      | .daemonUnhealthy => "notification.daemon_failed"
      | .eventSourceDegraded => "notification.event_source_degraded"
      | .unknown _ => "notification.generic_attention"
    ⟨token, "notification.title.attention", bodyKey,
      (item.incidentId.map NotificationRoute.incident).getD .status, item.kind != .cleanupResidue⟩

/-- What a storage recovery would be. -/
def recoveryCandidate (recoveryToken : String) : NotificationCandidate :=
  ⟨recoveryToken, "notification.title.attention", "notification.storage_recovered", .status, true⟩

/-- What the last reclaim would be. -/
def ReclaimSummary.candidate (reclaim : ReclaimSummary) : NotificationCandidate :=
  let attentionEligible := reclaim.overallOutcome == .failed || reclaim.overallOutcome == .revived
  ⟨reclaim.eventToken,
    if attentionEligible then "notification.title.attention" else "notification.title.reclaim",
    if reclaim.overallOutcome = .clearedWithResidue then "notification.cleared_with_residue"
    else "notification.reclaimed",
    .incident reclaim.incidentId, attentionEligible⟩

/-- A candidate under its token; a later one replaces an earlier. -/
def putCandidate (candidates : OrdMap String NotificationCandidate)
    (candidate : NotificationCandidate) : OrdMap String NotificationCandidate :=
  candidates.insert candidate.eventToken candidate

def eventCandidates (status : PublicStatus) (history : List HistoryEvent) :
    OrdMap String NotificationCandidate :=
  let candidates := ((history.filterMap HistoryEvent.candidate)
    ++ status.attention.filterMap AttentionItem.candidate
    ++ status.lastRecovery.toList.map recoveryCandidate).foldl putCandidate .empty
  match status.mostRecentReclaim with
  | some reclaim =>
      if candidates.contains reclaim.eventToken then candidates
      else putCandidate candidates reclaim.candidate
  | none => candidates

/-- The tokens a refresh contains. -/
def retainedTokens (status : PublicStatus) (history : List HistoryEvent) : List String :=
  history.map HistoryEvent.eventToken ++ status.attention.filterMap AttentionItem.eventToken
    ++ (status.mostRecentReclaim.map ReclaimSummary.eventToken).toList ++ status.lastRecovery.toList

/-! ## What a refresh comes to -/

def NotificationCandidate.notification (candidate : NotificationCandidate) : LocalNotification :=
  ⟨"unlinger.event." ++ candidate.eventToken, candidate.titleKey, candidate.bodyKey,
    candidate.route, some candidate.eventToken⟩

def eventClaimKey (token : String) : String := "event:" ++ token

def episodeClaimKey (type : String) (at_ : Nat) : String :=
  "episode:" ++ type ++ ":" ++ Text.decimal at_

/-- The notification of an episode, by its claim. -/
def episodeNotification (claimKey bodyKey : String) : LocalNotification :=
  ⟨"unlinger." ++ claimKey, "notification.title.attention", bodyKey, .status, none⟩

/-- A claim made at the time, to be scheduled or not. -/
def claimed (now : Nat) (eligible : Bool) : NotificationClaim :=
  ⟨now, if eligible then .claimed else .suppressed⟩

/-- One token of a refresh: it is noted as seen, and what can be notified
is claimed, once. -/
def noteToken (mode : NotificationMode) (candidates : OrdMap String NotificationCandidate)
    (now : Nat) (c : Composed) (token : String) : Composed :=
  if c.1.seenEventTokens.contains token then c
  else
    let state := { c.1 with seenEventTokens := c.1.seenEventTokens.insert token now }
    match candidates.lookup token with
    | none => (state, c.2)
    | some candidate =>
        let eligible := mode == .attentionAndReclaims
          || (mode == .attention && candidate.attentionEligible)
        ({ state with claims := state.claims.insert (eventClaimKey token) (claimed now eligible) },
          if eligible then c.2 ++ [candidate.notification] else c.2)

/-- Begin or end an episode of a type. -/
def transitionEpisode (mode : NotificationMode) (type : String) (active : Bool) (bodyKey : String)
    (now : Nat) (c : Composed) : Composed :=
  if active = false then ({ c.1 with activeEpisodes := c.1.activeEpisodes.erase type }, c.2)
  else if (c.1.activeEpisodes.lookup type).isSome then c
  else
    let claimKey := episodeClaimKey type now
    let eligible := mode != .off
    ({ c.1 with
        activeEpisodes := c.1.activeEpisodes.insert type claimKey
        claims := c.1.claims.insert claimKey (claimed now eligible) },
      if eligible then c.2 ++ [episodeNotification claimKey bodyKey] else c.2)

def transitionHealthEpisodes (mode : NotificationMode) (status : PublicStatus) (now : Nat)
    (c : Composed) : Composed :=
  transitionEpisode mode "event_source_degraded" (!status.eventSourceHealthy)
    "notification.event_source_degraded" now
    (transitionEpisode mode "daemon_failed" (!status.healthy || status.readiness == .failed)
      "notification.daemon_failed" now c)

/-- The tokens of a refresh, in the order the call finds them. -/
def tokensInOrder (status : PublicStatus) (history : List HistoryEvent) (order : Order) :
    List String :=
  (retainedTokens status history).dedup.insertionSort fun a b => order.tokens a ≤ order.tokens b

/-- The ledger and the notifications a trusted refresh comes to: the first
one is only the baseline. -/
def refreshed (status : PublicStatus) (history : List HistoryEvent) (now : Nat) (order : Order)
    (mode : NotificationMode) (state : NotificationLedgerState) : Composed :=
  let state := { state with unavailableEpisode := none }.prune now order
  let tokens := tokensInOrder status history order
  let noted : Composed :=
    if state.baselineComplete then
      tokens.foldl (noteToken mode (eventCandidates status history) now) (state, [])
    else
      ({ state with
          seenEventTokens := tokens.foldl (fun seen token => seen.insert token now)
            state.seenEventTokens
          baselineComplete := true }, [])
  transitionHealthEpisodes mode status now noted

/-- The episode of an unavailable daemon after one more failure. -/
def failedAgain (now : Nat) : Option UnavailableNotificationEpisode → UnavailableNotificationEpisode
  | none => ⟨now, 1, false, none⟩
  | some episode => { episode with consecutiveFailures := episode.consecutiveFailures + 1 }

/-- The episode is long enough to be notified, and was not. -/
def UnavailableNotificationEpisode.due (episode : UnavailableNotificationEpisode) (now : Nat) :
    Bool :=
  let elapsed := (now + 2 ^ 64 - episode.firstFailureAtUnixMillis) % 2 ^ 64
  !episode.handled && decide (unavailableFailureThreshold ≤ episode.consecutiveFailures)
    && decide (unavailableDurationThresholdMillis ≤ elapsed)

/-- What a refresh that failed comes to. -/
def unavailable (now : Nat) (order : Order) (mode : NotificationMode)
    (state : NotificationLedgerState) : Composed :=
  let state := state.prune now order
  let episode := failedAgain now state.unavailableEpisode
  if episode.due now then
    let claimKey := episodeClaimKey "daemon_unavailable" episode.firstFailureAtUnixMillis
    let eligible := mode != .off
    ({ state with
        unavailableEpisode := some { episode with handled := true, claimKey := some claimKey }
        claims := state.claims.insert claimKey (claimed now eligible) },
      if eligible then [episodeNotification claimKey "notification.daemon_unavailable"] else [])
  else ({ state with unavailableEpisode := some episode }, [])

/-! ## The coordinator -/

/-- How a save ends. One that fails may have replaced the file before. -/
inductive SaveResult
  | saved
  | failed (replaced : Bool)
deriving DecidableEq

/-- What the methods do: access a field, or await something. -/
inductive NotificationCall
  | mode
  | setMode (mode : NotificationMode)
  | loadedState
  | setLoadedState (state : NotificationLedgerState)
  | load
  | save (state : NotificationLedgerState)
  | currentAuthorization
  | requestAuthorization
  | schedule (notification : LocalNotification)

/-- The answer to a call; `none` is an error that was thrown. -/
abbrev NotificationCall.Answer : NotificationCall → Type
  | .mode => NotificationMode
  | .setMode _ => Unit
  | .loadedState => Option NotificationLedgerState
  | .setLoadedState _ => Unit
  | .load => Option NotificationLedgerState
  | .save _ => SaveResult
  | .currentAuthorization => NotificationAuthorization
  | .requestAuthorization => Option NotificationAuthorization
  | .schedule _ => Option Unit

/-- A part of a method. -/
abbrev NotificationProg (α : Type) := Prog NotificationCall.Answer Empty α

namespace NotificationCoordinator

def loadState : NotificationProg (Option NotificationLedgerState) := do
  match ← Prog.ask NotificationCall.loadedState with
  | some state => return some state
  | none =>
      match ← Prog.ask NotificationCall.load with
      | some state =>
          let () ← Prog.ask (NotificationCall.setLoadedState state)
          return some state
      | none => return none

/-- Save the ledger; it was saved where the answer is true. -/
def persist (state : NotificationLedgerState) : NotificationProg Bool := do
  match ← Prog.ask (NotificationCall.save state) with
  | .saved =>
      let () ← Prog.ask (NotificationCall.setLoadedState state)
      return true
  | .failed _ => return false

/-- The claim a notification was made for. -/
def claimKeyOf (notification : LocalNotification) : String :=
  match notification.eventToken with
  | some token => eventClaimKey token
  | none => String.ofList (notification.identifier.toList.drop "unlinger.".length)

/-- How the scheduling ended, noted in its claim. -/
def disposed (state : NotificationLedgerState) (notification : LocalNotification)
    (disposition : NotificationClaimDisposition) : NotificationLedgerState :=
  match state.claims.lookup (claimKeyOf notification) with
  | some claim =>
      { state with
        claims := state.claims.insert (claimKeyOf notification)
          { claim with disposition := disposition } }
  | none => state

/-- Schedule one notification after the other. -/
def schedule : List LocalNotification → NotificationLedgerState → NotificationProg Unit
  | [], _ => return ()
  | notification :: rest, state => do
      let result ← Prog.ask (NotificationCall.schedule notification)
      let state := disposed state notification
        (if result.isSome then .scheduled else .failedToSchedule)
      let _ ← persist state
      schedule rest state

def setMode (mode : NotificationMode) : NotificationProg Unit := do
  let () ← Prog.ask (NotificationCall.setMode mode)

/-- The end of `prepareAuthorization`. -/
def summarize (state : NotificationLedgerState) (authorization : NotificationAuthorization) :
    NotificationProg NotificationAuthorization := do
  let _ ← persist { state with authorizationSummary := authorization }
  return authorization

def prepareAuthorization : NotificationProg NotificationAuthorization := do
  match ← loadState with
  | none => return .unavailable
  | some state =>
      let authorization ← Prog.ask NotificationCall.currentAuthorization
      let mode ← Prog.ask NotificationCall.mode
      if mode ≠ .off ∧ authorization = .notDetermined ∧ state.promptAttempted = false then
        let state := { state with promptAttempted := true }
        if ← persist state then
          let granted ← Prog.ask NotificationCall.requestAuthorization
          summarize state (granted.getD .unavailable)
        else return .unavailable
      else summarize state authorization

/-- Both ways to receive: compose the ledger from the one there is, save
it, and only then schedule. -/
def receive (compose : NotificationMode → NotificationLedgerState → Composed) :
    NotificationProg Unit := do
  match ← loadState with
  | none => return ()
  | some state =>
      let mode ← Prog.ask NotificationCall.mode
      if ← persist (compose mode state).1 then schedule (compose mode state).2 (compose mode state).1

def receiveTrustedRefresh (status : PublicStatus) (history : List HistoryEvent) (now : Nat)
    (order : Order) : NotificationProg Unit :=
  receive (refreshed status history now order)

def receiveUnavailable (now : Nat) (order : Order) : NotificationProg Unit :=
  receive (unavailable now order)

end NotificationCoordinator

/-- The calls the coordinator takes. -/
inductive CoordinatorCall
  | setMode (mode : NotificationMode)
  | prepareAuthorization
  | receiveTrustedRefresh (status : PublicStatus) (history : List HistoryEvent) (now : Nat)
      (order : Order)
  | receiveUnavailable (now : Nat) (order : Order)

def CoordinatorCall.program : CoordinatorCall → NotificationProg Unit
  | .setMode mode => NotificationCoordinator.setMode mode
  | .prepareAuthorization => do
      let _ ← NotificationCoordinator.prepareAuthorization
      return ()
  | .receiveTrustedRefresh status history now order =>
      NotificationCoordinator.receiveTrustedRefresh status history now order
  | .receiveUnavailable now order => NotificationCoordinator.receiveUnavailable now order

/-- The fields of the coordinator, and the ledger its file holds. -/
structure NotificationCoordinator where
  mode : NotificationMode
  loadedState : Option NotificationLedgerState
  ledger : NotificationLedgerState
  /-- The ledger as it was last saved with success: the file's, unless a
  save that failed has replaced it. -/
  saved : NotificationLedgerState
deriving DecidableEq

/-- What the surroundings choose: whether the file can be read, how a save
ends, and what the system says. -/
structure NotificationChoice where
  loads : Bool
  save : SaveResult
  authorization : NotificationAuthorization
  granted : Option NotificationAuthorization
  schedules : Option Unit

namespace NotificationCoordinator

def answer (s : NotificationCoordinator) :
    (c : NotificationCall) → NotificationChoice → c.Answer
  | .mode, _ => s.mode
  | .setMode _, _ => ()
  | .loadedState, _ => s.loadedState
  | .setLoadedState _, _ => ()
  -- a record of another schema is none
  | .load, x => if x.loads ∧ s.ledger.schemaVersion = 1 then some s.ledger else none
  | .save state, x => if state.schemaVersion = 1 then x.save else .failed false
  | .currentAuthorization, x => x.authorization
  | .requestAuthorization, x => x.granted
  | .schedule _, x => x.schedules

def step (s : NotificationCoordinator) : Event NotificationCall.Answer → NotificationCoordinator
  | ⟨.setMode mode, _⟩ => { s with mode := mode }
  | ⟨.setLoadedState state, _⟩ => { s with loadedState := some state }
  | ⟨.save state, .saved⟩ => { s with ledger := state, saved := state }
  | ⟨.save state, .failed true⟩ => { s with ledger := state }
  | _ => s

/-- A call that only accesses a field. -/
def access : NotificationCall → Bool
  | .mode | .setMode _ | .loadedState | .setLoadedState _ => true
  | _ => false

/-- The App is started again, with the mode of its settings. -/
def restarted (s : NotificationCoordinator) (mode : NotificationMode) : NotificationCoordinator :=
  { s with mode := mode, loadedState := none }

end NotificationCoordinator

/-- **The coordinator and its surroundings.** -/
def coordinator : Actor NotificationCall.Answer NotificationCoordinator CoordinatorCall
    NotificationChoice NotificationMode :=
  { program := CoordinatorCall.program
    access := NotificationCoordinator.access
    answer := NotificationCoordinator.answer
    step := NotificationCoordinator.step
    spawns := fun _ => []
    outside := NotificationCoordinator.restarted
    ends := fun _ => true }

/-- The App starts with a ledger file and a mode. -/
def NotificationCoordinator.start (ledger : NotificationLedgerState) (mode : NotificationMode) :
    Tasks NotificationCall.Answer NotificationCoordinator CoordinatorCall :=
  ⟨⟨mode, none, ledger, ledger⟩, [], none⟩

end App

end Unlinger
