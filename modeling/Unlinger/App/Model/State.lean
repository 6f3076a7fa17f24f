import Unlinger.App.Model.Mutation
import Unlinger.Common.Actor
import Unlinger.Daemon.Mutations

/-!
# The App's state

`AppState` of `UnlingerKit/State/AppState.swift` on the main actor, its
mutation journal, the client of `UnlingerKit/IPC/SocketClient.swift` with a
connection for each request, and the daemon at the other end. A request
that was sent can be handled at any later time or be lost, and so can its
answer.

One round of the refresh loop is a task; where the loop goes on, the next
round is a task of its own. What a refresh shows, beyond the namespace for
the next mutation, and what the notifications make of it have no part in
this.
-/

namespace Unlinger

namespace App

open Interaction

/-! ## Requests -/

/-- What the App asks of the daemon about a mutation. -/
inductive Request
  | mutation (pending : PendingMutation)
  | mutationStatus (context : MutationContext)
deriving DecidableEq

/-- A request as the daemon reads it. -/
def Request.command : Request → PublicCommand
  | .mutation pending => .mutation pending.context pending.mutation.ordinary
  | .mutationStatus context => .mutationStatus context

/-- An answer that can be trusted. -/
inductive Reply
  | receipt (receipt : Receipt)
  | status (status : Lookup)
  | error (code : String)
  /-- The daemon does not speak the schema. -/
  | incompatible (reason : String)
deriving DecidableEq

def Reply.decoded : Except ControlError PublicPayload → Reply
  | .ok (.mutationStatus s) => .status (.decoded s)
  | .ok (.mutationCommitted r) => .receipt (.decoded r)
  | .error e => .error e.code

/-- Why nothing was sent. -/
inductive ConnectFailure
  | unavailable
  | failedBeforeSend (reasonID : String)
deriving DecidableEq

def ConnectFailure.clientError : ConnectFailure → ClientError
  | .unavailable => .unavailable
  | .failedBeforeSend reasonID => .failedBeforeSend reasonID

/-! ## The fields -/

inductive ConnectionState
  | connecting
  | live
  | unavailable
  | incompatibleDaemon (reason : String)
deriving DecidableEq

inductive MutationState
  | idle
  | inFlight (pending : PendingMutation)
  | confirmed (pending : PendingMutation) (receipt : Receipt)
  | definitelyNotApplied (pending : PendingMutation)
  | unresolved (pending : PendingMutation)
  | authorityLost (pending : PendingMutation)
  | rejected (pending : PendingMutation) (reasonID : String)
  | failedBeforeSend (pending : PendingMutation) (reasonID : String)
deriving DecidableEq

def MutationState.isInFlight : MutationState → Bool
  | .inFlight _ => true
  | _ => false

/-- The fields of the App's state. -/
structure AppState where
  connection : ConnectionState
  /-- The namespace of the status there is. -/
  namespaceToken : Option String
  mutationState : MutationState
  pendingMutation : Option PendingMutation
  mutationJournalAvailable : Bool
  journalLoaded : Bool
  refreshRequested : Bool
  refreshEpoch : Nat
  /-- The refresh that goes on, by its number. -/
  activeRefresh : Option Nat
  nextRefresh : Nat
  reconcilingMutationID : Option String
deriving DecidableEq

/-- The App has just been launched. -/
def AppState.launched : AppState :=
  ⟨.connecting, none, .idle, none, true, false, false, 0, none, 0, none⟩

/-- How the three reads of a refresh end. -/
inductive RefreshOutcome
  | success (namespaceToken : String)
  | incompatibleDaemon (reason : String)
  | unavailable
  | failure
deriving DecidableEq

/-! ## What the methods do -/

/-- An access of the fields, or something to await. -/
inductive AppCall
  | read
  | setConnection (connection : ConnectionState)
  | setStatus (namespaceToken : String)
  | setMutationState (state : MutationState)
  | setPendingMutation (pending : Option PendingMutation)
  | setMutationJournalAvailable (available : Bool)
  | setJournalLoaded
  | setRefreshRequested (requested : Bool)
  | setReconcilingMutationID (mutationID : Option String)
  | startRefresh (epoch : Nat)
  | finishRefresh (refresh : Nat)
  | nextRound (epoch : Nat)
  | stopPolling
  | isCancelled
  | detachPersist (pending : PendingMutation)
  | load
  | persist (pending : PendingMutation)
  | remove (expectedMutationID : String)
  | connect (request : Request)
  | receive (request : Request) (connection : Nat)
  | fetchRefreshSnapshot
  | notify
  | awaitRefresh

abbrev AppCall.Answer : AppCall → Type
  | .read => AppState
  | .startRefresh _ => Nat
  | .isCancelled => Bool
  | .load => Except MutationJournalError (Option PendingMutation)
  | .persist _ | .remove _ => Except MutationJournalError Unit
  | .connect _ => Except ConnectFailure Nat
  | .receive _ _ => Option Reply
  | .fetchRefreshSnapshot => RefreshOutcome
  | _ => Unit

/-- A part of a method. -/
abbrev AppProg (α : Type) := Prog AppCall.Answer Empty α

/-! ## The client -/

namespace SocketClient

/-- One request on a connection of its own. -/
def request (r : Request) : AppProg (Except ClientError Reply) := do
  match ← Prog.ask (AppCall.connect r) with
  | .error failure => return .error failure.clientError
  | .ok connection =>
      match ← Prog.ask (AppCall.receive r connection) with
      -- what was sent and has no answer to trust may have been carried out
      | none => return .error .deliveryUncertain
      | some (.error code) => return .error (.serverError code)
      | some (.incompatible reason) => return .error (.incompatibleDaemon reason)
      | some reply => return .ok reply

def mutationStatus (context : MutationContext) : AppProg (Except ClientError Lookup) := do
  match ← request (.mutationStatus context) with
  | .ok (.status status) => return .ok status
  | .ok _ => return .error (.protocolError "unexpected payload type")
  | .error e => return .error e

end SocketClient

namespace AppState

def send (pending : PendingMutation) : AppProg (Except ClientError Receipt) := do
  match ← SocketClient.request (.mutation pending) with
  | .ok (.receipt receipt) => return .ok receipt
  | .ok _ => return .error .deliveryUncertain
  | .error e => return .error e

/-! ## Resolution -/

/-- Remove the record, and then the lock. -/
def clearPending (pending : PendingMutation) : AppProg Bool := do
  match ← Prog.ask (AppCall.remove pending.mutationID) with
  | .ok () =>
      let s ← Prog.ask AppCall.read
      if s.pendingMutation.map PendingMutation.mutationID = some pending.mutationID then
        let () ← Prog.ask (AppCall.setPendingMutation none)
      let () ← Prog.ask (AppCall.setMutationJournalAvailable true)
      return true
  | .error _ =>
      let () ← Prog.ask (AppCall.setMutationJournalAvailable false)
      let () ← Prog.ask (AppCall.setMutationState (.unresolved pending))
      return false

/-- Clear the mutation and show how it ended. -/
def clearAndShow (pending : PendingMutation) (state : MutationState) : AppProg Unit := do
  if ← clearPending pending then
    let () ← Prog.ask (AppCall.setMutationState state)

/-- The same where a refresh is to follow. -/
def clearAndRefresh (pending : PendingMutation) (state : MutationState) : AppProg Unit := do
  if ← clearPending pending then
    let () ← Prog.ask (AppCall.setMutationState state)
    let () ← Prog.ask (AppCall.setRefreshRequested true)

def resolve (receipt : Receipt) (pending : PendingMutation) : AppProg Unit :=
  match receipt.outcome with
  | .applied _ => clearAndRefresh pending (.confirmed pending receipt)
  | .noChange reasonID | .rejected reasonID => clearAndRefresh pending (.rejected pending reasonID)
  | .unknown _ => do
      let () ← Prog.ask (AppCall.setMutationState (.unresolved pending))

def loadJournalIfNeeded : AppProg Unit := do
  let s ← Prog.ask AppCall.read
  if s.journalLoaded = false then
    let () ← Prog.ask AppCall.setJournalLoaded
    match ← Prog.ask AppCall.load with
    | .ok pending =>
        let () ← Prog.ask (AppCall.setPendingMutation pending)
        match pending with
        | some pending =>
            if pending.visualDismissed = false then
              let () ← Prog.ask (AppCall.setMutationState (.unresolved pending))
        | none => return ()
    | .error _ =>
        let () ← Prog.ask (AppCall.setMutationJournalAvailable false)

/-- Join the refresh that goes on, or start one. -/
def refresh : AppProg Unit := do
  loadJournalIfNeeded
  let s ← Prog.ask AppCall.read
  match s.activeRefresh with
  | some _ =>
      let () ← Prog.ask (AppCall.setRefreshRequested true)
      let () ← Prog.ask AppCall.awaitRefresh
  | none =>
      let id ← Prog.ask (AppCall.startRefresh s.refreshEpoch)
      let () ← Prog.ask AppCall.awaitRefresh
      let () ← Prog.ask (AppCall.finishRefresh id)

/-- What the daemon knows of the mutation settles it, where it is of this
one. -/
def settle (pending : PendingMutation) : Lookup → AppProg (Except ClientError Unit)
  | .notFound context =>
      match pending.validateContext context with
      | .error e => return .error e
      | .ok () => do
          clearAndShow pending (.definitelyNotApplied pending)
          return .ok ()
  | .authorityLost context =>
      match pending.validateContext context with
      | .error e => return .error e
      | .ok () => do
          let () ← Prog.ask (AppCall.setMutationState (.authorityLost pending))
          return .ok ()
  | .committed receipt =>
      match pending.validate receipt with
      | .error e => return .error e
      | .ok () => do
          resolve receipt pending
          return .ok ()

/-- The end of a reconciliation that failed. -/
def reconcileFailed (pending : PendingMutation) (error : ClientError) : AppProg Unit := do
  match error with
  | .incompatibleDaemon reason =>
      let () ← Prog.ask (AppCall.setConnection (.incompatibleDaemon reason))
  | .unavailable =>
      let () ← Prog.ask (AppCall.setConnection .unavailable)
  | _ => pure ()
  let s ← Prog.ask AppCall.read
  if s.pendingMutation.isSome then
    let () ← Prog.ask (AppCall.setMutationState (.unresolved pending))

def refreshAfterResolution (requestRefresh : Bool) : AppProg Unit := do
  let s ← Prog.ask AppCall.read
  if requestRefresh = true ∧ s.pendingMutation = none then
    let () ← Prog.ask (AppCall.setRefreshRequested true)
    refresh

/-- Ask the daemon what became of the mutation. -/
def reconcile (pending : PendingMutation) (requestRefresh : Bool) : AppProg Unit := do
  let s ← Prog.ask AppCall.read
  if s.reconcilingMutationID = some pending.mutationID then return ()
  else
    let () ← Prog.ask (AppCall.setReconcilingMutationID (some pending.mutationID))
    match ← SocketClient.mutationStatus pending.context with
    | .ok status =>
        match ← settle pending status with
        | .ok () => refreshAfterResolution requestRefresh
        | .error e => reconcileFailed pending e
    | .error e => reconcileFailed pending e
    let () ← Prog.ask (AppCall.setReconcilingMutationID none)

def handleMutationError (error : ClientError) (pending : PendingMutation) : AppProg Unit :=
  match error with
  | .deliveryUncertain | .protocolError _ => do
      let () ← Prog.ask (AppCall.setMutationState (.unresolved pending))
      reconcile pending true
  | .serverError code =>
      if code = "authority_lost" then do
        let () ← Prog.ask (AppCall.setMutationState (.authorityLost pending))
      else clearAndRefresh pending (.rejected pending code)
  | .unavailable => do
      let () ← Prog.ask (AppCall.setConnection .unavailable)
      clearAndShow pending (.failedBeforeSend pending "transport.daemon_unavailable")
  | .failedBeforeSend reasonID =>
      clearAndShow pending (.failedBeforeSend pending reasonID)
  | .incompatibleDaemon reason => do
      let () ← Prog.ask (AppCall.setConnection (.incompatibleDaemon reason))
      clearAndShow pending (.failedBeforeSend pending "transport.incompatible_daemon")

/-! ## The methods -/

/-- Send a mutation that is in the journal. -/
def deliver (pending : PendingMutation) : AppProg Unit := do
  let () ← Prog.ask (AppCall.setPendingMutation (some pending))
  let () ← Prog.ask (AppCall.setMutationState (.inFlight pending))
  match ← send pending with
  | .ok receipt =>
      match pending.validate receipt with
      | .ok () => resolve receipt pending
      | .error e => handleMutationError e pending
  | .error e => handleMutationError e pending

/-- `mutationID` and `createdAt` are the UUID and the time that are drawn. -/
def perform (mutation : Mutation) (mutationID : String) (createdAt : Nat) : AppProg Unit := do
  loadJournalIfNeeded
  let s ← Prog.ask AppCall.read
  match s.pendingMutation with
  | some pending =>
      let () ← Prog.ask (AppCall.setMutationState (.unresolved pending))
  | none =>
      match s.namespaceToken with
      | none => return ()
      | some namespaceToken =>
          if s.mutationJournalAvailable = true ∧ s.connection = .live then
            let pending := PendingMutation.new ⟨namespaceToken, mutationID⟩ mutation createdAt
            -- the first side effect; nothing is sent before it
            match ← Prog.ask (AppCall.persist pending) with
            | .error _ =>
                let () ← Prog.ask (AppCall.setMutationJournalAvailable false)
                let () ← Prog.ask (AppCall.setMutationState
                  (.failedBeforeSend pending "mutation.journal_unavailable"))
            | .ok () => deliver pending

/-- Hide how a mutation ended; its record stays. -/
def dismissMutationState : AppProg Unit := do
  let s ← Prog.ask AppCall.read
  if s.mutationState.isInFlight = false then
    let () ← Prog.ask (AppCall.setMutationState .idle)
    match s.pendingMutation with
    | none => return ()
    | some pending =>
        let dismissed := { pending with visualDismissed := true }
        let () ← Prog.ask (AppCall.setPendingMutation (some dismissed))
        let () ← Prog.ask (AppCall.detachPersist dismissed)

/-- The task a dismissal detaches. -/
def persistDismissed (pending : PendingMutation) : AppProg Unit := do
  let _ ← Prog.ask (AppCall.persist pending)

def checkAgain (mutationID : String) : AppProg Unit := do
  loadJournalIfNeeded
  let s ← Prog.ask AppCall.read
  match s.pendingMutation with
  | none => return ()
  | some pending =>
      if pending.mutationID = mutationID then
        let () ← Prog.ask (AppCall.setMutationState (.unresolved pending))
        reconcile pending true

/-- What a round makes of its reads. -/
def takeOutcome : RefreshOutcome → AppProg Unit
  | .success namespaceToken => do
      let () ← Prog.ask (AppCall.setStatus namespaceToken)
      let () ← Prog.ask (AppCall.setConnection .live)
      let () ← Prog.ask AppCall.notify
      let s ← Prog.ask AppCall.read
      match s.pendingMutation with
      | some pending => reconcile pending false
      | none => return ()
  | .incompatibleDaemon reason => do
      let () ← Prog.ask (AppCall.setConnection (.incompatibleDaemon reason))
  | .unavailable => do
      let () ← Prog.ask (AppCall.setConnection .unavailable)
      let () ← Prog.ask AppCall.notify
  | .failure => do
      let () ← Prog.ask (AppCall.setConnection .unavailable)

/-- One round of the refresh loop. -/
def runRefreshLoop (epoch : Nat) : AppProg Unit := do
  let () ← Prog.ask (AppCall.setRefreshRequested false)
  let outcome ← Prog.ask AppCall.fetchRefreshSnapshot
  let cancelled ← Prog.ask AppCall.isCancelled
  let s ← Prog.ask AppCall.read
  if cancelled = false ∧ epoch = s.refreshEpoch then
    takeOutcome outcome
    let s ← Prog.ask AppCall.read
    let cancelled ← Prog.ask AppCall.isCancelled
    if s.refreshRequested = true ∧ cancelled = false ∧ epoch = s.refreshEpoch then
      let () ← Prog.ask (AppCall.nextRound epoch)

end AppState

/-- The methods, and the tasks they start. -/
inductive AppMethod
  | perform (mutation : Mutation) (mutationID : String) (createdAt : Nat)
  | dismissMutationState
  | persistDismissed (pending : PendingMutation)
  | checkAgain (mutationID : String)
  | refresh
  | runRefreshLoop (epoch : Nat)
  | stopPolling

def AppMethod.program : AppMethod → AppProg Unit
  | .perform mutation mutationID createdAt => AppState.perform mutation mutationID createdAt
  | .dismissMutationState => AppState.dismissMutationState
  | .persistDismissed pending => AppState.persistDismissed pending
  | .checkAgain mutationID => AppState.checkAgain mutationID
  | .refresh => AppState.refresh
  | .runRefreshLoop epoch => AppState.runRefreshLoop epoch
  | .stopPolling => Prog.ask AppCall.stopPolling

/-! ## The surroundings -/

/-- A connection: what was sent on it, whether the daemon may still handle
it, and the answer. -/
structure Connection where
  request : Request
  isOpen : Bool
  reply : Option Reply
deriving DecidableEq

/-- The App with its journal file, the connections it made, and the
daemon. -/
structure AppWorld where
  app : AppState
  journal : Option PendingMutation
  connections : List Connection
  ledger : Ledger

/-- What the surroundings choose. -/
structure AppChoice where
  /-- A call of the journal fails, and has changed the file or not. -/
  journal : Option Bool
  connect : Option ConnectFailure
  /-- The answer there is arrives in time and whole. -/
  delivered : Bool
  outcome : RefreshOutcome
  cancelled : Bool

/-- What happens outside the App, and its end. -/
inductive AppOutside
  /-- The daemon handles a request; its status in memory is any. -/
  | handle (connection : Nat) (status : DaemonStatus) (now : Nat)
  /-- A daemon of another schema answers it. -/
  | refuse (connection : Nat) (reason : String)
  | lose (connection : Nat)
  /-- The daemon works on its store. -/
  | work (op : StoreOp)
  /-- The App crashes and is launched again. -/
  | relaunch

namespace AppWorld

def answer (s : AppWorld) : (c : AppCall) → AppChoice → c.Answer
  | .read, _ => s.app
  | .startRefresh _, _ => s.app.nextRefresh
  | .isCancelled, x => x.cancelled
  | .load, x => MutationJournal.load s.journal x.journal
  | .persist pending, x => MutationJournal.persist s.journal pending x.journal
  | .remove expected, x => MutationJournal.remove s.journal expected x.journal
  | .connect _, x =>
      match x.connect with
      | some failure => .error failure
      | none => .ok s.connections.length
  | .receive _ connection, x =>
      if x.delivered then s.connections[connection]?.bind Connection.reply else none
  | .fetchRefreshSnapshot, x => x.outcome
  | .setConnection _, _ | .setStatus _, _ | .setMutationState _, _ | .setPendingMutation _, _
  | .setMutationJournalAvailable _, _ | .setJournalLoaded, _ | .setRefreshRequested _, _
  | .setReconcilingMutationID _, _ | .finishRefresh _, _ | .nextRound _, _ | .stopPolling, _
  | .detachPersist _, _ | .notify, _ | .awaitRefresh, _ => ()

/-- The fields after an access. -/
def accessed (s : AppState) : AppCall → AppState
  | .setConnection connection => { s with connection := connection }
  | .setStatus namespaceToken => { s with namespaceToken := some namespaceToken }
  | .setMutationState state => { s with mutationState := state }
  | .setPendingMutation pending => { s with pendingMutation := pending }
  | .setMutationJournalAvailable available => { s with mutationJournalAvailable := available }
  | .setJournalLoaded => { s with journalLoaded := true }
  | .setRefreshRequested requested => { s with refreshRequested := requested }
  | .setReconcilingMutationID mutationID => { s with reconcilingMutationID := mutationID }
  | .startRefresh _ => { s with activeRefresh := some s.nextRefresh, nextRefresh := s.nextRefresh + 1 }
  | .finishRefresh refresh =>
      if s.activeRefresh = some refresh then { s with activeRefresh := none } else s
  | .stopPolling =>
      { s with refreshEpoch := s.refreshEpoch + 1, activeRefresh := none, refreshRequested := false }
  | _ => s

/-- The journal file after a call. -/
def journaled (record : Option PendingMutation) : Event AppCall.Answer → Option PendingMutation
  | ⟨.persist pending, r⟩ => if MutationJournal.took r then some pending else record
  | ⟨.remove _, r⟩ => if MutationJournal.took r then none else record
  | _ => record

/-- The connections after a call. -/
def connected (connections : List Connection) : Event AppCall.Answer → List Connection
  | ⟨.connect request, .ok _⟩ => connections ++ [⟨request, true, none⟩]
  | _ => connections

def step (s : AppWorld) (e : Event AppCall.Answer) : AppWorld :=
  { app := accessed s.app e.call
    journal := journaled s.journal e
    connections := connected s.connections e
    ledger := s.ledger }

/-- A call that only accesses the fields. -/
def access : AppCall → Bool
  | .load | .persist _ | .remove _ | .connect _ | .receive _ _ | .fetchRefreshSnapshot | .notify
  | .awaitRefresh => false
  | _ => true

/-- The tasks a call starts. -/
def spawns : Event AppCall.Answer → List AppMethod
  | ⟨.startRefresh epoch, _⟩ => [.runRefreshLoop epoch]
  | ⟨.nextRound epoch, _⟩ => [.runRefreshLoop epoch]
  | ⟨.detachPersist pending, _⟩ => [.persistDismissed pending]
  | _ => []

/-- The plane of the daemon, with any status in memory. -/
def plane (s : AppWorld) (status : DaemonStatus) : ControlPlane :=
  ⟨s.ledger.store, status, s.ledger.store.cleanupPolicyRevision⟩

/-- The ledger of the daemon after a request. -/
def handled (l : Ledger) (command : PublicCommand) (status : DaemonStatus) (now : Nat) : Ledger :=
  match command.validate, command with
  | .ok (), .mutation context mutation =>
      l.step (.perform (.commitPublicOrdinaryMutation context mutation status.runtimeFacts now))
  | _, _ => l

/-- A connection is settled with an answer, or without. -/
def settled (s : AppWorld) (i : Nat) (reply : Option Reply) : List Connection :=
  s.connections.modify i fun c => { c with isOpen := false, reply := reply }

/-- The request of a connection, while it may be handled. -/
def openRequest (s : AppWorld) (i : Nat) : Option Request :=
  match s.connections[i]? with
  | some c => if c.isOpen then some c.request else none
  | none => none

def outside (s : AppWorld) : AppOutside → AppWorld
  | .handle i status now =>
      match s.openRequest i with
      | some request =>
          { s with
            connections := s.settled i
              (some (.decoded ((s.plane status).handlePublic request.command now).2))
            ledger := handled s.ledger request.command status now }
      | none => s
  | .refuse i reason =>
      if (s.openRequest i).isSome then
        { s with connections := s.settled i (some (.incompatible reason)) }
      else s
  | .lose i => if (s.openRequest i).isSome then { s with connections := s.settled i none } else s
  | .work op => { s with ledger := s.ledger.step (.perform op) }
  | .relaunch => { s with app := .launched }

end AppWorld

def AppOutside.ends : AppOutside → Bool
  | .relaunch => true
  | _ => false

/-- **The App and its surroundings.** -/
def appState : Actor AppCall.Answer AppWorld AppMethod AppChoice AppOutside :=
  { program := AppMethod.program
    access := AppWorld.access
    answer := AppWorld.answer
    step := AppWorld.step
    spawns := AppWorld.spawns
    outside := AppWorld.outside
    ends := AppOutside.ends }

/-- A first launch, beside a daemon of an empty store. -/
def AppWorld.start (token : NamespaceToken) : Tasks AppCall.Answer AppWorld AppMethod :=
  ⟨⟨.launched, none, [], .start token⟩, [], none⟩

end App

end Unlinger
