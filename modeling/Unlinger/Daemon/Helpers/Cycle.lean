import Unlinger.Daemon.Model.Cycle
import Unlinger.Rules.Isolation

/-!
# What the parts of a cycle call

Most parts of a cycle make calls that tell nothing about when it observed,
what authority it read, what it opened and which worker it holds. These
are the quiet calls; a part that makes no others leaves all of that as it
was.
-/

namespace Unlinger

open Interaction

variable {t es : EngineTrace} {ev : EngineEvent} {w : Option BackgroundCleanup}

/-! ## What a call tells -/

/-- The snapshot the engine itself took. -/
def snapshotTaken : EngineEvent → Option Snapshot
  | ⟨.snapshot, .ok s⟩ => some s
  | _ => none

/-- The status the engine read. -/
def statusRead : EngineEvent → Option ServiceStatus
  | ⟨.plane .status, .ok f⟩ => f.statusOf.toOption
  | _ => none

/-- The policy revision the engine read. -/
def revisionRead : EngineEvent → Option Nat
  | ⟨.cleanupPolicyRevision, revision⟩ => some revision
  | _ => none

/-- The attempt a call opened. -/
def opened : EngineEvent → Option CleanupAttemptHandle
  | ⟨.plane (.beginCleanupAttemptIfArmed now report epoch revision), .ok f⟩ =>
      (f.beginCleanupAttemptIfArmed now report epoch revision).toOption.join
  | _ => none

/-- The wait between the observations was interrupted. -/
def waitInterruptedBy : EngineEvent → Bool
  | ⟨.waitUntil _, .ok .interrupted⟩ => true
  | _ => false

/-- The worker whose handle the engine holds after a call. -/
def workerAfter (w : Option BackgroundCleanup) : EngineEvent → Option BackgroundCleanup
  | ⟨.joinWorker, _⟩ => none
  | ⟨.spawnWorker f, .ok ()⟩ => some ⟨f.startedAtUnixMillis⟩
  | _ => w

/-- The worker whose handle the engine holds: every other was joined. -/
def liveWorker (w : Option BackgroundCleanup) (t : EngineTrace) : Option BackgroundCleanup :=
  t.foldl workerAfter w

/-- The worker at the end of two parts. -/
theorem liveWorker_append : liveWorker w (t ++ es) = liveWorker (liveWorker w t) es :=
  List.foldl_append

/-! ## Quiet calls -/

/-- A call that tells none of this. -/
def Quiet : EngineCall → Prop
  | .snapshot | .waitUntil _ | .cleanupPolicyRevision | .joinWorker | .spawnWorker _ => False
  | .plane .status | .plane (.beginCleanupAttemptIfArmed _ _ _ _) => False
  | _ => True

/-- Nothing was opened. -/
def Unopened (es : EngineTrace) : Prop := ∀ ev ∈ es, opened ev = none

/-- The wait was not interrupted. -/
def Uninterrupted (es : EngineTrace) : Prop := ∀ ev ∈ es, waitInterruptedBy ev = false

/-- Calls that neither observe nor wait in vain nor touch the worker. -/
structure Still (es : EngineTrace) : Prop where
  snapshots : es.filterMap snapshotTaken = []
  uninterrupted : Uninterrupted es
  worker : ∀ w, liveWorker w es = w

/-- Nothing is opened in two parts where nothing is in either. -/
theorem Unopened.append (h : Unopened t) (h' : Unopened es) : Unopened (t ++ es) := by
  intro ev hev
  rcases List.mem_append.1 hev with hev | hev
  · exact h ev hev
  · exact h' ev hev

/-- No wait is interrupted in two parts where none is in either. -/
theorem Uninterrupted.append (h : Uninterrupted t) (h' : Uninterrupted es) :
    Uninterrupted (t ++ es) := by
  intro ev hev
  rcases List.mem_append.1 hev with hev | hev
  · exact h ev hev
  · exact h' ev hev

/-- Two still parts are still. -/
theorem Still.append (h : Still t) (h' : Still es) : Still (t ++ es) where
  snapshots := by rw [List.filterMap_append, h.snapshots, h'.snapshots, List.append_nil]
  uninterrupted := h.uninterrupted.append h'.uninterrupted
  worker := by
    intro w
    rw [liveWorker_append, h.worker, h'.worker]

theorem Uninterrupted.single (h : waitInterruptedBy ev = false) : Uninterrupted [ev] := by
  intro x hx
  obtain rfl := List.mem_singleton.1 hx
  exact h

/-- An event that shows no snapshot, interrupts no wait and leaves the worker is still. -/
theorem Still.single (hsnap : snapshotTaken ev = none) (hwait : waitInterruptedBy ev = false)
    (hworker : ∀ w, workerAfter w ev = w) : Still [ev] where
  snapshots := by rw [List.filterMap_cons_none hsnap, List.filterMap_nil]
  uninterrupted := Uninterrupted.single hwait
  worker := hworker

theorem Unopened.single (h : opened ev = none) : Unopened [ev] := by
  intro x hx
  obtain rfl := List.mem_singleton.1 hx
  exact h

/-- A wait is interrupted only by its own answer. -/
theorem waitInterruptedBy_eq_true (h : waitInterruptedBy ev = true) :
    ∃ d, ev = ⟨.waitUntil d, .ok .interrupted⟩ := by
  obtain ⟨c, r⟩ := ev
  cases c with
  | waitUntil d =>
      rcases r with err | _ | _
      · cases h
      · cases h
      · exact ⟨d, rfl⟩
  | _ => cases h

/-- A call that comes after no other of its kind comes once. -/
theorem countP_le_one {p : EngineEvent → Bool}
    (h : ∀ before ev after, t = before ++ ev :: after → p ev = true →
      ∀ x ∈ before, p x = false) : t.countP p ≤ 1 := by
  induction t using List.reverseRecOn with
  | nil => simp
  | append_singleton t ev ih =>
      have ih' : t.countP p ≤ 1 := by
        refine ih fun before x after ht => ?_
        exact h before x (after ++ [ev]) (by simp [ht])
      rw [List.countP_append, List.countP_singleton]
      split
      · rename_i hev
        have hzero : t.countP p = 0 := by
          rw [List.countP_eq_zero]
          intro x hx
          rw [h t ev [] rfl hev x hx]
          decide
        omega
      · omega

/-- What an event of a quiet call tells: nothing. -/
theorem Quiet.silence (h : Quiet ev.call) :
    snapshotTaken ev = none ∧ statusRead ev = none ∧ revisionRead ev = none ∧ opened ev = none ∧
      waitInterruptedBy ev = false ∧ ∀ w, workerAfter w ev = w := by
  obtain ⟨c, r⟩ := ev
  cases c with
  | plane c =>
      cases c with
      | status => exact h.elim
      | beginCleanupAttemptIfArmed now report epoch revision => exact h.elim
      | _ => exact ⟨rfl, rfl, rfl, rfl, rfl, fun _ => rfl⟩
  | snapshot => exact h.elim
  | waitUntil d => exact h.elim
  | cleanupPolicyRevision => exact h.elim
  | joinWorker => exact h.elim
  | spawnWorker f => exact h.elim
  | _ => exact ⟨rfl, rfl, rfl, rfl, rfl, fun _ => rfl⟩

/-- Quiet calls are still. -/
theorem Still.quiet (h : ∀ ev ∈ es, Quiet ev.call) : Still es where
  snapshots := List.filterMap_eq_nil_iff.2 fun ev hev => (h ev hev).silence.1
  uninterrupted := fun ev hev => (h ev hev).silence.2.2.2.2.1
  worker := by
    intro w
    induction es with
    | nil => rfl
    | cons ev es ih =>
        rw [liveWorker, List.foldl_cons, (h ev (by simp)).silence.2.2.2.2.2]
        exact ih fun x hx => h x (by simp [hx])

/-- Quiet calls open nothing. -/
theorem Unopened.quiet (h : ∀ ev ∈ es, Quiet ev.call) : Unopened es :=
  fun ev hev => (h ev hev).silence.2.2.2.1

/-- What a part of a trace tells of the authority the cycle read, where it
neither observed nor opened anything nor waited in vain. -/
structure Tells (es : EngineTrace) (statuses : List ServiceStatus) (revisions : List Nat) :
    Prop where
  statuses : es.filterMap statusRead = statuses
  revisions : es.filterMap revisionRead = revisions
  snapshots : es.filterMap snapshotTaken = []
  unopened : Unopened es
  uninterrupted : Uninterrupted es

/-- What two parts tell, one after the other. -/
theorem Tells.append {statuses statuses' : List ServiceStatus} {revisions revisions' : List Nat}
    (h : Tells t statuses revisions) (h' : Tells es statuses' revisions') :
    Tells (t ++ es) (statuses ++ statuses') (revisions ++ revisions') where
  statuses := by rw [List.filterMap_append, h.statuses, h'.statuses]
  revisions := by rw [List.filterMap_append, h.revisions, h'.revisions]
  snapshots := by rw [List.filterMap_append, h.snapshots, h'.snapshots, List.append_nil]
  unopened := h.unopened.append h'.unopened
  uninterrupted := h.uninterrupted.append h'.uninterrupted

/-- Quiet calls tell nothing of the plane. -/
theorem Tells.quiet (h : ∀ ev ∈ es, Quiet ev.call) : Tells es [] [] where
  statuses := List.filterMap_eq_nil_iff.2 fun ev hev => (h ev hev).silence.2.1
  revisions := List.filterMap_eq_nil_iff.2 fun ev hev => (h ev hev).silence.2.2.1
  snapshots := (Still.quiet h).snapshots
  unopened := Unopened.quiet h
  uninterrupted := (Still.quiet h).uninterrupted

/-! ## Calls, as a program goes on after them -/

namespace ReconciliationEngine

section Calls

variable {β : Type} {G : EngineTrace → EngineCall → Prop} {Q : EngineTrace → β → Prop}

/-- A call to the plane that is answered. -/
theorem sat_onPlane {c : PlaneCall} {f : FoundPlane → EngineM β} (hG : G t (.plane c))
    (hok : ∀ found, Sat G (f found) (t ++ [⟨.plane c, .ok found⟩]) (OnOk Q)) :
    Sat G (onPlane c >>= f) t (OnOk Q) := by
  refine Sat.askThen hG ?_
  rintro r found rfl
  exact hok found

/-- A call to the store that is answered. -/
theorem sat_onStore {c : StoreCall} {f : Store → EngineM β} (hG : G t (.store c))
    (hok : ∀ s, Sat G (f s) (t ++ [⟨.store c, .ok s⟩]) (OnOk Q)) :
    Sat G (onStore c >>= f) t (OnOk Q) := by
  refine Sat.askThen hG ?_
  rintro r s rfl
  exact hok s

/-- A call to the tasks that is answered. -/
theorem sat_onTasks {c : TaskCall} {f : TaskTables → EngineM β} (hG : G t (.tasks c))
    (hok : ∀ s, Sat G (f s) (t ++ [⟨.tasks c, .ok s⟩]) (OnOk Q)) :
    Sat G (onTasks c >>= f) t (OnOk Q) := by
  refine Sat.askThen hG ?_
  rintro r s rfl
  exact hok s

/-- A call to the session owners that is answered. -/
theorem sat_onSessionOwners {c : SessionOwnerCall} {f : SessionOwnerTables → EngineM β}
    (hG : G t (.sessionOwners c))
    (hok : ∀ s, Sat G (f s) (t ++ [⟨.sessionOwners c, .ok s⟩]) (OnOk Q)) :
    Sat G (onSessionOwners c >>= f) t (OnOk Q) := by
  refine Sat.askThen hG ?_
  rintro r s rfl
  exact hok s

/-- A snapshot that is taken. -/
theorem sat_snapshot {f : Snapshot → EngineM β} (hG : G t .snapshot)
    (hok : ∀ s, Sat G (f s) (t ++ [⟨.snapshot, .ok s⟩]) (OnOk Q)) :
    Sat G (snapshot >>= f) t (OnOk Q) := by
  refine Sat.askThen hG ?_
  rintro r s rfl
  exact hok s

/-- A clock that is read. -/
theorem sat_clockSample {f : RuntimeClockSample → EngineM β} (hG : G t .clockSample)
    (hok : ∀ s, Sat G (f s) (t ++ [⟨.clockSample, .ok s⟩]) (OnOk Q)) :
    Sat G (clockSample >>= f) t (OnOk Q) := by
  refine Sat.askThen hG ?_
  rintro r s rfl
  exact hok s

end Calls

/-! ## Parts that are quiet -/

theorem only_onPlane {c : PlaneCall} (h : Quiet (.plane c)) : (onPlane c).Only Quiet :=
  Prog.Only.ask h fun _ => Prog.only_orThrow

theorem only_onStore {c : StoreCall} : (onStore c).Only Quiet :=
  Prog.Only.ask trivial fun _ => Prog.only_orThrow

theorem only_onTasks {c : TaskCall} : (onTasks c).Only Quiet :=
  Prog.Only.ask trivial fun _ => Prog.only_orThrow

theorem only_onSessionOwners {c : SessionOwnerCall} : (onSessionOwners c).Only Quiet :=
  Prog.Only.ask trivial fun _ => Prog.only_orThrow

theorem only_clockSample : clockSample.Only Quiet :=
  Prog.Only.ask trivial fun _ => Prog.only_orThrow

theorem only_perform {op : StoreOp} : (perform op).Only Quiet :=
  only_onStore.bind fun _ => Prog.only_orThrow.bind fun _ => Prog.only_pure

/-- The time of an end is read quietly. -/
theorem only_terminalTimestamp {startedAt : Nat} : (terminalTimestamp startedAt).Only Quiet := by
  refine Prog.Only.ask trivial fun r => ?_
  cases r with
  | ok sample => exact Prog.only_pure
  | error e => exact Prog.only_pure

/-- Failing closed is quiet. -/
theorem only_failClosed {now line : Nat} {message : String} :
    (failClosed now message line).Only Quiet := by
  refine Prog.Only.ask trivial fun r => ?_
  cases r with
  | ok f => exact Prog.only_pure
  | error e => exact Prog.only_pure

/-- A cleanup opens nothing and starts no worker. -/
theorem only_gatedCall (frozen : FrozenCleanup) (onWorker : Bool) (c : Call) :
    (gatedCall frozen onWorker c).Only Quiet := by
  cases c with
  | shouldStop =>
      refine Prog.Only.bind ?_ fun stopped => ?_
      · unfold stopRequested
        split
        · exact ⟨trivial, fun _ => trivial⟩
        · exact ⟨trivial, fun _ => trivial⟩
      · split
        · exact Prog.only_pure
        · exact Prog.Only.ask trivial fun _ => Prog.only_pure
  | signalExact identity signal => exact Prog.Only.ask trivial fun _ => Prog.only_pure
  | removeArtifactExact artifact => exact Prog.Only.ask trivial fun _ => Prog.only_pure
  | revalidate snapshot plan phase => exact Prog.only_pure
  | _ => exact ⟨trivial, fun _ => trivial⟩

/-- So is settling a receipt. -/
theorem only_settleReceipt {receipt : CleanupReceipt} : (settleReceipt receipt).Only Quiet := by
  unfold settleReceipt
  split
  · exact Prog.only_throw
  · split
    · refine only_onStore.bind fun _ => Prog.Only.bind ?_ fun _ => Prog.only_pure
      exact only_onPlane trivial
    · exact Prog.only_pure

/-- So is settling an error. -/
theorem only_settleError {frozen : FrozenCleanup} {completedAt : Nat} {error : CleanupError} :
    (settleError frozen completedAt error).Only Quiet := by
  unfold settleError
  split
  · exact only_perform
  · exact only_failClosed.bind fun _ => Prog.only_orThrow

/-- So is carrying out a frozen cleanup. -/
theorem only_executeCleanup (frozen : FrozenCleanup) (onWorker : Bool) :
    (executeCleanup frozen onWorker).Only Quiet := by
  refine (Prog.Only.handle (only_gatedCall frozen onWorker) _).bind fun execution => ?_
  refine only_terminalTimestamp.bind fun completedAt => ?_
  cases execution with
  | ok receipt =>
      refine only_onStore.bind fun s => Prog.only_orThrow.bind fun settled => ?_
      exact only_settleReceipt
  | error error => exact only_settleError.bind fun _ => Prog.only_throw

theorem only_ownerIsAbsent {owner : TaskOwnerIdentity} : (ownerIsAbsent owner).Only Quiet := by
  refine Prog.Only.ask trivial fun r => ?_
  rcases r with e | _ | p
  · exact Prog.only_pure
  · exact Prog.only_pure
  · exact Prog.only_pure

/-- Releasing tasks whose owners are gone is quiet. -/
theorem only_releaseAbsentTaskOwners : ∀ scopes, (releaseAbsentTaskOwners scopes).Only Quiet := by
  intro scopes
  induction scopes with
  | nil => exact Prog.only_pure
  | cons scope scopes ih =>
      rw [releaseAbsentTaskOwners]
      split
      · exact ih
      · refine only_ownerIsAbsent.bind fun absent => ?_
        split
        · refine only_clockSample.bind fun sample => only_onTasks.bind fun t => ?_
          exact Prog.only_orThrow.bind fun _ => ih
        · exact ih

/-- So is releasing the leases of owners that are gone. -/
theorem only_releaseAbsentSessionOwners :
    ∀ scopes, (releaseAbsentSessionOwners scopes).Only Quiet := by
  intro scopes
  induction scopes with
  | nil => exact Prog.only_pure
  | cons scope scopes ih =>
      rw [releaseAbsentSessionOwners]
      split
      · exact ih
      · refine only_ownerIsAbsent.bind fun absent => ?_
        split
        · refine only_clockSample.bind fun sample => only_onSessionOwners.bind fun t => ?_
          exact Prog.only_orThrow.bind fun _ => ih
        · exact ih

theorem only_deleteLeases : ∀ scopes, (deleteLeases scopes).Only Quiet := by
  intro scopes
  induction scopes with
  | nil => exact Prog.only_pure
  | cons scope scopes ih => exact only_onSessionOwners.bind fun _ => ih

theorem only_pruneSessionOwnerLeases {s : Snapshot} : (pruneSessionOwnerLeases s).Only Quiet := by
  unfold pruneSessionOwnerLeases
  split
  · exact only_onSessionOwners.bind fun _ => only_deleteLeases _
  · exact Prog.only_pure

theorem only_bindSessionOwnerControllers {s : Snapshot} :
    (bindSessionOwnerControllers s).Only Quiet := by
  refine only_onSessionOwners.bind fun _ => only_onSessionOwners.bind fun _ => ?_
  exact Prog.only_orThrow.bind fun _ => only_pruneSessionOwnerLeases

/-- So is the whole refresh of the tasks. -/
theorem only_refreshTaskOwnership {s : Snapshot} : (refreshTaskOwnership s).Only Quiet := by
  refine only_onTasks.bind fun t => (only_releaseAbsentTaskOwners _).bind fun _ => ?_
  refine only_onTasks.bind fun t => Prog.only_orThrow.bind fun _ => ?_
  refine only_onSessionOwners.bind fun t => (only_releaseAbsentSessionOwners _).bind fun _ => ?_
  exact only_bindSessionOwnerControllers

variable {e : ReconciliationEngine}

/-- So is the reconciliation with the store. -/
theorem only_reconcileStore {now : Nat} {o : Observation} : (e.reconcileStore now o).Only Quiet :=
  Prog.only_orThrow.bind fun _ => only_perform.bind fun _ => only_perform

end ReconciliationEngine

end Unlinger
