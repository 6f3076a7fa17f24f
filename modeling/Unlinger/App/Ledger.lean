import Unlinger.App.Helpers.Ledger
import Unlinger.App.Notifications

/-!
# The ledger as it is saved

Each call works on a copy of the ledger, taken before it awaits, and saves
the whole of it. From its own past alone a call makes sure that what it
saves goes on from its copy; whether that is also what was last saved is up
to the calls beside it. So the ledgers saved advance in every run in which
each save is of a copy of the last one, and the permission prompt, which
waits for the user, is where this fails.
-/

namespace Unlinger

namespace App

open Interaction NotificationLedgerState NotificationCoordinator

/-! ## Copies -/

/-- What a call works on: the ledger it took, or the one it saved last. -/
structure LedgerCopy where
  base : NotificationLedgerState
  /-- It was taken, and not saved since. -/
  taken : Bool

/-- The copy after one more event. -/
def copyAfter (copy : Option LedgerCopy) : NotificationEvent → Option LedgerCopy
  | ⟨.loadedState, some state⟩ => some ⟨state, true⟩
  | ⟨.load, some state⟩ => some ⟨state, true⟩
  | ⟨.save state, .saved⟩ => some ⟨state, false⟩
  | _ => copy

/-- The copy a call has, by what it did. -/
def copyOf (t : Trace NotificationCall.Answer) : Option LedgerCopy := t.foldl copyAfter none

/-- The event is a save that succeeded. -/
def saves : Option NotificationEvent → Bool
  | some ⟨.save _, .saved⟩ => true
  | _ => false

/-! ## The property -/

/-- **No update is lost**: each ledger that is saved goes on from what the
call that saves it left of the one saved before. -/
def SavesAdvance (s : CoordinatorTasks) (ms : List CoordinatorMove) : Prop :=
  ∀ before i x after t next, ms = before ++ .go i x :: after →
    (before.foldl coordinator.move s).tasks[i]? = some t →
    coordinator.event (before.foldl coordinator.move s) i x = some ⟨.save next, .saved⟩ →
    (t.call.pruned (before.foldl coordinator.move s).shared.saved).Advances next

/-- **The condition**: a save is of a copy of the ledger that was saved
last, and its first one claims keys that are free. -/
def SavesCurrent (s : CoordinatorTasks) : CoordinatorMove → Prop
  | .go i x => saves (coordinator.event s i x) = true → ∀ t ∈ s.tasks[i]?, ∀ copy ∈ copyOf t.done,
      copy.base = s.shared.saved ∧ (copy.taken = true → t.call.ClaimsAnew copy.base)
  | _ => True

instance SavesCurrent.decidable (s : CoordinatorTasks) (m : CoordinatorMove) :
    Decidable (SavesCurrent s m) := by
  cases m with
  | go i x =>
      unfold SavesCurrent
      infer_instance
  | begin k => exact .isTrue trivial
  | outside mode => exact .isTrue trivial

/-! ## A call by itself -/

section Calls

variable {k : CoordinatorCall} {state : NotificationLedgerState}
  {t : Trace NotificationCall.Answer}

/-- The ledger goes on from the copy of the call. -/
def GoesOn (k : CoordinatorCall) (state : NotificationLedgerState)
    (t : Trace NotificationCall.Answer) : Prop :=
  ∃ copy, copyOf t = some copy ∧
    ((copy.taken = true → k.ClaimsAnew copy.base) → (k.pruned copy.base).Advances state)

/-- What a call saves goes on from its copy. -/
def SavesOwn (k : CoordinatorCall) (t : Trace NotificationCall.Answer) (c : NotificationCall) :
    Prop :=
  ∀ state, c = .save state → GoesOn k state t

theorem copyOf_append {e : NotificationEvent} : copyOf (t ++ [e]) = copyAfter (copyOf t) e := by
  unfold copyOf
  rw [List.foldl_append, List.foldl_cons, List.foldl_nil]

theorem GoesOn.advance {state' : NotificationLedgerState} (h : GoesOn k state t)
    (hadvances : state.Advances state') : GoesOn k state' t := by
  obtain ⟨copy, hcopy, hgoes⟩ := h
  exact ⟨copy, hcopy, fun hanew => (hgoes hanew).trans hadvances⟩

/-- An event that leaves the copy as it is. -/
theorem GoesOn.append {e : NotificationEvent} (h : GoesOn k state t)
    (he : copyAfter (copyOf t) e = copyOf t) : GoesOn k state (t ++ [e]) := by
  obtain ⟨copy, hcopy, hgoes⟩ := h
  exact ⟨copy, (copyOf_append.trans he).trans hcopy, hgoes⟩

theorem persist_sat (h : GoesOn k state t) :
    Sat (SavesOwn k) (persist state) t fun t' _ => GoesOn k state t' := by
  refine Sat.ask (fun state' heq => ?_) fun result => ?_
  · obtain rfl : state = state' := NotificationCall.save.inj heq
    exact h
  · cases result with
    | saved =>
        have hown : GoesOn k state (t ++ [⟨.save state, SaveResult.saved⟩]) :=
          ⟨⟨state, false⟩, copyOf_append, fun _ => k.pruned_advances state⟩
        refine Sat.ask (by exact nofun) fun u => ?_
        exact hown.append rfl
    | failed replaced => exact h.append rfl

/-- What is loaded is the copy. -/
theorem loadState_sat :
    Sat (SavesOwn k) loadState [] fun t' found =>
      ∀ state, found = .ok (some state) → copyOf t' = some ⟨state, true⟩ := by
  refine Sat.ask (by exact nofun) fun loaded => ?_
  cases loaded with
  | some state =>
      intro state' heq
      obtain rfl : state = state' := Option.some.inj (Except.ok.inj heq)
      rfl
  | none =>
      refine Sat.ask (by exact nofun) fun file => ?_
      cases file with
      | some state =>
          refine Sat.ask (by exact nofun) fun u state' heq => ?_
          obtain rfl : state = state' := Option.some.inj (Except.ok.inj heq)
          rfl
      | none =>
          intro state' heq
          cases Except.ok.inj heq

theorem schedule_sat {pending : List LocalNotification} (h : GoesOn k state t)
    (hpending : Pending state pending) :
    Sat (SavesOwn k) (schedule pending state) t fun _ _ => True := by
  induction pending generalizing state t with
  | nil => trivial
  | cons n pending ih =>
      refine Sat.ask (by exact nofun) fun result => ?_
      have hdisposition : (if result.isSome then NotificationClaimDisposition.scheduled
          else .failedToSchedule) = .scheduled ∨ (if result.isSome then
            NotificationClaimDisposition.scheduled else .failedToSchedule) = .failedToSchedule := by
        by_cases hscheduled : result.isSome = true
        · exact Or.inl (if_pos hscheduled)
        · exact Or.inr (if_neg hscheduled)
      obtain ⟨hadvances, hrest⟩ := disposed_advances hpending hdisposition
      have hgoes := (h.advance hadvances).append (e := ⟨.schedule n, result⟩) rfl
      exact Sat.bind (persist_sat hgoes) (fun t' saved hgoes' => ih hgoes' hrest) fun _ e => e.elim

theorem receive_sat {compose : NotificationMode → NotificationLedgerState → Composed}
    (hk : k.compose = some compose) :
    Sat (SavesOwn k) (receive compose) [] fun _ _ => True := by
  refine Sat.bind loadState_sat (fun t found hfound => ?_) fun _ e => e.elim
  cases found with
  | none => trivial
  | some state =>
      refine Sat.ask (by exact nofun) fun mode => ?_
      obtain ⟨hadvances, hpending⟩ := compose_advances hk mode state
      have hgoes : GoesOn k (compose mode state).1 (t ++ [⟨.mode, mode⟩]) :=
        ⟨⟨state, true⟩, copyOf_append.trans (hfound state rfl), fun hanew => hadvances (hanew rfl)⟩
      refine Sat.bind (persist_sat hgoes) (fun t' saved hgoes' => ?_) fun _ e => e.elim
      cases saved with
      | false => trivial
      | true => exact schedule_sat hgoes' hpending

theorem summarize_sat {authorization : NotificationAuthorization} (h : GoesOn k state t) :
    Sat (SavesOwn k) (summarize state authorization) t fun _ _ => True := by
  have hsummary : state.Advances { state with authorizationSummary := authorization } :=
    ⟨id, id, fun _ h => h, fun _ claim h => ⟨claim, h, .refl claim⟩⟩
  exact Sat.bind (persist_sat (h.advance hsummary)) (fun _ _ _ => trivial) fun _ e => e.elim

theorem prepareAuthorization_sat :
    Sat (SavesOwn k) prepareAuthorization [] fun _ _ => True := by
  refine Sat.bind loadState_sat (fun t found hfound => ?_) fun _ e => e.elim
  cases found with
  | none => trivial
  | some state =>
      have htaken : GoesOn k state t :=
        ⟨⟨state, true⟩, hfound state rfl, fun _ => k.pruned_advances state⟩
      refine Sat.ask (by exact nofun) fun authorization => Sat.ask (by exact nofun) fun mode => ?_
      have hgoes := (htaken.append (e := ⟨.currentAuthorization, authorization⟩) rfl).append
        (e := ⟨.mode, mode⟩) rfl
      by_cases hprompt : mode ≠ .off ∧ authorization = .notDetermined ∧ state.promptAttempted = false
      · rw [if_pos hprompt]
        have hattempted : state.Advances { state with promptAttempted := true } :=
          ⟨id, fun _ => rfl, fun _ h => h, fun _ claim h => ⟨claim, h, .refl claim⟩⟩
        refine Sat.bind (persist_sat (hgoes.advance hattempted)) (fun t' saved hgoes' => ?_)
          fun _ e => e.elim
        cases saved with
        | false => trivial
        | true =>
            refine Sat.ask (by exact nofun) fun granted => ?_
            exact summarize_sat (hgoes'.append rfl)
      · rw [if_neg hprompt]
        exact summarize_sat hgoes

/-- **Every call**, whatever is done beside it, saves what goes on from its
own copy. -/
theorem program_sat (k : CoordinatorCall) : Sat (SavesOwn k) k.program [] fun _ _ => True := by
  cases k with
  | setMode mode => exact ⟨nofun, fun _ => trivial⟩
  | prepareAuthorization =>
      exact Sat.bind prepareAuthorization_sat (fun _ _ _ => trivial) fun _ e => e.elim
  | receiveTrustedRefresh status history now order => exact receive_sat rfl
  | receiveUnavailable now order => exact receive_sat rfl

end Calls

/-! ## Runs -/

/-- **In every run whose saves are of current copies**, from any ledger
file, with any calls at once and the App started again anywhere, no update
of the ledger is lost. -/
theorem savesAdvance_of_current (ledger : NotificationLedgerState) (mode : NotificationMode)
    (ms : List CoordinatorMove)
    (h : Transition.Along coordinator.move (fun s m => coordinator.May s m ∧ SavesCurrent s m)
      (NotificationCoordinator.start ledger mode) ms) :
    SavesAdvance (NotificationCoordinator.start ledger mode) ms := by
  intro before i x after t next hms hi he
  have hstart : Actor.Guaranteed SavesOwn (NotificationCoordinator.start ledger mode) := by
    intro t ht
    cases ht
  have hguaranteed : Actor.Guaranteed SavesOwn (before.foldl coordinator.move
      (NotificationCoordinator.start ledger mode)) := Actor.tasks_sat program_sat hstart
  obtain ⟨copy, hcopy, hgoes⟩ := hguaranteed.event hi he next rfl
  rw [hms] at h
  obtain ⟨-, hcurrent⟩ := (Transition.along_append.1 h).2.1
  have hsaves : saves (coordinator.event (before.foldl coordinator.move
      (NotificationCoordinator.start ledger mode)) i x) = true := by
    rw [he]
    rfl
  obtain ⟨hbase, hanew⟩ := hcurrent hsaves t hi copy hcopy
  rw [← hbase]
  exact hgoes hanew

/-! ## While the user is asked -/

/-- The permission is not determined, and the user grants it. -/
def undetermined : NotificationChoice := ⟨true, .saved, .notDetermined, some .authorized, some ()⟩

/-- The baseline is saved while the call that asks the user still waits for
the ledger. -/
def loadedLate : List CoordinatorMove :=
  .begin .prepareAuthorization :: .go 0 undetermined ::
    .begin (.receiveTrustedRefresh (calmStatus []) [] 1 sampleOrder) ::
      List.replicate 6 (.go 1 undetermined) ++ List.replicate 9 (.go 0 undetermined)

/-- The answer to the prompt is saved, and so is the baseline. -/
theorem savesAdvance_of_current_overlapping :
    Transition.Along coordinator.move (fun s m => coordinator.May s m ∧ SavesCurrent s m)
        (NotificationCoordinator.start .fresh .attention) loadedLate ∧
      SavesAdvance (NotificationCoordinator.start .fresh .attention) loadedLate ∧
      (loadedLate.foldl coordinator.move
        (NotificationCoordinator.start .fresh .attention)).shared.saved =
        { NotificationLedgerState.fresh with
          baselineComplete := true
          promptAttempted := true
          authorizationSummary := .authorized } := by
  have h : Transition.Along coordinator.move (fun s m => coordinator.May s m ∧ SavesCurrent s m)
      (NotificationCoordinator.start .fresh .attention) loadedLate := by
    decide +kernel
  exact ⟨h, savesAdvance_of_current .fresh .attention _ h, by decide +kernel⟩

/-- The user is asked, and answers when the baseline was saved. -/
def promptedOver : List CoordinatorMove :=
  .begin .prepareAuthorization :: List.replicate 7 (.go 0 undetermined) ++
    .begin (.receiveTrustedRefresh (calmStatus []) [] 1 sampleOrder) ::
      List.replicate 4 (.go 1 undetermined) ++
    [.go 0 undetermined, .go 0 undetermined]

/-- The move saves a ledger without the baseline. -/
def savesNoBaseline : Option NotificationEvent → Bool
  | some ⟨.save state, .saved⟩ => !state.baselineComplete
  | _ => false

theorem savesNoBaseline_eq_true {e : Option NotificationEvent} (h : savesNoBaseline e = true) :
    ∃ state, e = some ⟨.save state, .saved⟩ ∧ state.baselineComplete = false := by
  unfold savesNoBaseline at h
  split at h
  · exact ⟨_, rfl, Bool.not_eq_true' _ ▸ h⟩
  · cases h

/-- The answer to the prompt is saved with the ledger as it was before the
user was asked, and the baseline is lost. -/
theorem baseline_lost : ¬ ∀ (ledger : NotificationLedgerState) (mode : NotificationMode)
    (ms : List CoordinatorMove),
    Transition.Along coordinator.move coordinator.May
      (NotificationCoordinator.start ledger mode) ms →
    SavesAdvance (NotificationCoordinator.start ledger mode) ms := by
  intro hall
  have hmay : Transition.Along coordinator.move coordinator.May
      (NotificationCoordinator.start .fresh .attention) promptedOver := by
    decide +kernel
  obtain ⟨state, hsave, hbaseline⟩ := savesNoBaseline_eq_true (show savesNoBaseline
    (coordinator.event ((promptedOver.take 14).foldl coordinator.move
      (NotificationCoordinator.start .fresh .attention)) 0 undetermined) = true by decide +kernel)
  obtain ⟨k, done, c, f, hi, -⟩ := Actor.event_eq_some.1 hsave
  have hadvances := hall .fresh .attention promptedOver hmay (promptedOver.take 14) 0 undetermined
    [] _ state rfl hi hsave
  have hsaved : ((promptedOver.take 14).foldl coordinator.move
      (NotificationCoordinator.start .fresh .attention)).shared.saved.baselineComplete = true := by
    decide +kernel
  have hkept := hadvances.baselineComplete ((k.pruned_baselineComplete _).trans hsaved)
  rw [hbaseline] at hkept
  cases hkept

end App

end Unlinger
