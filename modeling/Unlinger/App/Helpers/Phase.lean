import Unlinger.App.Model.State

/-!
# What a task of the App is in the middle of

By what it did, a task is somewhere between the journal and the lock. A
call of `perform` brings its record from the journal into the lock before
it sends; a load and a removal bring into the lock what they found or did
in the journal. What each method guarantees of its next call is stated of
that place, and of the answers it was given.
-/

namespace Unlinger

namespace App

open Interaction

abbrev AppEvent := Event AppCall.Answer

abbrev AppTrace := Trace AppCall.Answer

abbrev AppTask := Task AppCall.Answer AppMethod

/-- The App in the middle of its work. -/
abbrev AppTasks := Tasks AppCall.Answer AppWorld AppMethod

/-- The moves of the App and of its surroundings. -/
abbrev AppMove := Move AppMethod AppChoice AppOutside

/-- The record as it was made, whether or not it was dismissed since. -/
def PendingMutation.undismissed (pending : PendingMutation) : PendingMutation :=
  { pending with visualDismissed := false }

/-- The mutation a call of `perform` is about. -/
def AppMethod.performs : AppMethod → Option String
  | .perform _ mutationID _ => some mutationID
  | _ => none

/-! ## Places -/

/-- How far a call of `perform` is with its mutation. -/
inductive Stage
  | fresh
  | persisted (pending : PendingMutation)
  /-- The lock has it too. -/
  | locked (pending : PendingMutation)
  | sent (pending : PendingMutation)
  | unsent (pending : PendingMutation)
deriving DecidableEq

namespace Stage

/-- The mutation, once it was given to the journal. -/
def pending : Stage → Option PendingMutation
  | .fresh => none
  | .persisted pending | .locked pending | .sent pending | .unsent pending => some pending

/-- The mutation that is in the journal and is yet to be sent. -/
def unsettled : Stage → Option PendingMutation
  | .persisted pending | .locked pending => some pending
  | _ => none

def persistEnds (pending : PendingMutation) : Except MutationJournalError Unit → Stage
  | .ok () => .persisted pending
  | .error _ => .unsent pending

def connectEnds (pending : PendingMutation) : Except ConnectFailure Nat → Stage
  | .ok _ => .sent pending
  | .error _ => .unsent pending

/-- The stage after one more event of the task. -/
def after (k : AppMethod) (stage : Stage) : AppEvent → Stage
  | ⟨.persist pending, r⟩ =>
      if stage = .fresh ∧ k.performs = some pending.mutationID then persistEnds pending r else stage
  | ⟨.setPendingMutation _, _⟩ =>
      match stage with
      | .persisted pending => .locked pending
      | _ => stage
  | ⟨.connect (.mutation _), r⟩ =>
      match stage with
      | .locked pending => connectEnds pending r
      | _ => stage
  | _ => stage

end Stage

/-- What a task did with the journal that the lock does not show yet. -/
inductive Hand
  | idle
  /-- It is to load the journal. -/
  | loading
  | loaded (record : Option PendingMutation)
  | removed (mutationID : String)
deriving DecidableEq

namespace Hand

/-- A removal goes on to the lock where the lock is of that mutation. -/
def look (pending : Option PendingMutation) : Hand → Hand
  | .removed mutationID =>
      if pending.map PendingMutation.mutationID = some mutationID then .removed mutationID else .idle
  | hand => hand

def loadEnds : Except MutationJournalError (Option PendingMutation) → Hand
  | .ok record => .loaded record
  | .error _ => .idle

def removeEnds (mutationID : String) : Except MutationJournalError Unit → Hand
  | .ok () => .removed mutationID
  | .error _ => .idle

/-- What it has in hand after one more event. -/
def after (hand : Hand) : AppEvent → Hand
  | ⟨.setJournalLoaded, _⟩ => .loading
  | ⟨.load, r⟩ => loadEnds r
  | ⟨.remove mutationID, r⟩ => removeEnds mutationID r
  | ⟨.read, s⟩ => hand.look s.pendingMutation
  | ⟨.setPendingMutation _, _⟩ => .idle
  | _ => hand

end Hand

/-- Where a task is. -/
structure Phase where
  stage : Stage
  hand : Hand
  /-- The lock, as the task saw it since it last awaited something. -/
  saw : Option (Option PendingMutation)
  /-- The mutations it was told of. -/
  heard : List PendingMutation

namespace Phase

def start : Phase := ⟨.fresh, .idle, none, []⟩

def sawAfter (saw : Option (Option PendingMutation)) : AppEvent → Option (Option PendingMutation)
  | ⟨.read, s⟩ => some s.pendingMutation
  | ⟨.setPendingMutation _, _⟩ => none
  | ⟨c, _⟩ => if AppWorld.access c then saw else none

/-- What an event tells of. -/
def told : AppEvent → List PendingMutation
  | ⟨.read, s⟩ => s.pendingMutation.toList
  | ⟨.load, .ok record⟩ => record.toList
  | ⟨.persist pending, _⟩ => [pending]
  | _ => []

/-- The place after one more event. -/
def after (k : AppMethod) (φ : Phase) (e : AppEvent) : Phase :=
  { stage := φ.stage.after k e
    hand := φ.hand.after e
    saw := sawAfter φ.saw e
    heard := φ.heard ++ (told e).map PendingMutation.undismissed }

/-- Nothing of the journal is on its way to the lock or to the daemon. -/
def Settled (φ : Phase) : Prop := φ.hand = .idle ∧ φ.stage.unsettled = none

/-- What can be put into the lock: what was loaded; the mutation that was
persisted; nothing, where the mutation there was removed; and the mutation
there, dismissed. -/
def Puts (φ : Phase) (value : Option PendingMutation) : Prop :=
  (φ.hand = .loaded value ∧ φ.stage.unsettled = none ∧ ∀ p ∈ value, p.undismissed ∈ φ.heard) ∨
  (φ.hand = .idle ∧ ∃ pending, φ.stage = .persisted pending ∧ value = some pending) ∨
  (φ.stage.unsettled = none ∧ value = none ∧
    ∃ pending, φ.saw = some (some pending) ∧ φ.hand = .removed pending.mutationID) ∨
  (φ.Settled ∧ ∃ pending, φ.saw = some (some pending) ∧
    value = some { pending with visualDismissed := true })

end Phase

/-- Where a call is by its past. -/
def phaseOf (k : AppMethod) (t : AppTrace) : Phase := t.foldl (Phase.after k) Phase.start

/-! ## What the methods guarantee -/

/-- The calls that can be made at a place. -/
def Allowed (k : AppMethod) (φ : Phase) : AppCall → Prop
  | .load => φ.hand = .loading ∧ φ.stage.unsettled = none
  | .persist pending => φ.Settled ∧ (k = .persistDismissed pending ∨
      φ.stage = .fresh ∧ k.performs = some pending.mutationID ∧ pending.undismissed = pending)
  | .connect (.mutation pending) => φ.hand = .idle ∧ φ.stage = .locked pending
  | .connect (.mutationStatus context) => φ.Settled ∧ ∃ p ∈ φ.heard, p.context = context
  | .setPendingMutation value => φ.Puts value
  | .detachPersist pending => φ.Settled ∧ pending.undismissed ∈ φ.heard
  | .read => (φ.hand = .idle ∨ φ.saw = none ∧ ∃ id, φ.hand = .removed id) ∧
      φ.stage.unsettled = none
  | .setMutationState _ => φ.hand = .idle ∧ ∀ pending, φ.stage ≠ .persisted pending
  | _ => φ.Settled

/-- The task was told of the mutation. -/
def Heard (k : AppMethod) (t : AppTrace) (pending : PendingMutation) : Prop :=
  pending.undismissed ∈ (phaseOf k t).heard

/-- The daemon acknowledges the mutation: a receipt of it, or an error in
answer to its own request. -/
def Acknowledges (pending : PendingMutation) : AppEvent → Prop
  | ⟨.receive _ _, some (.receipt receipt)⟩ => pending.validate receipt = .ok ()
  | ⟨.receive _ _, some (.status (.committed receipt))⟩ => pending.validate receipt = .ok ()
  | ⟨.receive (.mutation sent) _, some (.error _)⟩ => sent.undismissed = pending.undismissed
  | _ => False

instance Acknowledges.decidable (pending : PendingMutation) (e : AppEvent) :
    Decidable (Acknowledges pending e) := by
  unfold Acknowledges
  split <;> infer_instance

/-- What a task has to show that a mutation is not applied: the daemon
knows nothing of it, it was not sent, or it was refused unread. -/
def Disproves (k : AppMethod) (t : AppTrace) (pending : PendingMutation) : Prop :=
  (∃ r j, (⟨.receive r j, some (.status (.notFound pending.context))⟩ : AppEvent) ∈ t) ∨
  (phaseOf k t).stage = .unsent pending ∨
  ∃ j reason, (⟨.receive (.mutation pending) j, some (.incompatible reason)⟩ : AppEvent) ∈ t

/-- What a task has to show before it gives a mutation up. -/
def Licensed (k : AppMethod) (t : AppTrace) : AppCall → Prop
  | .setMutationState (.definitelyNotApplied pending) => Disproves k t pending
  | .setMutationState (.failedBeforeSend pending _) => Disproves k t pending
  | .remove mutationID => ∃ pending, pending.mutationID = mutationID ∧ Heard k t pending ∧
      (Disproves k t pending ∨ ∃ e ∈ t, Acknowledges pending e)
  | .receive r j => (⟨.connect r, .ok j⟩ : AppEvent) ∈ t
  | _ => True

/-- **What a task guarantees of each of its calls.** -/
def Conforms (k : AppMethod) (t : AppTrace) (c : AppCall) : Prop :=
  Allowed k (phaseOf k t) c ∧ Licensed k t c

/-- The task is in the middle of nothing, and its mutation where it was. -/
structure At (k : AppMethod) (stage : Stage) (t : AppTrace) : Prop where
  hand : (phaseOf k t).hand = .idle
  stage : (phaseOf k t).stage = stage

/-- What a part of a method leaves: it did something, and is in the middle
of nothing again. -/
def Leaves (k : AppMethod) (stage : Stage) (t t' : AppTrace) : Prop := t <+: t' ∧ At k stage t'

section Phases

variable {k : AppMethod} {stage : Stage} {t t' : AppTrace} {e : AppEvent}
  {pending : PendingMutation}

theorem phaseOf_append : phaseOf k (t ++ [e]) = (phaseOf k t).after k e := by
  unfold phaseOf
  rw [List.foldl_append, List.foldl_cons, List.foldl_nil]

theorem stage_append : (phaseOf k (t ++ [e])).stage = (phaseOf k t).stage.after k e := by
  rw [phaseOf_append]
  rfl

theorem hand_append : (phaseOf k (t ++ [e])).hand = (phaseOf k t).hand.after e := by
  rw [phaseOf_append]
  rfl

theorem saw_append : (phaseOf k (t ++ [e])).saw = Phase.sawAfter (phaseOf k t).saw e := by
  rw [phaseOf_append]
  rfl

theorem heard_append : (phaseOf k (t ++ [e])).heard
    = (phaseOf k t).heard ++ (Phase.told e).map PendingMutation.undismissed := by
  rw [phaseOf_append]
  rfl

theorem at_start : At k .fresh [] := ⟨rfl, rfl⟩

theorem At.leaves (h : At k stage t) : Leaves k stage t t := ⟨List.prefix_rfl, h⟩

theorem Leaves.trans {t'' : AppTrace} (h : Leaves k stage t t') (h' : Leaves k stage t' t'') :
    Leaves k stage t t'' := ⟨h.1.trans h'.1, h'.2⟩

/-- An event that leaves the place as it is. -/
theorem At.append (h : At k stage t) (hstage : stage.after k e = stage)
    (hhand : Hand.idle.after e = .idle) : At k stage (t ++ [e]) := by
  refine ⟨?_, ?_⟩
  · rw [hand_append, h.hand]
    exact hhand
  · rw [stage_append, h.stage]
    exact hstage

theorem At.settled (h : At k stage t) (hstage : stage.unsettled = none) :
    (phaseOf k t).Settled := by
  refine ⟨h.hand, ?_⟩
  rw [h.stage]
  exact hstage

/-- What is done leads on. -/
theorem phaseOf_mono {P : Phase → Prop} (hP : ∀ φ e, P φ → P (φ.after k e)) (h : t <+: t')
    (ht : P (phaseOf k t)) : P (phaseOf k t') := by
  obtain ⟨es, rfl⟩ := h
  induction es generalizing t with
  | nil =>
      rw [List.append_nil]
      exact ht
  | cons e es ih =>
      rw [List.append_cons]
      refine ih ?_
      rw [phaseOf_append]
      exact hP _ e ht

theorem Heard.mono (h : t <+: t') (ht : Heard k t pending) : Heard k t' pending :=
  phaseOf_mono (P := fun φ => pending.undismissed ∈ φ.heard)
    (fun _ _ hmem => List.mem_append_left _ hmem) h ht

/-- An event tells of a mutation. -/
theorem heard_told (h : pending ∈ Phase.told e) : Heard k (t ++ [e]) pending := by
  unfold Heard
  rw [heard_append]
  exact List.mem_append_right _ (List.mem_map_of_mem h)

theorem unsent_after : (Stage.unsent pending).after k e = .unsent pending := by
  obtain ⟨c, r⟩ := e
  unfold Stage.after
  cases c with
  | persist p => exact if_neg fun h => Stage.noConfusion h.1
  | connect request => cases request <;> rfl
  | _ => rfl

theorem Disproves.mono (h : t <+: t') (ht : Disproves k t pending) : Disproves k t' pending := by
  rcases ht with ⟨r, j, hmem⟩ | hunsent | ⟨j, reason, hmem⟩
  · exact Or.inl ⟨r, j, h.subset hmem⟩
  · refine Or.inr (Or.inl ?_)
    refine phaseOf_mono (P := fun φ => φ.stage = .unsent pending) (fun φ e hφ => ?_) h hunsent
    show φ.stage.after k e = .unsent pending
    rw [hφ]
    exact unsent_after
  · exact Or.inr (Or.inr ⟨j, reason, h.subset hmem⟩)

/-- The stage goes on with the same mutation. -/
theorem Stage.pending_after (h : stage.pending = some pending) :
    (stage.after k e).pending = some pending := by
  obtain ⟨c, r⟩ := e
  unfold Stage.after
  cases c with
  | persist p =>
      have hfresh : ¬ (stage = .fresh ∧ k.performs = some p.mutationID) := by
        rintro ⟨rfl, -⟩
        cases h
      dsimp only
      rw [if_neg hfresh]
      exact h
  | setPendingMutation value => cases stage <;> exact h
  | connect request =>
      cases request with
      | mutation p =>
          cases stage with
          | locked q => cases r <;> exact h
          | _ => exact h
      | mutationStatus context => exact h
  | _ => exact h

end Phases

end App

end Unlinger
