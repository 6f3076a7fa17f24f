import Unlinger.Common.Runs
import Unlinger.Daemon.Dispatch
import Unlinger.Daemon.Model.Served
import Unlinger.Daemon.PolicyGate

/-!
# Dispatch beside the owner's mutations

A cycle compares the counter it read when it started with the counter the
attempt is opened at. That they are the same says that the policy is only
as long as the counter does not come back to a number it has left: then no
change was acknowledged in between. A replayed receipt takes it back, and
an attempt is opened for a policy that its owner has changed.
-/

namespace Unlinger

open Interaction Transition

variable {p q : Service} {epoch enforcementEpoch cycleToken : String} {revision now : Nat}
  {turns before : List Turn} {e : ReconciliationEngine}

/-! ## The property and its condition -/

/-- The policy is what it was when the cycle read its revision: at no turn
since then is the counter another, or a change acknowledged. -/
def UnchangedSinceRead (enforcementEpoch : String) (p : Service) (before : List Turn)
    (revision : Nat) : Prop :=
  ∀ start turn since, before = start ++ turn :: since →
    (Turn.calls start).filterMap revisionRead ≠ [] →
      let q := start.foldl (Service.turn enforcementEpoch) p
      q.cleanupPolicyRevision = revision ∧ q.acknowledges turn = false

/-- **What a cycle that is served may open an attempt at.** -/
structure SafelyDispatched (e : ReconciliationEngine) (enforcementEpoch : String) (p : Service)
    (turns : List Turn) : Prop where
  /-- It is justified by what the cycle has seen, and the call finds the
  plane armed, idle and at the policy the cycle started with. -/
  opened : ∀ before ev after attempt, turns = before ++ .cycle ev :: after →
    opened ev = some attempt → ∃ now report epoch revision f,
      ev = ⟨.plane (.beginCleanupAttemptIfArmed now report epoch revision), .ok f⟩ ∧
        OpenedAt f report epoch revision ∧
        (∃ c : CycleCut, c.trace = Turn.calls before ∧ Justified e c report epoch revision) ∧
        UnchangedSinceRead enforcementEpoch p before revision
  /-- With cleanups in the background there is one at most, -/
  once : e.backgroundCleanup = true →
    ((Turn.calls turns).countP fun ev => (Unlinger.opened ev).isSome) ≤ 1
  /-- and where the wait was interrupted there is none. -/
  interrupted : (∃ ev ∈ Turn.calls turns, waitInterruptedBy ev = true) → Unopened (Turn.calls turns)

/-- The owner's mutation that a turn carries out, where the database does
not stop it. -/
def Turn.mutation : Turn → Option DaemonStep
  | .service (.operator command now none) => some (.operator command now)
  | .service (.publicMutation context mutation now none) =>
      some (.publicMutation context mutation now)
  | _ => none

/-- The turn does not take the counter back. -/
def Service.TurnInOrder (p : Service) (turn : Turn) : Prop :=
  ∀ step ∈ turn.mutation, p.plane.RevisionInOrder step

instance (p : Service) (turn : Turn) : Decidable (p.TurnInOrder turn) :=
  inferInstanceAs (Decidable (∀ _ ∈ _, _))

/-- The step is a request of the owner that may change the policy. -/
def ServiceStep.ByOwner : ServiceStep → Prop
  | .operator _ _ _ | .publicMutation _ _ _ _ => True
  | _ => False

/-! ## What turns do to the counter -/

theorem PlaneCall.serviceStep_byOwner {f : FoundPlane} {c : PlaneCall} {step : ServiceStep}
    (h : c.serviceStep enforcementEpoch f = some step) : ¬ step.ByOwner := by
  cases c <;> cases h <;> exact id

namespace Service

theorem expirePause_revision {fault : Option StoreError} (h : p.expirePause now fault = .ok q) :
    q.cleanupPolicyRevision = p.cleanupPolicyRevision := by
  unfold Service.expirePause at h
  split_ifs at h
  · cases fault with
    | some e => cases h
    | none =>
        obtain rfl := Except.ok.inj h
        unfold ControlPlane.expirePause
        split_ifs
        · rfl
        · rfl
  · obtain rfl := Except.ok.inj h
    rfl

theorem handleLifecycleAt_revision {command : LifecycleCommand} {fault : Option StoreError}
    (h : p.handleLifecycleAt command now epoch fault = .ok q) :
    q.cleanupPolicyRevision = p.cleanupPolicyRevision := by
  cases command with
  | status => exact expirePause_revision h
  | arm generation instanceId =>
      simp only [handleLifecycleAt, arm, bind_eq_ok, pure_eq_ok] at h
      obtain ⟨-, -, -, -, -, -, rfl⟩ := h
      rfl
  | disarm generation instanceId =>
      simp only [handleLifecycleAt, disarm, bind_eq_ok] at h
      obtain ⟨-, -, h⟩ := h
      split_ifs at h
      · simp only [bind_eq_ok, pure_eq_ok] at h
        obtain ⟨-, -, rfl⟩ := h
        rfl
      · simp only [bind_eq_ok, pure_eq_ok] at h
        obtain ⟨-, -, rfl⟩ := h
        rfl
  | beginDrain generation instanceId =>
      simp only [handleLifecycleAt, beginDrain, bind_eq_ok, pure_eq_ok] at h
      obtain ⟨-, -, -, -, rfl⟩ := h
      rfl

theorem failCycle_revision {generation : Nat} {instanceId account : String}
    {fault : Option StoreError} {lastError : Option String} {failed : ControlError} :
    (p.failCycle generation instanceId now fault lastError failed account).1.cleanupPolicyRevision
      = p.cleanupPolicyRevision := by
  unfold failCycle
  split
  · rfl
  · rfl

theorem completeSuccessfulCycle_revision {scanFault failFault : Option StoreError} :
    (p.completeSuccessfulCycle now epoch scanFault failFault).1.cleanupPolicyRevision
      = p.cleanupPolicyRevision := by
  simp only [completeSuccessfulCycle]
  split_ifs
  · rfl
  · split
    · rfl
    · exact failCycle_revision
  · split
    · rfl
    · exact failCycle_revision
  · split
    · rfl
    · split
      · rfl
      · exact failCycle_revision
  · rfl

theorem startStorageCleanup_revision {fault : Option StoreError}
    {prepared : Except StoreError String} :
    (p.startStorageCleanupIfReadyEnforce now fault prepared).1.cleanupPolicyRevision
      = p.cleanupPolicyRevision := by
  unfold startStorageCleanupIfReadyEnforce
  split
  · rfl
  · rename_i q hok
    rw [← expirePause_revision hok]
    by_cases hgate : q.status.storageCleanupGateOpen = true
    · rw [if_pos hgate]
      split
      · rfl
      · rfl
    · rw [if_neg hgate]

theorem startCache_revision {kind : ToolCacheKind} {fault : Option StoreError}
    {prepared : ToolCacheKind → Except StoreError String} {spawned : Bool} :
    (p.startCacheIfReadyEnforce now kind fault prepared spawned).1.cleanupPolicyRevision
      = p.cleanupPolicyRevision := by
  unfold startCacheIfReadyEnforce
  split
  · rfl
  · rename_i q hok
    rw [← expirePause_revision hok]
    by_cases hgate : q.status.storageCleanupGateOpen = true
    · rw [if_pos hgate]
      split
      · rfl
      · cases spawned with
        | true => rfl
        | false => rfl
    · rw [if_neg hgate]

theorem orKept_revision {r : Except ControlError Service}
    (h : ∀ q, r = .ok q → q.cleanupPolicyRevision = p.cleanupPolicyRevision) :
    (p.orKept r).cleanupPolicyRevision = p.cleanupPolicyRevision := by
  cases r with
  | error e => rfl
  | ok q => exact h q rfl

/-- **Only the owner's mutations move the counter.** -/
theorem step_revision {step : ServiceStep} (h : ¬ step.ByOwner) :
    (p.step step).cleanupPolicyRevision = p.cleanupPolicyRevision := by
  cases step with
  | operator command now fault => exact absurd trivial h
  | publicMutation context mutation now fault => exact absurd trivial h
  | lifecycle command now epoch fault =>
      exact orKept_revision fun q hok => handleLifecycleAt_revision hok
  | expirePause now fault => exact orKept_revision fun q hok => expirePause_revision hok
  | beginObservationCycle cycleToken => rfl
  | publishRoster cycleToken =>
      simp only [Service.step, publishRoster]
      split_ifs
      · rfl
      · rfl
  | finishObservationCycle cycleToken succeeded =>
      simp only [Service.step, finishObservationCycle]
      by_cases hactive : p.roster.activeCycleToken = some cycleToken
      · rw [if_pos hactive]
      · rw [if_neg hactive]
  | noteCycleSucceeded => rfl
  | noteCycleFailed message => rfl
  | completeSuccessfulCycle now epoch scanFault failFault => exact completeSuccessfulCycle_revision
  | failClosed now message sourceFile sourceLine fault => rfl
  | startStorageCleanup now fault prepared => exact startStorageCleanup_revision
  | startToolCache now fault prepared spawned => exact startCache_revision
  | startNodeCompileCache now fault prepared spawned => exact startCache_revision
  | finishStorageAction token =>
      refine orKept_revision fun q hok => ?_
      simp only [finishStorageAction, bind_eq_ok, pure_eq_ok] at hok
      obtain ⟨-, -, rfl⟩ := hok
      rfl
  | finishToolCacheAction token =>
      refine orKept_revision fun q hok => ?_
      simp only [finishToolCacheAction, bind_eq_ok, pure_eq_ok] at hok
      obtain ⟨-, -, rfl⟩ := hok
      rfl
  | beginProcessCleanup token =>
      refine orKept_revision fun q hok => ?_
      simp only [beginProcessCleanupActivity, bind_eq_ok, pure_eq_ok] at hok
      obtain ⟨-, -, rfl⟩ := hok
      rfl
  | dropProcessCleanup token =>
      simp only [Service.step, dropProcessCleanupActivity]
      split_ifs
      · rfl
      · rfl

theorem beganCleanupAttempt_revision {report : IncidentReport} {fault : Option StoreError} :
    (p.beganCleanupAttempt now report epoch revision fault).cleanupPolicyRevision
      = p.cleanupPolicyRevision := by
  unfold beganCleanupAttempt
  split
  · rename_i q attempt hbegin
    unfold ControlPlane.beginCleanupAttemptIfArmed at hbegin
    split at hbegin
    · obtain ⟨rfl, -⟩ := Prod.mk.inj (Except.ok.inj hbegin)
      rfl
    · split at hbegin
      · obtain ⟨rfl, -⟩ := Prod.mk.inj (Except.ok.inj hbegin)
        rfl
      · cases hbegin
  · rfl

theorem afterPlane_revision {f : FoundPlane} {c : PlaneCall} :
    (p.afterPlane enforcementEpoch f c).cleanupPolicyRevision = p.cleanupPolicyRevision := by
  unfold afterPlane
  split
  · exact beganCleanupAttempt_revision
  · cases hstep : c.serviceStep enforcementEpoch f with
    | none => rfl
    | some step => exact step_revision (PlaneCall.serviceStep_byOwner hstep)

/-- No call of the cycle moves it. -/
theorem afterCall_revision (ev : EngineEvent) :
    (p.afterCall enforcementEpoch ev).cleanupPolicyRevision = p.cleanupPolicyRevision := by
  unfold afterCall
  split
  · exact afterPlane_revision
  · rfl
  · rfl
  · rfl

/-- **A turn in order** does not take the counter back, and advances it
where its owner is told of a change. -/
theorem turn_revision (enforcementEpoch : String) {turn : Turn} (hin : p.TurnInOrder turn) :
    p.cleanupPolicyRevision ≤ (p.turn enforcementEpoch turn).cleanupPolicyRevision ∧
      (p.acknowledges turn = true →
        p.cleanupPolicyRevision < (p.turn enforcementEpoch turn).cleanupPolicyRevision) := by
  cases turn with
  | cycle ev => exact ⟨le_of_eq (afterCall_revision ev).symm, nofun⟩
  | storeWork op => exact ⟨le_rfl, nofun⟩
  | service step =>
      cases step with
      | operator command now fault =>
          simp only [turn, Service.step, acknowledges, handleAt]
          cases hcommand : p.plane.handleAt command now with
          | error e => exact ⟨le_rfl, nofun⟩
          | ok answer =>
              obtain ⟨plane, payload⟩ := answer
              cases fault with
              | some e => exact ⟨le_rfl, nofun⟩
              | none =>
                  have hbelow : p.plane.cleanupPolicyRevision + 1 < 2 ^ 64 := hin _ rfl
                  have hrevision := ControlPlane.handleAt_revision hcommand
                  rw [Nat.mod_eq_of_lt hbelow] at hrevision
                  have hlt : p.cleanupPolicyRevision < plane.cleanupPolicyRevision :=
                    Nat.lt_of_succ_le (le_of_eq hrevision.symm)
                  exact ⟨le_of_lt hlt, fun _ => hlt⟩
      | publicMutation context mutation now fault =>
          cases fault with
          | some e => exact ⟨le_rfl, nofun⟩
          | none =>
              obtain ⟨hle, hlt⟩ := ControlPlane.commitPublicMutation_revision (hin _ rfl) rfl
              refine ⟨hle, fun hack => ?_⟩
              obtain ⟨commit, hcommit, hchanged⟩ := any_toOption.1 hack
              exact hlt commit hcommit hchanged
      | _ => exact ⟨le_of_eq (step_revision id).symm, nofun⟩

/-- Turns in order do not take it back. -/
theorem turns_revision (h : Along (turn enforcementEpoch) TurnInOrder p turns) :
    p.cleanupPolicyRevision ≤ (turns.foldl (turn enforcementEpoch) p).cleanupPolicyRevision :=
  h.invariant (P := fun q => p.cleanupPolicyRevision ≤ q.cleanupPolicyRevision)
    (fun _ _ hq hin => le_trans hq (turn_revision enforcementEpoch hin).1) le_rfl

/-- **A counter that is what it was has not moved**, nor was a change
acknowledged. -/
theorem unchanged_of_revision (h : Along (turn enforcementEpoch) TurnInOrder p turns)
    (hend : (turns.foldl (turn enforcementEpoch) p).cleanupPolicyRevision
      = p.cleanupPolicyRevision) :
    Along (turn enforcementEpoch) (fun q turn =>
      q.cleanupPolicyRevision = p.cleanupPolicyRevision ∧ q.acknowledges turn = false) p turns := by
  obtain ⟨r, hr⟩ : ∃ r, p.cleanupPolicyRevision = r := ⟨_, rfl⟩
  rw [hr] at hend ⊢
  induction turns generalizing p with
  | nil => exact trivial
  | cons turn turns ih =>
      obtain ⟨hle, hlt⟩ := turn_revision enforcementEpoch h.1
      have hrest := turns_revision h.2
      rw [List.foldl_cons] at hend
      refine ⟨⟨hr, Bool.eq_false_iff.2 fun hack => ?_⟩, ih h.2 hend (by omega)⟩
      have hrose := hlt hack
      omega

end Service
/-! ## A cycle that is served -/

theorem Turn.calls_append (turns turns' : List Turn) :
    calls (turns ++ turns') = calls turns ++ calls turns' :=
  List.filterMap_append

/-- The first reading of the revision, among the turns. -/
theorem exists_reading {revisions : List Nat}
    (h : (Turn.calls turns).filterMap revisionRead = revision :: revisions) :
    ∃ start since, turns = start ++ .cycle ⟨.cleanupPolicyRevision, revision⟩ :: since ∧
      (Turn.calls start).filterMap revisionRead = [] := by
  induction turns with
  | nil => cases h
  | cons turn turns ih =>
      have hlater : (Turn.calls [turn]).filterMap revisionRead = [] →
          ∃ start since,
            turn :: turns = start ++ .cycle ⟨.cleanupPolicyRevision, revision⟩ :: since ∧
              (Turn.calls start).filterMap revisionRead = [] := by
        intro hnone
        rw [← List.singleton_append, Turn.calls_append, List.filterMap_append, hnone,
          List.nil_append] at h
        obtain ⟨start, since, rfl, hstart⟩ := ih h
        refine ⟨turn :: start, since, rfl, ?_⟩
        rw [← List.singleton_append, Turn.calls_append, List.filterMap_append, hnone, hstart,
          List.nil_append]
      cases turn with
      | service step => exact hlater rfl
      | storeWork op => exact hlater rfl
      | cycle ev =>
          obtain ⟨c, r⟩ := ev
          cases c with
          | cleanupPolicyRevision =>
              obtain ⟨rfl, -⟩ := List.cons.inj h
              exact ⟨[], turns, rfl, rfl⟩
          | _ => exact hlater rfl

/-- **A cycle opens an attempt for the policy it read**, where the call
finds its counter and no turn took that back. -/
theorem unchangedSinceRead (hfinds : Along (Service.turn enforcementEpoch) Service.Finds p before)
    (hin : Along (Service.turn enforcementEpoch) Service.TurnInOrder p before)
    {revisions : List Nat}
    (hread : (Turn.calls before).filterMap revisionRead = revision :: revisions)
    (hend : (before.foldl (Service.turn enforcementEpoch) p).cleanupPolicyRevision = revision) :
    UnchangedSinceRead enforcementEpoch p before revision := by
  rintro start turn since rfl hnonempty
  -- the turn comes after the first reading, which found the counter
  obtain ⟨first, later, hfirst⟩ := List.exists_cons_of_ne_nil hnonempty
  obtain ⟨start, middle, rfl, hstart⟩ := exists_reading hfirst
  rw [Turn.calls_append, List.filterMap_append, hfirst] at hread
  obtain ⟨rfl, -⟩ := List.cons.inj hread
  rw [List.append_assoc, List.cons_append] at hfinds hin hend
  obtain ⟨-, hfound, -⟩ := along_append.1 hfinds
  obtain ⟨-, -, hsince⟩ := along_append.1 hin
  rw [List.foldl_append, List.foldl_cons] at hend
  have hrevision : first
      = (start.foldl (Service.turn enforcementEpoch) p).cleanupPolicyRevision := hfound
  rw [hrevision] at hend ⊢
  obtain ⟨-, hturn, -⟩ := along_append.1 (Service.unchanged_of_revision hsince hend)
  rw [List.foldl_append, List.foldl_cons]
  exact hturn

/-- **Dispatch safety, in every run in order**: a cycle beside the turns of
others none of which takes the counter back opens an attempt only where it
is justified, and at the policy it started with. -/
theorem dispatch_safe_in_order (h : Served e now cycleToken enforcementEpoch p turns)
    (hin : Along (Service.turn enforcementEpoch) Service.TurnInOrder p turns) :
    SafelyDispatched e enforcementEpoch p turns := by
  obtain ⟨rest, o, hruns⟩ := h.cycle
  obtain ⟨hopened, honce, hinterrupted⟩ := dispatch_safe hruns
  refine ⟨?_, fun hbackground => ?_, fun hwait => ?_⟩
  · rintro before ev after attempt rfl hev
    have hsplit : Turn.calls (before ++ .cycle ev :: after) ++ rest
        = Turn.calls before ++ ev :: (Turn.calls after ++ rest) := by
      rw [Turn.calls_append, List.append_assoc]
      rfl
    obtain ⟨report, epoch, revision, f, rfl, hat, c, hc, hjustified⟩ :=
      hopened _ ev _ attempt hsplit hev
    refine ⟨_, report, epoch, revision, f, rfl, hat, ⟨c, hc, hjustified⟩, ?_⟩
    obtain ⟨hfinds, hfound, -⟩ := along_append.1 h.finds
    have hservice : f.service = before.foldl (Service.turn enforcementEpoch) p := hfound
    -- the reading before the first snapshot is the first of the cycle
    have hread : (Turn.calls before).filterMap revisionRead
        = revision :: ((⟨.snapshot, .ok c.first⟩ ::
            (c.between ++ ⟨.snapshot, .ok c.second⟩ :: c.after) : EngineTrace).filterMap
              revisionRead) := by
      rw [← hc, CycleCut.trace, List.filterMap_append, hjustified.revision]
      rfl
    refine unchangedSinceRead hfinds (along_append.1 hin).1 hread ?_
    rw [← hservice]
    exact hat.revision
  · refine le_trans ?_ (honce hbackground)
    rw [List.countP_append]
    exact Nat.le_add_right _ _
  · obtain ⟨ev, hev, hint⟩ := hwait
    have hall := hinterrupted ⟨ev, List.mem_append_left rest hev, hint⟩
    exact fun x hx => hall x (List.mem_append_left rest hx)

/-! ## A replay before an attempt -/

/-- The owner resumes, before any cycle; or the same request is sent
again. -/
def resumption : ServiceStep :=
  .publicMutation (Daemon.requestNamed "00000000-0000-4000-8000-000000000001") .resume 100000 none

/-- The owner pauses, while a cycle runs. -/
def pauseRequest : ServiceStep :=
  .publicMutation (Daemon.requestNamed "00000000-0000-4000-8000-000000000002") (.pause 60000) 200001
    none

/-- A daemon that enforces and whom nobody manages, after the first
request. -/
def resumedService : Service :=
  let status : DaemonStatus :=
    { DaemonStatus.new .enforce "instance" with ready := true, startupState := .readyEnforce }
  (Service.new (.empty Store.sampleToken) { ServiceStatus.new .enforce "instance" with
    toDaemonStatus := status, healthy := true }).step resumption

namespace Turn

/-- Some others' steps, right behind the second reading of the counter. -/
def besides (steps : List ServiceStep) (t : EngineTrace) : List Turn :=
  match t.getLast? with
  | some ⟨.cleanupPolicyRevision, _⟩ =>
      if (t.filterMap revisionRead).length = 2 then steps.map .service else []
  | _ => []

/-- The calls of a cycle, after those of `t`, with these steps between
them. -/
def weave (steps : List ServiceStep) : EngineTrace → EngineTrace → List Turn
  | _, [] => []
  | t, ev :: es => .cycle ev :: (besides steps (t ++ [ev]) ++ weave steps (t ++ [ev]) es)

theorem calls_besides (steps : List ServiceStep) (t : EngineTrace) :
    calls (besides steps t) = [] := by
  unfold besides
  split
  · split_ifs
    · simp [calls, List.filterMap_map]
    · rfl
  · rfl

theorem calls_weave (steps : List ServiceStep) (t es : EngineTrace) :
    calls (weave steps t es) = es := by
  induction es generalizing t with
  | nil => rfl
  | cons ev es ih =>
      rw [weave, ← List.singleton_append, calls_append, calls_append, calls_besides, ih]
      rfl

theorem weave_append (steps : List ServiceStep) (t es es' : EngineTrace) :
    weave steps t (es ++ es') = weave steps t es ++ weave steps (t ++ es) es' := by
  induction es generalizing t with
  | nil => simp [weave]
  | cons ev es ih => simp [weave, ih]

/-- Is it a step of somebody else? -/
def isService : Turn → Bool
  | .service _ => true
  | _ => false

/-- Does it open an attempt? -/
def opens : Turn → Bool
  | .cycle ev => (opened ev).isSome
  | _ => false

theorem opens_eq_true {turn : Turn} (h : turn.opens = true) :
    ∃ ev attempt, turn = .cycle ev ∧ opened ev = some attempt := by
  cases turn with
  | cycle ev =>
      obtain ⟨attempt, hattempt⟩ := Option.isSome_iff_exists.1 h
      exact ⟨ev, attempt, rfl, hattempt⟩
  | service step => cases h
  | storeWork op => cases h

end Turn

namespace SampleMachine

open Turn

variable (m : SampleMachine) (steps : List ServiceStep)

/-- The service after the calls of a trace and the steps between them. -/
def serviceAfter (t : EngineTrace) : Service :=
  (weave steps [] t).foldl (Service.turn "epoch") resumedService

/-- What the machine answers when the service is told of all that. -/
def servedAnswers (t : EngineTrace) : (c : EngineCall) → EngineAnswer c
  | .cleanupPolicyRevision => (serviceAfter steps t).cleanupPolicyRevision
  | .plane _ => .ok ⟨serviceAfter steps t, none, none⟩
  | .store _ => .ok (serviceAfter steps t).store
  | .prune _ _ => .ok ((serviceAfter steps t).store, Store.sampleToken)
  | .signalExact _ _ => ⟨.ok ⟨serviceAfter steps t, none, none⟩, false, .delivered⟩
  | .removeArtifactExact _ => ⟨.ok ⟨serviceAfter steps t, none, none⟩, false, .removed⟩
  | c => m.answers t c

/-- The turns of a cycle on the machine. -/
@[irreducible] def servedTurns : List Turn :=
  weave steps [] (((sampleEngine true).runCycleAtUntil 200000 "cycle" "epoch").runWith
    (m.servedAnswers steps) []).1

variable {m steps}

theorem finds_servedAnswers (t : EngineTrace) (c : EngineCall) :
    (serviceAfter steps t).Finds (.cycle ⟨c, m.servedAnswers steps t c⟩) := by
  cases c with
  | cleanupPolicyRevision => rfl
  | plane c => rfl
  | store c => rfl
  | prune now policy => rfl
  | signalExact identity signal =>
      intro f hf
      exact (Except.ok.inj hf) ▸ rfl
  | removeArtifactExact artifact =>
      intro f hf
      exact (Except.ok.inj hf) ▸ rfl
  | _ => exact trivial

/-- Steps of somebody else find nothing of their own. -/
theorem finds_besides (p : Service) (t : EngineTrace) :
    Along (Service.turn "epoch") Service.Finds p (besides steps t) := by
  have hall : ∀ (steps : List ServiceStep) (p : Service),
      Along (Service.turn "epoch") Service.Finds p (steps.map .service) := by
    intro steps
    induction steps with
    | nil => exact fun _ => trivial
    | cons step steps ih => exact fun p => ⟨trivial, ih _⟩
  unfold besides
  split
  · split_ifs
    · exact hall steps p
    · exact trivial
  · exact trivial

/-- Answers that are read off the service find it. -/
theorem finds_weave (t es : EngineTrace)
    (hes : ∀ before ev after, es = before ++ ev :: after →
      ev = ⟨ev.call, m.servedAnswers steps (t ++ before) ev.call⟩) :
    Along (Service.turn "epoch") Service.Finds (serviceAfter steps t) (weave steps t es) := by
  induction es generalizing t with
  | nil => exact trivial
  | cons ev es ih =>
      have hev : (serviceAfter steps t).Finds (.cycle ev) := by
        have hanswer := hes [] ev es rfl
        rw [List.append_nil] at hanswer
        rw [hanswer]
        exact finds_servedAnswers t ev.call
      have hnext : (besides steps (t ++ [ev])).foldl (Service.turn "epoch")
          ((serviceAfter steps t).turn "epoch" (.cycle ev)) = serviceAfter steps (t ++ [ev]) := by
        simp [serviceAfter, weave_append, weave]
      refine ⟨hev, along_append.2 ⟨finds_besides _ _, ?_⟩⟩
      rw [hnext]
      refine ih (t ++ [ev]) fun before x after h => ?_
      have hx := hes (ev :: before) x after (by rw [h, List.cons_append])
      rwa [← List.append_cons]

variable (m steps)

theorem served : Served (sampleEngine true) 200000 "cycle" "epoch" resumedService
    (m.servedTurns steps) where
  cycle := by
    obtain ⟨es, htrace, hruns⟩ := runs_runWith (m.servedAnswers steps)
      ((sampleEngine true).runCycleAtUntil 200000 "cycle" "epoch") []
    rw [servedTurns, calls_weave, htrace, List.nil_append]
    rw [← List.append_nil es] at hruns
    exact ⟨[], _, hruns⟩
  finds := by
    obtain ⟨es, htrace, hes⟩ := runWith_answered (m.servedAnswers steps)
      ((sampleEngine true).runCycleAtUntil 200000 "cycle" "epoch") []
    rw [servedTurns, htrace]
    exact finds_weave [] es hes

end SampleMachine

/-- The cycle opens an attempt, and before it a change was acknowledged that
came behind the reading of the counter. -/
theorem strayMachine_paused :
    let turns := strayMachine.servedTurns [pauseRequest, resumption]
    let before := turns.takeWhile fun turn => !turn.opens
    let start := before.takeWhile fun turn => !turn.isService
    (turns.dropWhile fun turn => !turn.opens).head?.any Turn.opens = true ∧
      (before.dropWhile fun turn => !turn.isService).head?.any
        (start.foldl (Service.turn "epoch") resumedService).acknowledges = true ∧
      (Turn.calls start).filterMap revisionRead ≠ [] := by
  decide +kernel

/-- **An attempt is opened in the middle of a pause.** The owner pauses when
the cycle has looked at the counter for the second time, and the older
request is sent again: the counter is what the cycle read. -/
theorem replay_opens_attempt :
    Served (sampleEngine true) 200000 "cycle" "epoch" resumedService
        (strayMachine.servedTurns [pauseRequest, resumption]) ∧
      ¬ SafelyDispatched (sampleEngine true) "epoch" resumedService
        (strayMachine.servedTurns [pauseRequest, resumption]) := by
  refine ⟨strayMachine.served _, fun hsafe => ?_⟩
  obtain ⟨hopens, hack, hread⟩ := strayMachine_paused
  generalize strayMachine.servedTurns [pauseRequest, resumption] = turns at *
  obtain ⟨opening, hopening, hopens⟩ := Option.any_eq_true _ _ |>.1 hopens
  obtain ⟨after, hafter⟩ := List.head?_eq_some_iff.1 hopening
  obtain ⟨ev, attempt, rfl, hattempt⟩ := Turn.opens_eq_true hopens
  obtain ⟨turn, hturn, hack⟩ := Option.any_eq_true _ _ |>.1 hack
  obtain ⟨since, hsince⟩ := List.head?_eq_some_iff.1 hturn
  have hturns := List.takeWhile_append_dropWhile (p := fun turn : Turn => !turn.opens) (l := turns)
  rw [hafter] at hturns
  obtain ⟨_, _, _, _, _, _, _, _, hunchanged⟩ :=
    hsafe.opened _ ev after attempt hturns.symm hattempt
  have hbefore := List.takeWhile_append_dropWhile (p := fun turn : Turn => !turn.isService)
    (l := turns.takeWhile fun turn => !turn.opens)
  rw [hsince] at hbefore
  obtain ⟨-, hquiet⟩ := hunchanged _ turn since hbefore.symm hread
  rw [hquiet] at hack
  cases hack

/-- The older request alone, sent again at the same place, is in order: the
counter is still the one of its receipt. -/
theorem strayMachine_resumed :
    Along (Service.turn "epoch") Service.TurnInOrder resumedService
        (strayMachine.servedTurns [resumption]) ∧
      (strayMachine.servedTurns [resumption]).any Turn.opens = true ∧
      (strayMachine.servedTurns [resumption]).any Turn.isService = true := by
  decide +kernel

/-- The attempt that is opened after it is opened safely. -/
theorem dispatch_safe_in_order_resumed :
    (∃ step, .service step ∈ strayMachine.servedTurns [resumption]) ∧
      (∃ ev attempt, .cycle ev ∈ strayMachine.servedTurns [resumption] ∧
        opened ev = some attempt) ∧
      SafelyDispatched (sampleEngine true) "epoch" resumedService
        (strayMachine.servedTurns [resumption]) := by
  obtain ⟨hin, hopens, hservice⟩ := strayMachine_resumed
  refine ⟨?_, ?_, dispatch_safe_in_order (strayMachine.served _) hin⟩
  · obtain ⟨turn, hmem, hturn⟩ := List.any_eq_true.1 hservice
    cases turn with
    | service step => exact ⟨step, hmem⟩
    | storeWork op => cases hturn
    | cycle ev => cases hturn
  · obtain ⟨turn, hmem, hturn⟩ := List.any_eq_true.1 hopens
    obtain ⟨ev, attempt, rfl, hattempt⟩ := Turn.opens_eq_true hturn
    exact ⟨ev, attempt, hmem, hattempt⟩

end Unlinger
