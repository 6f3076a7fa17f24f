import Unlinger.Daemon.Dispatch
import Unlinger.Daemon.Model.Ownership
import Unlinger.Daemon.SessionOwners
import Unlinger.Rules.Protections

/-!
# Evidence of ownership at a signal

A cycle reads the session owners once, and the analyzer over what it read
goes with the cleanup to its last signal. A lease declared after that
reading moves neither the epoch nor the policy revision, so the gate does
not see it: the signal is delivered on the evidence of the older lease.
What keeps the evidence current is that nobody declares a session anew
whose release the cycle has read.
-/

namespace Unlinger

open Interaction SessionOwnerTables

/-! ## What a signal rests on -/

/-- The lease that is all the evidence there is that a session was
abandoned, where it is: of the session of a report's root. -/
def Analyzer.abandonedBy (a : Analyzer) (s : Snapshot) (report : IncidentReport) :
    Option SessionOwnerBinding :=
  match ProcessGraph.fromSnapshot s with
  | .error _ => none
  | .ok g => do
      let session ← (a.sessions g).find? fun session => session.root.pid == report.root.pid
      let binding ← a.sessionOwner session
      if (a.abandonmentEvidence session).map EvidenceItem.id =
          ["abandonment.session_owner_released"] then
        some binding
      else none

theorem Analyzer.abandonedBy_eq_some {a : Analyzer} {s : Snapshot} {report : IncidentReport}
    {binding : SessionOwnerBinding} (h : a.abandonedBy s report = some binding) :
    binding ∈ a.context.sessionOwners ∧ binding.released = true := by
  unfold Analyzer.abandonedBy at h
  split at h
  · cases h
  · simp only [Option.bind_eq_bind, Option.bind_eq_some_iff] at h
    obtain ⟨session, -, owner, howner, h⟩ := h
    split_ifs at h with hitem
    obtain rfl := Option.some.inj h
    refine ⟨(sessionOwner_eq_some howner).1, ?_⟩
    by_contra hactive
    -- every other item has another name
    unfold Analyzer.abandonmentEvidence at hitem
    simp only [howner, Option.any_some, hactive, if_false] at hitem
    split_ifs at hitem <;> simp at hitem

/-- A cleanup that was opened: what it is for, and under which authority. -/
structure OpenedCleanup where
  report : IncidentReport
  enforcementEpoch : String
  cleanupPolicyRevision : Nat

/-- The cleanup a call opened. -/
def cleanupOpened : EngineEvent → Option OpenedCleanup
  | ⟨.plane (.beginCleanupAttemptIfArmed now report epoch revision), .ok f⟩ =>
      (f.beginCleanupAttemptIfArmed now report epoch revision).toOption.join.map
        fun _ => ⟨report, epoch, revision⟩
  | _ => none

/-- The cleanup that runs: the last that was opened. -/
def cleanupRunning (t : EngineTrace) : Option OpenedCleanup := (t.filterMap cleanupOpened).getLast?

/-- The process a signal of a cleanup is delivered to. -/
def Moment.delivered (c : OpenedCleanup) : Moment → Option ProcessIdentity
  | .cycle ⟨.signalExact identity _, d⟩ =>
      if ReconciliationEngine.deliver d c.enforcementEpoch c.cleanupPolicyRevision false
          .cancelledBeforeDelivery = .delivered then some identity
      else none
  | .worker ⟨.signalExact identity _, d⟩ =>
      if ReconciliationEngine.deliver d c.enforcementEpoch c.cleanupPolicyRevision true
          .cancelledBeforeDelivery = .delivered then some identity
      else none
  | _ => none

/-- The leases that are all the evidence for a report, as the cycle read
them. -/
def evidenceFor (e : ReconciliationEngine) (t : EngineTrace) (report : IncidentReport) :
    List SessionOwnerRow :=
  match t.filterMap snapshotTaken with
  | [first, second] =>
      match ProcessGraph.fromSnapshot first with
      | .error _ => []
      | .ok g =>
          (t.filterMap tasksRead).flatMap fun tasks =>
            (t.filterMap ownersRead).filterMap fun owners =>
              ((e.analyzerOver g tasks owners).abandonedBy second report).bind fun binding =>
                owners.leases.lookup binding.leaseId
  | _ => []

theorem mem_evidenceFor {e : ReconciliationEngine} {t : EngineTrace} {report : IncidentReport}
    {row : SessionOwnerRow} (h : row ∈ evidenceFor e t report) :
    ∃ owners ∈ t.filterMap ownersRead, ∃ binding ∈ owners.sessionOwnerBindings,
      binding.released = true ∧ owners.leases.lookup binding.leaseId = some row := by
  unfold evidenceFor at h
  split at h
  · split at h
    · cases h
    · obtain ⟨tasks, -, h⟩ := List.mem_flatMap.1 h
      obtain ⟨owners, howners, h⟩ := List.mem_filterMap.1 h
      obtain ⟨binding, hbinding, hrow⟩ := Option.bind_eq_some_iff.1 h
      obtain ⟨hmem, hreleased⟩ := Analyzer.abandonedBy_eq_some hbinding
      exact ⟨owners, howners, binding, hmem, hreleased, hrow⟩
  · cases h

/-- The signal that comes after these moments is not delivered to a target
of a report that rests on a lease of a lower generation than one of its
selector that was declared in them. -/
def CurrentAt (e : ReconciliationEngine) (t : SessionOwnerTables) (before : List Moment)
    (signal : Moment) : Prop :=
  ∀ earlier m later, before = earlier ++ m :: later →
    ∀ lease ∈ (earlier.foldl Ownership.step (Ownership.begun t)).declares m,
    ∀ c ∈ cleanupRunning (cycleEvents before), ∀ identity ∈ signal.delivered c,
      identity ∈ c.report.targets.map ProcessTarget.identity →
      ∀ row ∈ evidenceFor e (cycleEvents before) c.report,
        row.selectorFingerprint = lease.selectorFingerprint → ¬ row.generation < lease.generation

/-- **Evidence of ownership is current at every signal.** -/
def EvidenceCurrent (e : ReconciliationEngine) (t : SessionOwnerTables) (ms : List Moment) : Prop :=
  ∀ before signal after, ms = before ++ signal :: after → CurrentAt e t before signal

/-! ## A lease that was declared -/

namespace SessionOwnerSystem

variable {s s' : SessionOwnerSystem} {a : SessionOwnerStep} {lease : SessionOwnerLease}

/-- The lease is in the registry that declared it, with its generation. -/
def Holds (s : SessionOwnerSystem) (lease : SessionOwnerLease) : Prop :=
  lease ∈ s.declared ∧ ∃ row, s.tables.Leased lease.selectorFingerprint lease.leaseId row ∧
    row.generation = lease.generation

/-- A row in the place of one of its session and generation. -/
theorem Holds.putLease {id : String} {row : SessionOwnerRow} {declared : List SessionOwnerLease}
    (h : s.Holds lease) (hdeclared : s.declared ⊆ declared)
    (hrow : ∀ old, s.lease id = some old → row.selectorFingerprint = old.selectorFingerprint ∧
      row.generation = old.generation) :
    (SessionOwnerSystem.mk (s.tables.putLease id row) declared).Holds lease := by
  obtain ⟨hmem, old, ⟨hold, hselector⟩, hgeneration⟩ := h
  refine ⟨hdeclared hmem, ?_⟩
  by_cases hid : lease.leaseId = id
  · obtain ⟨hsame, hsame'⟩ := hrow old (hid ▸ hold)
    refine ⟨row, ⟨?_, hsame.trans hselector⟩, hsame'.trans hgeneration⟩
    simp [SessionOwnerTables.putLease, OrdMap.lookup_insert, hid]
  · refine ⟨old, ⟨?_, hselector⟩, hgeneration⟩
    simp only [SessionOwnerTables.putLease, OrdMap.lookup_insert, if_neg hid]
    exact hold

/-- What a call that is no scan leaves, and what it declares. -/
theorem change_holds (h : SessionOwnerChange s a s') (hbind : ∀ snapshot, a ≠ .bind snapshot) :
    (∀ lease, s.Holds lease → s'.Holds lease) ∧
      ∀ lease ∈ s'.declared.drop s.declared.length, s'.Holds lease := by
  cases h with
  | same => simp
  | declare hreleased hfresh =>
      constructor
      · intro lease hlease
        refine hlease.putLease (List.subset_append_left ..) fun old hold => ?_
        rw [hfresh] at hold
        cases hold
      · intro lease hlease
        rw [List.drop_left, List.mem_singleton] at hlease
        subst hlease
        have hput : ∀ id row, (s.tables.putLease id row).leases.lookup id = some row :=
          fun id row => OrdMap.lookup_insert.trans (if_pos rfl)
        exact ⟨by simp, _, ⟨hput _ _, rfl⟩, rfl⟩
  | activate hrow hreleased howner =>
      refine ⟨fun lease hlease => hlease.putLease (List.Subset.refl _) fun old hold => ?_, by simp⟩
      obtain rfl := Option.some.inj (hold.symm.trans hrow)
      exact ⟨rfl, rfl⟩
  | release hrow hreleased =>
      refine ⟨fun lease hlease => hlease.putLease (List.Subset.refl _) fun old hold => ?_, by simp⟩
      obtain rfl := Option.some.inj (hold.symm.trans hrow)
      exact ⟨rfl, rfl⟩
  | bind hinserts => exact absurd rfl (hbind _)

/-- A call of the engine that does not delete a lease leaves it. -/
theorem called_holds {ev : EngineEvent} (h : s.Holds lease)
    (hkept : (Moment.cycle ev).deleted ≠ some lease.leaseId) : (s.called ev).Holds lease := by
  obtain ⟨c, r⟩ := ev
  cases c with
  | sessionOwners c =>
      rcases r with err | t
      · cases c with
        | _ => exact h
      · cases c with
        | release leaseId now reason owner =>
            exact (change_holds (step_change s _) fun _ h => by cases h).1 lease h
        | insertControllers scopes snapshot =>
            change (s.keep (s.tables.insertControllers scopes snapshot)).Holds lease
            cases hinsert : s.tables.insertControllers scopes snapshot with
            | error err => exact h
            | ok t =>
                obtain ⟨hmem, row, ⟨hrow, hselector⟩, hgeneration⟩ := h
                refine ⟨hmem, row, ⟨?_, hselector⟩, hgeneration⟩
                change t.leases.lookup lease.leaseId = some row
                rw [insertControllers_leases hinsert]
                exact hrow
        | deleteLease leaseId =>
            obtain ⟨hmem, row, ⟨hrow, hselector⟩, hgeneration⟩ := h
            refine ⟨hmem, row, ⟨?_, hselector⟩, hgeneration⟩
            have hne : lease.leaseId ≠ leaseId := by
              rintro rfl
              exact hkept rfl
            change (s.tables.leases.erase leaseId).lookup lease.leaseId = some row
            rw [OrdMap.lookup_erase, if_neg hne]
            exact hrow
        | _ => exact h
  | _ => exact h

theorem called_declared {ev : EngineEvent} : (s.called ev).declared = s.declared := by
  obtain ⟨c, r⟩ := ev
  cases c with
  | sessionOwners c =>
      rcases r with err | t
      · cases c with
        | _ => rfl
      · cases c with
        | release leaseId now reason owner =>
            change (s.keep (s.tables.releaseSessionOwner leaseId now reason owner)).declared = _
            cases s.tables.releaseSessionOwner leaseId now reason owner with
            | _ => rfl
        | insertControllers scopes snapshot =>
            change (s.keep (s.tables.insertControllers scopes snapshot)).declared = _
            cases s.tables.insertControllers scopes snapshot with
            | _ => rfl
        | _ => rfl
  | _ => rfl

end SessionOwnerSystem

/-- No request is a scan. -/
theorem OwnerPeer.handle_ne_bind {f : OwnerPeer} {request : SessionOwnerRequest} {now : Nat}
    {freshId freshCapability : NamespaceToken} {call : SessionOwnerStep}
    (h : f.handle request now freshId freshCapability = .ok (some call)) (snapshot : Snapshot) :
    call ≠ .bind snapshot := by
  rintro rfl
  simp only [handle, bind_eq_ok] at h
  obtain ⟨registrar, -, h⟩ := h
  cases request with
  | declare sessionName registryNamespace controllerVersion =>
      simp only [bind_eq_ok, pure_eq_ok] at h
      obtain ⟨-, -, -, -, h⟩ := h
      cases h
  | activate leaseId capability ownerPid =>
      simp only [bind_eq_ok, pure_eq_ok] at h
      obtain ⟨-, -, scope, -, -, -, owner, -, process, -, -, -, identity, -, h⟩ := h
      cases h
  | release leaseId capability =>
      simp only [bind_eq_ok] at h
      obtain ⟨scope, -, h⟩ := h
      split at h
      · cases h
      · simp only [bind_eq_ok, pure_eq_ok] at h
        obtain ⟨-, -, h⟩ := h
        cases h

/-! ## Moments -/

namespace Ownership

variable {s : Ownership} {m : Moment} {lease : SessionOwnerLease} {ms : List Moment}

/-- A moment that leaves what the cycle has read true: no session is
declared anew whose release it has read, and no lease that was declared
since it began is deleted. -/
def Undisturbed (s : Ownership) (m : Moment) : Prop :=
  (∀ lease ∈ s.declares m, ∀ t ∈ s.read, ∀ b ∈ t.sessionOwnerBindings,
    b.selectorFingerprint = lease.selectorFingerprint → b.released = false) ∧
  ∀ lease ∈ s.registry.declared, m.deleted ≠ some lease.leaseId

/-- A request comes to a call of the registry that is no scan, or to
none. -/
theorem step_owner {peer : OwnerPeer} {request : SessionOwnerRequest} {now : Nat}
    {freshId freshCapability : NamespaceToken} :
    (∃ call, (∀ snapshot, call ≠ .bind snapshot) ∧
      s.step (.owner peer request now freshId freshCapability) =
        { s with registry := s.registry.step call }) ∨
      s.step (.owner peer request now freshId freshCapability) = s := by
  rw [step]
  split
  · rename_i call hcall
    exact Or.inl ⟨call, OwnerPeer.handle_ne_bind hcall, rfl⟩
  · exact Or.inr rfl

/-- What a moment leaves of the leases that were declared. -/
theorem step_holds (h : s.registry.Holds lease) (hm : s.Undisturbed m) :
    (s.step m).registry.Holds lease := by
  cases m with
  | owner peer request now freshId freshCapability =>
      rcases step_owner with ⟨call, hcall, heq⟩ | heq
      · rw [heq]
        exact (SessionOwnerSystem.change_holds (SessionOwnerSystem.step_change s.registry call)
          hcall).1 lease h
      · rw [heq]
        exact h
  | cycle ev => exact SessionOwnerSystem.called_holds h (hm.2 lease h.1)
  | worker ev => exact h

/-- What a moment declares: only a request does. -/
theorem declares_holds (h : lease ∈ s.declares m) :
    (s.step m).registry.Holds lease ∧ cycleEvents [m] = [] := by
  cases m with
  | owner peer request now freshId freshCapability =>
      refine ⟨?_, rfl⟩
      unfold declares at h
      rcases step_owner with ⟨call, hcall, heq⟩ | heq
      · rw [heq] at h ⊢
        exact (SessionOwnerSystem.change_holds (SessionOwnerSystem.step_change s.registry call)
          hcall).2 lease h
      · rw [heq, List.drop_length] at h
        cases h
  | cycle ev => simp [declares, step, SessionOwnerSystem.called_declared] at h
  | worker ev => simp [declares, step] at h

/-- What was read is what the cycle's calls read. -/
theorem foldl_read :
    (ms.foldl step s).read = s.read ++ (cycleEvents ms).filterMap ownersRead := by
  induction ms generalizing s with
  | nil => simp [cycleEvents]
  | cons m ms ih =>
      rw [List.foldl_cons, ih]
      cases m with
      | owner peer request now freshId freshCapability =>
          rcases step_owner with ⟨call, -, heq⟩ | heq
          · rw [heq]
            rfl
          · rw [heq]
            rfl
      | cycle ev =>
          change (s.read ++ (ownersRead ev).toList) ++ _ =
            s.read ++ (ev :: cycleEvents ms).filterMap ownersRead
          rw [List.append_assoc]
          cases hev : ownersRead ev with
          | none => rw [List.filterMap_cons_none hev, Option.toList_none, List.nil_append]
          | some t => rw [List.filterMap_cons_some hev, Option.toList_some, List.singleton_append]
      | worker ev => rfl

/-- The tables that were read in some moments are those of the registry at
one of them. -/
theorem read_finds {t : SessionOwnerTables} (h : t ∈ (cycleEvents ms).filterMap ownersRead)
    (hfinds : Transition.Along step Finds s ms) :
    ∃ before m after, ms = before ++ m :: after ∧ t = (before.foldl step s).registry.tables := by
  obtain ⟨ev, hev, hread⟩ := List.mem_filterMap.1 h
  obtain ⟨m, hm, hcycle⟩ := List.mem_filterMap.1 hev
  obtain ⟨before, after, rfl⟩ := List.append_of_mem hm
  refine ⟨before, m, after, rfl, ?_⟩
  have hfound := (Transition.along_append.1 hfinds).2.1
  cases m with
  | cycle ev' =>
      obtain rfl : ev' = ev := Option.some.inj hcycle
      obtain ⟨c, r⟩ := ev'
      cases c with
      | sessionOwners c =>
          rcases r with err | t'
          · cases c with
            | _ => cases hread
          · cases c with
            | bindings =>
                obtain rfl : t' = t := Option.some.inj hread
                exact hfound t' rfl
            | _ => cases hread
      | _ => cases hread
  | _ => cases hcycle

end Ownership

/-! ## A run -/

theorem cycleEvents_append {ms ms' : List Moment} :
    cycleEvents (ms ++ ms') = cycleEvents ms ++ cycleEvents ms' := List.filterMap_append

section Run

variable {e : ReconciliationEngine} {now : Nat} {cycleToken enforcementEpoch : String}
  {t : SessionOwnerTables} {ms : List Moment}

/-- **What nobody disturbs is current.** In every interleaving of a cycle
with owners and with its worker, at every signal: if before it no session
was declared anew after the cycle had read its release, and the cycle
deleted no lease that was declared since it began, then the evidence of
ownership is current. -/
theorem evidence_current (h : Interleaving e now cycleToken enforcementEpoch t ms) :
    ∀ before signal after, ms = before ++ signal :: after →
      Transition.Along Ownership.step Ownership.Undisturbed (Ownership.begun t) before →
      CurrentAt e t before signal := by
  rintro - signal after rfl hundisturbed before m middle rfl
  intro lease hlease c _ identity _ _ row hevidence hselector hlt
  obtain ⟨owners, howners, binding, hmem, hreleased, hrow⟩ := mem_evidenceFor hevidence
  obtain ⟨key, controller, bound, -, hbound, hgreatest, rfl⟩ := mem_sessionOwnerBindings hmem
  obtain rfl : bound = row := Option.some.inj (hbound.symm.trans hrow)
  obtain ⟨-, hnow, hlater⟩ := Transition.along_append.1 hundisturbed
  obtain ⟨-, -, hfinds⟩ := Transition.along_append.1 (Transition.along_append.1 h.finds).1
  obtain ⟨hholds, hquiet⟩ := Ownership.declares_holds hlease
  have hevents : cycleEvents (before ++ m :: middle) = cycleEvents before ++ cycleEvents middle := by
    rw [cycleEvents_append, ← List.singleton_append, cycleEvents_append, hquiet, List.nil_append]
  rw [hevents, List.filterMap_append] at howners
  rcases List.mem_append.1 howners with hbefore | hmiddle
  · -- what was read before the declaration has no release of its selector
    have hread : owners ∈ (before.foldl Ownership.step (Ownership.begun t)).read := by
      rw [Ownership.foldl_read]
      exact List.mem_append_right _ hbefore
    have hactive := hnow.1 lease hlease owners hread _ hmem hselector
    rw [hreleased] at hactive
    cases hactive
  · -- what was read after it has the lease, and bindings of no lower generation
    obtain ⟨between, reading, rest, rfl, rfl⟩ := Ownership.read_finds hmiddle hfinds
    obtain ⟨hlater, -⟩ := Transition.along_append.1 hlater
    obtain ⟨-, declared, hdeclared, hgeneration⟩ :=
      hlater.invariant (P := fun s => s.registry.Holds lease) (fun s m => Ownership.step_holds) hholds
    have hle := hgreatest lease.leaseId declared ⟨hdeclared.1, hdeclared.2.trans hselector.symm⟩
    omega

end Run

/-! ## A declaration at the signal -/

open SessionOwnerSystem (ran sampleLeases)

/-- The selector of the session `work` of a registry. -/
def workSelector : String := ordinarySelectorFingerprint "0123456789abcdef" "work"

/-- Its controller. -/
def workController : ProcessRecord :=
  { releasedController with
    runtime := { releasedController.runtime with
      playwrightCli := some ⟨"work", "1.62.1", false, false, some workSelector⟩ } }

/-- A host that declared the session, ran it, and released it. -/
def workTurn : List SessionOwnerStep :=
  let lease := sampleLeases.1
  [.declare workSelector "work" "1.62.1" ⟨10, 500, 501⟩ 1 lease lease,
    .activate lease.value ⟨20, 500, 501⟩ 1,
    .bind ⟨2, 501, [workController], ⟨1, 1, 0, 0, 0⟩⟩,
    .release lease.value 2 "reported_exit" (some ⟨20, 500, 501⟩)]

/-- The machine it left the session on. -/
def workMachine : SampleMachine :=
  ⟨[workController, profiledBrowser 101 "a"], (ran workTurn).tables⟩

/-- A host on that machine. -/
def hostPeer : OwnerPeer where
  pid := 10
  peer := .ok (some { workController with identity := ⟨10, 500, some 1, some 10⟩ })
  status := (SampleMachine.plane []).map fun f => f.service.status
  tables := .ok workMachine.owners
  owner := .ok none

/-- It declares a session. -/
def declaration (sessionName : String) : Moment :=
  .owner hostPeer (.declare sessionName "0123456789abcdef" "1.62.1") 200000 sampleLeases.2
    sampleLeases.2

/-- Moments that do not read the registry find it as it is. -/
theorem Ownership.finds_append {s : Ownership} {ms rest : List Moment}
    (h : Transition.Along step Finds s ms) (hrest : ∀ m ∈ rest, m.answered = none) :
    Transition.Along step Finds s (ms ++ rest) := by
  refine Transition.along_append.2 ⟨h, ?_⟩
  generalize ms.foldl step s = s'
  induction rest generalizing s' with
  | nil => exact trivial
  | cons m rest ih =>
      refine ⟨?_, ih (fun x hx => hrest x (List.mem_cons_of_mem m hx)) _⟩
      intro t ht
      rw [hrest m (List.mem_cons_self ..)] at ht
      cases ht

theorem cycleEvents_map (t : EngineTrace) : cycleEvents (t.map .cycle) = t := by
  simp [cycleEvents, List.filterMap_map]

namespace SampleMachine

variable (m : SampleMachine)

/-- A cycle up to its first signal. -/
@[irreducible] def beforeSignal : List Moment :=
  ((m.run false).1.takeWhile fun ev => !signalled ev).map .cycle

/-- The first signal and the rest of the cycle. -/
@[irreducible] def fromSignal : List Moment :=
  ((m.run false).1.dropWhile fun ev => !signalled ev).map .cycle

/-- It is an interleaving with a request that comes when the first signal is
about to be sent, where the registry is found as it is. -/
theorem interleaving {d : Moment} (hd : cycleEvents [d] = []) (hworker : ∀ ev, d ≠ .worker ev)
    (hfinds : Transition.Along Ownership.step Ownership.Finds (Ownership.begun m.owners)
      m.beforeSignal) (hrest : ∀ x ∈ d :: m.fromSignal, x.answered = none) :
    Interleaving (sampleEngine false) 200000 "cycle" "epoch" m.owners
      (m.beforeSignal ++ d :: m.fromSignal) where
  cycle := by
    have hevents : cycleEvents (m.beforeSignal ++ d :: m.fromSignal) = (m.run false).1 := by
      rw [cycleEvents_append, ← List.singleton_append, cycleEvents_append, hd, beforeSignal,
        fromSignal, cycleEvents_map, cycleEvents_map, List.nil_append,
        List.takeWhile_append_dropWhile]
    have hruns := m.run_runs false
    rw [← hevents, ← List.append_nil (cycleEvents _)] at hruns
    exact ⟨_, _, hruns⟩
  worker := by
    intro before ev after hms
    -- the cleanup runs in the cycle itself
    have hmem : Moment.worker ev ∈ m.beforeSignal ++ d :: m.fromSignal := by simp [hms]
    simp [beforeSignal, fromSignal, (hworker ev).symm] at hmem
  finds := Ownership.finds_append hfinds hrest

/-- What a cycle does alone disturbs nothing. -/
theorem beforeSignal_undisturbed :
    Transition.Along Ownership.step Ownership.Undisturbed (Ownership.begun m.owners)
      m.beforeSignal := by
  have hnone : (Ownership.begun m.owners).registry.declared = [] := rfl
  rw [beforeSignal]
  generalize (m.run false).1.takeWhile (fun ev => !signalled ev) = t
  generalize Ownership.begun m.owners = s at hnone
  induction t generalizing s with
  | nil => exact trivial
  | cons ev t ih =>
      have hstep : (s.step (.cycle ev)).registry.declared = [] :=
        SessionOwnerSystem.called_declared.trans hnone
      refine ⟨⟨?_, by simp [hnone]⟩, ih _ hstep⟩
      simp [Ownership.declares, hstep]

end SampleMachine

/-- What the cycle of the work machine came to at its first signal: it is
sent on the evidence of a lease that a declaration of its session is newer
than, and that one of another session has nothing to do with. -/
theorem workMachine_evaluated :
    let s := workMachine.beforeSignal.foldl Ownership.step (Ownership.begun workMachine.owners)
    Transition.Along Ownership.step Ownership.Finds (Ownership.begun workMachine.owners)
        workMachine.beforeSignal ∧
      (∀ m ∈ workMachine.fromSignal, m.answered = none) ∧
      s.Undisturbed (declaration "other") ∧
      ∃ signal ∈ workMachine.fromSignal.head?, ∃ lease ∈ s.declares (declaration "work"),
      ∃ c ∈ cleanupRunning (cycleEvents workMachine.beforeSignal),
      ∃ identity ∈ signal.delivered c, identity ∈ c.report.targets.map ProcessTarget.identity ∧
        ∃ row ∈ evidenceFor (sampleEngine false) (cycleEvents workMachine.beforeSignal) c.report,
          row.selectorFingerprint = lease.selectorFingerprint ∧
            row.generation < lease.generation := by
  unfold Ownership.Finds Ownership.Undisturbed
  decide +kernel

/-- A cycle of the work machine with a declaration at its first signal. -/
theorem workMachine_interleaving (sessionName : String) :
    Interleaving (sampleEngine false) 200000 "cycle" "epoch" workMachine.owners
      (workMachine.beforeSignal ++ declaration sessionName :: workMachine.fromSignal) := by
  obtain ⟨hfinds, hrest, -⟩ := workMachine_evaluated
  have hquiet : cycleEvents [declaration sessionName] = [] := rfl
  refine workMachine.interleaving hquiet (fun _ h => by cases h) hfinds ?_
  intro m hm
  rcases List.mem_cons.1 hm with rfl | hm
  · rfl
  · exact hrest m hm

/-- **A session declared anew does not stop the signal.** Generation two of
the session is declared when the cleanup is about to signal its controller;
neither the epoch nor the policy revision moves, and the signal is
delivered on the evidence of generation one. -/
theorem evidence_not_current :
    ¬ ∀ (steps : List SessionOwnerStep) (e : ReconciliationEngine) (now : Nat)
      (cycleToken enforcementEpoch : String) (ms : List Moment),
      (steps.map SessionOwnerStep.now).Pairwise (· ≤ ·) →
      Interleaving e now cycleToken enforcementEpoch (ran steps).tables ms →
      EvidenceCurrent e (ran steps).tables ms := by
  intro h
  have howners : (ran workTurn).tables = workMachine.owners := by simp only [workMachine]
  have hcurrent := h workTurn (sampleEngine false) 200000 "cycle" "epoch"
    (workMachine.beforeSignal ++ declaration "work" :: workMachine.fromSignal) (by decide)
  rw [howners] at hcurrent
  replace hcurrent := hcurrent (workMachine_interleaving "work")
  obtain ⟨-, -, -, signal, hsignal, lease, hlease, c, hc, identity, hdelivered, htarget, row, hrow,
    hselector, hlt⟩ := workMachine_evaluated
  obtain ⟨rest, hfrom⟩ := List.head?_eq_some_iff.1 hsignal
  have hevents : cycleEvents (workMachine.beforeSignal ++ [declaration "work"]) =
      cycleEvents workMachine.beforeSignal := by
    rw [cycleEvents_append]
    exact List.append_nil _
  have hat : CurrentAt (sampleEngine false) workMachine.owners
      (workMachine.beforeSignal ++ [declaration "work"]) signal :=
    hcurrent _ signal rest (by simp [hfrom])
  refine hat workMachine.beforeSignal (declaration "work") [] rfl lease hlease c ?_ identity
    hdelivered htarget row ?_ hselector hlt
  · rw [hevents]
    exact hc
  · rw [hevents]
    exact hrow

/-- The declaration of another session leaves the signal its evidence. -/
theorem evidence_current_other :
    ∃ signal after, workMachine.fromSignal = signal :: after ∧
      (∃ c ∈ cleanupRunning (cycleEvents workMachine.beforeSignal),
        (signal.delivered c).isSome = true) ∧
      CurrentAt (sampleEngine false) workMachine.owners
        (workMachine.beforeSignal ++ [declaration "other"]) signal := by
  obtain ⟨-, -, hother, signal, hsignal, -, -, c, hc, identity, hdelivered, -⟩ :=
    workMachine_evaluated
  obtain ⟨rest, hfrom⟩ := List.head?_eq_some_iff.1 hsignal
  refine ⟨signal, rest, hfrom, ⟨c, hc, Option.isSome_of_mem hdelivered⟩, ?_⟩
  refine evidence_current (workMachine_interleaving "other") _ signal rest (by simp [hfrom]) ?_
  rw [Transition.along_append, Transition.along_singleton]
  exact ⟨workMachine.beforeSignal_undisturbed, hother⟩

end Unlinger
