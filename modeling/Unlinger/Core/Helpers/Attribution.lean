import Unlinger.Core.Helpers.Execute

/-!
# What a receipt weighs

The estimate of a receipt and the deliveries on it, followed through the
stages. Before the first revival check that is not Gone and before the
terminal proof there is none; from there on it is the difference between
the first snapshot and the one of the last check.
-/

namespace Unlinger

open Interaction

variable {plan : CleanupPlan} {policy : CleanupPolicy} {t es : CleanupTrace} {r : CleanupReceipt}

/-! ## What is read off a trace -/

/-- What a revival check was asked about, and what was answered. -/
def revivalCheck : CleanupEvent → Option (Snapshot × Revalidation)
  | ⟨.revalidate s _ .revivalCheck, v⟩ => some (s, v)
  | _ => none

/-- The revival checks of a trace, oldest first. -/
def revivalChecks (t : CleanupTrace) : List (Snapshot × Revalidation) := t.filterMap revivalCheck

/-- Some signal was answered Delivered. -/
def SignalDelivered (t : CleanupTrace) : Prop :=
  ∃ identity sig, (⟨.signalExact identity sig, .delivered⟩ : CleanupEvent) ∈ t

/-- Some lookup found a process the snapshot had left out. -/
def FoundAlive (t : CleanupTrace) : Prop :=
  ∃ pid p, (⟨.lookupProcess pid, .ok (some p)⟩ : CleanupEvent) ∈ t

/-- No target is in the snapshot, and none was found outside one. -/
def TreeGone (plan : CleanupPlan) (t : CleanupTrace) (s : Snapshot) : Prop :=
  (∀ x ∈ plan.targets, s.byPid.contains x.identity.pid = false) ∧ ¬ FoundAlive t

/-- The snapshot's targets weigh more than those of the first one did. -/
def Grew (plan : CleanupPlan) (t : CleanupTrace) (s : Snapshot) : Prop :=
  ∃ first, FirstSnapshot t first ∧ (resourceSnapshot first plan).residentMemoryBytes <
    (resourceSnapshot s plan).residentMemoryBytes

/-- Nothing is estimated at the end of the trace: the last revival check
was one of the windows' and answered Gone, or the tree had grown by then,
or the tree was gone then and no artifact was to be reconciled. -/
def Unestimated (plan : CleanupPlan) (policy : CleanupPolicy) (t : CleanupTrace) : Prop :=
  ∀ s v, (revivalChecks t).getLast? = some (s, v) →
    (v.status = .gone ∧ (revivalChecks t).length ≤ policy.revivalWindows.length) ∨
    Grew plan t s ∨
    (v.status = .gone ∧ plan.artifacts = [] ∧ TreeGone plan t s)

/-- Some process action of the receipt was delivered. -/
def CleanupReceipt.Delivered (r : CleanupReceipt) : Prop :=
  ∃ a ∈ r.actions, a.disposition = .delivered

/-- A receipt without a delivered process action estimates nothing. -/
def CleanupReceipt.Unattributed (r : CleanupReceipt) : Prop :=
  (∀ a ∈ r.actions, a.disposition ≠ .delivered) →
    r.resources.estimatedReclaimedMemoryBytes = none

/-! ## Calls that leave it alone -/

/-- The call is neither a signal nor a revival check. -/
def Call.IsMute : Call → Prop
  | .signalExact _ _ => False
  | .revalidate _ _ .revivalCheck => False
  | _ => True

/-- Nor is it a lookup. -/
def Call.IsCalm : Call → Prop
  | .signalExact _ _ => False
  | .revalidate _ _ .revivalCheck => False
  | .lookupProcess _ => False
  | _ => True

theorem Call.IsCalm.mute {c : Call} (h : c.IsCalm) : c.IsMute := by
  cases c with
  | signalExact identity sig => exact h
  | revalidate s p phase =>
      cases phase with
      | beforeSignal => exact trivial
      | revivalCheck => exact h
  | _ => exact trivial

theorem revivalChecks_append : revivalChecks (t ++ es) = revivalChecks t ++ revivalChecks es :=
  List.filterMap_append ..

/-- Mute events hold no check. -/
theorem revivalChecks_mute (h : ∀ e ∈ es, e.call.IsMute) : revivalChecks es = [] := by
  rw [revivalChecks, List.filterMap_eq_nil_iff]
  intro e he
  have hmute := h e he
  unfold revivalCheck
  split
  · exact hmute.elim
  · rfl

theorem signalDelivered_append :
    SignalDelivered (t ++ es) ↔ SignalDelivered t ∨ SignalDelivered es := by
  simp only [SignalDelivered, List.mem_append, exists_or]

theorem not_signalDelivered_mute (h : ∀ e ∈ es, e.call.IsMute) : ¬ SignalDelivered es := by
  rintro ⟨identity, sig, he⟩
  exact h _ he

theorem foundAlive_append : FoundAlive (t ++ es) ↔ FoundAlive t ∨ FoundAlive es := by
  simp only [FoundAlive, List.mem_append, exists_or]

theorem not_foundAlive_calm (h : ∀ e ∈ es, e.call.IsCalm) : ¬ FoundAlive es := by
  rintro ⟨pid, p, he⟩
  exact h _ he

/-- A trace has one first snapshot. -/
theorem FirstSnapshot.unique {s s' : Snapshot} (h : FirstSnapshot t s) (h' : FirstSnapshot t s') :
    s = s' := by
  obtain ⟨u, v, ht, hu⟩ := h
  obtain ⟨u', v', ht', hu'⟩ := h'
  rw [ht] at ht'
  rcases List.append_eq_append_iff.1 ht' with ⟨w, hw, hv⟩ | ⟨w, hw, hv⟩
  · cases w with
    | nil => simpa using (List.cons.inj hv).1
    | cons e w =>
        obtain ⟨rfl, -⟩ := List.cons.inj hv
        exact absurd rfl (hu' ⟨.snapshot, .ok s⟩ (by rw [hw]; simp))
  · cases w with
    | nil => simpa using (List.cons.inj hv).1.symm
    | cons e w =>
        obtain ⟨rfl, -⟩ := List.cons.inj hv
        exact absurd rfl (hu ⟨.snapshot, .ok s'⟩ (by rw [hw]; simp))

/-! ## The invariants -/

/-- Nothing is estimated yet: there were `n` revival checks, all Gone. -/
structure Unweighed (n : Nat) (t : CleanupTrace) (r : CleanupReceipt) : Prop where
  estimate : r.resources.estimatedReclaimedMemoryBytes = none
  delivered : SignalDelivered t ↔ r.Delivered
  checks : (revivalChecks t).length = n
  gone : ∀ c ∈ revivalChecks t, c.2.status = .gone

/-- What the receipt of a cleanup that goes on says. -/
structure Known (plan : CleanupPlan) (t : CleanupTrace) (r : CleanupReceipt) : Prop where
  delivered : SignalDelivered t ↔ r.Delivered
  first : ∃ s, FirstSnapshot t s ∧ r.resources.before = some (resourceSnapshot s plan)
  certain : ∀ a ∈ r.actions, a.disposition = .delivered ∨ a.disposition = .alreadyExited
  reason : r.reasonId = none

/-- A cleanup that goes on with nothing estimated. -/
structure Pending (plan : CleanupPlan) (n : Nat) (t : CleanupTrace) (r : CleanupReceipt) : Prop
    extends Unweighed n t r, Known plan t r where
  bare : r.artifactActions = []
  lost : ¬ FoundAlive t

/-- The receipt a run ends with: its deliveries are the run's, and
without one it estimates nothing exactly where the run says so. A cleared
one without artifact actions never does. -/
structure Weighs (plan : CleanupPlan) (policy : CleanupPolicy) (t : CleanupTrace)
    (r : CleanupReceipt) : Prop where
  delivered : SignalDelivered t ↔ r.Delivered
  estimate : ¬ SignalDelivered t →
    (r.resources.estimatedReclaimedMemoryBytes = none ↔ Unestimated plan policy t)
  cleared : ¬ SignalDelivered t → r.state = .cleared → r.artifactActions = [] →
    r.resources.estimatedReclaimedMemoryBytes = none

/-- A terminal error carries a receipt that weighs right; one of an action
left open carries none that is settled. -/
def EndsWeighed (plan : CleanupPlan) (policy : CleanupPolicy) :
    CleanupTrace → CleanupError → Prop
  | t, .runtime _ r => Weighs plan policy t r
  | _, .attemptOpen _ _ _ => True

/-- A postcondition of the value, where a terminal error weighs right. -/
abbrev Weighing {α : Type} (plan : CleanupPlan) (policy : CleanupPolicy)
    (P : CleanupTrace → α → Prop) : CleanupTrace → Except CleanupError α → Prop :=
  Ends (EndsWeighed plan policy) P

variable {n : Nat} {r' : CleanupReceipt} {t' : CleanupTrace}

theorem signalDelivered_mute (h : ∀ e ∈ es, e.call.IsMute) :
    SignalDelivered (t ++ es) ↔ SignalDelivered t := by
  rw [signalDelivered_append, or_iff_left (not_signalDelivered_mute h)]

theorem Unweighed.extend (h : Unweighed n t r) (hes : ∀ e ∈ es, e.call.IsMute) :
    Unweighed n (t ++ es) r := by
  have hchecks : revivalChecks (t ++ es) = revivalChecks t := by
    rw [revivalChecks_append, revivalChecks_mute hes, List.append_nil]
  refine ⟨h.estimate, (signalDelivered_mute hes).trans h.delivered, ?_, ?_⟩
  · rw [hchecks]
    exact h.checks
  · rw [hchecks]
    exact h.gone

theorem Known.extend (h : Known plan t r) (hes : ∀ e ∈ es, e.call.IsMute) :
    Known plan (t ++ es) r := by
  obtain ⟨s, hs, hbefore⟩ := h.first
  exact ⟨(signalDelivered_mute hes).trans h.delivered,
    ⟨s, hs.mono (List.prefix_append t es), hbefore⟩, h.certain, h.reason⟩

theorem Pending.extend (h : Pending plan n t r) (hes : ∀ e ∈ es, e.call.IsMute)
    (hfound : ¬ FoundAlive es) : Pending plan n (t ++ es) r := by
  refine ⟨h.toUnweighed.extend hes, (h.toKnown.extend hes).first, h.certain, h.reason, h.bare, ?_⟩
  rw [foundAlive_append]
  exact not_or.mpr ⟨h.lost, hfound⟩

theorem Pending.calm (h : Pending plan n t r) (hes : ∀ e ∈ es, e.call.IsCalm) :
    Pending plan n (t ++ es) r :=
  h.extend (fun e he => (hes e he).mute) (not_foundAlive_calm hes)

/-- Only the actions and the resources are weighed. -/
theorem Unweighed.receipt (h : Unweighed n t r) (ha : r'.actions = r.actions)
    (hr : r'.resources = r.resources) : Unweighed n t r' := by
  refine ⟨?_, ?_, h.checks, h.gone⟩
  · rw [hr]
    exact h.estimate
  · rw [CleanupReceipt.Delivered, ha]
    exact h.delivered

/-- **A receipt that ends before anything is weighed.** -/
theorem Unweighed.weighs (h : Unweighed n t r) (hn : n ≤ policy.revivalWindows.length)
    (ha : r'.actions = r.actions) (hr : r'.resources = r.resources) :
    Weighs plan policy t r' := by
  have h' := h.receipt ha hr
  refine ⟨h'.delivered, fun _ => ⟨fun _ s v hlast => Or.inl ⟨?_, ?_⟩, fun _ => h'.estimate⟩,
    fun _ _ _ => h'.estimate⟩
  · exact h.gone (s, v) (List.mem_of_getLast? hlast)
  · rw [h.checks]
    exact hn

/-- Wherever calm calls lead and the cleanup ends short of cleared, its
receipt weighs right. -/
def Settles (plan : CleanupPlan) (policy : CleanupPolicy) (t : CleanupTrace)
    (r : CleanupReceipt) : Prop :=
  ∀ es r', (∀ e ∈ es, e.call.IsCalm) → r'.actions = r.actions → r'.resources = r.resources →
    r'.state ≠ .cleared → Weighs plan policy (t ++ es) r'

theorem Unweighed.settles (h : Unweighed n t r) (hn : n ≤ policy.revivalWindows.length) :
    Settles plan policy t r := by
  intro es r' hes ha hr _
  exact (h.extend fun e he => (hes e he).mute).weighs hn ha hr

theorem Settles.calm (h : Settles plan policy t r) (hes : ∀ e ∈ es, e.call.IsCalm) :
    Settles plan policy (t ++ es) r := by
  intro es' r' hes' ha hr hstate
  rw [List.append_assoc]
  refine h (es ++ es') r' ?_ ha hr hstate
  rw [List.forall_mem_append]
  exact ⟨hes, hes'⟩

/-- The artifacts' half of the receipt is not weighed. -/
theorem Settles.artifacts {as : List ArtifactAction} (h : Settles plan policy t r) :
    Settles plan policy t { r with artifactActions := as } :=
  fun es r' hes ha hr hstate => h es r' hes ha hr hstate

/-- The error is of the receipt: a copy of it that failed, or that of an
action left open. -/
def ErrorOf (r : CleanupReceipt) : CleanupError → Prop
  | .runtime _ r' => r'.actions = r.actions ∧ r'.resources = r.resources ∧ r'.state ≠ .cleared
  | .attemptOpen _ _ _ => True

theorem errorOf_terminalRuntimeError {f : RuntimeFailure} :
    ErrorOf r (terminalRuntimeError r f) := ⟨rfl, rfl, IncidentState.noConfusion⟩

/-- **An error that ends a cleanup weighs right.** -/
theorem Settles.error {e : CleanupError} (h : Settles plan policy t r) (he : ErrorOf r e) :
    EndsWeighed plan policy t e := by
  cases e with
  | runtime f r' =>
      obtain ⟨ha, hr, hstate⟩ := he
      have hweighs := h [] r' (by simp) ha hr hstate
      rwa [List.append_nil] at hweighs
  | attemptOpen f r' actionId => exact trivial

theorem Settles.terminal (h : Settles plan policy t r) (f : RuntimeFailure) :
    EndsWeighed plan policy t (terminalRuntimeError r f) := h.error errorOf_terminalRuntimeError

/-- A completed action is on the receipt as it was answered. -/
theorem delivered_complete {intent : CleanupActionIntent} {d : SignalDisposition} :
    CleanupReceipt.Delivered { r with actions := r.actions ++ [intent.completed d] } ↔
      r.Delivered ∨ d = .delivered := by
  simp only [CleanupReceipt.Delivered, List.mem_append, List.mem_singleton, or_and_right, exists_or,
    exists_eq_left]
  exact Iff.rfl

/-- Against which snapshot the tree grew. -/
theorem FirstSnapshot.grew_iff {first s : Snapshot} (h : FirstSnapshot t first) :
    Grew plan t s ↔ (resourceSnapshot first plan).residentMemoryBytes <
      (resourceSnapshot s plan).residentMemoryBytes := by
  constructor
  · rintro ⟨first', hfirst', hlt⟩
    rwa [h.unique hfirst']
  · intro hlt
    exact ⟨first, h, hlt⟩

/-- The difference the receipt gives, against the first snapshot. -/
theorem Known.compared (h : Known plan t r) {s : Snapshot} :
    (setResourceAfter r (resourceSnapshot s plan)).resources.estimatedReclaimedMemoryBytes = none ↔
      Grew plan t s := by
  obtain ⟨first, hfirst, hbefore⟩ := h.first
  rw [hfirst.grew_iff, setResourceAfter, hbefore]
  by_cases hle : (resourceSnapshot s plan).residentMemoryBytes ≤
      (resourceSnapshot first plan).residentMemoryBytes
  · simp [hle]
  · simp [hle, Nat.lt_of_not_le hle]

/-- What came before the later calls is what the tree is compared with. -/
theorem Known.grew_append (h : Known plan t r) {s : Snapshot} :
    Grew plan (t ++ es) s ↔ Grew plan t s := by
  obtain ⟨first, hfirst, -⟩ := h.first
  rw [hfirst.grew_iff, (hfirst.mono (List.prefix_append t es)).grew_iff]

/-- With no window left and the tree not gone for good, it is the
comparison that decides. -/
theorem unestimated_iff {cs : List (Snapshot × Revalidation)} {s : Snapshot} {v : Revalidation}
    (hchecks : revivalChecks t = cs ++ [(s, v)])
    (hwindows : v.status = .gone → policy.revivalWindows.length ≤ cs.length)
    (htree : v.status = .gone → plan.artifacts = [] → ¬ TreeGone plan t s) :
    Unestimated plan policy t ↔ Grew plan t s := by
  constructor
  · intro h
    have hlast := h s v (by rw [hchecks, List.getLast?_concat])
    rw [hchecks, List.length_append, List.length_singleton] at hlast
    rcases hlast with ⟨hgone, hlen⟩ | hgrew | ⟨hgone, hart, hgoneTree⟩
    · have := hwindows hgone
      omega
    · exact hgrew
    · exact absurd hgoneTree (htree hgone hart)
  · intro hgrew s' v' hlast
    rw [hchecks, List.getLast?_concat, Option.some.injEq, Prod.mk.injEq] at hlast
    obtain ⟨rfl, rfl⟩ := hlast
    exact Or.inr (Or.inl hgrew)

/-- **A receipt that ends weighed, short of cleared.** -/
theorem weighs_of_compared {cs : List (Snapshot × Revalidation)} {s : Snapshot} {v : Revalidation}
    (hdel : SignalDelivered t ↔ r.Delivered) (hchecks : revivalChecks t = cs ++ [(s, v)])
    (hest : r.resources.estimatedReclaimedMemoryBytes = none ↔ Grew plan t s)
    (hwindows : v.status = .gone → policy.revivalWindows.length ≤ cs.length)
    (htree : v.status = .gone → plan.artifacts = [] → ¬ TreeGone plan t s)
    (hstate : r.state ≠ .cleared) : Weighs plan policy t r :=
  ⟨hdel, fun _ => hest.trans (unestimated_iff hchecks hwindows htree).symm,
    fun _ hcleared => absurd hcleared hstate⟩

/-! ## Calm programs -/

/-- A guard that allows every call. -/
def Unguarded : CleanupTrace → Call → Prop := fun _ _ => True

/-- A calm first part leaves the invariants to what follows, and ends the
cleanup with its receipt. -/
theorem Sat.calmThen {α β : Type} {p : ExecM α} {f : α → ExecM β} {Q : CleanupTrace → β → Prop}
    (hs : Settles plan policy t r) (h : p.Only Call.IsCalm) (hthrows : p.Throws (ErrorOf r))
    (hok : ∀ es a, (∀ e ∈ es, e.call.IsCalm) →
      Sat Unguarded (f a) (t ++ es) (Weighing plan policy Q)) :
    Sat Unguarded (p >>= f) t (Weighing plan policy Q) := by
  have hcalm : Sat Unguarded p t _ := Sat.ofOnly h fun _ _ _ => trivial
  refine Sat.bind (hcalm.throws hthrows) ?_ ?_
  · rintro t' a ⟨⟨es, rfl, hes⟩, -⟩
    exact hok es a hes
  · rintro t' e ⟨⟨es, rfl, hes⟩, he⟩
    exact (hs.calm hes).error (he e rfl)

theorem snapshotOrReceiptError_calm : (snapshotOrReceiptError r).Only Call.IsCalm :=
  Prog.Only.ask trivial fun _ => Prog.only_orThrow

theorem snapshotOrReceiptError_throws : (snapshotOrReceiptError r).Throws (ErrorOf r) :=
  Prog.Throws.ask fun _ => Prog.throws_orThrow fun _ => errorOf_terminalRuntimeError

theorem waitInterrupted_calm {duration : Nat} : (waitInterrupted duration r).Only Call.IsCalm := by
  refine Prog.Only.ask trivial fun early => ?_
  cases early with
  | true => exact trivial
  | false =>
      refine Prog.Only.ask trivial fun a => ?_
      rcases a with f | _ | _
      · exact trivial
      · exact ⟨trivial, fun _ => trivial⟩
      · exact trivial

theorem waitInterrupted_throws {duration : Nat} :
    (waitInterrupted duration r).Throws (ErrorOf r) := by
  refine Prog.Throws.ask fun early => ?_
  cases early with
  | true => exact trivial
  | false =>
      refine Prog.Throws.ask fun a => ?_
      rcases a with f | _ | _
      · exact errorOf_terminalRuntimeError
      · exact fun _ => trivial
      · exact trivial

/-- Freezing is calm, and freezes every artifact. -/
theorem freezeArtifacts_maps {cs : List RuntimeArtifactCandidate} (hs : Settles plan policy t r) :
    Sat Unguarded (freezeArtifacts r cs) t (Weighing plan policy fun t' frozen =>
      (∃ es, t' = t ++ es ∧ ∀ e ∈ es, e.call.IsCalm) ∧ frozen.map Prod.fst = cs) := by
  induction cs generalizing t with
  | nil => exact ⟨⟨[], by simp, by simp⟩, rfl⟩
  | cons c cs ih =>
      have hs' : ∀ a, Settles plan policy (t ++ [⟨.freezeArtifact c, a⟩]) r :=
        fun a => hs.calm (by simp [Call.IsCalm])
      refine Sat.ask trivial fun a => Sat.orThrow (fun f _ => ?_) fun f _ => (hs' a).terminal f
      refine Sat.endsThen (ih (hs' a)) ?_
      rintro t' frozen ⟨⟨es, rfl, hes⟩, hmap⟩
      refine ⟨⟨⟨.freezeArtifact c, a⟩ :: es, by simp, ?_⟩, by rw [List.map_cons, hmap]⟩
      rw [List.forall_mem_cons]
      exact ⟨trivial, hes⟩

/-- Completing an action is calm, and puts it on the receipt. -/
theorem completePrepared_acts {intent : CleanupActionIntent} {actionId : String}
    {d : SignalDisposition} :
    Sat Unguarded (completePrepared r intent actionId d) t (Weighing plan policy fun t' r' =>
      (∃ es, t' = t ++ es ∧ ∀ e ∈ es, e.call.IsCalm) ∧
        r' = { r with actions := r.actions ++ [intent.completed d] }) := by
  refine Sat.ask trivial fun at_ => Sat.orThrow (fun completedAt _ => ?_) fun _ _ => trivial
  refine Sat.ask trivial fun done => Sat.orThrow (fun _ _ => ?_) fun _ _ => trivial
  refine ⟨⟨[_, _], List.append_assoc _ _ _, ?_⟩, rfl⟩
  intro e he
  simp only [List.mem_cons, List.not_mem_nil, or_false] at he
  rcases he with rfl | rfl
  · exact trivial
  · exact trivial

/-! ## Observations -/

/-- What walking the targets `ts` tells of them. -/
structure TellsAlive (byPid : OrdMap Pid ProcessRecord) (ts : List ProcessTarget)
    (es : CleanupTrace) (l₀ l : ExactTargetLiveness) : Prop where
  survivors : l.survivors.isEmpty = true ↔ l₀.survivors.isEmpty = true ∧
    (∀ x ∈ ts, byPid.contains x.identity.pid = false) ∧ ¬ FoundAlive es
  missing : l.missingLiveTargets = [] ↔ l₀.missingLiveTargets = [] ∧ ¬ FoundAlive es

/-- Lookups, and nothing else. -/
def Lookups (es : CleanupTrace) : Prop := ∀ e ∈ es, ∃ pid a, e = ⟨.lookupProcess pid, a⟩

theorem Lookups.mute (h : Lookups es) : ∀ e ∈ es, e.call.IsMute := by
  intro e he
  obtain ⟨pid, a, rfl⟩ := h e he
  exact trivial

/-- What an observation comes to. -/
def ObservationTells (byPid : OrdMap Pid ProcessRecord) (ts : List ProcessTarget)
    (l₀ : ExactTargetLiveness) (t t' : CleanupTrace) (o : Except String ExactTargetLiveness) :
    Prop :=
  ∃ es, t' = t ++ es ∧ Lookups es ∧ ∀ l, o = .ok l → TellsAlive byPid ts es l₀ l

/-- An observation goes on behind the lookups of one target. -/
theorem ObservationTells.cons {byPid : OrdMap Pid ProcessRecord} {x : ProcessTarget}
    {ts : List ProcessTarget} {l₀ l₁ : ExactTargetLiveness} {o : Except String ExactTargetLiveness}
    (hes : Lookups es)
    (htells : ∀ es' l, TellsAlive byPid ts es' l₁ l → TellsAlive byPid (x :: ts) (es ++ es') l₀ l)
    (h : ObservationTells byPid ts l₁ (t ++ es) t' o) :
    ObservationTells byPid (x :: ts) l₀ t t' o := by
  obtain ⟨es', ht, hes', ho⟩ := h
  refine ⟨es ++ es', by rw [ht, List.append_assoc], fun e he => ?_, fun l hl => ?_⟩
  · rcases List.mem_append.1 he with he | he
    · exact hes e he
    · exact hes' e he
  · exact htells es' l (ho l hl)

theorem isEmpty_insert {m : Survivors} {pid : Pid} {identity : ProcessIdentity} :
    ¬ (m.insert pid identity).isEmpty = true := by
  rw [OrdMap.isEmpty_iff]
  intro h
  have hpid := h pid
  rw [OrdMap.lookup_insert, if_pos rfl] at hpid
  cases hpid

namespace TellsAlive

variable {byPid : OrdMap Pid ProcessRecord} {x : ProcessTarget} {ts : List ProcessTarget}
  {l₀ l : ExactTargetLiveness} {p : ProcessRecord}

/-- A target in the table. -/
theorem cons_present (hin : byPid.contains x.identity.pid = true)
    (h : TellsAlive byPid ts es
      ⟨l₀.survivors.insert x.identity.pid p.identity, l₀.missingLiveTargets⟩ l) :
    TellsAlive byPid (x :: ts) es l₀ l := by
  refine ⟨?_, h.missing⟩
  rw [h.survivors]
  constructor
  · rintro ⟨hbad, -⟩
    exact absurd hbad isEmpty_insert
  · rintro ⟨-, hall, -⟩
    rw [hall x (by simp)] at hin
    cases hin

/-- A target that is nowhere. -/
theorem cons_absent (hout : byPid.contains x.identity.pid = false)
    (h : TellsAlive byPid ts es l₀ l) :
    TellsAlive byPid (x :: ts) ([⟨.lookupProcess x.identity.pid, .ok none⟩] ++ es) l₀ l := by
  have hfound : FoundAlive ([⟨.lookupProcess x.identity.pid, .ok none⟩] ++ es) ↔
      FoundAlive es := by
    rw [foundAlive_append, or_iff_right]
    rintro ⟨pid, p, he⟩
    cases List.mem_singleton.1 he
  refine ⟨?_, ?_⟩
  · rw [h.survivors, hfound, List.forall_mem_cons, and_iff_right hout]
  · rw [h.missing, hfound]

/-- A target found outside the table. -/
theorem cons_found (h : TellsAlive byPid ts es ⟨l₀.survivors.insert x.identity.pid p.identity,
      l₀.missingLiveTargets ++ [x.identity.pid]⟩ l) :
    TellsAlive byPid (x :: ts) ([⟨.lookupProcess x.identity.pid, .ok (some p)⟩] ++ es) l₀ l := by
  have hfound : FoundAlive ([⟨.lookupProcess x.identity.pid, .ok (some p)⟩] ++ es) :=
    ⟨x.identity.pid, p, by simp⟩
  refine ⟨?_, ?_⟩
  · rw [h.survivors]
    constructor
    · rintro ⟨hbad, -⟩
      exact absurd hbad isEmpty_insert
    · rintro ⟨-, -, hno⟩
      exact absurd hfound hno
  · rw [h.missing]
    constructor
    · rintro ⟨hbad, -⟩
      simp at hbad
    · rintro ⟨-, hno⟩
      exact absurd hfound hno

end TellsAlive

/-- **An observation tells who lives**: the targets of the table, and those
found by a lookup. -/
theorem observeTargets_tells {E : CleanupTrace → CleanupError → Prop}
    {byPid : OrdMap Pid ProcessRecord} {ts : List ProcessTarget} {l₀ : ExactTargetLiveness} :
    Sat Unguarded (observeTargets byPid ts l₀) t (Ends E (ObservationTells byPid ts l₀ t)) := by
  induction ts generalizing t l₀ with
  | nil =>
      refine ⟨[], by simp, by simp [Lookups], ?_⟩
      intro l hl
      obtain rfl := Except.ok.inj hl
      exact ⟨by simp [FoundAlive], by simp [FoundAlive]⟩
  | cons x ts ih =>
      have hone : ∀ a, Lookups [⟨.lookupProcess x.identity.pid, a⟩] := by
        intro a e he
        exact ⟨_, a, List.mem_singleton.1 he⟩
      unfold observeTargets
      cases hp : byPid.lookup x.identity.pid with
      | some p =>
          have hin : byPid.contains x.identity.pid = true := by simp [OrdMap.contains, hp]
          refine sat_bind.2 ?_
          simp only [sat_pure, thenSat_ok]
          by_cases hx : x.identity.exactMatch p.identity = true
          · simp only [hx, Bool.not_true, Bool.false_eq_true, if_false]
            refine ih.mono fun t' o ho => ?_
            rcases o with err | o
            · exact ho
            rw [← List.append_nil t] at ho
            refine ObservationTells.cons (by simp [Lookups]) ?_ ho
            intro es' l hl
            exact hl.cons_present hin
          · simp only [Bool.eq_false_iff.2 hx, Bool.not_false, if_true]
            exact ⟨[], by simp, by simp [Lookups], by simp⟩
      | none =>
          have hout : byPid.contains x.identity.pid = false := by simp [OrdMap.contains, hp]
          refine sat_bind.2 (Sat.ask trivial fun a => ?_)
          rcases a with f | _ | p
          · exact ⟨[⟨.lookupProcess x.identity.pid, .error f⟩], rfl, hone _, by simp⟩
          · change Sat _ (observeTargets byPid ts l₀) _ _
            refine ih.mono fun t' o ho => ?_
            rcases o with err | o
            · exact ho
            exact ObservationTells.cons (hone _) (fun es' l hl => hl.cons_absent hout) ho
          · change Sat _ (if _ then _ else _) _ _
            by_cases hx : x.identity.exactMatch p.identity = true
            · simp only [hx, Bool.not_true, Bool.false_eq_true, if_false, if_true]
              refine ih.mono fun t' o ho => ?_
              rcases o with err | o
              · exact ho
              exact ObservationTells.cons (hone _) (fun es' l hl => hl.cons_found) ho
            · simp only [Bool.eq_false_iff.2 hx, Bool.not_false, if_true]
              exact ⟨[⟨.lookupProcess x.identity.pid, .ok (some p)⟩], rfl, hone _, by simp⟩

/-- **A validation** asks no revival check, and where it lets the survivors
be signalled it found nobody outside the snapshot. -/
theorem validateStage_mute {E : CleanupTrace → CleanupError → Prop} {s : Snapshot} :
    Sat Unguarded (validateStage s plan) t (Ends E fun t' o =>
      ∃ vs, t' = t ++ vs ∧ (∀ e ∈ vs, e.call.IsMute) ∧ ∀ m, o = .ok m → ¬ FoundAlive vs) := by
  refine Sat.endsThen observeTargets_tells ?_
  rintro t' (reason | l) ⟨es, rfl, hes, ho⟩
  · exact ⟨es, rfl, hes.mute, by simp⟩
  have htells := ho l rfl
  by_cases hm : l.missingLiveTargets = []
  · have hlost : ¬ FoundAlive es := (htells.missing.1 hm).2
    simp only [hm, List.isEmpty_nil, Bool.not_true, Bool.false_eq_true, if_false]
    cases hemp : l.survivors.isEmpty with
    | true => exact ⟨es, rfl, hes.mute, fun _ _ => hlost⟩
    | false =>
        simp only [Bool.false_eq_true, if_false]
        refine Sat.ask trivial fun v => ?_
        have hasked : ∀ o : Except String Survivors, ∃ vs, t ++ es ++
            [⟨.revalidate s plan .beforeSignal, v⟩] = t ++ vs ∧ (∀ e ∈ vs, e.call.IsMute) ∧
              ∀ m, o = .ok m → ¬ FoundAlive vs := by
          intro o
          refine ⟨_, List.append_assoc _ _ _, ?_, fun _ _ => ?_⟩
          · rw [List.forall_mem_append, List.forall_mem_singleton]
            exact ⟨hes.mute, trivial⟩
          · rw [foundAlive_append]
            refine not_or.mpr ⟨hlost, ?_⟩
            rintro ⟨pid, p, he⟩
            cases List.mem_singleton.1 he
        obtain ⟨status, reason⟩ := v
        cases status with
        | eligible => exact hasked _
        | gone => exact hasked _
        | blocked => exact hasked _
        | revived => exact hasked _
  · have hne : l.missingLiveTargets.isEmpty = false := by simpa using hm
    simp only [hne, Bool.not_false, if_true]
    exact ⟨es, rfl, hes.mute, by simp⟩

/-! ## One signal -/

/-- A signal leaves nothing estimated, and where it gives no reason to
stop the cleanup goes on. -/
def SignalWeighs (plan : CleanupPlan) : CleanupTrace → Option String × CleanupReceipt → Prop
  | t, (reason, r) => Unweighed 0 t r ∧ (reason = none → Pending plan 0 t r)

/-- The receipt with one more action, answered `d`. -/
theorem Unweighed.complete {intent : CleanupActionIntent} {d : SignalDisposition}
    (h : Unweighed n t r) (hdel : SignalDelivered t' ↔ SignalDelivered t ∨ d = .delivered)
    (hchecks : revivalChecks t' = revivalChecks t) :
    Unweighed n t' { r with actions := r.actions ++ [intent.completed d] } := by
  refine ⟨h.estimate, ?_, ?_, ?_⟩
  · rw [hdel, delivered_complete, h.delivered]
  · rw [hchecks]
    exact h.checks
  · rw [hchecks]
    exact h.gone

/-- An action completed without its effect, for a reason to stop at. -/
theorem complete_unweighed {intent : CleanupActionIntent} {actionId reason : String}
    {d : SignalDisposition} (h : Unweighed 0 t r) (hd : d ≠ .delivered) :
    Sat Unguarded (completePrepared r intent actionId d >>= fun r' => pure (some reason, r')) t
      (Weighing plan policy (SignalWeighs plan)) := by
  refine Sat.endsThen completePrepared_acts ?_
  rintro t' r' ⟨⟨es, rfl, hes⟩, rfl⟩
  have hmute : ∀ e ∈ es, e.call.IsMute := fun e he => (hes e he).mute
  refine ⟨(h.extend hmute).complete ?_ rfl, by simp⟩
  rw [or_iff_left hd]

/-- An action that lets the cleanup go on. -/
theorem Pending.complete {intent : CleanupActionIntent} {d : SignalDisposition}
    (h : Pending plan n t r) (hw : Unweighed n t' { r with
      actions := r.actions ++ [intent.completed d] }) (ht : t <+: t') (hlost : ¬ FoundAlive t')
    (hd : d = .delivered ∨ d = .alreadyExited) :
    Pending plan n t' { r with actions := r.actions ++ [intent.completed d] } := by
  obtain ⟨s, hs, hbefore⟩ := h.first
  refine ⟨hw, ⟨s, hs.mono ht, hbefore⟩, fun a ha => ?_, h.reason, h.bare, hlost⟩
  rcases List.mem_append.1 ha with ha | ha
  · exact h.certain a ha
  · rw [List.mem_singleton.1 ha]
    exact hd

/-- The effect itself, completed with what the runtime answered. -/
theorem deliver_weighs {target : ProcessTarget} {intent : CleanupActionIntent} {actionId : String}
    {sig : CleanupSignal} (h : Pending plan 0 t r) :
    Sat Unguarded
      (do
        let disposition ← Prog.ask (Call.signalExact target.identity sig)
        let receipt ← completePrepared r intent actionId disposition
        return (signalStopReason disposition, receipt)) t
      (Weighing plan policy (SignalWeighs plan)) := by
  refine Sat.ask trivial fun d => Sat.endsThen completePrepared_acts ?_
  rintro t' r' ⟨⟨es, rfl, hes⟩, rfl⟩
  have hmute : ∀ e ∈ es, e.call.IsMute := fun e he => (hes e he).mute
  have hsig : SignalDelivered [⟨.signalExact target.identity sig, d⟩] ↔ d = .delivered := by
    constructor
    · rintro ⟨identity, sig', he⟩
      cases List.mem_singleton.1 he
      rfl
    · rintro rfl
      exact ⟨target.identity, sig, by simp⟩
  have hdel : SignalDelivered (t ++ [⟨.signalExact target.identity sig, d⟩] ++ es) ↔
      SignalDelivered t ∨ d = .delivered := by
    rw [signalDelivered_mute hmute, signalDelivered_append, hsig]
  have hchecks : revivalChecks (t ++ [⟨.signalExact target.identity sig, d⟩] ++ es) =
      revivalChecks t := by
    rw [revivalChecks_append, revivalChecks_append, revivalChecks_mute hmute, List.append_nil]
    exact List.append_nil _
  have hlost : ¬ FoundAlive (t ++ [⟨.signalExact target.identity sig, d⟩] ++ es) := by
    rw [foundAlive_append, foundAlive_append]
    refine not_or.mpr ⟨not_or.mpr ⟨h.lost, ?_⟩, not_foundAlive_calm hes⟩
    rintro ⟨pid, p, he⟩
    cases List.mem_singleton.1 he
  have hw : Unweighed 0 _ { r with actions := r.actions ++ [intent.completed d] } :=
    h.toUnweighed.complete hdel hchecks
  refine ⟨hw, fun hreason => h.complete hw ?_ hlost (signalStopReason_none hreason)⟩
  rw [List.append_assoc]
  exact List.prefix_append _ _

/-- **The second half of a signal.** -/
theorem signalPrepared_weighs {target : ProcessTarget} {intent : CleanupActionIntent}
    {actionId : String} {sig : CleanupSignal} (h : Pending plan 0 t r) :
    Sat Unguarded (signalPrepared plan r target intent actionId sig) t
      (Weighing plan policy (SignalWeighs plan)) := by
  refine Sat.ask trivial fun (early : Bool) => ?_
  have h₁ : Pending plan 0 (t ++ [⟨.shouldStop, early⟩]) r :=
    h.calm (by simp [Call.IsCalm])
  cases early with
  | true => exact complete_unweighed h₁.toUnweighed (by decide)
  | false =>
    refine Sat.ask trivial fun a => ?_
    rcases a with f | s
    · have hclosed : Unweighed 0 (t ++ [⟨.shouldStop, false⟩] ++ [⟨.snapshot, .error f⟩]) r :=
        h₁.toUnweighed.extend (by simp [Call.IsMute])
      refine Sat.endsThen completePrepared_acts ?_
      rintro t' r' ⟨⟨es, rfl, hes⟩, rfl⟩
      -- the row is closed, and the receipt that fails has its action
      have hcomplete : Unweighed 0 _ { r with
          actions := r.actions ++ [intent.completed .cancelledBeforeDelivery] } :=
        (hclosed.extend fun e he => (hes e he).mute).complete (by simp) rfl
      exact (hcomplete.settles (Nat.zero_le _)).terminal f
    have h₂ : Pending plan 0 (t ++ [⟨.shouldStop, false⟩] ++ [⟨.snapshot, .ok s⟩]) r :=
      h₁.calm (by simp [Call.IsCalm])
    refine Sat.endsThen validateStage_mute ?_
    rintro t' (reason | m) ⟨vs, rfl, hvs, hlost⟩
    · -- neither of the two dispositions is a delivery
      refine complete_unweighed (h₂.toUnweighed.extend hvs) ?_
      split_ifs
      · decide
      · decide
    have h₃ := h₂.extend hvs (hlost m rfl)
    cases hlive : m.contains target.identity.pid with
    | false =>
        simp only [hlive, Bool.not_false, if_true]
        refine Sat.endsThen completePrepared_acts ?_
        rintro t' r' ⟨⟨es, rfl, hes⟩, rfl⟩
        have h₄ := h₃.calm hes
        have hw : Unweighed 0 _ { r with
            actions := r.actions ++ [intent.completed .alreadyExited] } :=
          h₄.toUnweighed.complete (by simp) rfl
        exact ⟨hw, fun _ => h₄.complete hw List.prefix_rfl h₄.lost (Or.inr rfl)⟩
    | true =>
        simp only [hlive, Bool.not_true, Bool.false_eq_true, if_false]
        refine Sat.ask trivial fun (late : Bool) => ?_
        have h₄ : Pending plan 0 (_ ++ [⟨.shouldStop, late⟩]) r := h₃.calm (by simp [Call.IsCalm])
        cases late with
        | true => exact complete_unweighed h₄.toUnweighed (by decide)
        | false => exact deliver_weighs h₄

/-- **One signal.** -/
theorem signal_weighs {target : ProcessTarget} {stage : CleanupStage} {sig : CleanupSignal}
    (h : Pending plan 0 t r) :
    Sat Unguarded (signal plan r target stage sig) t
      (Weighing plan policy (SignalWeighs plan)) := by
  refine Sat.ask trivial fun (early : Bool) => ?_
  have h₁ : Pending plan 0 (t ++ [⟨.shouldStop, early⟩]) r := h.calm (by simp [Call.IsCalm])
  cases early with
  | true => exact ⟨h₁.toUnweighed, by simp⟩
  | false =>
    have hs : Settles plan policy (t ++ [⟨.shouldStop, false⟩]) r :=
      h₁.toUnweighed.settles (Nat.zero_le _)
    refine Sat.ask trivial fun c => Sat.orThrow (fun at_ _ => ?_)
      fun f _ => (hs.calm (by simp [Call.IsCalm])).terminal f
    refine Sat.ask trivial fun p => Sat.orThrow (fun actionId _ => ?_)
      fun f _ => ((hs.calm (by simp [Call.IsCalm])).calm (by simp [Call.IsCalm])).terminal f
    refine signalPrepared_weighs ((h₁.calm ?_).calm ?_)
    · simp [Call.IsCalm]
    · simp [Call.IsCalm]

/-! ## The signal stages -/

/-- What a loop of signals leaves. -/
def LoopWeighs {α : Type} (P : CleanupTrace → α → Prop) :
    CleanupTrace → Except (String × CleanupReceipt) α → Prop
  | t, .error (_, r) => Unweighed 0 t r
  | t, .ok a => P t a

/-- **The TERMs in order.** -/
theorem termLoop_weighs {stage : CleanupStage} {selected : List Pid → ProcessTarget → Bool}
    {ts : List ProcessTarget} {attempted : List Pid} (h : Pending plan 0 t r) :
    Sat Unguarded (termLoop plan stage selected ts r attempted) t
      (Weighing plan policy (LoopWeighs fun t a => Pending plan 0 t a.1)) := by
  induction ts generalizing t r attempted with
  | nil => exact h
  | cons x ts ih =>
      unfold termLoop
      by_cases hsel : selected attempted x = true
      · rw [if_pos hsel]
        refine Sat.endsThen (signal_weighs h) ?_
        rintro t' ⟨_ | reason, r'⟩ ⟨hw, hgo⟩
        · exact ih (hgo rfl)
        · exact hw
      · rw [if_neg hsel]
        exact ih h

/-- **The KILLs in order.** -/
theorem killLoop_weighs {survivors : Survivors} {attempted : List Pid} {ts : List ProcessTarget}
    (h : Pending plan 0 t r) :
    Sat Unguarded (killLoop plan survivors attempted ts r) t
      (Weighing plan policy (LoopWeighs fun t r => Pending plan 0 t r)) := by
  induction ts generalizing t r with
  | nil => exact h
  | cons x ts ih =>
      unfold killLoop
      by_cases hin : survivors.contains x.identity.pid = true
      · rw [if_pos hin]
        by_cases hatt : x.identity.pid ∉ attempted
        · rw [if_pos hatt]
          exact h.toUnweighed
        · rw [if_neg hatt]
          refine Sat.endsThen (signal_weighs h) ?_
          rintro t' ⟨_ | reason, r'⟩ ⟨hw, hgo⟩
          · exact ih (hgo rfl)
          · exact hw
      · rw [if_neg hin]
        exact ih h

/-- What a stage leaves: a receipt that weighs right, or a value for the
next stage. -/
def StageWeighs {α : Type} (plan : CleanupPlan) (policy : CleanupPolicy)
    (P : CleanupTrace → α → Prop) : CleanupTrace → Flow α → Prop
  | t, .done r => Weighs plan policy t r
  | t, .next a => P t a

/-- A stage that ends before anything is weighed. -/
theorem Unweighed.failed {reason : String} {pids : List Pid} (h : Unweighed 0 t r) :
    Weighs plan policy t (fail r reason pids) :=
  h.weighs (Nat.zero_le _) rfl rfl

/-- **One TERM stage.** -/
theorem termStage_weighs (policy : CleanupPolicy) {stage : CleanupStage} {grace : Nat}
    {selected : List Pid → ProcessTarget → Bool} {s : StageState}
    (h : Pending plan 0 t s.receipt) :
    Sat Unguarded (termStage plan stage grace selected s) t
      (Weighing plan policy (StageWeighs plan policy fun t s => Pending plan 0 t s.receipt)) := by
  unfold termStage
  by_cases hemp : s.survivors.isEmpty = true
  · rw [if_pos hemp]
    exact h
  · rw [if_neg hemp]
    refine Sat.endsThen (termLoop_weighs h) ?_
    rintro t₁ (⟨reason, r₁⟩ | ⟨r₁, attempted⟩) h₁
    · exact Unweighed.failed h₁
    have hgo₁ : Pending plan 0 t₁ r₁ := h₁
    have hs₁ : Settles plan policy t₁ r₁ := hgo₁.toUnweighed.settles (Nat.zero_le _)
    refine Sat.calmThen hs₁ waitInterrupted_calm waitInterrupted_throws
      fun es interrupted hes => ?_
    have h₂ := hgo₁.calm hes
    cases interrupted with
    | true => exact h₂.toUnweighed.failed
    | false =>
        refine Sat.calmThen (hs₁.calm hes) snapshotOrReceiptError_calm
          snapshotOrReceiptError_throws fun es' snapshot hes' => ?_
        have h₃ := h₂.calm hes'
        refine Sat.endsThen validateStage_mute ?_
        rintro t₄ (reason | survivors) ⟨vs, rfl, hvs, hlost⟩
        · exact (h₃.toUnweighed.extend hvs).failed
        · exact h₃.extend hvs (hlost survivors rfl)

/-- **The KILL stage.** -/
theorem killStage_weighs {s : StageState} (h : Pending plan 0 t s.receipt) :
    Sat Unguarded (killStage plan policy s) t
      (Weighing plan policy (StageWeighs plan policy fun t r => Pending plan 0 t r)) := by
  unfold killStage
  by_cases hemp : s.survivors.isEmpty = true
  · rw [if_pos hemp]
    exact h
  · rw [if_neg hemp]
    refine Sat.endsThen (killLoop_weighs h) ?_
    rintro t₁ (⟨reason, r₁⟩ | r₁) h₁
    · exact Unweighed.failed h₁
    have hgo₁ : Pending plan 0 t₁ r₁ := h₁
    have hs₁ : Settles plan policy t₁ r₁ := hgo₁.toUnweighed.settles (Nat.zero_le _)
    refine Sat.calmThen hs₁ waitInterrupted_calm waitInterrupted_throws
      fun es interrupted hes => ?_
    have h₂ := hgo₁.calm hes
    cases interrupted with
    | true => exact h₂.toUnweighed.failed
    | false =>
        refine Sat.calmThen (hs₁.calm hes) snapshotOrReceiptError_calm
          snapshotOrReceiptError_throws fun es' snapshot hes' => ?_
        have h₃ := h₂.calm hes'
        refine Sat.endsThen observeTargets_tells ?_
        rintro t₄ (reason | l) ⟨vs, rfl, hvs, htells⟩
        · exact (h₃.toUnweighed.extend hvs.mute).failed
        cases hleft : l.survivors.isEmpty with
        | false =>
            simp only [hleft, Bool.not_false, if_true]
            exact (h₃.toUnweighed.extend hvs.mute).failed
        | true =>
            simp only [hleft, Bool.not_true, Bool.false_eq_true, if_false]
            exact h₃.extend hvs.mute ((htells l rfl).survivors.1 hleft).2.2

/-- **The three stages.** -/
theorem signalStages_weighs {s : StageState} (h : Pending plan 0 t s.receipt) :
    Sat Unguarded (signalStages plan policy s) t
      (Weighing plan policy (StageWeighs plan policy fun t r => Pending plan 0 t r)) := by
  refine Sat.endsThen (termStage_weighs policy h) ?_
  rintro t₁ (r₁ | s₁) h₁
  · exact h₁
  refine Sat.endsThen (termStage_weighs policy h₁) ?_
  rintro t₂ (r₂ | s₂) h₂
  · exact h₂
  exact killStage_weighs h₂

/-- **The first stage.** -/
theorem openStage_weighs (policy : CleanupPolicy) :
    Sat Unguarded (openStage plan) [] (Weighing plan policy (StageWeighs plan policy fun t a =>
      Pending plan 0 t a.1.receipt ∧ a.2.map Prod.fst = plan.artifacts)) := by
  have h : Unweighed 0 [] (openReceipt plan) := by
    refine ⟨rfl, ?_, rfl, by simp [revivalChecks]⟩
    simp [SignalDelivered, CleanupReceipt.Delivered, openReceipt]
  refine Sat.ask trivial fun (early : Bool) => ?_
  have h₁ : Unweighed 0 ([] ++ [⟨.shouldStop, early⟩]) (openReceipt plan) :=
    h.extend (by simp [Call.IsMute])
  cases early with
  | true => exact h₁.failed
  | false =>
    have hs₁ : Settles plan policy ([] ++ [⟨.shouldStop, false⟩]) (openReceipt plan) :=
      h₁.settles (Nat.zero_le _)
    refine Sat.askOrThrow trivial (fun a initial ha => ?_)
      fun a f _ => (hs₁.calm (by simp [Call.IsCalm])).terminal f
    obtain rfl : a = .ok initial := ha
    have h₂ : Pending plan 0 ([] ++ [⟨.shouldStop, false⟩] ++ [⟨.snapshot, .ok initial⟩])
        { openReceipt plan with
          resources := { (openReceipt plan).resources with
            before := some (resourceSnapshot initial plan) } } := by
      have hw : Unweighed 0 ([] ++ [⟨.shouldStop, false⟩] ++ [⟨.snapshot, .ok initial⟩])
          (openReceipt plan) := h₁.extend (by simp [Call.IsMute])
      refine ⟨⟨rfl, hw.delivered, hw.checks, hw.gone⟩, ⟨initial, ?_, rfl⟩, by simp [openReceipt],
        rfl, rfl, by simp [FoundAlive]⟩
      exact ⟨[⟨.shouldStop, false⟩], [], rfl, by simp⟩
    refine Sat.endsThen validateStage_mute ?_
    rintro t₃ (reason | survivors) ⟨vs, rfl, hvs, hlost⟩
    · exact (h₂.toUnweighed.extend hvs).failed
    have h₃ := h₂.extend hvs (hlost survivors rfl)
    have hs₃ : Settles plan policy _ _ := h₃.toUnweighed.settles (Nat.zero_le _)
    refine Sat.endsThen (freezeArtifacts_maps hs₃) ?_
    rintro t₄ frozen ⟨⟨es, rfl, hes⟩, hmap⟩
    exact ⟨h₃.calm hes, hmap⟩

/-! ## Revival checks -/

variable {s : Snapshot} {v : Revalidation} {p : CleanupPlan}

theorem revivalChecks_check :
    revivalChecks (t ++ [⟨.revalidate s p .revivalCheck, v⟩]) = revivalChecks t ++ [(s, v)] :=
  revivalChecks_append

theorem signalDelivered_check :
    SignalDelivered (t ++ [⟨.revalidate s p .revivalCheck, v⟩]) ↔ SignalDelivered t := by
  rw [signalDelivered_append, or_iff_left]
  rintro ⟨identity, sig, he⟩
  cases List.mem_singleton.1 he

theorem foundAlive_check :
    FoundAlive (t ++ [⟨.revalidate s p .revivalCheck, v⟩]) ↔ FoundAlive t := by
  rw [foundAlive_append, or_iff_left]
  rintro ⟨pid, q, he⟩
  cases List.mem_singleton.1 he

theorem Known.check (h : Known plan t r) :
    Known plan (t ++ [⟨.revalidate s p .revivalCheck, v⟩]) r := by
  obtain ⟨first, hfirst, hbefore⟩ := h.first
  exact ⟨signalDelivered_check.trans h.delivered,
    ⟨first, hfirst.mono (List.prefix_append t _), hbefore⟩, h.certain, h.reason⟩

/-- A check that was not Gone, weighed, ends the cleanup. -/
theorem Known.refused (h : Known plan t r) (hv : v.status ≠ .gone)
    (ha : r'.actions = r.actions)
    (hr : r'.resources = (setResourceAfter r (resourceSnapshot s plan)).resources)
    (hstate : r'.state ≠ .cleared) :
    Weighs plan policy (t ++ [⟨.revalidate s p .revivalCheck, v⟩]) r' := by
  refine weighs_of_compared ?_ revivalChecks_check ?_ (fun hgone => absurd hgone hv)
    (fun hgone => absurd hgone hv) hstate
  · rw [CleanupReceipt.Delivered, ha]
    exact h.check.delivered
  · rw [hr]
    exact h.check.compared

/-- **The revival windows.** -/
theorem revivalLoop_weighs {windows : List Nat} {terminal : Option Snapshot}
    (h : Pending plan n t r) (hn : n + windows.length ≤ policy.revivalWindows.length) :
    Sat Unguarded (revivalLoop plan windows r terminal) t
      (Weighing plan policy (StageWeighs plan policy fun t a =>
        Pending plan (n + windows.length) t a.1)) := by
  induction windows generalizing n t r terminal with
  | nil => exact h
  | cons window windows ih =>
      unfold revivalLoop
      rw [List.length_cons] at hn
      have hs : Settles plan policy t r := h.toUnweighed.settles (by omega)
      refine Sat.calmThen hs waitInterrupted_calm waitInterrupted_throws
        fun es interrupted hes => ?_
      have h₁ := h.calm hes
      cases interrupted with
      | true => exact h₁.toUnweighed.weighs (by omega) rfl rfl
      | false =>
          refine Sat.calmThen (hs.calm hes) snapshotOrReceiptError_calm
            snapshotOrReceiptError_throws fun es' snapshot hes' => ?_
          have h₂ := h₁.calm hes'
          refine Sat.ask trivial fun v => ?_
          obtain ⟨status, reason⟩ := v
          cases status with
          | gone =>
              have hlen : n + (windows.length + 1) = n + 1 + windows.length := by omega
              rw [List.length_cons, hlen]
              refine ih ⟨⟨h₂.estimate, h₂.toKnown.check.delivered, ?_, ?_⟩, h₂.toKnown.check.first,
                h₂.certain, h₂.reason, h₂.bare, ?_⟩ (by omega)
              · rw [revivalChecks_check, List.length_append, h₂.checks]
                rfl
              · rw [revivalChecks_check, List.forall_mem_append, List.forall_mem_singleton]
                exact ⟨h₂.gone, rfl⟩
              · rw [foundAlive_check]
                exact h₂.lost
          | revived => exact h₂.toKnown.refused (by simp) rfl rfl IncidentState.noConfusion
          | eligible => exact h₂.toKnown.refused (by simp) rfl rfl IncidentState.noConfusion
          | blocked => exact h₂.toKnown.refused (by simp) rfl rfl IncidentState.noConfusion

/-! ## Proofs of the tree gone -/

/-- Where the cleanup is once the tree is proved gone: the last check is
of the proof, and the receipt compares its snapshot with the first. -/
structure ProvedGone (plan : CleanupPlan) (policy : CleanupPolicy) (t : CleanupTrace)
    (r : CleanupReceipt) : Prop extends Known plan t r where
  compared : ∃ cs s v, revivalChecks t = cs ++ [(s, v)] ∧ v.status = .gone ∧
    policy.revivalWindows.length ≤ cs.length ∧
    (r.resources.estimatedReclaimedMemoryBytes = none ↔ Grew plan t s) ∧
    (plan.artifacts = [] → TreeGone plan t s)

/-- **One proof.** Where no check is made the receipt weighs as before. -/
theorem proveGone_weighs {notGone : String} (h : Known plan t r)
    (hn : policy.revivalWindows.length ≤ (revivalChecks t).length)
    (hlost : plan.artifacts = [] → ¬ FoundAlive t)
    (hshort : ∀ es r', Lookups es → r'.actions = r.actions → r'.resources = r.resources →
      r'.state ≠ .cleared → Weighs plan policy (t ++ es) r') :
    Sat Unguarded (proveGone plan s r notGone) t
      (Weighing plan policy (StageWeighs plan policy fun t' r' =>
        ProvedGone plan policy t' r' ∧ r'.artifactActions = r.artifactActions)) := by
  refine Sat.endsThen observeTargets_tells ?_
  rintro t₁ (reason | l) ⟨es, rfl, hes, htells⟩
  · exact hshort es _ hes rfl rfl IncidentState.noConfusion
  have h₁ := h.extend hes.mute
  refine Sat.ask trivial fun v => ?_
  have hchecks : revivalChecks (t ++ es ++ [⟨.revalidate s plan .revivalCheck, v⟩]) =
      revivalChecks t ++ [(s, v)] := by
    rw [revivalChecks_check, revivalChecks_append, revivalChecks_mute hes.mute, List.append_nil]
  obtain ⟨status, reason⟩ := v
  cases status with
  | revived => exact h₁.refused (by simp) rfl rfl IncidentState.noConfusion
  | eligible => exact h₁.refused (by simp) rfl rfl IncidentState.noConfusion
  | blocked => exact h₁.refused (by simp) rfl rfl IncidentState.noConfusion
  | gone =>
      cases hleft : l.survivors.isEmpty with
      | false =>
          simp only [Bool.not_false, if_true]
          refine weighs_of_compared h₁.check.delivered hchecks h₁.check.compared (fun _ => hn) ?_
            IncidentState.noConfusion
          -- the observation found somebody, in the table or outside it
          rintro - - ⟨habsent, hnobody⟩
          rw [foundAlive_check, foundAlive_append] at hnobody
          have hempty := (htells l rfl).survivors.2
            ⟨rfl, habsent, fun hfound => hnobody (Or.inr hfound)⟩
          rw [hleft] at hempty
          cases hempty
      | true =>
          simp only [Bool.not_true, Bool.false_eq_true, if_false]
          obtain ⟨-, habsent, hnobody⟩ := (htells l rfl).survivors.1 hleft
          refine ⟨⟨⟨h₁.check.delivered, h₁.check.first, h₁.certain, h₁.reason⟩, _, s, _, hchecks,
            rfl, hn, h₁.check.compared, fun hart => ⟨habsent, ?_⟩⟩, rfl⟩
          rw [foundAlive_check, foundAlive_append]
          exact not_or.mpr ⟨hlost hart, hnobody⟩

/-- **The revival windows and the terminal proof.** -/
theorem revivalStage_weighs (h : Pending plan 0 t r) :
    Sat Unguarded (revivalStage plan policy r) t
      (Weighing plan policy (StageWeighs plan policy fun t' r' =>
        ProvedGone plan policy t' r' ∧ r'.artifactActions = [])) := by
  have hn : 0 + policy.revivalWindows.length ≤ policy.revivalWindows.length := by omega
  refine Sat.endsThen (revivalLoop_weighs h hn) ?_
  rintro t₁ (r₁ | ⟨r₁, terminal⟩) h₁
  · exact h₁
  rw [StageWeighs, Nat.zero_add] at h₁
  have hprove : ∀ es s, (∀ e ∈ es, e.call.IsCalm) →
      Sat Unguarded (proveGone plan s r₁ "cleanup.terminal_tree_not_gone") (t₁ ++ es)
        (Weighing plan policy (StageWeighs plan policy fun t' r' =>
          ProvedGone plan policy t' r' ∧ r'.artifactActions = [])) := by
    intro es s hes
    have h₂ := h₁.calm hes
    refine (proveGone_weighs h₂.toKnown (ge_of_eq h₂.checks) (fun _ => h₂.lost) ?_).mono ?_
    · intro es' r' hes' ha hr _
      exact (h₂.toUnweighed.extend hes'.mute).weighs le_rfl ha hr
    · rintro t' (err | r' | r') ho
      · exact ho
      · exact ho
      · exact ⟨ho.1, ho.2.trans h₁.bare⟩
  cases terminal with
  | some s =>
      have hsame := hprove [] s (by simp)
      rw [List.append_nil] at hsame
      exact hsame
  | none =>
      exact Sat.calmThen (h₁.toUnweighed.settles le_rfl) snapshotOrReceiptError_calm
        snapshotOrReceiptError_throws fun es s hes => hprove es s hes

/-! ## The artifacts -/

/-- An artifact's action leaves the processes' half of the receipt alone,
and one that completed is on the receipt. -/
structure ArtifactActs (t : CleanupTrace) (r : CleanupReceipt) (t' : CleanupTrace)
    (a : ArtifactDisposition × CleanupReceipt) : Prop where
  calm : ∃ es, t' = t ++ es ∧ ∀ e ∈ es, e.call.IsCalm
  receipt : ∃ as, a.2 = { r with artifactActions := as }
  acted : a.1.completedCleanup = true → a.2.artifactActions ≠ []

theorem revalidateAbsent_calm {c : RuntimeArtifactCandidate} {frozen : ArtifactFreeze} :
    (revalidateAbsent r c frozen).Only Call.IsCalm := by
  cases frozen with
  | absent =>
      refine Prog.Only.ask trivial fun a => ?_
      cases a with
      | ok f => exact trivial
      | error f => exact trivial
  | frozen artifact => exact trivial
  | unsafeArtifact => exact trivial

theorem revalidateAbsent_throws {c : RuntimeArtifactCandidate} {frozen : ArtifactFreeze} :
    (revalidateAbsent r c frozen).Throws (ErrorOf r) := by
  cases frozen with
  | absent =>
      refine Prog.Throws.ask fun a => ?_
      cases a with
      | ok f => exact trivial
      | error f => exact errorOf_terminalRuntimeError
  | frozen artifact => exact trivial
  | unsafeArtifact => exact trivial

theorem deliverArtifact_calm {frozen : ArtifactFreeze} {absent : Option ArtifactFreeze} :
    (deliverArtifact frozen absent).Only Call.IsCalm := by
  refine Prog.Only.ask trivial fun early => ?_
  cases early with
  | true => exact trivial
  | false =>
      cases frozen with
      | absent =>
          cases absent with
          | none => exact trivial
          | some freeze => exact trivial
      | frozen artifact => exact ⟨trivial, fun _ => trivial⟩
      | unsafeArtifact => exact trivial

theorem deliverArtifact_throws {frozen : ArtifactFreeze} {absent : Option ArtifactFreeze} :
    (deliverArtifact frozen absent).Throws (ErrorOf r) := by
  refine Prog.Throws.ask fun early => ?_
  cases early with
  | true => exact trivial
  | false =>
      cases frozen with
      | absent =>
          cases absent with
          | none => exact trivial
          | some freeze => exact trivial
      | frozen artifact => exact fun _ => trivial
      | unsafeArtifact => exact trivial

theorem confirmRemoved_calm {c : RuntimeArtifactCandidate} {d : ArtifactDisposition} :
    (confirmRemoved r c d).Only Call.IsCalm := by
  unfold confirmRemoved
  split_ifs
  · exact trivial
  · refine Prog.Only.ask trivial fun a => Prog.Only.bind Prog.only_orThrow fun frozen => ?_
    cases frozen with
    | absent => exact trivial
    | frozen artifact => exact trivial
    | unsafeArtifact => exact trivial

theorem confirmRemoved_throws {c : RuntimeArtifactCandidate} {d : ArtifactDisposition} :
    (confirmRemoved r c d).Throws (ErrorOf r) := by
  unfold confirmRemoved
  split_ifs
  · exact trivial
  · refine Prog.Throws.ask fun a => Prog.Throws.bind
      (Prog.throws_orThrow fun _ => errorOf_terminalRuntimeError) fun frozen => ?_
    cases frozen with
    | absent => exact trivial
    | frozen artifact => exact trivial
    | unsafeArtifact => exact trivial

/-- Completing an artifact's action is calm, and puts it on the receipt. -/
theorem completeArtifactPrepared_acts {intent : ArtifactActionIntent} {actionId : String}
    {d : ArtifactDisposition} :
    Sat Unguarded (completeArtifactPrepared r intent actionId d) t (Weighing plan policy fun t' r' =>
      (∃ es, t' = t ++ es ∧ ∀ e ∈ es, e.call.IsCalm) ∧
        r' = { r with artifactActions := r.artifactActions ++ [intent.completed d] }) := by
  refine Sat.ask trivial fun at_ => Sat.orThrow (fun completedAt _ => ?_) fun _ _ => trivial
  refine Sat.ask trivial fun done => Sat.orThrow (fun _ _ => ?_) fun _ _ => trivial
  refine ⟨⟨[_, _], List.append_assoc _ _ _, ?_⟩, rfl⟩
  intro e he
  simp only [List.mem_cons, List.not_mem_nil, or_false] at he
  rcases he with rfl | rfl
  · exact trivial
  · exact trivial

/-- **One artifact.** -/
theorem executeArtifactAction_acts {c : RuntimeArtifactCandidate} {frozen : ArtifactFreeze}
    (hs : Settles plan policy t r) :
    Sat Unguarded (executeArtifactAction r c frozen) t
      (Weighing plan policy (ArtifactActs t r)) := by
  refine Sat.ask trivial fun (early : Bool) => ?_
  cases early with
  | true =>
      refine ⟨⟨[⟨.shouldStop, true⟩], rfl, ?_⟩, ⟨r.artifactActions, rfl⟩, fun hbad => by cases hbad⟩
      simp [Call.IsCalm]
  | false =>
      have hs₁ : Settles plan policy (t ++ [⟨.shouldStop, false⟩]) r :=
        hs.calm (by simp [Call.IsCalm])
      refine Sat.calmThen hs₁ revalidateAbsent_calm revalidateAbsent_throws
        fun es absent hes => ?_
      have hs₂ : ∀ a, Settles plan policy
          (t ++ [⟨.shouldStop, false⟩] ++ es ++ [⟨.clockSample, a⟩]) r :=
        fun a => (hs₁.calm hes).calm (by simp [Call.IsCalm])
      refine Sat.ask trivial fun a => Sat.orThrow (fun at_ _ => ?_) fun f _ => (hs₂ a).terminal f
      have hs₃ : ∀ b, Settles plan policy (t ++ [⟨.shouldStop, false⟩] ++ es ++
          [⟨.clockSample, a⟩] ++ [⟨.prepareArtifactAction c.intent at_.wallUnixMillis, b⟩]) r :=
        fun b => (hs₂ a).calm (by simp [Call.IsCalm])
      refine Sat.ask trivial fun b => Sat.orThrow (fun actionId _ => ?_) fun f _ => (hs₃ b).terminal f
      refine Sat.calmThen (hs₃ b) deliverArtifact_calm deliverArtifact_throws fun es' d hes' => ?_
      refine Sat.endsThen completeArtifactPrepared_acts ?_
      rintro t₁ r₁ ⟨⟨ds, rfl, hds⟩, rfl⟩
      refine Sat.calmThen (((hs₃ b).calm hes').calm hds).artifacts confirmRemoved_calm
        confirmRemoved_throws fun es'' d' hes'' => ?_
      refine ⟨⟨[⟨.shouldStop, false⟩] ++ es ++ [⟨.clockSample, a⟩] ++
        [⟨.prepareArtifactAction c.intent at_.wallUnixMillis, b⟩] ++ es' ++ ds ++ es'',
        by simp, ?_⟩, ⟨_, rfl⟩, fun _ => by simp⟩
      simp only [List.forall_mem_append, List.forall_mem_singleton]
      exact ⟨⟨⟨⟨⟨⟨trivial, hes⟩, trivial⟩, trivial⟩, hes'⟩, hds⟩, hes''⟩

/-- What is proved stays proved behind it, with artifacts removed. -/
theorem ProvedGone.extend {as : List ArtifactAction} (h : ProvedGone plan policy t r)
    (hes : ∀ e ∈ es, e.call.IsMute) (hlost : plan.artifacts = [] → ¬ FoundAlive es) :
    ProvedGone plan policy (t ++ es) { r with artifactActions := as } := by
  have hk := h.toKnown.extend hes
  refine ⟨⟨hk.delivered, hk.first, h.certain, h.reason⟩, ?_⟩
  obtain ⟨cs, s, v, hchecks, hv, hlen, hest, htree⟩ := h.compared
  refine ⟨cs, s, v, ?_, hv, hlen, hest.trans h.toKnown.grew_append.symm,
    fun hart => ⟨(htree hart).1, ?_⟩⟩
  · rw [revivalChecks_append, revivalChecks_mute hes, List.append_nil, hchecks]
  · rw [foundAlive_append]
    exact not_or.mpr ⟨(htree hart).2, hlost hart⟩

theorem ProvedGone.calm {as : List ArtifactAction} (h : ProvedGone plan policy t r)
    (hes : ∀ e ∈ es, e.call.IsCalm) :
    ProvedGone plan policy (t ++ es) { r with artifactActions := as } :=
  h.extend (fun e he => (hes e he).mute) fun _ => not_foundAlive_calm hes

/-- **With artifacts in the plan**, whatever ends the cleanup behind the
proof leaves its estimate. -/
theorem ProvedGone.weighs (h : ProvedGone plan policy t r) (hart : plan.artifacts ≠ [])
    (ha : r'.actions = r.actions) (hr : r'.resources = r.resources) (hs : r'.state ≠ .cleared) :
    Weighs plan policy t r' := by
  obtain ⟨cs, s, v, hchecks, -, hlen, hest, -⟩ := h.compared
  refine weighs_of_compared ?_ hchecks ?_ (fun _ => hlen) (fun _ hnone => absurd hnone hart) hs
  · rw [CleanupReceipt.Delivered, ha]
    exact h.delivered
  · rw [hr]
    exact hest

theorem ProvedGone.settles (h : ProvedGone plan policy t r) (hart : plan.artifacts ≠ []) :
    Settles plan policy t r := by
  intro es r' hes ha hr hstate
  have h' : ProvedGone plan policy (t ++ es) r := h.calm hes
  exact h'.weighs hart ha hr hstate

/-- **The artifacts in order.** -/
theorem artifactLoop_weighs {frozen : List (RuntimeArtifactCandidate × ArtifactFreeze)}
    (h : ProvedGone plan policy t r) (hart : frozen ≠ [] → plan.artifacts ≠ []) :
    Sat Unguarded (artifactLoop frozen r) t
      (Weighing plan policy (StageWeighs plan policy fun t' r' =>
        ProvedGone plan policy t' r' ∧
          (r'.artifactActions = [] ↔ r.artifactActions = [] ∧ frozen = []))) := by
  induction frozen generalizing t r with
  | nil => exact ⟨h, by simp⟩
  | cons a rest ih =>
      obtain ⟨candidate, freeze⟩ := a
      unfold artifactLoop
      refine Sat.endsThen (executeArtifactAction_acts (h.settles (hart (by simp)))) ?_
      rintro t₁ ⟨d, r₁⟩ ⟨⟨es, rfl, hes⟩, ⟨as, has⟩, hacted⟩
      obtain rfl : r₁ = { r with artifactActions := as } := has
      have h₁ : ProvedGone plan policy (t ++ es) { r with artifactActions := as } := h.calm hes
      cases hd : d.completedCleanup with
      | false =>
          simp only [hd, Bool.not_false, if_true]
          exact h₁.weighs (hart (by simp)) rfl rfl IncidentState.noConfusion
      | true =>
          simp only [hd, Bool.not_true, Bool.false_eq_true, if_false]
          refine (ih h₁ fun _ => hart (by simp)).mono ?_
          rintro t' (err | r' | r') ho
          · exact ho
          · exact ho
          · refine ⟨ho.1, ho.2.trans ?_⟩
            constructor
            · rintro ⟨hnone, -⟩
              exact absurd hnone (hacted hd)
            · rintro ⟨-, hbad⟩
              cases hbad

/-- **The artifact stage.** -/
theorem artifactStage_weighs {frozen : List (RuntimeArtifactCandidate × ArtifactFreeze)}
    (h : ProvedGone plan policy t r) (hbare : r.artifactActions = [])
    (hmap : frozen.map Prod.fst = plan.artifacts) :
    Sat Unguarded (artifactStage plan frozen r) t
      (Weighing plan policy (StageWeighs plan policy fun t' r' =>
        ProvedGone plan policy t' r' ∧ (r'.artifactActions = [] ↔ plan.artifacts = []))) := by
  have hnil : frozen = [] ↔ plan.artifacts = [] := by
    rw [← hmap, List.map_eq_nil_iff]
  refine Sat.endsThen (artifactLoop_weighs h fun hne => mt hnil.2 hne) ?_
  rintro t₁ (r₁ | r₁) h₁
  · exact h₁
  obtain ⟨hproved, hacted⟩ := h₁
  rw [hbare, eq_self_iff_true, true_and, hnil] at hacted
  cases hemp : plan.artifacts.isEmpty with
  | true =>
      simp only [if_true]
      exact ⟨hproved, hacted⟩
  | false =>
      simp only [Bool.false_eq_true, if_false]
      have hart : plan.artifacts ≠ [] := by simpa using hemp
      refine Sat.calmThen (hproved.settles hart) snapshotOrReceiptError_calm
        snapshotOrReceiptError_throws fun es s hes => ?_
      have h₂ : ProvedGone plan policy (t₁ ++ es) r₁ := hproved.calm hes
      have hlen : policy.revivalWindows.length ≤ (revivalChecks (t₁ ++ es)).length := by
        obtain ⟨cs, s', v, hchecks, -, hlen, -⟩ := h₂.compared
        rw [hchecks, List.length_append]
        exact Nat.le_add_right_of_le hlen
      refine (proveGone_weighs h₂.toKnown hlen (fun hnone => absurd hnone hart) ?_).mono ?_
      · intro es' r' hes' ha hr hs
        have h₃ : ProvedGone plan policy (t₁ ++ es ++ es') r₁ :=
          h₂.extend hes'.mute fun hnone => absurd hnone hart
        exact h₃.weighs hart ha hr hs
      · rintro t' (err | r' | r') ho
        · exact ho
        · exact ho
        · exact ⟨ho.1, by rw [ho.2]; exact hacted⟩

/-! ## The whole cleanup -/

/-- A cleared receipt without a delivery is one that ended without
intervention, unless an artifact was acted on. -/
theorem endedWithoutIntervention_cleared
    (hcertain : ∀ a ∈ r.actions, a.disposition = .delivered ∨ a.disposition = .alreadyExited)
    (hreason : r.reasonId = none) (hdel : ¬ r.Delivered) :
    CleanupReceipt.endedWithoutIntervention { r with state := .cleared } =
      r.artifactActions.isEmpty := by
  have hnone : (r.actions.any fun a => a.disposition == .delivered) = false := by
    rw [List.any_eq_false]
    intro a ha hd
    exact hdel ⟨a, ha, beq_iff_eq.1 hd⟩
  have hunknown : (r.actions.any fun a => a.disposition == .deliveryUnknown) = false := by
    rw [List.any_eq_false]
    intro a ha hd
    rw [beq_iff_eq] at hd
    rcases hcertain a ha with h | h
    · rw [h] at hd
      cases hd
    · rw [h] at hd
      cases hd
  cases hart : r.artifactActions with
  | nil =>
      simp [CleanupReceipt.endedWithoutIntervention, CleanupReceipt.outcome,
        CleanupReceipt.processOutcome, CleanupReceipt.artifactOutcome,
        CleanupReceipt.provesProcessReclaim, CleanupReceipt.signalDeliveryUnknown,
        CleanupReceipt.artifactDeliveryUnknown, CleanupReceipt.artifactResidueReason,
        CleanupReceipt.overallOutcome, hreason, hnone, hunknown]
  | cons a as => simp [CleanupReceipt.endedWithoutIntervention]

/-- So its estimate is dropped without artifact actions, and kept with
them. -/
theorem clearedReceipt_estimate
    (hcertain : ∀ a ∈ r.actions, a.disposition = .delivered ∨ a.disposition = .alreadyExited)
    (hreason : r.reasonId = none) (hdel : ¬ r.Delivered) :
    (clearedReceipt r).resources.estimatedReclaimedMemoryBytes =
      if r.artifactActions = [] then none else r.resources.estimatedReclaimedMemoryBytes := by
  have hended := endedWithoutIntervention_cleared hcertain hreason hdel
  by_cases hart : r.artifactActions = []
  · have hnil : r.artifactActions.isEmpty = true := by simp [hart]
    rw [hnil] at hended
    rw [if_pos hart, clearedReceipt, if_pos hended]
  · have hne : r.artifactActions.isEmpty = false := by simpa using hart
    rw [hne] at hended
    have hended' : ¬ CleanupReceipt.endedWithoutIntervention
        { r with state := .cleared } = true := by
      rw [hended]
      exact Bool.false_ne_true
    rw [if_neg hart, clearedReceipt, if_neg hended', if_neg (by rw [hne]; exact Bool.false_ne_true)]

/-- **The cleared receipt.** -/
theorem ProvedGone.cleared (h : ProvedGone plan policy t r)
    (hacted : r.artifactActions = [] ↔ plan.artifacts = []) :
    Weighs plan policy t (clearedReceipt r) := by
  obtain ⟨hactions, hartifacts, -⟩ := clearedReceipt_actions r
  obtain ⟨cs, s, v, hchecks, hv, hlen, hest, htree⟩ := h.compared
  have hdelivered : SignalDelivered t ↔ (clearedReceipt r).Delivered := by
    rw [CleanupReceipt.Delivered, hactions]
    exact h.delivered
  refine ⟨hdelivered, fun hdel => ?_, fun hdel _ hnone => ?_⟩
  · rw [h.delivered] at hdel
    rw [clearedReceipt_estimate h.certain h.reason hdel]
    by_cases hart : plan.artifacts = []
    · rw [if_pos (hacted.2 hart)]
      refine ⟨fun _ s' v' hlast => Or.inr (Or.inr ?_), fun _ => rfl⟩
      rw [hchecks, List.getLast?_concat, Option.some.injEq, Prod.mk.injEq] at hlast
      obtain ⟨rfl, rfl⟩ := hlast
      exact ⟨hv, hart, htree hart⟩
    · rw [if_neg (mt hacted.1 hart)]
      exact hest.trans (unestimated_iff hchecks (fun _ => hlen)
        fun _ hnone => absurd hnone hart).symm
  · rw [h.delivered] at hdel
    rw [hartifacts] at hnone
    rw [clearedReceipt_estimate h.certain h.reason hdel, if_pos hnone]

/-- **Every run of the executor weighs right.** -/
theorem execute_weighs :
    Sat Unguarded (execute plan policy) [] (Weighing plan policy (Weighs plan policy)) := by
  refine Sat.endsThen (openStage_weighs policy) ?_
  rintro t₁ (r₁ | ⟨s, frozen⟩) h₁
  · exact h₁
  obtain ⟨hpend, hmap⟩ := h₁
  refine Sat.endsThen (signalStages_weighs hpend) ?_
  rintro t₂ (r₂ | r₂) h₂
  · exact h₂
  refine Sat.endsThen (revivalStage_weighs h₂) ?_
  rintro t₃ (r₃ | r₃) h₃
  · exact h₃
  refine Sat.endsThen (artifactStage_weighs h₃.1 h₃.2 hmap) ?_
  rintro t₄ (r₄ | r₄) h₄
  · exact h₄
  exact h₄.1.cleared h₄.2

end Unlinger
