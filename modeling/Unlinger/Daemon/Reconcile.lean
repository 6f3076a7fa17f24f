import Unlinger.Core.Helpers.Execute
import Unlinger.Daemon.Helpers.Store

/-!
# Reconciling while others commit

A cycle reconciles retry blocks and protections with the time it began at,
after it has waited for its second snapshot. Meanwhile the owner and the
cleanup worker commit rows with times of their own. The schema refuses a
stamp before the row it is on, so a cycle is tolerant of what others commit
exactly as long as no row it stamps was committed after its start.
-/

namespace Unlinger

/-! ## A cycle among other commits -/

/-- What a cycle reconciles with: what it saw, when it began, and how long
an absence has to last. -/
structure Cycle where
  view : CycleView
  now : Nat
  retention : Nat
  deriving DecidableEq

/-- What happens to the store during a cycle: others commit, and the cycle
reconciles. -/
inductive CycleStep
  | commit (op : StoreOp)
  | reconcileRetryBlocks
  | reconcileIncidentProtections

namespace Cycle

/-- The store after a step, or the error that fails the cycle. -/
def step (c : Cycle) (s : Store) : CycleStep → Except StoreError Store
  | .commit op => .ok (s.committed op)
  | .reconcileRetryBlocks => (s.reconcileRetryBlocks c.view c.now c.retention).map Prod.fst
  | .reconcileIncidentProtections =>
      (s.reconcileIncidentProtections c.view c.now c.retention).map Prod.fst

end Cycle

/-! ## One row -/

namespace Presence

/-- A reconciliation writes its time into the row. -/
def stamped (p : Presence) (observed absenceProven : Bool) : Bool :=
  observed || absenceProven && p.absenceSince.isNone

/-- What a reconciliation makes of a row; `none` where it retires it. -/
inductive Becomes (p : Presence) (observed absenceProven : Bool) (now retention : Nat) :
    Option Presence → Prop
  | seen (q : Presence) (hobserved : observed = true) (hsince : q.since = p.since)
      (hlast : q.lastExactObservedAt = some now) (habsence : q.absenceSince = none) :
      Becomes p observed absenceProven now retention (some q)
  | unproven (q : Presence) (hobserved : observed = false) (hproven : absenceProven = false)
      (hsince : q.since = p.since) (hlast : q.lastExactObservedAt = p.lastExactObservedAt)
      (habsence : q.absenceSince = none) : Becomes p observed absenceProven now retention (some q)
  | absent (q : Presence) (hobserved : observed = false) (hproven : absenceProven = true)
      (hpresent : p.absenceSince = none) (hsince : q.since = p.since)
      (hlast : q.lastExactObservedAt = p.lastExactObservedAt) (habsence : q.absenceSince = some now) :
      Becomes p observed absenceProven now retention (some q)
  | waiting (hobserved : observed = false) (hproven : absenceProven = true)
      (habsent : p.absenceSince ≠ none) (hlasting : p.retires now retention = false) :
      Becomes p observed absenceProven now retention (some p)
  | retired (hobserved : observed = false) (hproven : absenceProven = true)
      (hlasted : p.retires now retention = true) : Becomes p observed absenceProven now retention none

variable {p : Presence} {table : String} {observed absenceProven : Bool} {now retention : Nat}
  {o : Option Presence}

/-- A row is reconciled unless it would be stamped before it began. -/
theorem reconcile_ok_iff :
    (∃ o, p.reconcile table observed absenceProven now retention = .ok o) ↔
      (p.stamped observed absenceProven = true → p.since ≤ now) := by
  unfold reconcile stamped
  by_cases hle : p.since ≤ now
  · simp only [hle, dif_pos, implies_true, iff_true]
    split_ifs
    all_goals exact ⟨_, rfl⟩
  · simp only [hle, dif_neg, not_false_iff, imp_false, Bool.not_eq_true]
    cases observed with
    | true => simp
    | false =>
        cases absenceProven with
        | false => simp
        | true =>
            cases p.absenceSince with
            | none => simp
            | some since =>
                by_cases hretires : p.retires now retention = true
                · simp [hretires]
                · simp [hretires]

theorem reconcile_becomes (h : p.reconcile table observed absenceProven now retention = .ok o) :
    p.Becomes observed absenceProven now retention o := by
  unfold reconcile at h
  split_ifs at h with hobserved hle hproven habsence hle' hretires
  · obtain rfl := Except.ok.inj h
    exact .seen _ hobserved rfl rfl rfl
  · obtain rfl := Except.ok.inj h
    exact .unproven _ (by simpa using hobserved) (by simpa using hproven) rfl rfl rfl
  · obtain rfl := Except.ok.inj h
    exact .absent _ (by simpa using hobserved) (by simpa using hproven) habsence rfl rfl rfl
  · obtain rfl := Except.ok.inj h
    exact .retired (by simpa using hobserved) (by simpa using hproven) hretires
  · obtain rfl := Except.ok.inj h
    exact .waiting (by simpa using hobserved) (by simpa using hproven) habsence
      (by simpa using hretires)

end Presence

/-! ## One table -/

section Rows

variable {ν : Type} {presence : ν → Presence} {withPresence : ν → Presence → ν}
  {observed : String → ν → Option Bool} {c : Cycle} {old new : OrdMap String ν} {table : String}

/-- No row that a reconciliation would stamp began after the cycle did. -/
def RowsInOrder (presence : ν → Presence) (observed : String → ν → Option Bool) (c : Cycle)
    (rows : OrdMap String ν) : Prop :=
  ∀ k v seen, rows.lookup k = some v → observed k v = some seen →
    (presence v).stamped seen c.view.absenceProven = true → (presence v).since ≤ c.now

/-- The rows are set as the cycle saw them, within the checks of the
schema; a row the reconciliation does not find is as it was. -/
structure Reconciled (presence : ν → Presence) (withPresence : ν → Presence → ν)
    (observed : String → ν → Option Bool) (c : Cycle) (old new : OrdMap String ν) : Prop where
  rows : ∀ k v seen, old.lookup k = some v → observed k v = some seen →
    ∃ o, (presence v).Becomes seen c.view.absenceProven c.now c.retention o ∧
      new.lookup k = o.map (withPresence v)
  others : ∀ k, (∀ v, old.lookup k = some v → observed k v = none) → new.lookup k = old.lookup k
  checked : ∀ k v, new.lookup k = some v →
    (∀ t ∈ (presence v).lastExactObservedAt, (presence v).since ≤ t) ∧
      ∀ t ∈ (presence v).absenceSince, (presence v).since ≤ t

/-- How both reconciliations rewrite a row. -/
def reconcileRow (presence : ν → Presence) (withPresence : ν → Presence → ν)
    (observed : String → ν → Option Bool) (c : Cycle) (table : String) (k : String) (v : ν) :
    Except StoreError (Option ν) :=
  match observed k v with
  | none => .ok (some v)
  | some seen =>
      ((presence v).reconcile table seen c.view.absenceProven c.now c.retention).map fun p =>
        p.map (withPresence v)

/-- The rows are rewritten exactly when they are in order. -/
theorem rewrite_reconcileRow_iff (withPresence : ν → Presence → ν) (table : String) :
    (∃ new, old.rewrite (reconcileRow presence withPresence observed c table) = .ok new) ↔
      RowsInOrder presence observed c old := by
  rw [OrdMap.rewrite_ok_iff]
  refine forall_congr' fun k => forall_congr' fun v => ?_
  unfold reconcileRow
  constructor
  · intro hall seen hv hseen
    obtain ⟨o, ho⟩ := hall hv
    simp only [hseen, map_eq_ok] at ho
    obtain ⟨q, hq, -⟩ := ho
    exact Presence.reconcile_ok_iff.1 ⟨q, hq⟩
  · intro hall hv
    cases hseen : observed k v with
    | none => exact ⟨some v, rfl⟩
    | some seen =>
        have hok : ∃ q, (presence v).reconcile table seen c.view.absenceProven c.now c.retention
            = .ok q := Presence.reconcile_ok_iff.2 (hall seen hv hseen)
        obtain ⟨q, hq⟩ := hok
        exact ⟨_, map_eq_ok.2 ⟨q, hq, rfl⟩⟩

theorem rewrite_reconcileRow_reconciled
    (h : old.rewrite (reconcileRow presence withPresence observed c table) = .ok new) :
    Reconciled presence withPresence observed c old new := by
  refine ⟨fun k v seen hv hseen => ?_, fun k hother => ?_, fun k v _ =>
    ⟨(presence v).observedInOrder, (presence v).absentInOrder⟩⟩
  · obtain ⟨o, ho⟩ := OrdMap.rewrite_ok_iff.1 ⟨new, h⟩ k v hv
    have hrow := ho
    simp only [reconcileRow, hseen, map_eq_ok] at ho
    obtain ⟨q, hq, rfl⟩ := ho
    refine ⟨q, Presence.reconcile_becomes hq, ?_⟩
    ext w
    rw [OrdMap.lookup_rewrite h]
    constructor
    · rintro ⟨v', hv', hw⟩
      obtain rfl : v = v' := Option.some.inj (hv.symm.trans hv')
      rw [hrow] at hw
      exact Except.ok.inj hw
    · intro hw
      exact ⟨v, hv, hrow.trans (congrArg Except.ok hw)⟩
  · ext w
    rw [OrdMap.lookup_rewrite h]
    constructor
    · rintro ⟨v, hv, hw⟩
      simp only [reconcileRow, hother v hv, Except.ok.injEq] at hw
      exact hv.trans hw
    · intro hw
      exact ⟨w, hw, by simp only [reconcileRow, hother w hw]⟩

end Rows

/-! ## The two tables -/

namespace Cycle

variable {c : Cycle} {s s' : Store}

/-- The times fit their columns. -/
structure Fits (c : Cycle) : Prop where
  now : c.now < 2 ^ 63
  retention : c.retention < 2 ^ 63

/-- No retry block the cycle would stamp was committed after its start. -/
def BlocksInOrder (c : Cycle) (s : Store) : Prop :=
  RowsInOrder RetryBlock.presence (s.blockObserved c.view) c s.retryBlocks

/-- No protection the cycle would stamp was committed after its start. -/
def ProtectionsInOrder (c : Cycle) (s : Store) : Prop :=
  RowsInOrder IncidentProtection.presence
    (fun _ p => some (Store.protectionObserved c.view p)) c s.protections

/-- The condition of a step, on the store it finds. -/
def StampsInOrder (c : Cycle) (s : Store) : CycleStep → Prop
  | .commit _ => True
  | .reconcileRetryBlocks => c.Fits ∧ c.BlocksInOrder s
  | .reconcileIncidentProtections => c.Fits ∧ c.ProtectionsInOrder s

/-- A step set the rows of its table, and nothing else. -/
def Consistent (c : Cycle) (s : Store) (s' : Store) : CycleStep → Prop
  | .commit _ => True
  | .reconcileRetryBlocks => ∃ blocks, s' = { s with retryBlocks := blocks } ∧
      Reconciled RetryBlock.presence (fun b p => { b with presence := p }) (s.blockObserved c.view)
        c s.retryBlocks blocks
  | .reconcileIncidentProtections => ∃ rows, s' = { s with protections := rows } ∧
      Reconciled IncidentProtection.presence (fun b p => { b with presence := p })
        (fun _ p => some (Store.protectionObserved c.view p)) c s.protections rows

/-- The cycle gets through the steps, and sets every row consistently. -/
def Tolerates (c : Cycle) : Store → List CycleStep → Prop
  | _, [] => True
  | s, step :: steps => ∃ s', c.step s step = .ok s' ∧ c.Consistent s s' step ∧ c.Tolerates s' steps

/-- Every step of a run meets its condition. -/
def InOrder (c : Cycle) : Store → List CycleStep → Prop
  | _, [] => True
  | s, step :: steps => c.StampsInOrder s step ∧ ∀ s', c.step s step = .ok s' → c.InOrder s' steps

/-- What reconciling the retry blocks comes to. -/
theorem reconcileRetryBlocks_eq_ok (hret : 0 < c.retention) :
    c.step s .reconcileRetryBlocks = .ok s' ↔ c.Fits ∧ ∃ blocks,
      s.retryBlocks.rewrite (reconcileRow RetryBlock.presence (fun b p => { b with presence := p })
        (s.blockObserved c.view) c "cleanup_retry_blocks") = .ok blocks ∧
      s' = { s with retryBlocks := blocks } := by
  simp only [step, Store.reconcileRetryBlocks, map_eq_ok, bind_eq_ok, require_eq_ok, exists_const,
    sqliteMillis_eq_ok, pure_eq_ok]
  constructor
  · rintro ⟨_, ⟨-, _, ⟨hnow, rfl⟩, _, ⟨hr, rfl⟩, blocks, hblocks, rfl⟩, rfl⟩
    exact ⟨⟨hnow, hr⟩, blocks, hblocks, rfl⟩
  · rintro ⟨⟨hnow, hr⟩, blocks, hblocks, rfl⟩
    exact ⟨_, ⟨Nat.ne_of_gt hret, _, ⟨hnow, rfl⟩, _, ⟨hr, rfl⟩, blocks, hblocks, rfl⟩, rfl⟩

/-- What reconciling the protections comes to. -/
theorem reconcileIncidentProtections_eq_ok (hret : 0 < c.retention) :
    c.step s .reconcileIncidentProtections = .ok s' ↔ c.Fits ∧ ∃ rows,
      s.protections.rewrite (reconcileRow IncidentProtection.presence
        (fun b p => { b with presence := p })
        (fun _ p => some (Store.protectionObserved c.view p)) c "incident_protections") = .ok rows ∧
      s' = { s with protections := rows } := by
  simp only [step, Store.reconcileIncidentProtections, map_eq_ok, bind_eq_ok, require_eq_ok,
    exists_const, sqliteMillis_eq_ok, pure_eq_ok]
  constructor
  · rintro ⟨_, ⟨-, _, ⟨hnow, rfl⟩, _, ⟨hr, rfl⟩, rows, hrows, rfl⟩, rfl⟩
    exact ⟨⟨hnow, hr⟩, rows, hrows, rfl⟩
  · rintro ⟨⟨hnow, hr⟩, rows, hrows, rfl⟩
    exact ⟨_, ⟨Nat.ne_of_gt hret, _, ⟨hnow, rfl⟩, _, ⟨hr, rfl⟩, rows, hrows, rfl⟩, rfl⟩

/-- A step succeeds exactly under its condition. -/
theorem step_ok_iff (hret : 0 < c.retention) {step : CycleStep} :
    (∃ s', c.step s step = .ok s') ↔ c.StampsInOrder s step := by
  cases step with
  | commit op => exact iff_of_true ⟨_, rfl⟩ trivial
  | reconcileRetryBlocks =>
      simp only [reconcileRetryBlocks_eq_ok hret, StampsInOrder, BlocksInOrder]
      rw [← rewrite_reconcileRow_iff (fun b p => { b with presence := p }) "cleanup_retry_blocks"]
      constructor
      · rintro ⟨_, hfits, blocks, hblocks, -⟩
        exact ⟨hfits, blocks, hblocks⟩
      · rintro ⟨hfits, blocks, hblocks⟩
        exact ⟨_, hfits, blocks, hblocks, rfl⟩
  | reconcileIncidentProtections =>
      simp only [reconcileIncidentProtections_eq_ok hret, StampsInOrder, ProtectionsInOrder]
      rw [← rewrite_reconcileRow_iff (fun b p => { b with presence := p }) "incident_protections"]
      constructor
      · rintro ⟨_, hfits, rows, hrows, -⟩
        exact ⟨hfits, rows, hrows⟩
      · rintro ⟨hfits, rows, hrows⟩
        exact ⟨_, hfits, rows, hrows, rfl⟩

/-- A step that succeeds is consistent. -/
theorem step_consistent (hret : 0 < c.retention) {step : CycleStep} (h : c.step s step = .ok s') :
    c.Consistent s s' step := by
  cases step with
  | commit op => trivial
  | reconcileRetryBlocks =>
      obtain ⟨-, blocks, hblocks, rfl⟩ := (reconcileRetryBlocks_eq_ok hret).1 h
      exact ⟨blocks, rfl, rewrite_reconcileRow_reconciled hblocks⟩
  | reconcileIncidentProtections =>
      obtain ⟨-, rows, hrows, rfl⟩ := (reconcileIncidentProtections_eq_ok hret).1 h
      exact ⟨rows, rfl, rewrite_reconcileRow_reconciled hrows⟩

/-- **A cycle tolerates what others commit exactly as long as no row it
stamps is younger than its start**: over every interleaving, from every
store. -/
theorem tolerates_iff (hret : 0 < c.retention) {steps : List CycleStep} :
    c.Tolerates s steps ↔ c.InOrder s steps := by
  induction steps generalizing s with
  | nil => exact Iff.rfl
  | cons step steps ih =>
      simp only [Tolerates, InOrder, ← step_ok_iff hret]
      constructor
      · rintro ⟨s', hs', -, hrest⟩
        refine ⟨⟨s', hs'⟩, fun s'' hs'' => ?_⟩
        -- the step has one outcome
        obtain rfl : s' = s'' := Except.ok.inj (hs'.symm.trans hs'')
        exact ih.1 hrest
      · rintro ⟨⟨s', hs'⟩, hrest⟩
        exact ⟨s', hs', step_consistent hret hs', ih.2 (hrest s' hs')⟩

/-- The commits that may come between: the owner protects an incident, or
the worker ends a cleanup that did not clear, at `now` or later. -/
def Commits (now : Nat) : StoreOp → Prop
  | .protectIncident _ t => now ≤ t
  | .commitPublicOrdinaryMutation _ (.protectIncident _) _ t => now ≤ t
  | .completeCleanupAttempt _ t receipt =>
      now ≤ t ∧ (receipt.state = .failed ∨ receipt.state = .revived)
  | _ => False

/-- An incident was observed. -/
def observedStore : Store := Store.built [.recordObservation 5 sampleReport]

/-- A cycle that began at 10 and sees the root live. -/
def sampleCycle : Cycle := ⟨⟨[], ["root"], true⟩, 10, 1000⟩

/-- The owner protects the incident at a time. -/
def protectAt (t : Nat) : StoreOp :=
  .commitPublicOrdinaryMutation ⟨Store.sampleToken.value, "00000000-0000-4000-8000-000000000001"⟩
    (.protectIncident "incident") {} t

/-- The incident is protected at 12; the cycle would stamp the protection
with 10, and fails. -/
theorem late_protection_fails_cycle : ¬ ∀ (c : Cycle) (s : Store) (steps : List CycleStep),
    s.Reachable → 0 < c.retention → c.Fits → (∀ op, CycleStep.commit op ∈ steps → Commits c.now op) →
      c.Tolerates s steps := by
  intro hall
  have hcommits : ∀ op, CycleStep.commit op ∈ [CycleStep.commit (protectAt 12),
      .reconcileRetryBlocks, .reconcileIncidentProtections] → Commits sampleCycle.now op := by
    intro op hop
    simp only [List.mem_cons, CycleStep.commit.injEq, reduceCtorEq, List.not_mem_nil, or_false] at hop
    subst hop
    show 10 ≤ 12
    decide
  have htolerates := hall sampleCycle observedStore _ Store.built_reachable (by decide)
    ⟨by decide, by decide⟩ hcommits
  obtain ⟨s₁, h₁, -, s₂, h₂, -, s₃, h₃, -⟩ := htolerates
  obtain rfl := Except.ok.inj h₁
  have hfails : ((sampleCycle.step (observedStore.committed (protectAt 12)) .reconcileRetryBlocks).bind
      fun s => sampleCycle.step s .reconcileIncidentProtections).toOption.isNone = true := by
    decide +kernel
  rw [h₂] at hfails
  simp only [Except.bind, h₃] at hfails
  cases hfails

/-- A protection at 10 is in order. -/
theorem tolerates_iff_protected_at_start : 0 < sampleCycle.retention ∧
    sampleCycle.Tolerates observedStore [.commit (protectAt 10), .reconcileIncidentProtections] := by
  have hsince : ((observedStore.committed (protectAt 10)).protections.entries.all fun e =>
      decide (e.2.presence.since ≤ 10)) = true := by
    decide +kernel
  refine ⟨by decide, (tolerates_iff (by decide)).2 ⟨trivial, fun s' hs' => ?_⟩⟩
  obtain rfl := Except.ok.inj hs'
  refine ⟨⟨⟨by decide, by decide⟩, fun k v seen hv _ _ => ?_⟩, fun _ _ => trivial⟩
  have hle : v.presence.since ≤ 10 := by
    simpa using List.all_eq_true.1 hsince (k, v) (OrdMap.lookup_eq_some.1 hv)
  exact hle

end Cycle

end Unlinger
