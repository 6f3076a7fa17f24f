import Unlinger.Core.Helpers.Execute
import Unlinger.Daemon.Helpers.History
import Unlinger.Daemon.Model.Engine

/-!
# Failing closed, live and durable

A cleanup that ended badly is judged twice: the engine decides from the
receipt whether the daemon fails closed, and the store decides from the
rows of the blocked attempts whether it may be armed again. The two agree
except for one kind of receipt: a tree that is gone, with a residue left
on purpose, after a signal of ours. There the daemon goes on, and yet is
not armed after its next start.
-/

namespace Unlinger

/-- Something of ours was delivered. -/
def CleanupReceipt.deliveredSideEffect (r : CleanupReceipt) : Bool :=
  r.actions.any (fun a => a.disposition == .delivered)
    || r.artifactActions.any (fun a => a.disposition == .removed)

/-- Something of ours may have been delivered. -/
def CleanupReceipt.uncertain (r : CleanupReceipt) : Bool :=
  r.actions.any (fun a => a.disposition == .deliveryUnknown)
    || r.artifactActions.any (fun a => a.disposition == .deliveryUnknown)

/-- The engine's decision, on a receipt that did not clear. -/
theorem receiptRequiresGlobalFailClose_iff {r : CleanupReceipt} (h : r.state ≠ .cleared) :
    receiptRequiresGlobalFailClose r = true ↔
      r.uncertain = true ∨
        (r.outcome.overall ≠ .clearedWithResidue ∧ r.deliveredSideEffect = true) := by
  simp only [receiptRequiresGlobalFailClose, CleanupReceipt.uncertain,
    CleanupReceipt.deliveredSideEffect]
  split_ifs with huncertain hresidue
  · simp [huncertain]
  · simp [huncertain, hresidue]
  · simp [huncertain, hresidue, h]

/-- What is uncertain is not cleared, with residue or without. -/
theorem not_uncertain_of_residue {r : CleanupReceipt}
    (h : r.outcome.overall = .clearedWithResidue) : r.uncertain = false := by
  by_contra hnot
  rw [Bool.not_eq_false, CleanupReceipt.uncertain, Bool.or_eq_true] at hnot
  have hoverall : CleanupReceipt.overallOutcome r.processOutcome r.artifactOutcome
      = .clearedWithResidue := h
  rcases hnot with hsignal | hartifact
  · have hprocess : r.processOutcome = .deliveryUnknown :=
      if_pos hsignal
    rw [hprocess] at hoverall
    cases hoverall
  · have hart : r.artifactOutcome = .deliveryUnknown :=
      if_pos (by rw [CleanupReceipt.artifactDeliveryUnknown, hartifact, Bool.true_or])
    rw [hart] at hoverall
    cases hprocess : r.processOutcome with
    | _ => rw [hprocess] at hoverall; cases hoverall

namespace Store

variable {s s' : Store} {attempt : CleanupAttemptHandle} {a : CleanupAttempt} {t : Nat}
  {receipt settled : CleanupReceipt}

/-- The store with the retry block of one incident alone. -/
def onlyBlockOf (s : Store) (incidentId : String) : Store :=
  { s with retryBlocks := s.retryBlocks.filter fun id _ => id == incidentId }

/-- The receipt of an attempt, with its actions as they are journalled. -/
def journalled (s : Store) (attemptId : Nat) (receipt : CleanupReceipt) :
    Except StoreError CleanupReceipt := do
  let actions ← s.actionsForAttempt attemptId
  let artifactActions ← s.artifactActionsForAttempt attemptId
  return { receipt with actions := actions, artifactActions := artifactActions }

/-- The journalled receipt leaves a residue after a delivered side
effect. -/
def leavesResidue (s : Store) (attemptId : Nat) (receipt : CleanupReceipt) : Bool :=
  match s.journalled attemptId receipt with
  | .ok r => r.outcome.overall == .clearedWithResidue && r.deliveredSideEffect
  | .error _ => false

/-- One block blocks enforcement where an action of its attempt was
delivered, or may have been. -/
theorem persistentEnforcementBlocker_isSome :
    s.persistentEnforcementBlocker.isSome = true ↔
      s.blockedWith .deliveryUnknown .deliveryUnknown = true ∨
        s.blockedWith .delivered .removed = true := by
  unfold persistentEnforcementBlocker
  split_ifs with hunknown hdelivered
  · simp [hunknown]
  · simp [hdelivered]
  · simp [hunknown, hdelivered]

theorem onlyBlockOf_blockedWith {incidentId : String} {b : RetryBlock}
    (hb : s.retryBlocks.lookup incidentId = some b) (d : SignalDisposition)
    (d' : ArtifactDisposition) :
    (s.onlyBlockOf incidentId).blockedWith d d' = true ↔
      endedWith s.actions b.sourceAttemptId d = true ∨
        endedWith s.artifactActions b.sourceAttemptId d' = true := by
  have hmem : ∀ e, e ∈ (s.onlyBlockOf incidentId).retryBlocks.entries ↔ e = (incidentId, b) := by
    rintro ⟨id, block⟩
    rw [← OrdMap.lookup_eq_some, onlyBlockOf, OrdMap.lookup_filter]
    constructor
    · intro h
      obtain ⟨hlookup, hid⟩ := Option.filter_eq_some_iff.1 h
      obtain rfl := beq_iff_eq.1 hid
      rw [Option.some.inj (hlookup.symm.trans hb)]
    · intro h
      obtain ⟨rfl, rfl⟩ := Prod.mk.inj h
      exact Option.filter_eq_some_iff.2 ⟨hb, by simp⟩
  simp only [blockedWith, List.any_eq_true, hmem, exists_eq_left, Bool.or_eq_true]
  rfl

/-- What is journalled of an attempt that settled is in its receipt. -/
theorem Settles.leavesResidue {rows : SettledRows} (h : s.Settles attempt.id a t settled rows)
    (hsame : settled.state = receipt.state ∧ settled.reasonId = receipt.reasonId) :
    s.leavesResidue attempt.id receipt = true ↔
      settled.outcome.overall = .clearedWithResidue ∧ settled.deliveredSideEffect = true := by
  obtain ⟨hstate, hreason⟩ := hsame
  have hjournalled : s.journalled attempt.id receipt = .ok
      { receipt with actions := settled.actions, artifactActions := settled.artifactActions } := by
    simp only [journalled, h.receipts.actions, h.receipts.artifactActions, bind, Except.bind, pure,
      Except.pure]
  -- the outcome is of the state, the reason and the actions only
  have houtcome : ({ receipt with
      actions := settled.actions, artifactActions := settled.artifactActions } :
        CleanupReceipt).outcome = settled.outcome := by
    obtain ⟨incidentId, state, reasonId, actions, artifactActions, survivors, checks, resources⟩ :=
      settled
    obtain rfl : state = receipt.state := hstate
    obtain rfl : reasonId = receipt.reasonId := hreason
    rfl
  rw [Store.leavesResidue, hjournalled]
  simp only [houtcome, Bool.and_eq_true, beq_iff_eq]
  rfl

/-- An open attempt settles with the receipt it is given, as the journal
has its actions. -/
theorem completeCleanupAttempt_settles (ha : s.attempts.get attempt.id = some a)
    (hopen : a.ended = none) (hblock : receipt.state ≠ .cleared)
    (h : s.completeCleanupAttempt attempt t receipt = .ok (s', settled)) :
    (∃ rows, s.Settles attempt.id a t settled rows ∧
      s' = s.withSettled attempt.id a.trackingKey t settled rows) ∧
      settled.incidentId = attempt.incidentId ∧ settled.state = receipt.state ∧
        settled.reasonId = receipt.reasonId := by
  constructor
  · rcases completeCleanupAttempt_ok h with ⟨b, ended, hb, hended, -⟩ | ⟨b, rows, hsettles, -, heq⟩
    · obtain rfl := Option.some.inj (hb.symm.trans ha)
      rw [hopen] at hended
      cases hended
    · obtain rfl := Option.some.inj (hsettles.stored.symm.trans ha)
      exact ⟨rows, hsettles, heq⟩
  · simp only [completeCleanupAttempt, bind_eq_ok, found_eq_ok, require_eq_ok, exists_const] at h
    obtain ⟨-, -, at_, -, b, hb, -, h⟩ := h
    obtain rfl := Option.some.inj (hb.symm.trans ha)
    simp only [hopen, bind_eq_ok, require_eq_ok, exists_const, pure_eq_ok] at h
    obtain ⟨-, actions, -, artifacts, -, -, -, s₁, -, heq⟩ := h
    obtain ⟨-, rfl⟩ := Prod.mk.inj heq
    -- only a receipt that cleared is given another reason
    unfold projectReceipt
    rw [if_neg]
    · exact ⟨rfl, rfl, rfl⟩
    · simp [CleanupReceipt.endedWithoutIntervention, hblock]

/-- **The live decision and the durable blocker agree, except for a
residue that was left after a delivered side effect**: of every settlement
that inserts a retry block, the receipt fails the daemon closed exactly
when the block alone keeps it from being armed, if and only if the journal
and the receipt do not show a tree cleared with residue after something of
ours was delivered. -/
theorem failClose_agrees_iff (ha : s.attempts.get attempt.id = some a) (hopen : a.ended = none)
    (hblock : receipt.state ≠ .cleared)
    (h : s.completeCleanupAttempt attempt t receipt = .ok (s', settled)) :
    (receiptRequiresGlobalFailClose settled = true ↔
      (s'.onlyBlockOf attempt.incidentId).persistentEnforcementBlocker.isSome = true) ↔
    s.leavesResidue attempt.id receipt = false := by
  obtain ⟨⟨rows, hsettles, rfl⟩, hincident, hstate, hreason⟩ :=
    completeCleanupAttempt_settles ha hopen hblock h
  have hnot : settled.state ≠ .cleared := by
    rw [hstate]
    exact hblock
  have hlookup : (s.withSettled attempt.id a.trackingKey t settled rows).retryBlocks.lookup
      attempt.incidentId
        = some ⟨a.trackingKey, settled.reasonId, attempt.id, Presence.fresh t⟩ := by
    simp [withSettled, blocksAfter, hnot, OrdMap.lookup_insert, hincident]
  -- the block's queries read what the receipt tells
  have hblocker : ((s.withSettled attempt.id a.trackingKey t settled rows).onlyBlockOf
      attempt.incidentId).persistentEnforcementBlocker.isSome = true ↔
        settled.uncertain = true ∨ settled.deliveredSideEffect = true := by
    rw [persistentEnforcementBlocker_isSome, onlyBlockOf_blockedWith hlookup,
      onlyBlockOf_blockedWith hlookup, CleanupReceipt.uncertain, CleanupReceipt.deliveredSideEffect,
      Bool.or_eq_true, Bool.or_eq_true, ← hsettles.receipts.endedWith,
      ← hsettles.receipts.endedWith, ← hsettles.receipts.artifactEndedWith,
      ← hsettles.receipts.artifactEndedWith]
    rfl
  rw [hblocker, receiptRequiresGlobalFailClose_iff hnot, ← Bool.not_eq_true,
    hsettles.leavesResidue ⟨hstate, hreason⟩]
  constructor
  · rintro hagree ⟨hresidue, hdelivered⟩
    have hcertain : settled.uncertain = false := not_uncertain_of_residue hresidue
    rcases hagree.2 (Or.inr hdelivered) with huncertain | ⟨hother, -⟩
    · rw [hcertain] at huncertain
      cases huncertain
    · exact hother hresidue
  · intro hcondition
    constructor
    · exact fun hclose => hclose.imp id And.right
    · rintro (huncertain | hdelivered)
      · exact Or.inl huncertain
      · exact Or.inr ⟨fun hresidue => hcondition ⟨hresidue, hdelivered⟩, hdelivered⟩

/-- An armed daemon cleans up, and its signal is delivered. -/
def signalledStore : Store :=
  built [.managed (.beginManagedBoot 1 "first" 1),
    .managed (.finishManagedRecovery 1 "first" 2),
    .managed (.completeManagedFirstScan 1 "first" "epoch" 3),
    .managed (.armManaged 1 "first" "epoch" 4),
    .beginCleanupAttempt 10 sampleReport "epoch",
    .prepareCleanupAction ⟨1, "incident"⟩ 0 12 ⟨.primaryTerm, 101, "browser", .term⟩,
    .completeCleanupAction ⟨1, 1, 0⟩ 13 .delivered]

/-- The tree is gone, and its artifact was not safe to remove. -/
def residueReceipt : CleanupReceipt :=
  ⟨"incident", .failed, some "cleanup.artifact_unsafe", [], [], [], 2, {}⟩

/-- The daemon of the same generation after it ended so, restarted. -/
def restartedStore : Except StoreError Store :=
  signalledStore.run [.completeCleanupAttempt ⟨1, "incident"⟩ 20 residueReceipt,
    .managed (.beginManagedBoot 1 "second" 30),
    .managed (.finishManagedRecovery 1 "second" 31),
    .managed (.completeManagedFirstScan 1 "second" "next" 32)]

/-- **A residue that is let pass is not forgiven**: the daemon that left
it goes on, and the one that replaces it reports only, though it was asked
to enforce. -/
theorem residue_blocks_restart :
    (¬ ∀ (s s' : Store) (attempt : CleanupAttemptHandle) (a : CleanupAttempt) (t : Nat)
      (receipt settled : CleanupReceipt), s.Reachable → s.attempts.get attempt.id = some a →
      a.ended = none → receipt.state ≠ .cleared →
      s.completeCleanupAttempt attempt t receipt = .ok (s', settled) →
      (receiptRequiresGlobalFailClose settled = true ↔
        (s'.onlyBlockOf attempt.incidentId).persistentEnforcementBlocker.isSome = true)) ∧
    (signalledStore.lifecycle?.map fun l => (l.startupPhase, l.requestedEnforce))
      = some (.readyEnforce, true) ∧
    (restartedStore.toOption.bind fun s => s.lifecycle?.map fun l =>
      (l.startupPhase, l.effectiveEnforce)) = some (.readyReportOnly, false) := by
  refine ⟨fun hagree => ?_, by decide +kernel, by decide +kernel⟩
  have hopen : ((signalledStore.attempts.get 1).map CleanupAttempt.ended) = some none := by
    decide +kernel
  obtain ⟨a, ha, hended⟩ := Option.map_eq_some_iff.1 hopen
  have hends : ((signalledStore.completeCleanupAttempt ⟨1, "incident"⟩ 20 residueReceipt).toOption.map
      fun r => (receiptRequiresGlobalFailClose r.2,
        (r.1.onlyBlockOf "incident").persistentEnforcementBlocker.isSome)) = some (false, true) := by
    decide +kernel
  cases h : signalledStore.completeCleanupAttempt ⟨1, "incident"⟩ 20 residueReceipt with
  | error e => simp [h, Except.toOption] at hends
  | ok r =>
      simp only [h, Except.toOption, Option.map_some, Option.some.injEq, Prod.mk.injEq] at hends
      have hreachable : signalledStore.Reachable := built_reachable
      have hclose := (hagree _ _ _ _ _ _ _ hreachable ha hended (by decide) h).2 hends.2
      rw [hends.1] at hclose
      cases hclose

/-- Where a signal was delivered and the tree did not go, both say stop. -/
theorem failClose_agrees_iff_survivors :
    ∃ s' settled,
      signalledStore.completeCleanupAttempt ⟨1, "incident"⟩ 20
        { residueReceipt with reasonId := some "cleanup.survivors_after_kill" } = .ok (s', settled) ∧
      ((receiptRequiresGlobalFailClose settled = true ↔
        (s'.onlyBlockOf "incident").persistentEnforcementBlocker.isSome = true) ↔
      signalledStore.leavesResidue 1
        { residueReceipt with reasonId := some "cleanup.survivors_after_kill" } = false) := by
  have hopen : ((signalledStore.attempts.get 1).map CleanupAttempt.ended) = some none := by
    decide +kernel
  obtain ⟨a, ha, hended⟩ := Option.map_eq_some_iff.1 hopen
  have hends : (signalledStore.completeCleanupAttempt ⟨1, "incident"⟩ 20
      { residueReceipt with
        reasonId := some "cleanup.survivors_after_kill" }).toOption.isSome = true := by
    decide +kernel
  cases h : signalledStore.completeCleanupAttempt ⟨1, "incident"⟩ 20
      { residueReceipt with reasonId := some "cleanup.survivors_after_kill" } with
  | error e => simp [h, Except.toOption] at hends
  | ok r => exact ⟨r.1, r.2, rfl, failClose_agrees_iff ha hended (by decide) h⟩

end Store

end Unlinger
