import Unlinger.Common.Transition
import Unlinger.Core.Helpers.Execute
import Unlinger.Daemon.Model.Attention
import Unlinger.Daemon.Settlement

/-!
# The attention projection

The projection joins every retry block with the event its attempt ended
with. A block lives as long as its root may, an event as long as the
retention of cleanup details; a pruning that finds an older block takes
the event and leaves the block, and from then on there is no projection
and no status. As long as no pruning finds one, every blocked cleanup is
listed with the outcome it settled with.
-/

namespace Unlinger

/-- Every block a pruning finds is as young as the cleanup details it
keeps. -/
def Store.blocksRecent (s : Store) : StoreOp → Bool
  | .prune now policy _ => s.retryBlocks.entries.all fun e =>
      decide (now - max policy.maxAgeMillis cleanupDetailRetentionMillis ≤ e.2.presence.since)
  | _ => true

namespace History

/-- Every block has the event its attempt settled with. -/
def Attended (h : History) : Prop :=
  ∀ k b, h.store.retryBlocks.lookup k = some b →
    ∃ σ ∈ h.settled, b.BlockOf k σ ∧ h.store.Recorded σ

/-- A blocked cleanup is shown with the outcome it settled with. -/
structure ShownAs (e : String × RetryBlock) (σ : Settlement) (summary : BlockedCleanupSummary) :
    Prop where
  incident : summary.incidentId = Store.projectIdentifier e.1 "redacted-incident"
  state : summary.state = σ.receipt.state
  outcome : summary.outcome = σ.receipt.outcome
  blockedAt : summary.blockedAtUnixMillis = σ.occurredAt
  reason : summary.reasonId = projectReasonId e.2.reasonId
  observed : summary.lastExactObservedAtUnixMillis = e.2.presence.lastExactObservedAt
  absent : summary.exactAbsenceSinceUnixMillis = e.2.presence.absenceSince

/-- **The projection shows what is blocked**: all of it is counted, and the
newest up to the limit is listed. -/
structure Shows (h : History) (limit : Nat) (p : StoreAttentionProjection) : Prop where
  count : p.blockedCleanupCount = h.store.retryBlocks.entries.length
  blocks : h.store.blocksByAge.Perm h.store.retryBlocks.entries
  listed : List.Forall₂ (fun e summary => ∃ σ ∈ h.settled, e.2.BlockOf e.1 σ ∧ ShownAs e σ summary)
    (h.store.blocksByAge.take (min limit maxAttentionSummaries)) p.blockedCleanups

/-- **The projection is there**, whatever its limit, and so is what a
restored control plane and a status need of it. -/
structure KeepsAttention (h : History) : Prop where
  projects : ∀ limit, ∃ p, h.store.attentionProjection limit = .ok p ∧ h.Shows limit p
  restores : ∃ p, restoredAttention h.store = .ok p
  status : ∀ plane : ControlPlane, plane.store = h.store → ∃ p, statusAttention plane = .ok p

end History

namespace Store

variable {s s' : Store} {op : StoreOp} {settled new : List Settlement} {σ : Settlement}

/-! ## The event of a block -/

/-- The event the projection finds is the settlement's. -/
theorem Remembers.cleanupEvent (h : s.Remembers settled) (hσ : σ ∈ settled)
    (hrecorded : s.Recorded σ) :
    ∃ e, s.cleanupEvent σ.attemptId σ.receipt.state = some e ∧
      e.2.payload = .cleanup σ.receipt := by
  obtain ⟨id, e, he, hof⟩ := hrecorded
  cases hlatest : s.cleanupEvent σ.attemptId σ.receipt.state with
  | none =>
      exfalso
      have hmem : (id, e) ∈ s.events.entries.filter fun e => e.2.attemptId == some σ.attemptId
          && e.2.payload.isCleanup && e.2.state == σ.receipt.state := by
        refine List.mem_filter.2 ⟨Table.mem_entries.2 he, ?_⟩
        simp only [hof.attempt, hof.payload, hof.state, beq_self_eq_true, EventPayload.isCleanup,
          Bool.and_self]
      rw [(latestOf_chosen _).2 hlatest] at hmem
      cases hmem
  | some x =>
      refine ⟨x, rfl, ?_⟩
      obtain ⟨hin, htest⟩ := List.mem_filter.1 (latestOf_mem hlatest)
      simp only [Bool.and_eq_true, beq_iff_eq] at htest
      have hterm : x.2.isTerminal = true := by
        rw [EventRow.isTerminal, htest.1.1, htest.2, h.terminal σ hσ]
        rfl
      obtain ⟨τ, hτ, hτof⟩ := h.events x.1 x.2 (Table.mem_entries.1 hin) hterm
      have hid : τ.attemptId = σ.attemptId := Option.some.inj (hτof.attempt.symm.trans htest.1.1)
      rw [hτof.payload, h.unique hτ hσ hid]

/-- A state an attempt ends in without being cleared. -/
theorem failed_or_revived {state : IncidentState} (hterm : state.isTerminal = true)
    (hne : state ≠ .cleared) : state = .failed ∨ state = .revived := by
  cases state with
  | cleared => exact absurd rfl hne
  | failed => exact Or.inl rfl
  | revived => exact Or.inr rfl
  | _ => cases hterm

/-- A block whose event is left is shown. -/
theorem Remembers.summary (h : s.Remembers settled) (hlinked : s.Linked) (hσ : σ ∈ settled)
    (hrecorded : s.Recorded σ) {e : String × RetryBlock} (hof : e.2.BlockOf e.1 σ) :
    ∃ a summary, s.attempts.get e.2.sourceAttemptId = some a ∧
      s.blockedCleanupSummary (e, a) = .ok summary ∧ History.ShownAs e σ summary := by
  obtain ⟨a, ha⟩ := hrecorded.attempt hlinked
  have hended := (h.attempts σ hσ a ha).ended
  have hstate := failed_or_revived (h.terminal σ hσ) hof.uncleared
  obtain ⟨event, hevent, hpayload⟩ := h.cleanupEvent hσ hrecorded
  have hok : s.blockedCleanupSummary (e, a) = .ok
      { eventToken := some event.1
        incidentId := projectIdentifier e.1 "redacted-incident"
        state := σ.receipt.state
        blockedAtUnixMillis := e.2.presence.since
        reasonId := projectReasonId e.2.reasonId
        outcome := σ.receipt.outcome
        lastExactObservedAtUnixMillis := e.2.presence.lastExactObservedAt
        exactAbsenceSinceUnixMillis := e.2.presence.absenceSince } := by
    simp only [blockedCleanupSummary, hended, found, bind_eq_ok, require_eq_ok, exists_const,
      Except.ok.injEq, exists_eq_left']
    refine ⟨hstate, event, ?_, ?_⟩
    · rw [hof.attempt, endOf, hevent]
    · simp only [hpayload]
      rfl
  rw [hof.attempt]
  exact ⟨a, _, ha, hok, rfl, rfl, rfl, hof.since, rfl, rfl, rfl⟩

/-- **Where every block has its event, there is a projection.** -/
theorem Remembers.projects (h : s.Remembers settled) (hlinked : s.Linked)
    (hattended : ∀ k b, s.retryBlocks.lookup k = some b →
      ∃ σ ∈ settled, b.BlockOf k σ ∧ s.Recorded σ) (limit : Nat) :
    ∃ p, s.attentionProjection limit = .ok p ∧
      p.blockedCleanupCount = s.retryBlocks.entries.length ∧
      List.Forall₂ (fun e summary => ∃ σ ∈ settled, e.2.BlockOf e.1 σ ∧ History.ShownAs e σ summary)
        (s.blocksByAge.take (min limit maxAttentionSummaries)) p.blockedCleanups := by
  have hrows : ∀ e ∈ s.blocksByAge, ∃ row summary,
      (s.attempts.get e.2.sourceAttemptId).map (fun a => (e, a)) = some row ∧
      s.blockedCleanupSummary row = .ok summary ∧
      ∃ σ ∈ settled, e.2.BlockOf e.1 σ ∧ History.ShownAs e σ summary := by
    intro e he
    have hmem : e ∈ s.retryBlocks.entries := (List.mem_insertionSort _).1 he
    obtain ⟨σ, hσ, hof, hrecorded⟩ := hattended e.1 e.2 (OrdMap.lookup_eq_some.2 hmem)
    obtain ⟨a, summary, ha, hok, hshown⟩ := h.summary hlinked hσ hrecorded hof
    exact ⟨(e, a), summary, by rw [ha]; rfl, hok, σ, hσ, hof, hshown⟩
  obtain ⟨summaries, hmap, hall⟩ := mapM_take hrows (min limit maxAttentionSummaries)
  by_cases hzero : min limit maxAttentionSummaries = 0
  · refine ⟨⟨s.retryBlocks.entries.length, []⟩, ?_, rfl, ?_⟩
    · simp only [attentionProjection, hzero, if_true, pure_eq_ok]
    · rw [hzero, List.take_zero]
      exact List.Forall₂.nil
  · refine ⟨⟨s.retryBlocks.entries.length, summaries⟩, ?_, rfl, hall⟩
    simp only [attentionProjection, hzero, if_false, bind_eq_ok, pure_eq_ok]
    exact ⟨summaries, hmap, rfl⟩

/-! ## Operations -/

/-- An event stays where the new events have every old one of a cleanup. -/
theorem Recorded.keeps (h : s.Recorded σ)
    (hevents : ∀ id e, s.events.get id = some e → e.TerminalOf σ → s'.events.get id = some e) :
    s'.Recorded σ := by
  obtain ⟨id, e, he, hof⟩ := h
  exact ⟨id, e, hevents id e he hof, hof⟩

/-- **Every block keeps its event**, as long as no pruning finds a block
that is too old. -/
theorem Journals.attended (hj : s.Journals op s' new) (hok : s.blocksRecent op = true)
    (h : ∀ k b, s.retryBlocks.lookup k = some b → ∃ σ ∈ settled, b.BlockOf k σ ∧ s.Recorded σ) :
    ∀ k b, s'.retryBlocks.lookup k = some b →
      ∃ σ ∈ settled ++ new, b.BlockOf k σ ∧ s'.Recorded σ := by
  intro k b hb
  -- a block that was there is of the same settlement, and its event is kept
  have hold : ∀ b', s.retryBlocks.lookup k = some b' → b'.sourceAttemptId = b.sourceAttemptId →
      b'.presence.since = b.presence.since →
      (∀ σ ∈ settled, b'.BlockOf k σ → s.Recorded σ → s'.Recorded σ) →
      ∃ σ ∈ settled ++ new, b.BlockOf k σ ∧ s'.Recorded σ := by
    intro b' hb' hsource hsince hkeeps
    obtain ⟨σ, hσ, hof, hrecorded⟩ := h k b' hb'
    refine ⟨σ, List.mem_append_left new hσ, ⟨hsource ▸ hof.attempt, hof.incident, hof.uncleared,
      hsince ▸ hof.since⟩, hkeeps σ hσ hof hrecorded⟩
  cases hj with
  | untouched hattempts hactions hartifacts hevents himpacts htotals hblocks =>
      obtain ⟨b', hb', hsource, hsince⟩ := hblocks k b hb
      exact hold b' hb' hsource hsince fun _ _ _ hr => hr.keeps fun id e he _ => by rw [hevents, he]
  | observed ho =>
      refine hold b hb rfl rfl fun _ _ _ hr => hr.keeps fun id e he hof => ?_
      exact (ho.cleanups id e (by rw [hof.payload]; rfl)).2 he
  | began hb' =>
      exact hold b hb rfl rfl fun _ _ _ hr => hr.keeps fun id e he _ => Table.get_insert_of_some he
  | prepared hp => exact hold b hb rfl rfl fun _ _ _ hr => hr
  | completedActions hc => exact hold b hb rfl rfl fun _ _ _ hr => hr
  | preparedArtifact hp => exact hold b hb rfl rfl fun _ _ _ hr => hr
  | completedArtifacts hc => exact hold b hb rfl rfl fun _ _ _ hr => hr
  | @settled _ actions artifactActions i a at_ receipt rows hactions hartifacts hsettles =>
      have hset := hsettles.settled
      have hkept : ∀ σ ∈ settled, b.BlockOf k σ → s.Recorded σ →
          (({ s with actions := actions, artifactActions := artifactActions } : Store).withSettled i
            a.trackingKey at_ receipt rows).Recorded σ :=
        fun _ _ _ hr => hr.keeps fun id e he _ => Table.get_insert_of_some he
      have hb' : (blocksAfter s.retryBlocks i a.trackingKey at_ receipt).lookup k = some b := hb
      unfold blocksAfter at hb'
      split_ifs at hb' with hcleared
      · exact hold b hb' rfl rfl hkept
      · rw [OrdMap.lookup_insert] at hb'
        split_ifs at hb' with hk
        · obtain rfl := Option.some.inj hb'
          refine ⟨_, List.mem_append_right settled (List.mem_singleton.2 rfl),
            ⟨rfl, hk.symm, hcleared, rfl⟩, s.events.nextId, rows.event, ?_, hset.eventAttempt,
            hset.eventPayload, hset.eventState, hset.eventTime⟩
          show (s.events.insert rows.event).get _ = _
          rw [Table.get_insert, if_pos rfl]
        · exact hold b hb' rfl rfl hkept
  | @pruned now policy fresh p hp =>
      refine hold b hb rfl rfl fun σ _ hof hr => hr.keeps fun id e he hterm => ?_
      -- the event is as old as the block
      have hrecent := List.all_eq_true.1 hok (k, b) (OrdMap.lookup_eq_some.1 hb)
      have hage : now - max policy.maxAgeMillis cleanupDetailRetentionMillis ≤ e.occurredAt := by
        rw [hterm.time, ← hof.since]
        exact of_decide_eq_true hrecent
      exact hp.cleanups id e he (by rw [hterm.payload]; rfl) (Or.inl hage)

end Store

/-! ## Every run -/

namespace History

variable {token : NamespaceToken}

theorem attended_step (h : History) (op : StoreOp) (hk : h.Kept ∧ h.Attended)
    (hok : h.store.blocksRecent op = true) : (h.step op).Kept ∧ (h.step op).Attended := by
  refine ⟨hk.1.step op, ?_⟩
  rcases Store.committed_cases h.store op with ⟨s', hperform, heq⟩ | ⟨err, herr, heq⟩
  · have hj := Store.perform_journals hk.1.reachable.sound.oneOpen hperform
    unfold Attended
    simp only [History.step, heq]
    exact hj.attended hok hk.2
  · unfold Attended
    simp only [History.step, heq, Store.settlements_of_error herr, List.append_nil]
    exact hk.2

/-- **Every blocked cleanup is shown**, in every state of every run none of
whose prunings finds a block older than the cleanup details it keeps. -/
theorem attention_kept (token : NamespaceToken) (ops : List StoreOp)
    (hops : Transition.Along History.step (fun h op => h.store.blocksRecent op = true)
      { store := Store.empty token } ops) (n : Nat) :
    (History.ran token (ops.take n)).KeepsAttention := by
  have hstart : ({ store := Store.empty token } : History).Kept ∧
      ({ store := Store.empty token } : History).Attended := by
    refine ⟨⟨Store.Reachable.empty token, Store.empty_remembers, rfl, rfl⟩, fun k b hb => ?_⟩
    cases hb
  have hreached : (History.ran token (ops.take n)).Kept ∧ (History.ran token (ops.take n)).Attended :=
    (hops.take n).invariant attended_step hstart
  have hprojects : ∀ limit, ∃ p,
      (History.ran token (ops.take n)).store.attentionProjection limit = .ok p ∧
        (History.ran token (ops.take n)).Shows limit p := by
    intro limit
    obtain ⟨p, hok, hcount, hlisted⟩ := hreached.1.remembers.projects hreached.1.reachable.linked
      hreached.2 limit
    exact ⟨p, hok, hcount, List.perm_insertionSort _ _, hlisted⟩
  obtain ⟨p, hok, -⟩ := hprojects maxStatusAttentionItems
  refine ⟨hprojects, ⟨p, ?_⟩, fun plane hplane => ⟨p, ?_⟩⟩
  · rw [restoredAttention, hok]
    rfl
  · rw [statusAttention, hplane, hok]
    rfl

/-- A cleanup sent a signal and was interrupted, and the store is pruned
some days later. -/
def blockedRun (days : Nat) : List StoreOp :=
  [.beginCleanupAttempt 10 sampleReport "epoch",
    .prepareCleanupAction ⟨1, "incident"⟩ 0 12 ⟨.primaryTerm, 101, "browser", .term⟩,
    .completeCleanupAction ⟨1, 1, 0⟩ 13 .delivered,
    .recoverIncompleteAttempts 20,
    .prune (days * 24 * 60 * 60 * 1000) {} Store.sampleToken]

theorem attention_kept_recent :
    Transition.Along History.step (fun h op => h.store.blocksRecent op = true)
      { store := Store.empty Store.sampleToken } (blockedRun 13) ∧
    (History.ran Store.sampleToken ((blockedRun 13).take 5)).KeepsAttention ∧
    (History.ran Store.sampleToken (blockedRun 13)).store.cleanupBlocked "incident" = true :=
  ⟨by decide +kernel, attention_kept _ _ (by decide +kernel) 5, by decide +kernel⟩

/-- After three weeks the event of the block is gone, and with it the
projection, a restart and every status. -/
theorem attention_lost :
    ¬ ∀ (token : NamespaceToken) (ops : List StoreOp), (History.ran token ops).KeepsAttention := by
  intro hall
  obtain ⟨p, hok, -⟩ := (hall Store.sampleToken (blockedRun 21)).projects maxStatusAttentionItems
  have herror : (History.ran Store.sampleToken (blockedRun 21)).store.attentionProjection
      maxStatusAttentionItems
        = .error (.corrupt "retry block has no matching terminal cleanup event") := by
    decide +kernel
  rw [herror] at hok
  cases hok

end History

end Unlinger
