import Unlinger.Core.Helpers.Execute
import Unlinger.Daemon.Helpers.History

/-!
# Settlement

An attempt ends once. Whatever operations run in whatever order, with
prunings anywhere between them, every attempt that became terminal did so
in one call, got one terminal event and one impact, and is in the totals
once, also after its rows are gone. What a repeated call is told is bound
to the event that records the first answer.
-/

namespace Unlinger

namespace Store

variable {s : Store} {settled : List Settlement} {σ : Settlement} {t : Nat}

/-! ## The stored receipt -/

/-- Two settlements of one attempt are one. -/
theorem Remembers.unique (h : s.Remembers settled) {σ τ : Settlement} (hσ : σ ∈ settled)
    (hτ : τ ∈ settled) (hid : σ.attemptId = τ.attemptId) : σ = τ :=
  List.inj_on_of_nodup_map h.once hσ hτ hid

/-- A terminal event of the attempt is left. -/
def Recorded (s : Store) (σ : Settlement) : Prop :=
  ∃ id e, s.events.get id = some e ∧ e.TerminalOf σ

/-- While the event is there, so is the attempt's row. -/
theorem Recorded.attempt (h : s.Recorded σ) (hlinked : s.Linked) : s.HasAttempt σ.attemptId := by
  obtain ⟨id, e, he, hof⟩ := h
  exact hlinked.events id e he σ.attemptId hof.attempt

/-- **The stored receipt is the one the attempt settled with.** -/
theorem Remembers.terminalReceipt (h : s.Remembers settled) (hσ : σ ∈ settled)
    (hrecorded : s.Recorded σ) (hlinked : s.Linked) :
    s.terminalReceiptForAttempt σ.attemptId = .ok σ.receipt := by
  obtain ⟨a, ha⟩ := hrecorded.attempt hlinked
  have hby := h.attempts σ hσ a ha
  obtain ⟨id, e, he, hof⟩ := hrecorded
  set terminal := s.events.entries.filter fun e =>
    e.2.attemptId == some σ.attemptId && e.2.state.isTerminal with hterminal
  have hmem : (id, e) ∈ terminal := by
    refine List.mem_filter.2 ⟨Table.mem_entries.2 he, ?_⟩
    simp only [hof.attempt, hof.state, h.terminal σ hσ, beq_self_eq_true, Bool.and_self]
  obtain ⟨last, hlast⟩ : ∃ last, terminal.getLast? = some last :=
    Option.ne_none_iff_exists'.1 fun hnone => by
      rw [List.getLast?_eq_none_iff] at hnone
      rw [hnone] at hmem
      cases hmem
  -- whichever event is read, it is of this settlement
  have hpayload : last.2.payload = .cleanup σ.receipt := by
    obtain ⟨hin, htest⟩ := List.mem_filter.1 (List.mem_of_getLast? hlast)
    simp only [Bool.and_eq_true, beq_iff_eq] at htest
    have hterm : last.2.isTerminal = true := by
      rw [EventRow.isTerminal, htest.1, htest.2]
      rfl
    obtain ⟨τ, hτ, hτof⟩ := h.events last.1 last.2 (Table.mem_entries.1 hin) hterm
    have hid : τ.attemptId = σ.attemptId := Option.some.inj (hτof.attempt.symm.trans htest.1)
    rw [hτof.payload, h.unique hτ hσ hid]
  have hresources : (((s.attempts.get σ.attemptId).bind CleanupAttempt.ended).map
      AttemptEnd.resources).getD σ.receipt.resources = σ.receipt.resources := by
    rw [ha, Option.bind_some, hby.ended]
    rfl
  simp only [terminalReceiptForAttempt, ← hterminal, hlast, found, hpayload, hby.receipts.actions,
    hby.receipts.artifactActions, hresources, bind, Except.bind, pure, Except.pure]

/-! ## Repeated calls -/

/-- A repeated call in the same state is answered as the first was. -/
theorem Remembers.repeats (h : s.Remembers settled) (hσ : σ ∈ settled) (hrecorded : s.Recorded σ)
    (hlinked : s.Linked) {receipt : CleanupReceipt} (ht : t < 2 ^ 63)
    (hincident : receipt.incidentId = σ.receipt.incidentId)
    (hstate : receipt.state = σ.receipt.state) :
    s.completeCleanupAttempt ⟨σ.attemptId, σ.receipt.incidentId⟩ t receipt = .ok (s, σ.receipt) := by
  obtain ⟨a, ha⟩ := hrecorded.attempt hlinked
  have hby := h.attempts σ hσ a ha
  have hterm : receipt.state.isTerminal = true := by
    rw [hstate]
    exact h.terminal σ hσ
  simp only [completeCleanupAttempt, bind_eq_ok, require_eq_ok, found_eq_ok, exists_const]
  refine ⟨hterm, hincident, t, sqliteMillis_eq_ok.2 ⟨ht, rfl⟩, a, ha, hby.incident, ?_⟩
  simp only [hby.ended, bind_eq_ok, require_eq_ok, exists_const, pure_eq_ok]
  exact ⟨hstate.symm, σ.receipt, h.terminalReceipt hσ hrecorded hlinked, rfl⟩

/-- A repeated call in another state fails. -/
theorem Remembers.conflicts (h : s.Remembers settled) (hσ : σ ∈ settled)
    {attempt : CleanupAttemptHandle} (hid : attempt.id = σ.attemptId) {receipt : CleanupReceipt}
    (hstate : receipt.state ≠ σ.receipt.state) :
    ∃ e, s.completeCleanupAttempt attempt t receipt = .error e := by
  cases hok : s.completeCleanupAttempt attempt t receipt with
  | error e => exact ⟨e, rfl⟩
  | ok r =>
      exfalso
      have hended : ∀ a, s.attempts.get attempt.id = some a →
          a.ended = some (endOf σ.occurredAt σ.receipt) := by
        intro a ha
        rw [hid] at ha
        exact (h.attempts σ hσ a ha).ended
      rcases completeCleanupAttempt_ok hok with
        ⟨a, ended, ha, hend, hsame, -⟩ | ⟨a, rows, hsettles, -⟩
      · obtain rfl := Option.some.inj (hend.symm.trans (hended a ha))
        exact hstate hsame.symm
      · have hopen := hsettles.opened
        rw [hended a hsettles.stored] at hopen
        cases hopen

end Store

/-! ## Every run -/

/-- **Settlement and accounting of a history.** -/
structure History.SettlesOnce (h : History) : Prop where
  oneOpen : h.store.AtMostOneOpen
  /-- no attempt settled twice -/
  once : (h.settled.map Settlement.attemptId).Nodup
  /-- an attempt has ended exactly where it settled, and as it settled -/
  ended_iff : ∀ i a, h.store.attempts.get i = some a →
    (a.ended ≠ none ↔ ∃ σ ∈ h.settled, σ.attemptId = i)
  endedAs : ∀ σ ∈ h.settled, ∀ a, h.store.attempts.get σ.attemptId = some a →
    a.ended = some (Store.endOf σ.occurredAt σ.receipt)
  /-- of all events and impacts there ever were, one of each is a settlement's -/
  oneEvent : h.terminalEvents.map (fun e => (e.2.attemptId, e.2.payload))
    = h.settled.map fun σ => (some σ.attemptId, .cleanup σ.receipt)
  oneImpact : h.impacts.map (fun m => (m.2.attemptId, m.2.state))
    = h.settled.map fun σ => (σ.attemptId, σ.receipt.state)
  /-- while the terminal event is left, the first answer is given again -/
  repeats : ∀ σ ∈ h.settled, h.store.Recorded σ → ∀ t < 2 ^ 63, ∀ receipt : CleanupReceipt,
    receipt.incidentId = σ.receipt.incidentId → receipt.state = σ.receipt.state →
    h.store.completeCleanupAttempt ⟨σ.attemptId, σ.receipt.incidentId⟩ t receipt
      = .ok (h.store, σ.receipt)
  conflicts : ∀ σ ∈ h.settled, ∀ t (attempt : CleanupAttemptHandle) (receipt : CleanupReceipt),
    attempt.id = σ.attemptId → receipt.state ≠ σ.receipt.state →
    ∃ e, h.store.completeCleanupAttempt attempt t receipt = .error e
  totals : h.store.impactAuthority = Settlement.tally h.settled

/-- **Every attempt settles once and is counted once**, in every run from
an empty store, whatever is pruned. -/
theorem History.settles_once (token : NamespaceToken) (ops : List StoreOp) :
    (History.ran token ops).SettlesOnce := by
  have hk : (History.ran token ops).Kept := History.ran_kept
  have hr := hk.remembers
  have hlinked := hk.reachable.linked
  refine ⟨hk.reachable.sound.oneOpen, hr.once, fun i a ha => ⟨hr.ended i a ha, ?_⟩,
    fun σ hσ a ha => (hr.attempts σ hσ a ha).ended, hk.terminalEvents, hk.impacts, ?_, ?_, hr.totals⟩
  · rintro ⟨σ, hσ, rfl⟩
    rw [(hr.attempts σ hσ a ha).ended]
    simp
  · intro σ hσ hrecorded t ht receipt hincident hstate
    exact hr.repeats hσ hrecorded hlinked ht hincident hstate
  · intro σ hσ t attempt receipt hid hstate
    exact hr.conflicts hσ hid hstate

/-- A cleanup that cleared, and a pruning some weeks later. -/
def forgottenRun : List StoreOp :=
  [.beginCleanupAttempt 10 sampleReport "epoch",
    .completeCleanupAttempt ⟨1, "incident"⟩ 20 ⟨"incident", .cleared, none, [], [], [], 0, {}⟩,
    .prune (30 * 24 * 60 * 60 * 1000) {} Store.sampleToken]

/-- Where the event is pruned the first answer is not given again. -/
theorem History.repeat_forgotten : ¬ ∀ (token : NamespaceToken) (ops : List StoreOp),
    ∀ σ ∈ (History.ran token ops).settled, ∀ t < 2 ^ 63, ∀ receipt : CleanupReceipt,
      receipt.incidentId = σ.receipt.incidentId → receipt.state = σ.receipt.state →
      (History.ran token ops).store.completeCleanupAttempt ⟨σ.attemptId, σ.receipt.incidentId⟩ t
        receipt = .ok ((History.ran token ops).store, σ.receipt) := by
  intro hall
  have hone : (History.ran Store.sampleToken forgottenRun).settled
      = [⟨1, 2, 20, ⟨"incident", .cleared, some "cleanup.tree_gone_without_signal", [], [], [], 0,
        {}⟩⟩] := by
    decide +kernel
  have hgone : ((History.ran Store.sampleToken forgottenRun).store.attempts.get 1).isNone = true := by
    decide +kernel
  have hok := hall Store.sampleToken forgottenRun _ (by rw [hone]; exact List.mem_singleton.2 rfl)
    (31 * 24 * 60 * 60 * 1000) (by decide) ⟨"incident", .cleared, none, [], [], [], 0, {}⟩ rfl rfl
  rcases Store.completeCleanupAttempt_ok hok with ⟨a, _, ha, -⟩ | ⟨a, _, hsettles, -⟩
  · rw [ha] at hgone
    cases hgone
  · rw [hsettles.stored] at hgone
    cases hgone

end Unlinger
