import Unlinger.Daemon.Model.Store

/-!
# What the journal operations do

One lemma for each operation of the cleanup journal: what a call that
succeeded found in the store, and what it left there. Later proofs use
these and never unfold an operation.
-/

namespace Unlinger

variable {s s' : Store} {t : Nat} {ι δ : Type}

theorem sqliteMillis_eq_ok {value w : Nat} {label : String} :
    sqliteMillis value label = .ok w ↔ value < 2 ^ 63 ∧ w = value := by
  unfold sqliteMillis
  split_ifs with h
  · simp only [Except.ok.injEq, h, true_and]
    exact eq_comm
  · simp only [h, false_and]

/-! ## Rows -/

/-- An action is completed exactly when it is not before it was
prepared. -/
theorem complete_eq_ok {r r' : JournalRow ι δ} {table : String} {d : δ} :
    r.complete table t d = .ok r' ↔ ∃ h : r.preparedAt ≤ t,
      r' = { r with completed := some (t, d), inOrder := by simpa using h } := by
  unfold JournalRow.complete
  split_ifs with h
  · simp [h, eq_comm]
  · simp [h]

/-- An attempt ends exactly when it is not before it was started. -/
theorem finish_eq_ok {a a' : CleanupAttempt} {e : AttemptEnd} :
    a.finish e = .ok a' ↔ ∃ h : a.startedAt ≤ e.completedAt ∧ e.state.isTerminal = true,
      a' = { a with
        ended := some e
        inOrder := by simpa using h.1
        terminal := by simpa using h.2 } := by
  unfold CleanupAttempt.finish
  split_ifs with h
  · simp [h, eq_comm]
  · simp [h]

/-- A prepared row is new and open. -/
theorem prepareRow_ok {rows rows' : Table (JournalRow ι δ)} {table : String}
    {attemptId sequence : Nat} {intent : ι}
    (h : prepareRow rows table attemptId sequence t intent = .ok rows') :
    ∃ r : JournalRow ι δ, r.attemptId = attemptId ∧ r.completed = none ∧ r.intent = intent ∧
      r.preparedAt = t ∧ r.sequence = sequence ∧ rows' = rows.insert r := by
  simp only [prepareRow, bind_eq_ok, require_eq_ok, exists_const, pure_eq_ok] at h
  obtain ⟨-, rfl⟩ := h
  exact ⟨_, rfl, rfl, rfl, rfl, rfl, rfl⟩

/-- Completing all as unknown succeeds exactly when none of them is
completed before it was prepared. -/
theorem completeUnknown_ok_iff {rows : Table (JournalRow ι δ)} {table : String} {attemptId : Nat}
    {d : δ} :
    (∃ rows', completeUnknown rows table attemptId t d = .ok rows') ↔
      ∀ id r, rows.get id = some r → r.attemptId = attemptId → r.completed = none →
        r.preparedAt ≤ t := by
  rw [completeUnknown, Table.update_ok_iff]
  refine forall_congr' fun id => forall_congr' fun r => forall_congr' fun _ => ?_
  constructor
  · rintro ⟨r', hf⟩ hid hc
    rw [if_pos ⟨hid, by simp [hc]⟩] at hf
    exact (complete_eq_ok.1 hf).1
  · intro hall
    split_ifs with hid
    · exact ⟨_, complete_eq_ok.2 ⟨hall hid.1 (by simpa using hid.2), rfl⟩⟩
    · exact ⟨r, rfl⟩

/-- What completing all as unknown left of each row. -/
theorem completeUnknown_get {rows rows' : Table (JournalRow ι δ)} {table : String}
    {attemptId : Nat} {d : δ} (h : completeUnknown rows table attemptId t d = .ok rows') {id : Nat}
    {r : JournalRow ι δ} (hr : rows'.get id = some r) :
    ∃ old, rows.get id = some old ∧ r.attemptId = old.attemptId ∧ r.sequence = old.sequence ∧
      r.preparedAt = old.preparedAt ∧ r.intent = old.intent ∧
      r.completed = if old.attemptId = attemptId ∧ old.completed = none then some (t, d)
        else old.completed := by
  obtain ⟨old, hold, hf⟩ := (Table.get_update h).1 hr
  split_ifs at hf with hid
  · obtain ⟨-, rfl⟩ := complete_eq_ok.1 hf
    refine ⟨old, hold, rfl, rfl, rfl, rfl, ?_⟩
    rw [if_pos ⟨hid.1, by simpa using hid.2⟩]
  · obtain rfl := Except.ok.inj hf
    refine ⟨old, hold, rfl, rfl, rfl, rfl, ?_⟩
    rw [if_neg fun hc => hid ⟨hc.1, by simp [hc.2]⟩]

/-- Every row is still there. -/
theorem completeUnknown_keeps {rows rows' : Table (JournalRow ι δ)} {table : String}
    {attemptId : Nat} {d : δ} (h : completeUnknown rows table attemptId t d = .ok rows') {id : Nat} :
    rows'.get id = none ↔ rows.get id = none := by
  constructor
  · intro hnone
    by_contra hsome
    obtain ⟨old, hold⟩ := Option.ne_none_iff_exists'.1 hsome
    have hall := Table.update_ok_iff.1 ⟨rows', h⟩ id old hold
    obtain ⟨r, hr⟩ := hall
    rw [(Table.get_update h).2 ⟨old, hold, hr⟩] at hnone
    cases hnone
  · intro hnone
    by_contra hsome
    obtain ⟨r, hr⟩ := Option.ne_none_iff_exists'.1 hsome
    obtain ⟨old, hold, -⟩ := completeUnknown_get h hr
    rw [hnone] at hold
    cases hold

/-! ## Settling -/

namespace Store

/-- An event is appended whenever its time fits. -/
theorem insertEvent_ok {attemptId : Option Nat} {incidentId : String} {state : IncidentState}
    {payload : EventPayload} {eventId : Nat}
    (h : s.insertEvent attemptId t incidentId state payload = .ok (s', eventId)) :
    ∃ e : EventRow, e.attemptId = attemptId ∧ e.incidentId = incidentId ∧ e.state = state ∧
      e.payload = payload ∧ e.occurredAt = t ∧ eventId = s.events.nextId ∧
      s' = { s with events := s.events.insert e } := by
  simp only [insertEvent, bind_eq_ok, sqliteMillis_eq_ok, pure_eq_ok] at h
  obtain ⟨at_, ⟨-, rfl⟩, heq⟩ := h
  obtain ⟨rfl, rfl⟩ := Prod.mk.inj heq
  exact ⟨_, rfl, rfl, rfl, rfl, rfl, rfl, rfl⟩

theorem insertEvent_fits {attemptId : Option Nat} {incidentId : String} {state : IncidentState}
    {payload : EventPayload} (ht : t < 2 ^ 63) :
    ∃ r, s.insertEvent attemptId t incidentId state payload = .ok r := by
  simp only [insertEvent, bind_eq_ok, sqliteMillis_eq_ok, pure_eq_ok]
  exact ⟨_, t, ⟨ht, rfl⟩, rfl⟩

/-- What an impact counts depends on the attempt's observed processes
alone. -/
theorem impactProcessCount_congr {counted : Bool} {receipt : CleanupReceipt} {a b : CleanupAttempt}
    (h : a.observedProcessCount = b.observedProcessCount) :
    impactProcessCount counted receipt a = impactProcessCount counted receipt b := by
  unfold impactProcessCount
  rw [h]

/-- An impact is recorded once for its attempt and its event, and the
totals count it. -/
theorem insertCleanupImpact_ok {attemptId eventId : Nat} {receipt : CleanupReceipt}
    (h : s.insertCleanupImpact attemptId eventId t receipt = .ok s') :
    ∃ (a : CleanupAttempt) (count memory : Option Nat) (m : CleanupImpact),
      s.attempts.get attemptId = some a ∧
      impactProcessCount (s.attributed attemptId receipt) receipt a = .ok count ∧
      impactMemory (s.attributed attemptId receipt) receipt = .ok memory ∧
      receipt.state.isTerminal = true ∧
      m.attemptId = attemptId ∧ m.eventId = eventId ∧ m.state = receipt.state ∧
      m.occurredAt = t ∧
      s' = { s with
        impacts := s.impacts.insert m
        impactAuthority :=
          ImpactAuthority.add s.impactAuthority (s.attributed attemptId receipt) count memory } := by
  simp only [insertCleanupImpact, bind_eq_ok, found_eq_ok, require_eq_ok, sqliteMillis_eq_ok,
    exists_const, pure_eq_ok] at h
  obtain ⟨a, ha, count, hcount, memory, hmemory, at_, ⟨-, rfl⟩, checks, -, hterm, -, rfl⟩ := h
  exact ⟨a, count, memory, _, ha, hcount, hmemory, hterm, rfl, rfl, rfl, rfl, rfl⟩

/-- Nothing stands in the way of the impact of a receipt that measured
nothing. -/
theorem insertCleanupImpact_fits {attemptId eventId : Nat} {receipt : CleanupReceipt}
    {a : CleanupAttempt} (ha : s.attempts.get attemptId = some a) (ht : t < 2 ^ 63)
    (hres : receipt.resources = {}) (hchecks : receipt.revivalChecksCompleted = 0)
    (hterm : receipt.state.isTerminal = true)
    (hnew : ∀ id m, s.impacts.get id = some m → m.attemptId ≠ attemptId ∧ m.eventId ≠ eventId) :
    ∃ s', s.insertCleanupImpact attemptId eventId t receipt = .ok s' := by
  have hall : (s.impacts.entries.all fun e => e.2.attemptId != attemptId && e.2.eventId != eventId)
      = true := by
    rw [Table.all_entries]
    intro id m hm
    simp [(hnew id m hm).1, (hnew id m hm).2]
  have hcount : ∃ n, impactProcessCount (s.attributed attemptId receipt) receipt a = .ok n := by
    unfold impactProcessCount
    split_ifs
    · exact ⟨_, by rw [hres]⟩
    · exact ⟨_, rfl⟩
  have hmemory : ∃ n, impactMemory (s.attributed attemptId receipt) receipt = .ok n := by
    unfold impactMemory
    split_ifs
    · exact ⟨_, by rw [hres]⟩
    · exact ⟨_, rfl⟩
  obtain ⟨count, hcount⟩ := hcount
  obtain ⟨memory, hmemory⟩ := hmemory
  simp only [insertCleanupImpact, bind_eq_ok, found_eq_ok, require_eq_ok, sqliteMillis_eq_ok,
    exists_const, pure_eq_ok]
  exact ⟨_, a, ha, count, hcount, memory, hmemory, t, ⟨ht, rfl⟩, 0,
    ⟨by rw [hchecks]; decide, hchecks.symm⟩, hterm, hall, rfl⟩

/-- One attempt got its end, if it had none, and nothing else changed. -/
structure Finished (old : Table CleanupAttempt) (attemptId : Nat) (ended : AttemptEnd)
    (new : Table CleanupAttempt) : Prop where
  lastId : new.lastId = old.lastId
  keeps : ∀ id, new.get id = none ↔ old.get id = none
  get : ∀ id a, new.get id = some a → ∃ b, old.get id = some b ∧ a.incidentId = b.incidentId ∧
    a.ended = if id = attemptId ∧ b.ended = none then some ended else b.ended
  observed : ∀ id a b, new.get id = some a → old.get id = some b →
    a.observedProcessCount = b.observedProcessCount

theorem finishAttempt_ok {attemptId : Nat} {ended : AttemptEnd}
    (h : s.finishAttempt attemptId ended = .ok s') :
    ∃ attempts, Finished s.attempts attemptId ended attempts ∧
      s' = { s with attempts := attempts } := by
  simp only [finishAttempt, bind_eq_ok, pure_eq_ok] at h
  obtain ⟨attempts, hup, rfl⟩ := h
  refine ⟨attempts, ⟨Table.lastId_update hup, fun id => ⟨fun hnone => ?_, fun hnone => ?_⟩,
    fun id a ha => ?_, fun id a b ha hb => ?_⟩, rfl⟩
  · by_contra hsome
    obtain ⟨b, hb⟩ := Option.ne_none_iff_exists'.1 hsome
    obtain ⟨a, ha⟩ := Table.update_ok_iff.1 ⟨attempts, hup⟩ id b hb
    rw [(Table.get_update hup).2 ⟨b, hb, ha⟩] at hnone
    cases hnone
  · by_contra hsome
    obtain ⟨a, ha⟩ := Option.ne_none_iff_exists'.1 hsome
    obtain ⟨b, hb, -⟩ := (Table.get_update hup).1 ha
    rw [hnone] at hb
    cases hb
  · obtain ⟨b, hb, hf⟩ := (Table.get_update hup).1 ha
    refine ⟨b, hb, ?_⟩
    split_ifs at hf with hid
    · obtain ⟨-, rfl⟩ := finish_eq_ok.1 hf
      exact ⟨rfl, by rw [if_pos ⟨hid.1, by simpa using hid.2⟩]⟩
    · obtain rfl := Except.ok.inj hf
      exact ⟨rfl, by rw [if_neg fun hc => hid ⟨hc.1, by simp [hc.2]⟩]⟩
  · obtain ⟨c, hc, hf⟩ := (Table.get_update hup).1 ha
    obtain rfl := Option.some.inj (hb.symm.trans hc)
    split_ifs at hf with hid
    · obtain ⟨-, rfl⟩ := finish_eq_ok.1 hf
      rfl
    · obtain rfl := Except.ok.inj hf
      rfl

/-- An attempt is finished exactly when its end is not before its start. -/
theorem finishAttempt_ok_iff {attemptId : Nat} {ended : AttemptEnd} {a : CleanupAttempt}
    (ha : s.attempts.get attemptId = some a) (hopen : a.ended = none)
    (hterm : ended.state.isTerminal = true) :
    (∃ s', s.finishAttempt attemptId ended = .ok s') ↔ a.startedAt ≤ ended.completedAt := by
  simp only [finishAttempt, bind_eq_ok, pure_eq_ok]
  have hup : (∃ attempts, s.attempts.update (fun id a =>
      if id = attemptId ∧ a.ended.isNone then a.finish ended else .ok a) = .ok attempts) ↔
      a.startedAt ≤ ended.completedAt := by
    rw [Table.update_ok_iff]
    constructor
    · intro hall
      obtain ⟨a', ha'⟩ := hall attemptId a ha
      rw [if_pos ⟨rfl, by simp [hopen]⟩] at ha'
      exact (finish_eq_ok.1 ha').1.1
    · intro hle id b hb
      split_ifs with hid
      · obtain rfl : b = a := by
          rw [hid.1, ha] at hb
          exact (Option.some.inj hb).symm
        exact ⟨_, finish_eq_ok.2 ⟨⟨hle, hterm⟩, rfl⟩⟩
      · exact ⟨b, rfl⟩
  rw [← hup]
  constructor
  · rintro ⟨-, attempts, hok, -⟩
    exact ⟨attempts, hok⟩
  · rintro ⟨attempts, hok⟩
    exact ⟨_, attempts, hok, rfl⟩

/-- The end an attempt gets from its receipt. -/
def endOf (t : Nat) (receipt : CleanupReceipt) : AttemptEnd :=
  ⟨t, receipt.state, receipt.reasonId, receipt.survivorPids, receipt.revivalChecksCompleted,
    receipt.resources⟩

/-- The retry blocks after an attempt ended. -/
def blocksAfter (blocks : OrdMap String RetryBlock) (attemptId : Nat) (trackingKey : String)
    (t : Nat) (receipt : CleanupReceipt) : OrdMap String RetryBlock :=
  if receipt.state = .cleared then blocks
  else blocks.insert receipt.incidentId
    ⟨trackingKey, receipt.reasonId, attemptId, Presence.fresh t⟩

/-- The rows a settled attempt leaves. -/
structure SettledRows where
  attempts : Table CleanupAttempt
  event : EventRow
  impact : CleanupImpact
  totals : ImpactAuthority

/-- The store with these rows. -/
def withSettled (s : Store) (attemptId : Nat) (trackingKey : String) (t : Nat)
    (receipt : CleanupReceipt) (rows : SettledRows) : Store :=
  { s with
    attempts := rows.attempts
    retryBlocks := blocksAfter s.retryBlocks attemptId trackingKey t receipt
    events := s.events.insert rows.event
    impacts := s.impacts.insert rows.impact
    impactAuthority := rows.totals }

/-- The rows are of the attempt and its receipt. -/
structure SettledAs (s : Store) (attemptId : Nat) (t : Nat) (receipt : CleanupReceipt)
    (rows : SettledRows) : Prop where
  terminal : receipt.state.isTerminal = true
  finished : Finished s.attempts attemptId (endOf t receipt) rows.attempts
  eventAttempt : rows.event.attemptId = some attemptId
  eventState : rows.event.state = receipt.state
  eventPayload : rows.event.payload = .cleanup receipt
  eventTime : rows.event.occurredAt = t
  impactAttempt : rows.impact.attemptId = attemptId
  impactEvent : rows.impact.eventId = s.events.nextId
  impactState : rows.impact.state = receipt.state
  impactTime : rows.impact.occurredAt = t
  counted : ∃ a count memory, s.attempts.get attemptId = some a ∧
    impactProcessCount (s.attributed attemptId receipt) receipt a = .ok count ∧
    impactMemory (s.attributed attemptId receipt) receipt = .ok memory ∧
    rows.totals = ImpactAuthority.add s.impactAuthority (s.attributed attemptId receipt) count memory

/-- An attempt that settled has its end, an event, an impact, and a retry
block unless it cleared. -/
theorem settleAttempt_ok {attemptId : Nat} {trackingKey : String} {receipt : CleanupReceipt}
    (h : s.settleAttempt attemptId trackingKey t receipt = .ok s') :
    ∃ rows, SettledAs s attemptId t receipt rows ∧
      s' = s.withSettled attemptId trackingKey t receipt rows := by
  simp only [settleAttempt, bind_eq_ok] at h
  obtain ⟨s₁, h₁, ⟨s₂, eventId⟩, h₂, h₃⟩ := h
  obtain ⟨attempts, hfin, rfl⟩ := finishAttempt_ok h₁
  obtain ⟨e, hea, -, hes, hep, het, rfl, rfl⟩ := insertEvent_ok h₂
  obtain ⟨a, count, memory, m, ha, hcount, hmemory, hterm, hma, hme, hms, hmt, rfl⟩ :=
    insertCleanupImpact_ok h₃
  refine ⟨⟨attempts, e, m,
      ImpactAuthority.add s.impactAuthority (s.attributed attemptId receipt) count memory⟩,
    ⟨hterm, hfin, hea, hes, hep, het, hma, ?_, hms, hmt, ?_⟩, ?_⟩
  · show m.eventId = _
    rw [hme]
    split_ifs <;> rfl
  · -- the blocks are not asked for what the impact counts
    have ha' : attempts.get attemptId = some a := by
      revert ha
      split_ifs <;> exact id
    have hsame : ∀ x : Store, x = (if receipt.state = .cleared then { s with attempts := attempts }
        else ({ s with attempts := attempts } : Store).insertRetryBlock receipt.incidentId
          trackingKey t receipt.reasonId attemptId) →
        x.attributed attemptId receipt = s.attributed attemptId receipt := by
      rintro x rfl
      split_ifs <;> rfl
    obtain ⟨b, hb, -⟩ := hfin.get attemptId a ha'
    have hobserved := hfin.observed attemptId a b ha' hb
    refine ⟨b, count, memory, hb, ?_, ?_, rfl⟩
    · rw [← impactProcessCount_congr hobserved, ← hcount, ← hsame _ rfl]
      rfl
    · rw [← hmemory, ← hsame _ rfl]
      rfl
  · unfold withSettled blocksAfter
    split_ifs <;> rfl

/-- An attempt that settled did not end before it started. -/
theorem settleAttempt_started {attemptId : Nat} {trackingKey : String} {receipt : CleanupReceipt}
    {a : CleanupAttempt} (h : s.settleAttempt attemptId trackingKey t receipt = .ok s')
    (ha : s.attempts.get attemptId = some a) (hopen : a.ended = none)
    (hterm : receipt.state.isTerminal = true) : a.startedAt ≤ t := by
  simp only [settleAttempt, bind_eq_ok] at h
  obtain ⟨s₁, h₁, -⟩ := h
  exact (finishAttempt_ok_iff ha hopen hterm).1 ⟨s₁, h₁⟩

/-- Settling succeeds exactly when the end is not before the start, where
the receipt measured nothing and the attempt has no impact yet. -/
theorem settleAttempt_ok_iff {attemptId : Nat} {trackingKey : String} {receipt : CleanupReceipt}
    {a : CleanupAttempt} (ha : s.attempts.get attemptId = some a) (hopen : a.ended = none)
    (ht : t < 2 ^ 63) (hres : receipt.resources = {}) (hchecks : receipt.revivalChecksCompleted = 0)
    (hterm : receipt.state.isTerminal = true)
    (hnew : ∀ id m, s.impacts.get id = some m →
      m.attemptId ≠ attemptId ∧ m.eventId ≤ s.events.lastId) :
    (∃ s', s.settleAttempt attemptId trackingKey t receipt = .ok s') ↔ a.startedAt ≤ t := by
  constructor
  · rintro ⟨s', h⟩
    exact settleAttempt_started h ha hopen hterm
  · intro hle
    have hfinish : ∃ s', s.finishAttempt attemptId (endOf t receipt) = .ok s' :=
      (finishAttempt_ok_iff ha hopen hterm).2 hle
    obtain ⟨s₁, h₁⟩ := hfinish
    obtain ⟨attempts, hfin, rfl⟩ := finishAttempt_ok h₁
    have hsome : ∃ b, attempts.get attemptId = some b := by
      refine Option.ne_none_iff_exists'.1 fun hnone => ?_
      rw [(hfin.keeps attemptId).1 hnone] at ha
      cases ha
    obtain ⟨b, hb⟩ := hsome
    simp only [settleAttempt, bind_eq_ok]
    -- the event and the impact go into a store that differs in its retry blocks alone
    set s₂ := (if receipt.state = .cleared then { s with attempts := attempts }
      else ({ s with attempts := attempts } : Store).insertRetryBlock receipt.incidentId trackingKey
        t receipt.reasonId attemptId) with hs₂
    have hatt : s₂.attempts = attempts := by
      rw [hs₂]
      split_ifs <;> rfl
    have hevents : s₂.events = s.events := by
      rw [hs₂]
      split_ifs <;> rfl
    have himpacts : s₂.impacts = s.impacts := by
      rw [hs₂]
      split_ifs <;> rfl
    have hevent : ∃ r, s₂.insertEvent (some attemptId) t receipt.incidentId receipt.state
        (.cleanup receipt) = .ok r := insertEvent_fits ht
    obtain ⟨⟨s₃, eventId⟩, h₃⟩ := hevent
    obtain ⟨e, -, -, -, -, -, hid, rfl⟩ := insertEvent_ok h₃
    have hfresh : ∀ id m, s₂.impacts.get id = some m →
        m.attemptId ≠ attemptId ∧ m.eventId ≠ eventId := by
      intro id m hm
      obtain ⟨hma, hme⟩ := hnew id m (himpacts ▸ hm)
      refine ⟨hma, ?_⟩
      rw [hid, hevents, Table.nextId]
      omega
    have hb₂ : s₂.attempts.get attemptId = some b := hatt ▸ hb
    have himpact : ∃ s', ({ s₂ with events := s₂.events.insert e } : Store).insertCleanupImpact
        attemptId eventId t receipt = .ok s' :=
      insertCleanupImpact_fits hb₂ ht hres hchecks hterm hfresh
    obtain ⟨s₄, h₄⟩ := himpact
    exact ⟨s₄, _, h₁, _, h₃, h₄⟩

end Store

end Unlinger
