import Unlinger.Daemon.Helpers.Lifecycle

/-!
# What an operation does to the store

Every operation of the store read back once: which tables it changed and
how, and which guards it passed. An invariant of the store is proved by
cases on this; what a case does not name is as it was.
-/

namespace Unlinger

/-- The operation records observations. -/
def StoreOp.observes : StoreOp → Bool
  | .recordObservation _ _ => true
  | .recordObservationBatch _ _ => true
  | _ => false

namespace Store

variable {s s' : Store} {t : Nat}

/-! ## Observations -/

/-- Observations were recorded: no event is gone, no cleanup event changed,
and no observation names an attempt it did not name before. -/
structure Observes (old new : Table EventRow) : Prop where
  lastId : old.lastId ≤ new.lastId
  cleanups : ∀ id e, e.payload.isCleanup = true → (new.get id = some e ↔ old.get id = some e)
  keeps : ∀ id e, old.get id = some e → ∃ e', new.get id = some e' ∧ e'.attemptId = e.attemptId
  attempts : ∀ id e, new.get id = some e → e.attemptId ≠ none →
    ∃ e', old.get id = some e' ∧ e'.attemptId = e.attemptId

theorem Observes.refl {events : Table EventRow} : Observes events events :=
  ⟨le_rfl, fun _ _ _ => Iff.rfl, fun _ e he => ⟨e, he, rfl⟩, fun _ e he _ => ⟨e, he, rfl⟩⟩

theorem Observes.trans {a b c : Table EventRow} (h : Observes a b) (h' : Observes b c) :
    Observes a c := by
  refine ⟨le_trans h.lastId h'.lastId, fun id e he => (h'.cleanups id e he).trans (h.cleanups id e he),
    fun id e he => ?_, fun id e he hne => ?_⟩
  · obtain ⟨e₁, he₁, hid₁⟩ := h.keeps id e he
    obtain ⟨e₂, he₂, hid₂⟩ := h'.keeps id e₁ he₁
    exact ⟨e₂, he₂, hid₂.trans hid₁⟩
  · obtain ⟨e₁, he₁, hid₁⟩ := h'.attempts id e he hne
    obtain ⟨e₂, he₂, hid₂⟩ := h.attempts id e₁ he₁ (by rw [hid₁]; exact hne)
    exact ⟨e₂, he₂, hid₂.trans hid₁⟩

/-- A new observation of no attempt. -/
theorem observes_insert {events : Table EventRow} {e : EventRow} (hattempt : e.attemptId = none)
    (hpayload : e.payload.isCleanup = false) : Observes events (events.insert e) := by
  refine ⟨Nat.le_succ _, fun id x hx => ?_, fun id x hx => ?_, fun id x hx hne => ?_⟩
  · rw [Table.get_insert]
    split_ifs with hid
    · subst hid
      rw [Table.get_nextId]
      constructor
      · rintro ⟨rfl⟩
        rw [hpayload] at hx
        cases hx
      · intro h
        cases h
    · exact Iff.rfl
  · exact ⟨x, Table.get_insert_of_some hx, rfl⟩
  · rw [Table.get_insert] at hx
    split_ifs at hx with hid
    · obtain rfl := Option.some.inj hx
      exact absurd hattempt hne
    · exact ⟨x, hx, rfl⟩

/-- An observation that goes on. -/
theorem observes_extend {events events' : Table EventRow} {i at_ : Nat} {report : ObservationRecord}
    {latest : EventRow} (hlatest : events.get i = some latest)
    (hpayload : latest.payload.isCleanup = false)
    (h : events.update (fun id e => (.ok (if hi : id = i ∧ e.occurredAt ≤ at_
      then e.extend at_ report hi.2 else e) : Except StoreError EventRow)) = .ok events') :
    Observes events events' := by
  refine ⟨le_of_eq (Table.lastId_update h).symm, fun id e he => ?_, fun id e he => ?_,
    fun id e he _ => ?_⟩
  · rw [Table.get_update h]
    constructor
    · rintro ⟨w, hw, hf⟩
      split_ifs at hf with hi
      · obtain rfl := Except.ok.inj hf
        cases he
      · obtain rfl := Except.ok.inj hf
        exact hw
    · intro hold
      refine ⟨e, hold, ?_⟩
      rw [dif_neg]
      rintro ⟨rfl, -⟩
      obtain rfl := Option.some.inj (hold.symm.trans hlatest)
      rw [hpayload] at he
      cases he
  · refine ⟨_, (Table.get_update h).2 ⟨e, he, rfl⟩, ?_⟩
    split_ifs <;> rfl
  · obtain ⟨w, hw, hf⟩ := (Table.get_update h).1 he
    refine ⟨w, hw, ?_⟩
    obtain rfl := Except.ok.inj hf
    split_ifs <;> rfl

/-- A fold that takes each element or keeps what it has returns one of
them, and returns none of none alone. -/
theorem foldl_chosen {α : Type} {f : Option α → α → Option α}
    (hf : ∀ best e, f best e = some e ∨ best ≠ none ∧ f best e = best) {es : List α}
    {best : Option α} :
    (∀ x, es.foldl f best = some x → best = some x ∨ x ∈ es) ∧
      (es.foldl f best = none → best = none ∧ es = []) := by
  induction es generalizing best with
  | nil => exact ⟨fun x h => Or.inl h, fun h => ⟨h, rfl⟩⟩
  | cons e es ih =>
      obtain ⟨hsome, hnone⟩ := @ih (f best e)
      rw [List.foldl_cons]
      rcases hf best e with htaken | ⟨hbest, hkept⟩
      · refine ⟨fun x hx => ?_, fun h => ?_⟩
        · rcases hsome x hx with hhead | htail
          · rw [htaken] at hhead
            exact Or.inr (by simp [Option.some.inj hhead])
          · exact Or.inr (List.mem_cons_of_mem e htail)
        · have hcontra := (hnone h).1
          rw [htaken] at hcontra
          cases hcontra
      · refine ⟨fun x hx => ?_, fun h => ?_⟩
        · rcases hsome x hx with hhead | htail
          · rw [hkept] at hhead
            exact Or.inl hhead
          · exact Or.inr (List.mem_cons_of_mem e htail)
        · have hcontra := (hnone h).1
          rw [hkept] at hcontra
          exact absurd hcontra hbest

/-- The newest event is one of them, where there are any. -/
theorem latestOf_chosen (events : List (Nat × EventRow)) :
    (∀ x, latestOf events = some x → x ∈ events) ∧ (latestOf events = none → events = []) := by
  have hchosen : (∀ x, latestOf events = some x → none = some x ∨ x ∈ events) ∧
      (latestOf events = none → (none : Option (Nat × EventRow)) = none ∧ events = []) := by
    refine foldl_chosen fun best e => ?_
    cases best with
    | none => exact Or.inl rfl
    | some b =>
        dsimp only
        split_ifs
        · exact Or.inl rfl
        · exact Or.inr ⟨by simp, rfl⟩
  refine ⟨fun x hx => ?_, fun h => (hchosen.2 h).2⟩
  rcases hchosen.1 x hx with hnone | hmem
  · cases hnone
  · exact hmem

theorem latestOf_mem {events : List (Nat × EventRow)} {x : Nat × EventRow}
    (h : latestOf events = some x) : x ∈ events :=
  (latestOf_chosen events).1 x h

theorem upsertObservationSpan_ok {report : ObservationRecord} {id : Nat}
    (h : s.upsertObservationSpan t report = .ok (s', id)) :
    ∃ events, Observes s.events events ∧ s' = { s with events := events } := by
  have happended : s.insertEvent none t report.incidentId report.state (.observation report)
      = .ok (s', id) → ∃ events, Observes s.events events ∧ s' = { s with events := events } := by
    intro hins
    obtain ⟨e, hea, -, -, hep, -, -, rfl⟩ := insertEvent_ok hins
    exact ⟨_, observes_insert hea (by rw [hep]; rfl), rfl⟩
  simp only [upsertObservationSpan, bind_eq_ok] at h
  obtain ⟨at_, -, h⟩ := h
  split at h
  · exact happended h
  · rename_i i latest hlatest
    split at h
    · exact happended h
    · rename_i previous hpayload
      split_ifs at h
      · simp only [bind_eq_ok, pure_eq_ok] at h
        obtain ⟨events, hup, heq⟩ := h
        obtain ⟨rfl, -⟩ := Prod.mk.inj heq
        have hmem := (List.mem_filter.1 (latestOf_mem hlatest)).1
        exact ⟨events, observes_extend (Table.mem_entries.1 hmem) (by rw [hpayload]; rfl) hup, rfl⟩
      · exact happended h

theorem recordObservationBatch_ok {reports : List IncidentReport} {ids : List Nat}
    (h : s.recordObservationBatch t reports = .ok (s', ids)) :
    ∃ events, Observes s.events events ∧ s' = { s with events := events } := by
  refine foldlM_invariant (P := fun recorded : Store × List Nat => ∃ events,
    Observes s.events events ∧ recorded.1 = { s with events := events }) ?_
    ⟨s.events, Observes.refl, rfl⟩ h
  rintro ⟨s₁, ids₁⟩ report ⟨s₂, ids₂⟩ ⟨events₁, h₁, rfl⟩ hstep
  simp only [bind_eq_ok, pure_eq_ok] at hstep
  obtain ⟨⟨s₃, id⟩, hrec, heq⟩ := hstep
  obtain ⟨rfl, -⟩ := Prod.mk.inj heq
  obtain ⟨events₂, h₂, rfl⟩ := upsertObservationSpan_ok hrec
  exact ⟨events₂, h₁.trans h₂, rfl⟩

/-! ## Attempts -/

/-- Where no attempt is open there is none among the rows. -/
theorem openAttempts_nil_iff : s.openAttempts = [] ↔
    ∀ i a, s.attempts.get i = some a → a.ended ≠ none := by
  simp only [openAttempts, List.filter_eq_nil_iff, Option.isNone_iff_eq_none]
  constructor
  · intro h i a ha
    exact h (i, a) (Table.mem_entries.2 ha)
  · intro h e he
    exact h e.1 e.2 (Table.mem_entries.1 he)

/-- At most one attempt is open. -/
def AtMostOneOpen (s : Store) : Prop :=
  ∀ i j a b, s.attempts.get i = some a → s.attempts.get j = some b → a.ended = none →
    b.ended = none → i = j

theorem AtMostOneOpen.openAttempts_cases (h : s.AtMostOneOpen) :
    s.openAttempts = [] ∨ ∃ i a, s.openAttempts = [(i, a)] ∧ s.attempts.get i = some a ∧
      a.ended = none := by
  have hmem : ∀ e ∈ s.openAttempts, s.attempts.get e.1 = some e.2 ∧ e.2.ended = none := by
    intro e he
    obtain ⟨hin, hopen⟩ := List.mem_filter.1 he
    exact ⟨Table.mem_entries.1 hin, by simpa using hopen⟩
  have hsorted : s.openAttempts.Pairwise fun x y => x.1 < y.1 := s.attempts.rows.sorted.filter _
  cases hlist : s.openAttempts with
  | nil => exact Or.inl rfl
  | cons x xs =>
      rw [hlist] at hmem hsorted
      refine Or.inr ⟨x.1, x.2, ?_, (hmem x (by simp)).1, (hmem x (by simp)).2⟩
      cases xs with
      | nil => rfl
      | cons y ys =>
          -- two open attempts would have two numbers
          obtain ⟨hx, hxo⟩ := hmem x (by simp)
          obtain ⟨hy, hyo⟩ := hmem y (by simp)
          have hxy : x.1 < y.1 := (List.pairwise_cons.1 hsorted).1 y (by simp)
          exact absurd (h _ _ _ _ hx hy hxo hyo) (Nat.ne_of_lt hxy)

theorem requireOpen_ok {attempt : CleanupAttemptHandle} (h : s.requireOpen attempt = .ok ()) :
    ∃ a, s.attempts.get attempt.id = some a ∧ a.ended = none := by
  simp only [requireOpen, bind_eq_ok, found_eq_ok, require_eq_ok, exists_const,
    Option.isNone_iff_eq_none] at h
  obtain ⟨a, ha, -, hopen⟩ := h
  exact ⟨a, ha, hopen⟩

/-- The rows a new attempt begins with. -/
structure Begins (s : Store) (t : Nat) (report : IncidentReport) (a : CleanupAttempt)
    (e : EventRow) : Prop where
  unblocked : s.retryBlocks.lookup report.incidentId = none
  noneOpen : s.openAttempts = []
  incident : a.incidentId = report.incidentId
  opened : a.ended = none
  eventAttempt : e.attemptId = some s.attempts.nextId
  eventState : e.state = .reclaiming
  eventPayload : e.payload.isCleanup = true
  eventTime : e.occurredAt = t

theorem beginCleanupAttempt_ok {report : IncidentReport} {epoch : String}
    {handle : CleanupAttemptHandle} (h : s.beginCleanupAttempt t report epoch = .ok (s', handle)) :
    ∃ a e, Begins s t report a e ∧
      s' = { s with attempts := s.attempts.insert a, events := s.events.insert e } := by
  simp only [beginCleanupAttempt, bind_eq_ok, require_eq_ok, sqliteMillis_eq_ok, exists_const,
    pure_eq_ok, Option.isNone_iff_eq_none, List.isEmpty_iff] at h
  obtain ⟨-, -, at_, ⟨-, rfl⟩, hblock, hopen, _, -, _, -, ⟨s₁, id⟩, hevent, heq⟩ := h
  obtain ⟨rfl, -⟩ := Prod.mk.inj heq
  obtain ⟨e, hea, -, hes, hep, het, -, rfl⟩ := insertEvent_ok hevent
  exact ⟨_, e, ⟨hblock, hopen, rfl, rfl, hea, hes, by rw [hep]; rfl, het⟩, rfl⟩

/-- A row was prepared for an open attempt. -/
structure Prepares {ι δ : Type} (s : Store) (attemptId : Nat) (r : JournalRow ι δ) : Prop where
  attempt : r.attemptId = attemptId
  pending : r.completed = none
  opened : ∃ a, s.attempts.get attemptId = some a ∧ a.ended = none
  sequence : r.sequence < 2 ^ 63

theorem prepareCleanupAction_ok {attempt : CleanupAttemptHandle} {sequence : Nat}
    {intent : CleanupActionIntent} {handle : PreparedActionHandle}
    (h : s.prepareCleanupAction attempt sequence t intent = .ok (s', handle)) :
    ∃ r, Prepares s attempt.id r ∧ s' = { s with actions := s.actions.insert r } := by
  simp only [prepareCleanupAction, bind_eq_ok, require_eq_ok, pure_eq_ok] at h
  obtain ⟨_, -, seq, hseq, _, -, _, hopen, _, -, rows, hrows, heq⟩ := h
  obtain ⟨rfl, -⟩ := Prod.mk.inj heq
  obtain ⟨r, hid, hpending, -, -, hsequence, rfl⟩ := prepareRow_ok hrows
  obtain ⟨hfits, rfl⟩ := sqliteMillis_eq_ok.1 hseq
  exact ⟨r, ⟨hid, hpending, requireOpen_ok hopen, by rw [hsequence]; exact hfits⟩, rfl⟩

theorem prepareCleanupArtifactAction_ok {attempt : CleanupAttemptHandle} {sequence : Nat}
    {intent : ArtifactActionIntent} {handle : PreparedArtifactActionHandle}
    (h : s.prepareCleanupArtifactAction attempt sequence t intent = .ok (s', handle)) :
    ∃ r, Prepares s attempt.id r ∧
      validArtifactFingerprint r.intent.artifactFingerprint = true ∧
      s' = { s with artifactActions := s.artifactActions.insert r } := by
  simp only [prepareCleanupArtifactAction, bind_eq_ok, require_eq_ok, exists_const, pure_eq_ok] at h
  obtain ⟨hvalid, seq, hseq, _, -, _, hopen, rows, hrows, heq⟩ := h
  obtain ⟨rfl, -⟩ := Prod.mk.inj heq
  obtain ⟨r, hid, hpending, hintent, -, hsequence, rfl⟩ := prepareRow_ok hrows
  obtain ⟨hfits, rfl⟩ := sqliteMillis_eq_ok.1 hseq
  exact ⟨r, ⟨hid, hpending, requireOpen_ok hopen, by rw [hsequence]; exact hfits⟩,
    by rw [hintent]; exact hvalid, rfl⟩

/-- The rows of a journal table that are of an attempt are the same. -/
def SameRows {ι δ : Type} (old new : Table (JournalRow ι δ)) (attemptId : Nat) : Prop :=
  ∀ id r, r.attemptId = attemptId → (new.get id = some r ↔ old.get id = some r)

/-- The rows of a journal table after some were completed: the same rows,
of which some got their end. -/
structure Completes {ι δ : Type} (old new : Table (JournalRow ι δ)) : Prop where
  lastId : new.lastId = old.lastId
  get : ∀ id r, new.get id = some r → ∃ r', old.get id = some r' ∧ r.attemptId = r'.attemptId ∧
    r.intent = r'.intent ∧ (r.completed = none → r'.completed = none) ∧
    (r'.completed ≠ none → r = r')
  keeps : ∀ id r', old.get id = some r' → ∃ r, new.get id = some r
  sequence : ∀ id r, new.get id = some r → ∃ r', old.get id = some r' ∧ r.sequence = r'.sequence

/-- A row that is asked to end where it was picked: it stays, or it was
pending and ended. -/
theorem completed_or_same {ι δ : Type} {old r : JournalRow ι δ} {picked : Prop} [Decidable picked]
    {table : String} {d : δ}
    (h : (if picked ∧ old.completed.isNone then old.complete table t d else .ok old) = .ok r) :
    r = old ∨ old.completed = none ∧ r.attemptId = old.attemptId ∧ r.intent = old.intent ∧
      r.sequence = old.sequence := by
  split_ifs at h with hpicked
  · have hpending : old.completed = none := by simpa using hpicked.2
    obtain ⟨-, rfl⟩ := complete_eq_ok.1 h
    exact Or.inr ⟨hpending, rfl, rfl, rfl⟩
  · exact Or.inl (Except.ok.inj h).symm

/-- An update that leaves each row be or ends a pending one completes
some. -/
theorem completes_of_update {ι δ : Type} {rows rows' : Table (JournalRow ι δ)}
    {f : Nat → JournalRow ι δ → Except StoreError (JournalRow ι δ)}
    (hf : ∀ id old r, f id old = .ok r →
      r = old ∨ old.completed = none ∧ r.attemptId = old.attemptId ∧ r.intent = old.intent ∧
        r.sequence = old.sequence)
    (h : rows.update f = .ok rows') : Completes rows rows' := by
  refine ⟨Table.lastId_update h, fun id r hr => ?_, fun id r' hr' => ?_, fun id r hr => ?_⟩
  · obtain ⟨old, hold, hrow⟩ := (Table.get_update h).1 hr
    refine ⟨old, hold, ?_⟩
    rcases hf id old r hrow with rfl | ⟨hpending, hattempt, hintent, -⟩
    · exact ⟨rfl, rfl, fun hnone => hnone, fun _ => rfl⟩
    · exact ⟨hattempt, hintent, fun _ => hpending, fun hsome => absurd hpending hsome⟩
  · obtain ⟨r, hr⟩ := Table.update_ok_iff.1 ⟨rows', h⟩ id r' hr'
    exact ⟨r, (Table.get_update h).2 ⟨r', hr', hr⟩⟩
  · obtain ⟨old, hold, hrow⟩ := (Table.get_update h).1 hr
    rcases hf id old r hrow with rfl | ⟨-, -, -, hsequence⟩
    · exact ⟨r, hold, rfl⟩
    · exact ⟨old, hold, hsequence⟩

theorem completeRow_completes {ι δ : Type} [DecidableEq δ] {rows rows' : Table (JournalRow ι δ)}
    {table action : String} {name : δ → String} {prepared : PreparedActionHandle} {d : δ}
    (h : completeRow rows table action name prepared t d = .ok rows') : Completes rows rows' := by
  simp only [completeRow, bind_eq_ok, found_eq_ok, require_eq_ok, exists_const] at h
  obtain ⟨stored, -, -, h⟩ := h
  cases hc : stored.completed with
  | some c =>
      simp only [hc, bind_eq_ok, require_eq_ok, exists_const, pure_eq_ok] at h
      obtain ⟨-, rfl⟩ := h
      exact ⟨rfl, fun id r hr => ⟨r, hr, rfl, rfl, fun hc => hc, fun _ => rfl⟩,
        fun id r hr => ⟨r, hr⟩, fun id r hr => ⟨r, hr, rfl⟩⟩
  | none =>
      simp only [hc] at h
      exact completes_of_update (fun _ _ _ hrow => completed_or_same hrow) h

theorem completeUnknown_completes {ι δ : Type} {rows rows' : Table (JournalRow ι δ)}
    {table : String} {attemptId : Nat} {d : δ}
    (h : completeUnknown rows table attemptId t d = .ok rows') : Completes rows rows' :=
  completes_of_update (fun _ _ _ hrow => completed_or_same hrow) h

/-- A receipt of a cleanup that ended, with the actions as they are
journalled. -/
structure Receipts (s : Store) (attemptId : Nat) (receipt : CleanupReceipt) : Prop where
  actions : s.actionsForAttempt attemptId = .ok receipt.actions
  artifactActions : s.artifactActionsForAttempt attemptId = .ok receipt.artifactActions

theorem projectReceipt_actions (receipt : CleanupReceipt) :
    (projectReceipt receipt).actions = receipt.actions ∧
      (projectReceipt receipt).artifactActions = receipt.artifactActions ∧
      (projectReceipt receipt).state = receipt.state ∧
      (projectReceipt receipt).incidentId = receipt.incidentId := by
  unfold projectReceipt
  split_ifs <;> exact ⟨rfl, rfl, rfl, rfl⟩

/-- Nothing prepared for the attempt is left to complete. -/
structure NothingPrepared (s : Store) (attemptId : Nat) : Prop where
  actions : ∀ id r, s.actions.get id = some r → r.attemptId = attemptId → r.completed ≠ none
  artifactActions : ∀ id r, s.artifactActions.get id = some r → r.attemptId = attemptId →
    r.completed ≠ none

theorem preparedCount_eq_zero {ι δ : Type} {rows : Table (JournalRow ι δ)} {attemptId : Nat} :
    preparedCount rows attemptId = 0 ↔
      ∀ id r, rows.get id = some r → r.attemptId = attemptId → r.completed ≠ none := by
  simp only [preparedCount, List.countP_eq_zero, List.mem_map, Prod.exists, Bool.and_eq_true,
    beq_iff_eq, Option.isNone_iff_eq_none, not_and, forall_exists_index, and_imp]
  constructor
  · intro h id r hr hid
    exact h r id r (Table.mem_entries.2 hr) rfl hid
  · rintro h r id r' hr rfl hid
    exact h id r' (Table.mem_entries.1 hr) hid

/-- The attempt was open, and settled with the receipt. -/
structure Settles (s : Store) (i : Nat) (a : CleanupAttempt) (t : Nat) (receipt : CleanupReceipt)
    (rows : SettledRows) : Prop where
  stored : s.attempts.get i = some a
  opened : a.ended = none
  incident : receipt.incidentId = a.incidentId
  nothingPrepared : s.NothingPrepared i
  receipts : s.Receipts i receipt
  settled : SettledAs s i t receipt rows

/-- **What ending an attempt does**: the receipt it ended with before, or
the attempt settles. -/
theorem completeCleanupAttempt_ok {attempt : CleanupAttemptHandle}
    {receipt returned : CleanupReceipt}
    (h : s.completeCleanupAttempt attempt t receipt = .ok (s', returned)) :
    (∃ a ended, s.attempts.get attempt.id = some a ∧ a.ended = some ended ∧
      ended.state = receipt.state ∧ s.terminalReceiptForAttempt attempt.id = .ok returned ∧ s' = s) ∨
    (∃ a rows, s.Settles attempt.id a t returned rows ∧ returned.state = receipt.state ∧
      s' = s.withSettled attempt.id a.trackingKey t returned rows) := by
  simp only [completeCleanupAttempt, bind_eq_ok, found_eq_ok, require_eq_ok, exists_const] at h
  obtain ⟨-, -, at_, hat, a, ha, hincident, h⟩ := h
  obtain ⟨-, rfl⟩ := sqliteMillis_eq_ok.1 hat
  cases hended : a.ended with
  | some ended =>
      simp only [hended, bind_eq_ok, require_eq_ok, exists_const, pure_eq_ok] at h
      obtain ⟨hstate, stored, hstored, heq⟩ := h
      obtain ⟨rfl, rfl⟩ := Prod.mk.inj heq
      exact Or.inl ⟨a, ended, ha, hended, hstate, hstored, rfl⟩
  | none =>
      simp only [hended, bind_eq_ok, require_eq_ok, exists_const, pure_eq_ok] at h
      obtain ⟨⟨hact, hart⟩, actions, hactions, artifacts, hartifacts, _, -, s₁, hsettle, heq⟩ := h
      obtain ⟨rfl, rfl⟩ := Prod.mk.inj heq
      obtain ⟨rows, hrows, rfl⟩ := settleAttempt_ok hsettle
      obtain ⟨hpa, hpart, hps, hpi⟩ := projectReceipt_actions { receipt with
        incidentId := attempt.incidentId, actions := actions, artifactActions := artifacts }
      refine Or.inr ⟨a, rows, ⟨ha, hended, hpi.trans hincident.symm,
        ⟨preparedCount_eq_zero.1 hact, preparedCount_eq_zero.1 hart⟩, ⟨?_, ?_⟩, hrows⟩, hps, rfl⟩
      · rw [hpa]
        exact hactions
      · rw [hpart]
        exact hartifacts

/-- After completing all as unknown, nothing of the attempt is left to
complete. -/
theorem completeUnknown_done {ι δ : Type} {rows rows' : Table (JournalRow ι δ)} {table : String}
    {attemptId : Nat} {d : δ} (h : completeUnknown rows table attemptId t d = .ok rows') {id : Nat}
    {r : JournalRow ι δ} (hr : rows'.get id = some r) (hid : r.attemptId = attemptId) :
    r.completed ≠ none := by
  obtain ⟨old, hold, holdid, -, -, -, hcomp⟩ := completeUnknown_get h hr
  rw [hcomp]
  split_ifs with hif
  · simp
  · intro hnone
    exact hif ⟨holdid ▸ hid, hnone⟩

/-- The tables of actions after a recovery completed what an attempt had
prepared. -/
structure Uncertain (s : Store) (attemptId : Nat) (t : Nat) (actions : Table ActionRow)
    (artifactActions : Table ArtifactActionRow) : Prop where
  actions_ok : completeUnknown s.actions "cleanup_actions" attemptId t .deliveryUnknown = .ok actions
  artifactActions_ok : completeUnknown s.artifactActions "cleanup_artifact_actions" attemptId t
    .deliveryUnknown = .ok artifactActions

/-- **What a recovery does**: nothing where no attempt is open; otherwise
the one open attempt settles as failed. -/
theorem recoverIncompleteAttempts_ok {receipts : List CleanupReceipt} (hs : s.AtMostOneOpen)
    (h : s.recoverIncompleteAttempts t = .ok (s', receipts)) :
    (s.openAttempts = [] ∧ s' = s ∧ receipts = []) ∨
    ∃ i a actions artifactActions receipt rows, s.openAttempts = [(i, a)] ∧
      s.Uncertain i t actions artifactActions ∧ receipts = [receipt] ∧ receipt.state = .failed ∧
      ({ s with actions := actions, artifactActions := artifactActions } : Store).Settles i a t
        receipt rows ∧
      s' = ({ s with actions := actions, artifactActions := artifactActions } : Store).withSettled i
        a.trackingKey t receipt rows := by
  simp only [recoverIncompleteAttempts, bind_eq_ok] at h
  obtain ⟨at_, hat, h⟩ := h
  obtain ⟨-, rfl⟩ := sqliteMillis_eq_ok.1 hat
  rcases hs.openAttempts_cases with hnil | ⟨i, a, hone, ha, hopen⟩
  · rw [hnil, List.foldlM_nil, pure_eq_ok] at h
    obtain ⟨rfl, rfl⟩ := Prod.mk.inj h
    exact Or.inl ⟨hnil, rfl, rfl⟩
  · simp only [hone, List.foldlM_cons, List.foldlM_nil, bind_eq_ok, pure_eq_ok, recoverAttempt] at h
    obtain ⟨_, ⟨actions, hact, artifacts, hart, process, hprocess, removals, hremovals, s₂, hsettle,
      rfl⟩, heq⟩ := h
    obtain ⟨rfl, rfl⟩ := Prod.mk.inj heq
    obtain ⟨rows, hrows, rfl⟩ := settleAttempt_ok hsettle
    refine Or.inr ⟨i, a, actions, artifacts, _, rows, hone, ⟨hact, hart⟩, rfl, rfl,
      ⟨ha, hopen, rfl, ⟨?_, ?_⟩, ⟨hprocess, hremovals⟩, hrows⟩, rfl⟩
    · exact fun _ _ hr hid => completeUnknown_done hact hr hid
    · exact fun _ _ hr hid => completeUnknown_done hart hr hid

/-! ## The owner -/

/-- The protection of an incident as it was last observed. -/
structure ProtectsObserved (s : Store) (incidentId : String) (report : ObservationRecord)
    (row : IncidentProtection) : Prop where
  observed : ∃ event, s.latestObservation incidentId = some event ∧
    event.payload = .observation report
  incident : report.incidentId = incidentId
  root : row.rootIdentityFingerprint = report.root.identityFingerprint
  member : row.memberFingerprint = report.memberFingerprint

/-- What a mutation sets, with whether it was allowed and changed
anything. -/
inductive Applies (s : Store) (t : Nat) : OrdinaryMutation → Bool → Option Nat →
    OrdMap String RetryBlock → OrdMap String CoolingCandidate → OrdMap String IncidentProtection → Prop
  | nothing {mutation} :
      Applies s t mutation false s.pauseUntil s.retryBlocks s.coolingCandidates s.protections
  | paused {duration deadline} :
      Applies s t (.pause duration) true (some deadline) s.retryBlocks s.coolingCandidates
        s.protections
  | resumed : Applies s t .resume true none s.retryBlocks s.coolingCandidates s.protections
  | retried {incidentId block} (hblock : s.retryBlocks.lookup incidentId = some block) :
      Applies s t (.retryFailedCleanup incidentId) true s.pauseUntil (s.retryBlocks.erase incidentId)
        (s.coolingCandidates.erase block.trackingKey) s.protections
  | isProtected {incidentId report row} (hnone : s.protections.lookup incidentId = none)
      (h : s.ProtectsObserved incidentId report row) :
      Applies s t (.protectIncident incidentId) true s.pauseUntil s.retryBlocks s.coolingCandidates
        (s.protections.insert incidentId row)
  | unprotected {incidentId} :
      Applies s t (.unprotectIncident incidentId) true s.pauseUntil s.retryBlocks s.coolingCandidates
        (s.protections.erase incidentId)

/-- What an applied mutation changed. -/
theorem applyOrdinaryMutation_applies {mutation : OrdinaryMutation} {result : MutationResult}
    (h : s.applyOrdinaryMutation mutation t = .ok (s', result)) :
    ∃ pause blocks cooling protections, s.Applies t mutation true pause blocks cooling protections ∧
      s' = { s with
        pauseUntil := pause
        retryBlocks := blocks
        coolingCandidates := cooling
        protections := protections } := by
  simp only [applyOrdinaryMutation, bind_eq_ok] at h
  obtain ⟨_, -, h⟩ := h
  cases mutation with
  | pause duration =>
      simp only [bind_eq_ok, pure_eq_ok] at h
      obtain ⟨_, -, _, -, heq⟩ := h
      obtain ⟨rfl, -⟩ := Prod.mk.inj heq
      exact ⟨_, _, _, _, .paused, rfl⟩
  | resume =>
      simp only [bind_eq_ok, pure_eq_ok] at h
      obtain ⟨_, -, heq⟩ := h
      obtain ⟨rfl, -⟩ := Prod.mk.inj heq
      exact ⟨_, _, _, _, .resumed, rfl⟩
  | retryFailedCleanup incidentId =>
      simp only [bind_eq_ok, found_eq_ok, pure_eq_ok] at h
      obtain ⟨block, hblock, heq⟩ := h
      obtain ⟨rfl, -⟩ := Prod.mk.inj heq
      exact ⟨_, _, _, _, .retried hblock, rfl⟩
  | protectIncident incidentId =>
      simp only [bind_eq_ok, found_eq_ok] at h
      obtain ⟨event, hevent, h⟩ := h
      split at h
      · cases h
      · rename_i report hpayload
        simp only [bind_eq_ok, require_eq_ok, exists_const, pure_eq_ok] at h
        obtain ⟨hincident, hnone, _, -, heq⟩ := h
        obtain ⟨rfl, -⟩ := Prod.mk.inj heq
        rw [OrdMap.contains, Option.isSome_eq_false_iff, Option.isNone_iff_eq_none] at hnone
        exact ⟨_, _, _, _, .isProtected hnone ⟨⟨event, hevent, hpayload⟩, hincident, rfl, rfl⟩, rfl⟩
  | unprotectIncident incidentId =>
      simp only [bind_eq_ok, pure_eq_ok] at h
      obtain ⟨_, -, heq⟩ := h
      obtain ⟨rfl, -⟩ := Prod.mk.inj heq
      exact ⟨_, _, _, _, .unprotected, rfl⟩

/-- What a decided mutation changed, and that it counts as a change where
it was applied. -/
theorem decideMutation_applies {mutation : OrdinaryMutation} {decision : PolicyDecision}
    {outcome : MutationOutcome} {changed : Bool}
    (h : s.decideMutation mutation t decision = .ok (s', outcome, changed)) :
    (∃ pause blocks cooling protections,
      s.Applies t mutation changed pause blocks cooling protections ∧ s' = { s with
        pauseUntil := pause
        retryBlocks := blocks
        coolingCandidates := cooling
        protections := protections }) ∧
      (changed = true ↔ ∃ result, outcome = .applied result) ∧ (changed = false → s' = s) := by
  cases decision with
  | allow =>
      simp only [decideMutation, bind_eq_ok, pure_eq_ok] at h
      obtain ⟨⟨s₀, result⟩, happly, heq⟩ := h
      simp only [Prod.mk.injEq] at heq
      obtain ⟨rfl, rfl, rfl⟩ := heq
      exact ⟨applyOrdinaryMutation_applies happly, by simp, fun hc => by cases hc⟩
  | noChange reasonId =>
      simp only [decideMutation, pure_eq_ok, Prod.mk.injEq] at h
      obtain ⟨rfl, rfl, rfl⟩ := h
      exact ⟨⟨_, _, _, _, .nothing, rfl⟩, by simp, fun _ => rfl⟩
  | reject reasonId =>
      simp only [decideMutation, pure_eq_ok, Prod.mk.injEq] at h
      obtain ⟨rfl, rfl, rfl⟩ := h
      exact ⟨⟨_, _, _, _, .nothing, rfl⟩, by simp, fun _ => rfl⟩

/-- The durable revision counts the changes, and nothing else changes. -/
theorem revise_ok {changed : Bool} (h : s.revise changed = .ok s') :
    ∃ hrevised, s' = { s with
      cleanupPolicyRevision := s.cleanupPolicyRevision + changed.toNat, revised := hrevised } := by
  unfold revise at h
  split_ifs at h with hchanged
  · simp only [bind_eq_ok, pure_eq_ok] at h
    obtain ⟨_, -, _, -, rfl⟩ := h
    subst hchanged
    exact ⟨_, rfl⟩
  · rw [pure_eq_ok] at h
    subst h
    obtain rfl : changed = false := by simpa using hchanged
    exact ⟨s.revised, rfl⟩

/-- The store after a new public mutation. -/
structure Mutated where
  pause : Option Nat
  blocks : OrdMap String RetryBlock
  cooling : OrdMap String CoolingCandidate
  protections : OrdMap String IncidentProtection
  commit : MutationCommit

/-- The receipt of a request goes under its name. -/
def receiptKey (context : MutationContext) : String ×ₗ String :=
  toLex (context.namespaceToken, context.mutationId)

/-- The store with what a mutation set. -/
def withMutated (s : Store) (context : MutationContext) (mutation : OrdinaryMutation) (m : Mutated) :
    Store :=
  { s with
    pauseUntil := m.pause
    retryBlocks := m.blocks
    coolingCandidates := m.cooling
    protections := m.protections
    cleanupPolicyRevision := s.cleanupPolicyRevision + m.commit.stateChanged.toNat
    mutationReceipts := s.mutationReceipts.insert (receiptKey context) ⟨mutation, m.commit.receipt⟩
    revised := Nat.le_add_right_of_le s.revised }

/-- A request that had no receipt was carried out under the current
namespace. -/
structure Mutates (s : Store) (context : MutationContext) (mutation : OrdinaryMutation) (t : Nat)
    (m : Mutated) : Prop where
  unanswered : s.mutationReceipts.lookup (receiptKey context) = none
  token : s.namespaceToken.value = context.namespaceToken
  applies : s.Applies t mutation m.commit.stateChanged m.pause m.blocks m.cooling m.protections
  unchanged : m.commit.stateChanged = false → m.pause = s.pauseUntil ∧ m.blocks = s.retryBlocks ∧
    m.cooling = s.coolingCandidates ∧ m.protections = s.protections
  changed_iff : m.commit.stateChanged = true ↔ ∃ result, m.commit.receipt.outcome = .applied result
  fresh : m.commit.newlyCommitted = true
  revision : m.commit.receipt.policyRevisionAfter
    = s.cleanupPolicyRevision + m.commit.stateChanged.toNat
  receiptToken : m.commit.receipt.namespaceToken = context.namespaceToken
  receiptId : m.commit.receipt.mutationId = context.mutationId
  receiptKind : m.commit.receipt.kind = mutation.kind
  receiptTime : m.commit.receipt.committedAtUnixMillis = t
  receiptDeadline : m.commit.receipt.retainUntilUnixMillis = t + mutationReconciliationWindowMillis

/-- **What a public mutation does**: a request that has a receipt gets it
again and changes nothing; another is of the current namespace, and is
carried out. -/
theorem commitPublicOrdinaryMutation_cases {context : MutationContext} {mutation : OrdinaryMutation}
    {runtime : RuntimePolicyFacts} {commit : MutationCommit}
    (h : s.commitPublicOrdinaryMutation context mutation runtime t = .ok (s', commit)) :
    (∃ row, s.mutationReceipts.lookup (receiptKey context) = some row ∧ row.command = mutation ∧
      s' = s ∧ commit = ⟨row.receipt, false, false⟩) ∨
    (∃ m, s.Mutates context mutation t m ∧ commit = m.commit ∧
      s' = s.withMutated context mutation m) := by
  simp only [commitPublicOrdinaryMutation, bind_eq_ok, sqliteMillis_eq_ok] at h
  obtain ⟨_, -, _, -, _, ⟨-, rfl⟩, h⟩ := h
  split at h
  · rename_i row hrow
    simp only [replayReceipt, bind_eq_ok, require_eq_ok, exists_const, pure_eq_ok] at h
    obtain ⟨_, ⟨hcommand, -, rfl⟩, heq⟩ := h
    obtain ⟨rfl, rfl⟩ := Prod.mk.inj heq
    exact Or.inl ⟨row, hrow, hcommand, rfl, rfl⟩
  · rename_i hnone
    simp only [commitFresh, bind_eq_ok, require_eq_ok, exists_const, pure_eq_ok] at h
    obtain ⟨htoken, -, _, -, ⟨s₁, outcome, changed⟩, hdecide, s₂, hrevise, -, heq⟩ := h
    obtain ⟨rfl, rfl⟩ := Prod.mk.inj heq
    obtain ⟨⟨pause, blocks, cooling, protections, happlies, rfl⟩, hchanged, hsame⟩ :=
      decideMutation_applies hdecide
    obtain ⟨hrevised, rfl⟩ := revise_ok hrevise
    refine Or.inr ⟨⟨pause, blocks, cooling, protections, _⟩, ⟨hnone, htoken, happlies, fun hc => ?_,
      hchanged, rfl, rfl, rfl, rfl, rfl, rfl, rfl⟩, rfl, rfl⟩
    have hstore := hsame hc
    exact ⟨congrArg Store.pauseUntil hstore, congrArg Store.retryBlocks hstore,
      congrArg Store.coolingCandidates hstore, congrArg Store.protections hstore⟩

theorem protectIncident_ok {incidentId : String} {summary : Option ProtectionSummary}
    (h : s.protectIncident incidentId t = .ok (s', summary)) :
    (s.latestObservation incidentId = none ∧ s' = s) ∨
      ∃ report row, s.ProtectsObserved incidentId report row ∧
        s' = { s with protections := s.protections.insert incidentId row } := by
  simp only [protectIncident, bind_eq_ok] at h
  obtain ⟨at_, -, h⟩ := h
  split at h
  · rename_i hnone
    rw [pure_eq_ok] at h
    obtain ⟨rfl, -⟩ := Prod.mk.inj h
    exact Or.inl ⟨hnone, rfl⟩
  · rename_i event hevent
    split at h
    · cases h
    · rename_i report hpayload
      simp only [bind_eq_ok, require_eq_ok, exists_const, pure_eq_ok] at h
      obtain ⟨hincident, heq⟩ := h
      obtain ⟨rfl, -⟩ := Prod.mk.inj heq
      refine Or.inr ⟨report, _, ⟨⟨event, hevent, hpayload⟩, hincident, ?_, ?_⟩, rfl⟩
      · split
        · split_ifs with hsame
          · exact hsame.1
          · rfl
        · rfl
      · split
        · split_ifs with hsame
          · exact hsame.2
          · rfl
        · rfl

/-! ## Cooling -/

/-- A candidate as an observation leaves it: of this very observation, and
counted from where it began. -/
structure Cools (s : Store) (report : IncidentReport) (clock : CoolingClock) (gap : Nat)
    (row : CoolingCandidate) : Prop where
  lastContinuous : row.lastContinuous = clock.continuousMillis
  lastWall : row.lastWall = clock.wallUnixMillis
  root : row.rootIdentityFingerprint = report.root.identityFingerprint
  member : row.memberFingerprint = report.memberFingerprint
  boot : row.bootSessionFingerprint = clock.bootSessionFingerprint
  epoch : row.enforcementEpoch = clock.enforcementEpoch
  pack : row.signaturePack = report.signaturePack
  version : row.signatureVersion = report.signatureVersion
  goesOn : ∀ c, s.coolingCandidates.lookup report.trackingKey = some c →
    c.continues report clock gap = true → row.firstContinuous = c.firstContinuous
  restarts : (∀ c, s.coolingCandidates.lookup report.trackingKey = some c →
    c.continues report clock gap = false) → row.firstContinuous = clock.continuousMillis

theorem trackCooling_ok {report : IncidentReport} {clock : CoolingClock} {grace gap : Nat}
    {elapsed : Bool} (h : s.trackCooling report clock grace gap = .ok (s', elapsed)) :
    ∃ row, s.Cools report clock gap row ∧
      elapsed = decide (grace ≤ clock.continuousMillis - row.firstContinuous) ∧
      s' = { s with coolingCandidates := s.coolingCandidates.insert report.trackingKey row } := by
  simp only [trackCooling, bind_eq_ok, sqliteMillis_eq_ok] at h
  obtain ⟨_, -, _, -, _, ⟨-, rfl⟩, _, ⟨-, rfl⟩, h⟩ := h
  split_ifs at h
  rw [pure_eq_ok] at h
  obtain ⟨rfl, rfl⟩ := Prod.mk.inj h
  refine ⟨_, ⟨rfl, rfl, rfl, rfl, rfl, rfl, rfl, rfl, fun c hc hgoes => ?_, fun hnone => ?_⟩, rfl,
    rfl⟩
  · simp only [hc, hgoes, if_true]
  · dsimp only
    split
    · rename_i c hc
      simp only [hnone c hc, Bool.false_eq_true, if_false]
    · rfl

/-! ## Pruning -/

/-- The tables a pruning sets before it forgets attempts. -/
structure Pruned where
  events : Table EventRow
  impacts : Table CleanupImpact
  cooling : OrdMap String CoolingCandidate
  receipts : OrdMap (String ×ₗ String) ReceiptRow
  token : NamespaceToken

/-- The store with these tables. -/
def withPruned (s : Store) (p : Pruned) : Store :=
  ({ s with
    events := p.events
    impacts := p.impacts
    coolingCandidates := p.cooling
    mutationReceipts := p.receipts
    namespaceToken := p.token } : Store).pruneAttempts

/-- What a pruning deletes, and what it must keep. -/
structure Prunes (s : Store) (now : Nat) (policy : RetentionPolicy) (fresh : NamespaceToken)
    (p : Pruned) : Prop where
  events : ∀ id e, p.events.get id = some e → s.events.get id = some e
  eventIds : p.events.lastId = s.events.lastId
  cleanups : ∀ id e, s.events.get id = some e → e.payload.isCleanup = true →
    (now - max policy.maxAgeMillis cleanupDetailRetentionMillis ≤ e.occurredAt ∨
      ∃ i m, p.impacts.get i = some m ∧ m.eventId = id) → p.events.get id = some e
  impacts : ∀ id m, p.impacts.get id = some m ↔ s.impacts.get id = some m ∧
    now - max policy.maxAgeMillis cleanupDetailRetentionMillis ≤ m.occurredAt
  impactIds : p.impacts.lastId = s.impacts.lastId
  cooling : p.cooling = s.coolingCandidates.filter fun _ c =>
    decide (now - policy.maxAgeMillis ≤ c.lastWall)
  receipts : p.receipts = s.mutationReceipts.filter fun _ r =>
    decide (now < r.receipt.retainUntilUnixMillis)
  token : p.token = if p.receipts.entries.length < s.mutationReceipts.entries.length then fresh
    else s.namespaceToken

theorem get_of_filter {ρ : Type} {rows : Table ρ} {p : Nat → ρ → Bool} {id : Nat} {r : ρ}
    (h : (rows.filter p).get id = some r) : rows.get id = some r := by
  rw [Table.get_filter, Option.filter_eq_some_iff] at h
  exact h.1

theorem get_filter_of {ρ : Type} {rows : Table ρ} {p : Nat → ρ → Bool} {id : Nat} {r : ρ}
    (h : rows.get id = some r) (hp : p id r = true) : (rows.filter p).get id = some r := by
  rw [Table.get_filter, Option.filter_eq_some_iff]
  exact ⟨h, hp⟩

theorem prune_prunes {policy : RetentionPolicy} {fresh : NamespaceToken} {result : PruneResult}
    (h : s.prune t policy fresh = .ok (s', result)) :
    ∃ p, s.Prunes t policy fresh p ∧ s' = s.withPruned p := by
  simp only [prune, bind_eq_ok, pure_eq_ok, sqliteMillis_eq_ok] at h
  obtain ⟨_, ⟨-, rfl⟩, _, ⟨-, rfl⟩, _, ⟨-, rfl⟩, now, ⟨-, rfl⟩, heq⟩ := h
  obtain ⟨rfl, -⟩ := Prod.mk.inj heq
  set kept := (s.pruneObservations (now - policy.maxAgeMillis) policy.maxEvents).pruneCleanups
    (now - max policy.maxAgeMillis cleanupDetailRetentionMillis) with hkept
  set receipts := s.mutationReceipts.filter fun _ r =>
    decide (now < r.receipt.retainUntilUnixMillis) with hreceipts
  refine ⟨⟨kept.events, kept.impacts, s.coolingCandidates.filter fun _ c =>
    decide (now - policy.maxAgeMillis ≤ c.lastWall), receipts,
    if receipts.entries.length < s.mutationReceipts.entries.length then fresh
    else s.namespaceToken⟩, ⟨fun id e he => ?_, rfl, fun id e he hcleanup hkept => ?_,
    fun id m => ?_, rfl, rfl, rfl, rfl⟩, rfl⟩
  · exact get_of_filter (get_of_filter (get_of_filter he))
  · -- neither statement about observations touches a cleanup
    refine get_filter_of (get_filter_of (get_filter_of he ?_) ?_) ?_
    · simp only [hcleanup, Bool.true_or]
    · simp only [hcleanup, Bool.true_or]
    · rcases hkept with hrecent | ⟨i, m, hm, hid⟩
      · simp only [hrecent, decide_true, Bool.or_true, Bool.true_or]
      · refine (Bool.or_eq_true _ _).mpr (Or.inr ?_)
        exact List.any_eq_true.2 ⟨(i, m), Table.mem_entries.2 hm, by simp [hid]⟩
  · show (s.impacts.filter _).get id = some m ↔ _
    rw [Table.get_filter, Option.filter_eq_some_iff, decide_eq_true_eq]

/-! ## Every operation -/

/-- **What each operation does.** -/
inductive Effect (s : Store) : StoreOp → Store → Prop
  | same {op} : Effect s op s
  | observed {op events} (h : Observes s.events events) (hop : op.observes = true) :
      Effect s op { s with events := events }
  | began {at_ report epoch a e} (h : s.Begins at_ report a e) :
      Effect s (.beginCleanupAttempt at_ report epoch)
        { s with attempts := s.attempts.insert a, events := s.events.insert e }
  | prepared {attempt sequence at_ intent r} (h : s.Prepares attempt.id r) :
      Effect s (.prepareCleanupAction attempt sequence at_ intent)
        { s with actions := s.actions.insert r }
  | completedAction {handle at_ disposition rows} (h : Completes s.actions rows) :
      Effect s (.completeCleanupAction handle at_ disposition) { s with actions := rows }
  | preparedArtifact {attempt sequence at_ intent r} (h : s.Prepares attempt.id r)
      (hvalid : validArtifactFingerprint r.intent.artifactFingerprint = true) :
      Effect s (.prepareCleanupArtifactAction attempt sequence at_ intent)
        { s with artifactActions := s.artifactActions.insert r }
  | completedArtifact {handle at_ disposition rows} (h : Completes s.artifactActions rows) :
      Effect s (.completeCleanupArtifactAction handle at_ disposition)
        { s with artifactActions := rows }
  | completed {attempt : CleanupAttemptHandle} {at_ receipt returned a rows}
      (h : s.Settles attempt.id a at_ returned rows) :
      Effect s (.completeCleanupAttempt attempt at_ receipt)
        (s.withSettled attempt.id a.trackingKey at_ returned rows)
  | recovered {at_ i a actions artifactActions receipt rows} (hone : s.openAttempts = [(i, a)])
      (huncertain : s.Uncertain i at_ actions artifactActions) (hstate : receipt.state = .failed)
      (h : ({ s with actions := actions, artifactActions := artifactActions } : Store).Settles i a
        at_ receipt rows) :
      Effect s (.recoverIncompleteAttempts at_)
        (({ s with actions := actions, artifactActions := artifactActions } : Store).withSettled i
          a.trackingKey at_ receipt rows)
  | retried {incidentId at_ block} (h : s.retryBlocks.lookup incidentId = some block) :
      Effect s (.authorizeRetry incidentId at_)
        { s with
          retryBlocks := s.retryBlocks.erase incidentId
          coolingCandidates := s.coolingCandidates.erase block.trackingKey }
  | isProtected {incidentId at_ report row} (h : s.ProtectsObserved incidentId report row) :
      Effect s (.protectIncident incidentId at_)
        { s with protections := s.protections.insert incidentId row }
  | unprotected {incidentId} :
      Effect s (.unprotectIncident incidentId)
        { s with protections := s.protections.erase incidentId }
  | reconciledBlocks {view now retention blocks counts}
      (h : s.reconcileRetryBlocks view now retention
        = .ok ({ s with retryBlocks := blocks }, counts)) :
      Effect s (.reconcileRetryBlocks view now retention) { s with retryBlocks := blocks }
  | reconciledProtections {view now retention rows counts}
      (h : s.reconcileIncidentProtections view now retention
        = .ok ({ s with protections := rows }, counts)) :
      Effect s (.reconcileIncidentProtections view now retention) { s with protections := rows }
  | paused {pauseUntil} :
      Effect s (.setPauseUntil pauseUntil) { s with pauseUntil := pauseUntil }
  | mutated {context mutation runtime at_ m} (h : s.Mutates context mutation at_ m) :
      Effect s (.commitPublicOrdinaryMutation context mutation runtime at_)
        (s.withMutated context mutation m)
  | cooled {report clock grace gap row} (h : s.Cools report clock gap row) :
      Effect s (.trackCooling report clock grace gap)
        { s with coolingCandidates := s.coolingCandidates.insert report.trackingKey row }
  | retained {keys} : Effect s (.retainCooling keys) (s.retainCooling keys)
  | pruned {now policy fresh p result}
      (hok : s.prune now policy fresh = .ok (s.withPruned p, result))
      (h : s.Prunes now policy fresh p) :
      Effect s (.prune now policy fresh) (s.withPruned p)
  | managed {op l row cooling}
      (hmoves : s.Moves op l) (hstored : row.map ManagedRow.lifecycle = some l)
      (hcooling : cooling = s.coolingCandidates ∨ cooling = OrdMap.empty) :
      Effect s (.managed op) { s with managedLifecycle := row, coolingCandidates := cooling }

/-! Each is inverted on its own where it has several outcomes, or its
success is a chain of checks. -/

theorem completeCleanupAction_effect {handle : PreparedActionHandle} {at_ : Nat}
    {disposition : SignalDisposition}
    (h : s.perform (.completeCleanupAction handle at_ disposition) = .ok s') :
    s.Effect (.completeCleanupAction handle at_ disposition) s' := by
  simp only [perform, completeCleanupAction, bind_eq_ok, pure_eq_ok] at h
  obtain ⟨_, -, _, -, rows, hrows, rfl⟩ := h
  exact .completedAction (completeRow_completes hrows)

theorem completeCleanupArtifactAction_effect {handle : PreparedArtifactActionHandle} {at_ : Nat}
    {disposition : ArtifactDisposition}
    (h : s.perform (.completeCleanupArtifactAction handle at_ disposition) = .ok s') :
    s.Effect (.completeCleanupArtifactAction handle at_ disposition) s' := by
  simp only [perform, completeCleanupArtifactAction, bind_eq_ok, pure_eq_ok] at h
  obtain ⟨_, -, _, -, rows, hrows, rfl⟩ := h
  exact .completedArtifact (completeRow_completes hrows)

/-- A receipt that was given before changes nothing. -/
theorem completeCleanupAttempt_effect {attempt : CleanupAttemptHandle} {at_ : Nat}
    {receipt : CleanupReceipt}
    (h : s.perform (.completeCleanupAttempt attempt at_ receipt) = .ok s') :
    s.Effect (.completeCleanupAttempt attempt at_ receipt) s' := by
  obtain ⟨⟨_, returned⟩, hok, rfl⟩ := map_eq_ok.1 h
  rcases completeCleanupAttempt_ok hok with ⟨_, _, -, -, -, -, rfl⟩ | ⟨a, rows, hsettles, -, rfl⟩
  · exact .same
  · exact .completed hsettles

theorem recoverIncompleteAttempts_effect {at_ : Nat} (hs : s.AtMostOneOpen)
    (h : s.perform (.recoverIncompleteAttempts at_) = .ok s') :
    s.Effect (.recoverIncompleteAttempts at_) s' := by
  obtain ⟨⟨_, receipts⟩, hok, rfl⟩ := map_eq_ok.1 h
  rcases recoverIncompleteAttempts_ok hs hok with ⟨-, rfl, -⟩ |
    ⟨i, a, actions, artifacts, receipt, rows, hone, huncertain, -, hstate, hsettles, rfl⟩
  · exact .same
  · exact .recovered hone huncertain hstate hsettles

theorem authorizeRetry_effect {incidentId : String} {at_ : Nat}
    (h : s.perform (.authorizeRetry incidentId at_) = .ok s') :
    s.Effect (.authorizeRetry incidentId at_) s' := by
  obtain ⟨⟨_, _⟩, hok, rfl⟩ := map_eq_ok.1 h
  simp only [authorizeRetry, bind_eq_ok] at hok
  obtain ⟨_, -, hok⟩ := hok
  split at hok
  · rw [pure_eq_ok] at hok
    obtain ⟨rfl, -⟩ := Prod.mk.inj hok
    exact .same
  · rename_i block hblock
    rw [pure_eq_ok] at hok
    obtain ⟨rfl, -⟩ := Prod.mk.inj hok
    exact .retried hblock

theorem protectIncident_effect {incidentId : String} {now : Nat}
    (h : s.perform (.protectIncident incidentId now) = .ok s') :
    s.Effect (.protectIncident incidentId now) s' := by
  obtain ⟨⟨_, _⟩, hok, rfl⟩ := map_eq_ok.1 h
  rcases protectIncident_ok hok with ⟨-, rfl⟩ | ⟨report, row, hprotects, rfl⟩
  · exact .same
  · exact .isProtected hprotects

theorem reconcileRetryBlocks_effect {view : CycleView} {now retention : Nat}
    (h : s.perform (.reconcileRetryBlocks view now retention) = .ok s') :
    s.Effect (.reconcileRetryBlocks view now retention) s' := by
  obtain ⟨⟨_, counts⟩, hok, rfl⟩ := map_eq_ok.1 h
  have hkept := hok
  simp only [reconcileRetryBlocks, bind_eq_ok, pure_eq_ok] at hkept
  obtain ⟨_, -, _, -, _, -, blocks, -, heq⟩ := hkept
  obtain ⟨rfl, -⟩ := Prod.mk.inj heq
  exact .reconciledBlocks hok

theorem reconcileIncidentProtections_effect {view : CycleView} {now retention : Nat}
    (h : s.perform (.reconcileIncidentProtections view now retention) = .ok s') :
    s.Effect (.reconcileIncidentProtections view now retention) s' := by
  obtain ⟨⟨_, counts⟩, hok, rfl⟩ := map_eq_ok.1 h
  have hkept := hok
  simp only [reconcileIncidentProtections, bind_eq_ok, pure_eq_ok] at hkept
  obtain ⟨_, -, _, -, _, -, rows, -, heq⟩ := hkept
  obtain ⟨rfl, -⟩ := Prod.mk.inj heq
  exact .reconciledProtections hok

theorem setPauseUntil_effect {pauseUntil : Option Nat}
    (h : s.perform (.setPauseUntil pauseUntil) = .ok s') :
    s.Effect (.setPauseUntil pauseUntil) s' := by
  simp only [perform, setPauseUntil] at h
  cases pauseUntil with
  | none =>
      rw [pure_eq_ok] at h
      subst h
      exact .paused
  | some deadline =>
      simp only [bind_eq_ok, pure_eq_ok] at h
      obtain ⟨_, -, rfl⟩ := h
      exact .paused

/-- A receipt that is replayed changes nothing. -/
theorem commitPublicOrdinaryMutation_effect {context : MutationContext}
    {mutation : OrdinaryMutation} {runtime : RuntimePolicyFacts} {at_ : Nat}
    (h : s.perform (.commitPublicOrdinaryMutation context mutation runtime at_) = .ok s') :
    s.Effect (.commitPublicOrdinaryMutation context mutation runtime at_) s' := by
  obtain ⟨⟨_, _⟩, hok, rfl⟩ := map_eq_ok.1 h
  rcases commitPublicOrdinaryMutation_cases hok with ⟨_, -, -, rfl, -⟩ | ⟨m, hmutates, -, rfl⟩
  · exact .same
  · exact .mutated hmutates

/-- **An operation that succeeds has its effect.** -/
theorem perform_effect {op : StoreOp} (hs : s.AtMostOneOpen) (h : s.perform op = .ok s') :
    s.Effect op s' := by
  cases op with
  | recordObservation at_ report =>
      obtain ⟨⟨_, _⟩, hok, rfl⟩ := map_eq_ok.1 h
      obtain ⟨events, hevents, rfl⟩ := upsertObservationSpan_ok hok
      exact .observed hevents rfl
  | recordObservationBatch at_ reports =>
      obtain ⟨⟨_, _⟩, hok, rfl⟩ := map_eq_ok.1 h
      obtain ⟨events, hevents, rfl⟩ := recordObservationBatch_ok hok
      exact .observed hevents rfl
  | beginCleanupAttempt at_ report epoch =>
      obtain ⟨⟨_, _⟩, hok, rfl⟩ := map_eq_ok.1 h
      obtain ⟨a, e, hbegins, rfl⟩ := beginCleanupAttempt_ok hok
      exact .began hbegins
  | prepareCleanupAction attempt sequence at_ intent =>
      obtain ⟨⟨_, _⟩, hok, rfl⟩ := map_eq_ok.1 h
      obtain ⟨r, hprepares, rfl⟩ := prepareCleanupAction_ok hok
      exact .prepared hprepares
  | completeCleanupAction => exact completeCleanupAction_effect h
  | prepareCleanupArtifactAction attempt sequence at_ intent =>
      obtain ⟨⟨_, _⟩, hok, rfl⟩ := map_eq_ok.1 h
      obtain ⟨r, hprepares, hvalid, rfl⟩ := prepareCleanupArtifactAction_ok hok
      exact .preparedArtifact hprepares hvalid
  | completeCleanupArtifactAction => exact completeCleanupArtifactAction_effect h
  | completeCleanupAttempt => exact completeCleanupAttempt_effect h
  | recoverIncompleteAttempts => exact recoverIncompleteAttempts_effect hs h
  | authorizeRetry => exact authorizeRetry_effect h
  | protectIncident => exact protectIncident_effect h
  | unprotectIncident incidentId =>
      obtain rfl := Except.ok.inj h
      exact .unprotected
  | reconcileRetryBlocks => exact reconcileRetryBlocks_effect h
  | reconcileIncidentProtections => exact reconcileIncidentProtections_effect h
  | setPauseUntil => exact setPauseUntil_effect h
  | commitPublicOrdinaryMutation => exact commitPublicOrdinaryMutation_effect h
  | trackCooling report clock grace gap =>
      obtain ⟨⟨_, _⟩, hok, rfl⟩ := map_eq_ok.1 h
      obtain ⟨row, hcools, -, rfl⟩ := trackCooling_ok hok
      exact .cooled hcools
  | retainCooling keys =>
      obtain rfl := Except.ok.inj h
      exact .retained
  | prune now policy fresh =>
      obtain ⟨⟨_, _⟩, hok, rfl⟩ := map_eq_ok.1 h
      obtain ⟨p, hp, rfl⟩ := prune_prunes hok
      exact .pruned hok hp
  | managed op =>
      obtain ⟨⟨_, l⟩, hok, rfl⟩ := map_eq_ok.1 h
      obtain ⟨hmoves, hstored, row, cooling, rfl, hcooling⟩ := performManaged_ok hok
      exact .managed hmoves hstored hcooling

end Store

end Unlinger
