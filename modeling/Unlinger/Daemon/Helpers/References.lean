import Unlinger.Daemon.Helpers.Store

/-!
# References between the tables

The foreign keys of the schema hold in every store: whatever names an
attempt finds it, and an impact finds its event, which is of a cleanup.
The invariant is kept by every operation, and within a pruning by every
single statement.
-/

namespace Unlinger

namespace Store

variable {s s' : Store} {t : Nat}

/-! ## The invariant -/

/-- The attempt has a row. -/
def HasAttempt (s : Store) (i : Nat) : Prop := ∃ a, s.attempts.get i = some a

/-- **Every foreign key finds its row.** -/
structure Referential (s : Store) : Prop where
  actions : ∀ id r, s.actions.get id = some r → s.HasAttempt r.attemptId
  artifactActions : ∀ id r, s.artifactActions.get id = some r → s.HasAttempt r.attemptId
  blocks : ∀ k b, s.retryBlocks.lookup k = some b → s.HasAttempt b.sourceAttemptId
  events : ∀ id e, s.events.get id = some e → ∀ i ∈ e.attemptId, s.HasAttempt i
  impactAttempts : ∀ id m, s.impacts.get id = some m → s.HasAttempt m.attemptId
  impactEvents : ∀ id m, s.impacts.get id = some m → ∃ e, s.events.get m.eventId = some e

/-- And the event of an impact is of a cleanup. -/
structure Linked (s : Store) : Prop extends Referential s where
  impactCleanups : ∀ id m e, s.impacts.get id = some m → s.events.get m.eventId = some e →
    e.payload.isCleanup = true

theorem empty_linked {token : NamespaceToken} : (Store.empty token).Linked := by
  refine ⟨?_, ?_⟩
  · constructor <;> simp [Store.empty]
  · simp [Store.empty]

/-! ## Operations -/

/-- The parts of a store that its references are about may grow in
attempts, and change where they refer to the same. -/
theorem Linked.of_subset (h : s.Linked)
    (hatt : ∀ i, s.HasAttempt i → s'.HasAttempt i)
    (hact : ∀ id r, s'.actions.get id = some r → s'.HasAttempt r.attemptId)
    (hart : ∀ id r, s'.artifactActions.get id = some r → s'.HasAttempt r.attemptId)
    (hbl : ∀ k b, s'.retryBlocks.lookup k = some b →
      ∃ b', s.retryBlocks.lookup k = some b' ∧ b'.sourceAttemptId = b.sourceAttemptId)
    (hev : s'.events = s.events) (himp : s'.impacts = s.impacts) : s'.Linked := by
  refine ⟨⟨hact, hart, fun k b hb => ?_, fun id e he i hi => ?_, fun id m hm => ?_,
    fun id m hm => ?_⟩, ?_⟩
  · obtain ⟨b', hb', hsame⟩ := hbl k b hb
    rw [← hsame]
    exact hatt _ (h.blocks k b' hb')
  · rw [hev] at he
    exact hatt i (h.events id e he i hi)
  · rw [himp] at hm
    exact hatt _ (h.impactAttempts id m hm)
  · rw [himp] at hm
    rw [hev]
    exact h.impactEvents id m hm
  · rw [himp, hev]
    exact h.impactCleanups

/-- Nothing that refers or is referred to changed. -/
theorem Linked.same (h : s.Linked) (hatt : s'.attempts = s.attempts) (hact : s'.actions = s.actions)
    (hart : s'.artifactActions = s.artifactActions)
    (hbl : ∀ k b, s'.retryBlocks.lookup k = some b →
      ∃ b', s.retryBlocks.lookup k = some b' ∧ b'.sourceAttemptId = b.sourceAttemptId)
    (hev : s'.events = s.events) (himp : s'.impacts = s.impacts) : s'.Linked := by
  have hhas : ∀ i, s.HasAttempt i → s'.HasAttempt i := by
    rintro i ⟨a, ha⟩
    exact ⟨a, by rw [hatt]; exact ha⟩
  refine h.of_subset hhas (fun id r hr => ?_) (fun id r hr => ?_) hbl hev himp
  · rw [hact] at hr
    exact hhas _ (h.actions id r hr)
  · rw [hart] at hr
    exact hhas _ (h.artifactActions id r hr)

theorem Linked.observed {events : Table EventRow} (h : s.Linked) (hobs : Observes s.events events) :
    ({ s with events := events } : Store).Linked := by
  refine ⟨⟨h.actions, h.artifactActions, h.blocks, fun id e he i hi => ?_, h.impactAttempts,
    fun id m hm => ?_⟩, fun id m e hm he => ?_⟩
  · have hne : e.attemptId ≠ none := by
      rw [Option.mem_def.1 hi]
      simp
    obtain ⟨e', he', hsame⟩ := hobs.attempts id e he hne
    exact h.events id e' he' i (by rw [hsame]; exact hi)
  · obtain ⟨e, he⟩ := h.impactEvents id m hm
    obtain ⟨e', he', -⟩ := hobs.keeps m.eventId e he
    exact ⟨e', he'⟩
  · -- the impact's event was of a cleanup, and such events do not change
    obtain ⟨e₀, he₀⟩ := h.impactEvents id m hm
    have hcleanup := h.impactCleanups id m e₀ hm he₀
    have hkept := (hobs.cleanups m.eventId e₀ hcleanup).2 he₀
    obtain rfl := Option.some.inj (hkept.symm.trans he)
    exact hcleanup

theorem Linked.begin {report : IncidentReport} {a : CleanupAttempt} {e : EventRow} (h : s.Linked)
    (hb : s.Begins t report a e) :
    ({ s with attempts := s.attempts.insert a, events := s.events.insert e } : Store).Linked := by
  have hhas : ∀ i, s.HasAttempt i → ∃ b, (s.attempts.insert a).get i = some b := by
    rintro i ⟨b, hb⟩
    exact ⟨b, Table.get_insert_of_some hb⟩
  refine ⟨⟨fun id r hr => hhas _ (h.actions id r hr),
    fun id r hr => hhas _ (h.artifactActions id r hr), fun k b hb => hhas _ (h.blocks k b hb),
    fun id x hx i hi => ?_, fun id m hm => hhas _ (h.impactAttempts id m hm), fun id m hm => ?_⟩,
    fun id m x hm hx => ?_⟩
  · have hx' : (s.events.insert e).get id = some x := hx
    rw [Table.get_insert] at hx'
    split_ifs at hx' with hid
    · obtain rfl := Option.some.inj hx'
      rw [hb.eventAttempt] at hi
      obtain rfl := Option.some.inj hi
      exact ⟨a, by rw [Table.get_insert, if_pos rfl]⟩
    · exact hhas _ (h.events id x hx' i hi)
  · obtain ⟨x, hx⟩ := h.impactEvents id m hm
    exact ⟨x, Table.get_insert_of_some hx⟩
  · obtain ⟨x₀, hx₀⟩ := h.impactEvents id m hm
    have hkept : (s.events.insert e).get m.eventId = some x₀ := Table.get_insert_of_some hx₀
    obtain rfl := Option.some.inj (hkept.symm.trans hx)
    exact h.impactCleanups id m x₀ hm hx₀

/-- A row prepared for an open attempt refers to it. -/
theorem Prepares.references {ι δ : Type} {rows : Table (JournalRow ι δ)} {attemptId : Nat}
    {new : JournalRow ι δ} (hp : s.Prepares attemptId new)
    (h : ∀ id r, rows.get id = some r → s.HasAttempt r.attemptId) :
    ∀ id r, (rows.insert new).get id = some r → s.HasAttempt r.attemptId := by
  intro id r hr
  rw [Table.get_insert] at hr
  split_ifs at hr with hid
  · obtain rfl := Option.some.inj hr
    obtain ⟨a, ha, -⟩ := hp.opened
    rw [hp.attempt]
    exact ⟨a, ha⟩
  · exact h id r hr

/-- Rows that were completed refer to what they did before. -/
theorem Completes.references {ι δ : Type} {old new : Table (JournalRow ι δ)} (hc : Completes old new)
    (h : ∀ id r, old.get id = some r → s.HasAttempt r.attemptId) :
    ∀ id r, new.get id = some r → s.HasAttempt r.attemptId := by
  intro id r hr
  obtain ⟨r', hr', hid, -⟩ := hc.get id r hr
  rw [hid]
  exact h id r' hr'

/-- A reconciliation leaves a row's beginning alone. -/
theorem reconcile_since {p q : Presence} {table : String} {observed absenceProven : Bool}
    {retention : Nat} (h : p.reconcile table observed absenceProven t retention = .ok (some q)) :
    q.since = p.since := by
  unfold Presence.reconcile at h
  split_ifs at h with hobserved hle hproven habsence hle' hretires
  · obtain rfl := Option.some.inj (Except.ok.inj h)
    rfl
  · obtain rfl := Option.some.inj (Except.ok.inj h)
    rfl
  · obtain rfl := Option.some.inj (Except.ok.inj h)
    rfl
  · cases h
  · obtain rfl := Option.some.inj (Except.ok.inj h)
    rfl

/-- A reconciled block is of the attempt it was of. -/
theorem reconcileRetryBlocks_source {view : CycleView} {retention : Nat} {counts : Reconciliation}
    (h : s.reconcileRetryBlocks view t retention = .ok (s', counts)) {k : String} {b : RetryBlock}
    (hb : s'.retryBlocks.lookup k = some b) :
    ∃ b', s.retryBlocks.lookup k = some b' ∧ b'.sourceAttemptId = b.sourceAttemptId ∧
      b'.presence.since = b.presence.since := by
  simp only [reconcileRetryBlocks, bind_eq_ok, pure_eq_ok] at h
  obtain ⟨_, -, _, -, _, -, blocks, hblocks, heq⟩ := h
  obtain ⟨rfl, -⟩ := Prod.mk.inj heq
  obtain ⟨b', hb', hf⟩ := (OrdMap.lookup_rewrite hblocks).1 hb
  refine ⟨b', hb', ?_⟩
  split at hf
  · obtain rfl := Option.some.inj (Except.ok.inj hf)
    exact ⟨rfl, rfl⟩
  · obtain ⟨p, hp, hmap⟩ := map_eq_ok.1 hf
    obtain ⟨q, rfl, rfl⟩ := Option.map_eq_some_iff.1 hmap
    exact ⟨rfl, (reconcile_since hp).symm⟩

/-- A block a mutation left was there before. -/
theorem Applies.source {mutation : OrdinaryMutation} {changed : Bool} {pause : Option Nat}
    {blocks : OrdMap String RetryBlock} {cooling : OrdMap String CoolingCandidate}
    {protections : OrdMap String IncidentProtection}
    (h : s.Applies t mutation changed pause blocks cooling protections) {k : String} {b : RetryBlock}
    (hb : blocks.lookup k = some b) : s.retryBlocks.lookup k = some b := by
  cases h with
  | retried hblock =>
      rw [OrdMap.lookup_erase] at hb
      split_ifs at hb
      exact hb
  | nothing => exact hb
  | paused => exact hb
  | resumed => exact hb
  | isProtected hnone hrow => exact hb
  | unprotected => exact hb

/-- What refers to an attempt after it settled finds it. -/
theorem Linked.settle {i : Nat} {a : CleanupAttempt} {key : String} {receipt : CleanupReceipt}
    {rows : SettledRows} (h : s.Linked) (hs : s.Settles i a t receipt rows) :
    (s.withSettled i key t receipt rows).Linked := by
  have hset := hs.settled
  have hhas : ∀ j, s.HasAttempt j → ∃ b, rows.attempts.get j = some b := by
    rintro j ⟨b, hb⟩
    refine Option.ne_none_iff_exists'.1 fun hnone => ?_
    rw [(hset.finished.keeps j).1 hnone] at hb
    cases hb
  have hi : ∃ b, rows.attempts.get i = some b := hhas i ⟨a, hs.stored⟩
  -- a row refers as before, or it is one the settlement wrote
  refine ⟨⟨fun id r hr => hhas _ (h.actions id r hr),
    fun id r hr => hhas _ (h.artifactActions id r hr), fun k b hb => ?_, fun id x hx j hj => ?_,
    fun id m hm => ?_, fun id m hm => ?_⟩, fun id m x hm hx => ?_⟩
  · have hb' : (blocksAfter s.retryBlocks i key t receipt).lookup k = some b := hb
    unfold blocksAfter at hb'
    split_ifs at hb' with hcleared
    · exact hhas _ (h.blocks k b hb')
    · rw [OrdMap.lookup_insert] at hb'
      split_ifs at hb' with hk
      · obtain rfl := Option.some.inj hb'
        exact hi
      · exact hhas _ (h.blocks k b hb')
  · have hx' : (s.events.insert rows.event).get id = some x := hx
    rw [Table.get_insert] at hx'
    split_ifs at hx' with hid
    · obtain rfl := Option.some.inj hx'
      rw [hset.eventAttempt] at hj
      obtain rfl := Option.some.inj hj
      exact hi
    · exact hhas _ (h.events id x hx' j hj)
  · have hm' : (s.impacts.insert rows.impact).get id = some m := hm
    rw [Table.get_insert] at hm'
    split_ifs at hm' with hid
    · obtain rfl := Option.some.inj hm'
      rw [hset.impactAttempt]
      exact hi
    · exact hhas _ (h.impactAttempts id m hm')
  · have hm' : (s.impacts.insert rows.impact).get id = some m := hm
    rw [Table.get_insert] at hm'
    split_ifs at hm' with hid
    · obtain rfl := Option.some.inj hm'
      rw [hset.impactEvent]
      exact ⟨rows.event, by rw [withSettled, Table.get_insert, if_pos rfl]⟩
    · obtain ⟨x, hx⟩ := h.impactEvents id m hm'
      exact ⟨x, Table.get_insert_of_some hx⟩
  · have hm' : (s.impacts.insert rows.impact).get id = some m := hm
    have hx' : (s.events.insert rows.event).get m.eventId = some x := hx
    rw [Table.get_insert] at hm'
    split_ifs at hm' with hid
    · obtain rfl := Option.some.inj hm'
      rw [hset.impactEvent, Table.get_insert, if_pos rfl] at hx'
      obtain rfl := Option.some.inj hx'
      rw [hset.eventPayload]
      rfl
    · obtain ⟨x₀, hx₀⟩ := h.impactEvents id m hm'
      have hkept : (s.events.insert rows.event).get m.eventId = some x₀ :=
        Table.get_insert_of_some hx₀
      obtain rfl := Option.some.inj (hkept.symm.trans hx')
      exact h.impactCleanups id m x₀ hm' hx₀

/-! ## The statements of a pruning -/

/-- A pruning is its statements, one after another. -/
theorem prune_ok {policy : RetentionPolicy} {fresh : NamespaceToken} {result : PruneResult}
    (h : s.prune t policy fresh = .ok (s', result)) :
    s' = s.executed (pruneStatements t (t - policy.maxAgeMillis)
      (t - max policy.maxAgeMillis cleanupDetailRetentionMillis) policy.maxEvents fresh) := by
  simp only [prune, bind_eq_ok, pure_eq_ok, sqliteMillis_eq_ok] at h
  obtain ⟨_, ⟨-, rfl⟩, _, ⟨-, rfl⟩, _, ⟨-, rfl⟩, _, ⟨-, rfl⟩, heq⟩ := h
  obtain ⟨rfl, -⟩ := Prod.mk.inj heq
  rfl

theorem Linked.filterEvents {p : Nat → EventRow → Bool} (h : s.Linked)
    (hp : ∀ id m e, s.impacts.get id = some m → s.events.get m.eventId = some e →
      p m.eventId e = true) : ({ s with events := s.events.filter p } : Store).Linked := by
  refine ⟨⟨h.actions, h.artifactActions, h.blocks, fun id e he => ?_, h.impactAttempts,
    fun id m hm => ?_⟩, fun id m e hm he => ?_⟩
  · exact h.events id e (get_of_filter he)
  · obtain ⟨e, he⟩ := h.impactEvents id m hm
    refine ⟨e, ?_⟩
    show (s.events.filter p).get m.eventId = some e
    rw [Table.get_filter, he, Option.filter_some, if_pos (hp id m e hm he)]
  · exact h.impactCleanups id m e hm (get_of_filter he)

theorem Linked.filterImpacts {p : Nat → CleanupImpact → Bool} (h : s.Linked) :
    ({ s with impacts := s.impacts.filter p } : Store).Linked := by
  refine ⟨⟨h.actions, h.artifactActions, h.blocks, h.events, fun id m hm => ?_, fun id m hm => ?_⟩,
    fun id m e hm => ?_⟩
  · exact h.impactAttempts id m (get_of_filter hm)
  · exact h.impactEvents id m (get_of_filter hm)
  · exact h.impactCleanups id m e (get_of_filter hm)

theorem Linked.filterActions {p : Nat → ActionRow → Bool} (h : s.Linked) :
    ({ s with actions := s.actions.filter p } : Store).Linked :=
  ⟨⟨fun id r hr => h.actions id r (get_of_filter hr), h.artifactActions, h.blocks, h.events,
    h.impactAttempts, h.impactEvents⟩, h.impactCleanups⟩

theorem Linked.filterArtifactActions {p : Nat → ArtifactActionRow → Bool} (h : s.Linked) :
    ({ s with artifactActions := s.artifactActions.filter p } : Store).Linked :=
  ⟨⟨h.actions, fun id r hr => h.artifactActions id r (get_of_filter hr), h.blocks, h.events,
    h.impactAttempts, h.impactEvents⟩, h.impactCleanups⟩

/-- An attempt that an event, a block or an impact names is not
forgotten. -/
theorem not_forgotten {i : Nat} {a : CleanupAttempt}
    (h : (∃ id e, s.events.get id = some e ∧ e.attemptId = some i) ∨
      (∃ k b, s.retryBlocks.lookup k = some b ∧ b.sourceAttemptId = i) ∨
      (∃ id m, s.impacts.get id = some m ∧ m.attemptId = i)) : s.forgotten i a = false := by
  unfold forgotten
  rcases h with ⟨id, e, he, hi⟩ | ⟨k, b, hb, hi⟩ | ⟨id, m, hm, hi⟩
  · have hfalse : (s.events.entries.all fun x => x.2.attemptId != some i) = false := by
      rw [List.all_eq_false]
      exact ⟨(id, e), Table.mem_entries.2 he, by simp [hi]⟩
    simp [hfalse]
  · have hfalse : (s.retryBlocks.entries.all fun x => x.2.sourceAttemptId != i) = false := by
      rw [List.all_eq_false]
      exact ⟨(k, b), OrdMap.lookup_eq_some.1 hb, by simp [hi]⟩
    simp [hfalse]
  · have hfalse : (s.impacts.entries.all fun x => x.2.attemptId != i) = false := by
      rw [List.all_eq_false]
      exact ⟨(id, m), Table.mem_entries.2 hm, by simp [hi]⟩
    simp [hfalse]

/-- The attempt keeps its row and its actions. -/
theorem withPruned_sameRows {p : Pruned} {i : Nat}
    (h : ∀ a, s.attempts.get i = some a → ({ s with
      events := p.events
      impacts := p.impacts
      coolingCandidates := p.cooling
      mutationReceipts := p.receipts
      namespaceToken := p.token } : Store).forgotten i a = false) :
    SameRows s.actions (s.withPruned p).actions i ∧
      SameRows s.artifactActions (s.withPruned p).artifactActions i := by
  set x : Store := { s with
    events := p.events
    impacts := p.impacts
    coolingCandidates := p.cooling
    mutationReceipts := p.receipts
    namespaceToken := p.token } with hx
  have hnot : x.forgottenId i = false := by
    unfold forgottenId
    cases ha : x.attempts.get i with
    | none => rfl
    | some a => exact h a ha
  constructor
  · rintro id r rfl
    constructor
    · exact fun hr => get_of_filter hr
    · exact fun hr => get_filter_of hr (by rw [hnot]; rfl)
  · rintro id r rfl
    constructor
    · exact fun hr => get_of_filter hr
    · exact fun hr => get_filter_of hr (by rw [hnot]; rfl)

/-- Deleting the forgotten attempts leaves no reference open, once their
actions are deleted. -/
theorem Linked.forget (h : s.Linked)
    (hact : ∀ id r, s.actions.get id = some r → s.forgottenId r.attemptId = false)
    (hart : ∀ id r, s.artifactActions.get id = some r → s.forgottenId r.attemptId = false) :
    ({ s with attempts := s.attempts.filter fun i a => !s.forgotten i a } : Store).Linked := by
  have hkept : ∀ i, s.HasAttempt i → s.forgottenId i = false →
      ∃ a, (s.attempts.filter fun i a => !s.forgotten i a).get i = some a := by
    rintro i ⟨a, ha⟩ hnot
    refine ⟨a, ?_⟩
    rw [forgottenId, ha, Option.any_some] at hnot
    rw [Table.get_filter, ha, Option.filter_some, if_pos (by rw [hnot]; rfl)]
  have hnamed : ∀ i, s.HasAttempt i →
      ((∃ id e, s.events.get id = some e ∧ e.attemptId = some i) ∨
        (∃ k b, s.retryBlocks.lookup k = some b ∧ b.sourceAttemptId = i) ∨
        (∃ id m, s.impacts.get id = some m ∧ m.attemptId = i)) → s.forgottenId i = false := by
    rintro i ⟨a, ha⟩ hname
    rw [forgottenId, ha, Option.any_some]
    exact not_forgotten hname
  refine ⟨⟨fun id r hr => hkept _ (h.actions id r hr) (hact id r hr),
    fun id r hr => hkept _ (h.artifactActions id r hr) (hart id r hr), fun k b hb => ?_,
    fun id e he i hi => ?_, fun id m hm => ?_, h.impactEvents⟩, h.impactCleanups⟩
  · have hhas := h.blocks k b hb
    exact hkept _ hhas (hnamed _ hhas (Or.inr (Or.inl ⟨k, b, hb, rfl⟩)))
  · have hhas := h.events id e he i hi
    exact hkept _ hhas (hnamed _ hhas (Or.inl ⟨id, e, he, hi⟩))
  · have hhas := h.impactAttempts id m hm
    exact hkept _ hhas (hnamed _ hhas (Or.inr (Or.inr ⟨id, m, hm, rfl⟩)))

/-- **Every statement of a pruning keeps every reference.** -/
theorem Linked.statements (h : s.Linked) (now cutoff cleanupCutoff maxEvents : Nat)
    (fresh : NamespaceToken) (n : Nat) :
    (s.executed ((pruneStatements now cutoff cleanupCutoff maxEvents fresh).take n)).Linked := by
  set stmts := pruneStatements now cutoff cleanupCutoff maxEvents fresh with hstmts
  have h₁ : (s.executed (stmts.take 1)).Linked := by
    refine h.filterEvents fun id m e hm he => ?_
    rw [h.impactCleanups id m e hm he]
    rfl
  have h₂ : (s.executed (stmts.take 2)).Linked := by
    refine h₁.filterEvents fun id m e hm he => ?_
    rw [h₁.impactCleanups id m e hm he]
    rfl
  have h₃ : (s.executed (stmts.take 3)).Linked := h₂.filterImpacts
  have h₄ : (s.executed (stmts.take 4)).Linked := by
    refine h₃.filterEvents fun id m e hm he => ?_
    -- an impact that is left keeps its event
    have hmem : ((s.executed (stmts.take 3)).impacts.entries.any
        fun i => i.2.eventId == m.eventId) = true :=
      List.any_eq_true.2 ⟨(id, m), Table.mem_entries.2 hm, by simp⟩
    exact (Bool.or_eq_true _ _).mpr (Or.inr hmem)
  have h₅ : (s.executed (stmts.take 5)).Linked :=
    h₄.same rfl rfl rfl (fun _ b hb => ⟨b, hb, rfl⟩) rfl rfl
  have h₆ : (s.executed (stmts.take 6)).Linked :=
    h₅.same rfl rfl rfl (fun _ b hb => ⟨b, hb, rfl⟩) rfl rfl
  have h₇ : (s.executed (stmts.take 7)).Linked := h₆.filterActions
  have h₈ : (s.executed (stmts.take 8)).Linked := h₇.filterArtifactActions
  have h₉ : (s.executed stmts).Linked := by
    refine h₈.forget (fun id r hr => ?_) (fun id r hr => ?_)
    · have hr' := (Option.filter_eq_some_iff.1 (Table.get_filter.symm.trans hr)).2
      exact (Bool.not_eq_true' _).mp hr'
    · have hr' := (Option.filter_eq_some_iff.1 (Table.get_filter.symm.trans hr)).2
      exact (Bool.not_eq_true' _).mp hr'
  match n with
  | 0 => exact h
  | 1 => exact h₁
  | 2 => exact h₂
  | 3 => exact h₃
  | 4 => exact h₄
  | 5 => exact h₅
  | 6 => exact h₆
  | 7 => exact h₇
  | 8 => exact h₈
  | n + 9 =>
      rw [List.take_of_length_le (by rw [hstmts]; exact Nat.le_add_left 9 n)]
      exact h₉

/-! ## Every operation -/

theorem Linked.effect {op : StoreOp} (h : s.Linked) (he : s.Effect op s') : s'.Linked := by
  -- most record updates leave all that refers alone, by computation
  have hsame : ∀ {s' : Store}, s'.attempts = s.attempts → s'.actions = s.actions →
      s'.artifactActions = s.artifactActions → s'.retryBlocks = s.retryBlocks →
      s'.events = s.events → s'.impacts = s.impacts → s'.Linked := by
    intro s' h₁ h₂ h₃ h₄ h₅ h₆
    exact h.same h₁ h₂ h₃ (fun k b hb => ⟨b, by rw [← h₄]; exact hb, rfl⟩) h₅ h₆
  have herase : ∀ {i k : String} {b : RetryBlock}, (s.retryBlocks.erase i).lookup k = some b →
      ∃ b', s.retryBlocks.lookup k = some b' ∧ b'.sourceAttemptId = b.sourceAttemptId := by
    intro i k b hb
    rw [OrdMap.lookup_erase] at hb
    split_ifs at hb
    exact ⟨b, hb, rfl⟩
  have hactions : ∀ {rows : Table ActionRow}, (∀ id r, rows.get id = some r →
      s.HasAttempt r.attemptId) → ({ s with actions := rows } : Store).Linked := by
    intro rows hrows
    exact ⟨⟨hrows, h.artifactActions, h.blocks, h.events, h.impactAttempts, h.impactEvents⟩,
      h.impactCleanups⟩
  have hartifacts : ∀ {rows : Table ArtifactActionRow}, (∀ id r, rows.get id = some r →
      s.HasAttempt r.attemptId) → ({ s with artifactActions := rows } : Store).Linked := by
    intro rows hrows
    exact ⟨⟨h.actions, hrows, h.blocks, h.events, h.impactAttempts, h.impactEvents⟩,
      h.impactCleanups⟩
  cases he with
  | same => exact h
  | observed ho => exact h.observed ho
  | began hb => exact h.begin hb
  | prepared hp => exact hactions (hp.references h.actions)
  | completedAction hc => exact hactions (hc.references h.actions)
  | preparedArtifact hp hvalid => exact hartifacts (hp.references h.artifactActions)
  | completedArtifact hc => exact hartifacts (hc.references h.artifactActions)
  | completed hs => exact h.settle hs
  | recovered hone huncertain hstate hs =>
      refine Linked.settle ?_ hs
      exact ⟨⟨(completeUnknown_completes huncertain.actions_ok).references h.actions,
        (completeUnknown_completes huncertain.artifactActions_ok).references h.artifactActions,
        h.blocks, h.events, h.impactAttempts, h.impactEvents⟩, h.impactCleanups⟩
  | retried hb => exact h.same rfl rfl rfl (fun k b hb => herase hb) rfl rfl
  | isProtected hp => exact hsame rfl rfl rfl rfl rfl rfl
  | unprotected => exact hsame rfl rfl rfl rfl rfl rfl
  | reconciledBlocks hr =>
      refine h.same rfl rfl rfl (fun k b hb => ?_) rfl rfl
      obtain ⟨b', hb', hsource, -⟩ := reconcileRetryBlocks_source hr hb
      exact ⟨b', hb', hsource⟩
  | reconciledProtections hr => exact hsame rfl rfl rfl rfl rfl rfl
  | paused => exact hsame rfl rfl rfl rfl rfl rfl
  | mutated hm =>
      refine h.same rfl rfl rfl (fun k b hb => ?_) rfl rfl
      exact ⟨b, hm.applies.source hb, rfl⟩
  | cooled hc => exact hsame rfl rfl rfl rfl rfl rfl
  | retained => exact hsame rfl rfl rfl rfl rfl rfl
  | pruned hok hp =>
      rw [prune_ok hok]
      exact h.statements _ _ _ _ _ 9
  | managed hmoves hstored hcooling => exact hsame rfl rfl rfl rfl rfl rfl

/-- **Every reference of a reachable store finds its row.** -/
theorem Reachable.linked (h : s.Reachable) : s.Linked := by
  induction h with
  | empty token => exact empty_linked
  | perform op hs hop ih => exact ih.effect (perform_effect hs.sound.oneOpen hop)

end Store

end Unlinger
