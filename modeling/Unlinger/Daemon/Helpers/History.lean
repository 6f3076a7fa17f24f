import Unlinger.Daemon.Helpers.References
import Unlinger.Daemon.Model.History

/-!
# The past of a store

The invariant that ties a store to its past: what settled, settled once;
an attempt that is still there ended as it settled, with the actions its
receipt names; and whatever is left of events and blocks is of a
settlement. Each operation settles at most one attempt, which is read back
first.
-/

namespace Unlinger

/-- The operations that settle attempts. -/
def StoreOp.settles : StoreOp → Bool
  | .completeCleanupAttempt _ _ _ | .recoverIncompleteAttempts _ => true
  | _ => false

/-- The event is the settlement's. -/
structure EventRow.TerminalOf (e : EventRow) (σ : Settlement) : Prop where
  attempt : e.attemptId = some σ.attemptId
  payload : e.payload = .cleanup σ.receipt
  state : e.state = σ.receipt.state
  time : e.occurredAt = σ.occurredAt

/-- The block of an incident is the settlement's. -/
structure RetryBlock.BlockOf (b : RetryBlock) (incidentId : String) (σ : Settlement) : Prop where
  attempt : b.sourceAttemptId = σ.attemptId
  incident : σ.receipt.incidentId = incidentId
  uncleared : σ.receipt.state ≠ .cleared
  since : b.presence.since = σ.occurredAt

namespace Store

variable {s s' : Store} {t : Nat}

/-! ## What an operation settles -/

/-- What an operation does to the journal, with what it settles. -/
inductive Journals (s : Store) : StoreOp → Store → List Settlement → Prop
  | untouched {op} {x : Store} (hattempts : x.attempts = s.attempts) (hactions : x.actions = s.actions)
      (hartifacts : x.artifactActions = s.artifactActions) (hevents : x.events = s.events)
      (himpacts : x.impacts = s.impacts) (htotals : x.impactAuthority = s.impactAuthority)
      (hblocks : ∀ k b, x.retryBlocks.lookup k = some b → ∃ b', s.retryBlocks.lookup k = some b' ∧
        b'.sourceAttemptId = b.sourceAttemptId ∧ b'.presence.since = b.presence.since) :
      Journals s op x []
  | observed {op events} (h : Observes s.events events) :
      Journals s op { s with events := events } []
  | began {op at_ report a e} (h : s.Begins at_ report a e) :
      Journals s op { s with attempts := s.attempts.insert a, events := s.events.insert e } []
  | prepared {op i r} (h : s.Prepares i r) : Journals s op { s with actions := s.actions.insert r } []
  | completedActions {op rows} (h : Completes s.actions rows) :
      Journals s op { s with actions := rows } []
  | preparedArtifact {op i r} (h : s.Prepares i r) :
      Journals s op { s with artifactActions := s.artifactActions.insert r } []
  | completedArtifacts {op rows} (h : Completes s.artifactActions rows) :
      Journals s op { s with artifactActions := rows } []
  | settled {op actions artifactActions i a at_ receipt rows}
      (hactions : Completes s.actions actions)
      (hartifacts : Completes s.artifactActions artifactActions)
      (h : ({ s with actions := actions, artifactActions := artifactActions } : Store).Settles i a
        at_ receipt rows) :
      Journals s op
        (({ s with actions := actions, artifactActions := artifactActions } : Store).withSettled
          i a.trackingKey at_ receipt rows) [⟨i, a.observedProcessCount, at_, receipt⟩]
  | pruned {now policy fresh p} (h : s.Prunes now policy fresh p) :
      Journals s (.prune now policy fresh) (s.withPruned p) []

variable {op : StoreOp}

theorem Completes.refl {ι δ : Type} {rows : Table (JournalRow ι δ)} : Completes rows rows :=
  ⟨rfl, fun _ r hr => ⟨r, hr, rfl, rfl, fun hc => hc, fun _ => rfl⟩, fun _ r hr => ⟨r, hr⟩,
    fun _ r hr => ⟨r, hr, rfl⟩⟩

/-- An effect that settles nothing. -/
theorem Effect.journals (h : s.Effect op s') (hop : op.settles = false) : s.Journals op s' [] := by
  have hsame : ∀ {k : String} {b : RetryBlock}, s.retryBlocks.lookup k = some b →
      ∃ b', s.retryBlocks.lookup k = some b' ∧ b'.sourceAttemptId = b.sourceAttemptId ∧
        b'.presence.since = b.presence.since := fun {_ b} hb => ⟨b, hb, rfl, rfl⟩
  cases h with
  | completed h => cases hop
  | recovered hone huncertain hstate h => cases hop
  | same => exact .untouched rfl rfl rfl rfl rfl rfl fun _ _ hb => hsame hb
  | observed h => exact .observed h
  | began h => exact .began h
  | prepared h => exact .prepared h
  | completedAction h => exact .completedActions h
  | preparedArtifact h hvalid => exact .preparedArtifact h
  | completedArtifact h => exact .completedArtifacts h
  | retried h =>
      refine .untouched rfl rfl rfl rfl rfl rfl fun k b hb => ?_
      have hb' : (s.retryBlocks.erase _).lookup k = some b := hb
      rw [OrdMap.lookup_erase] at hb'
      split_ifs at hb'
      exact hsame hb'
  | isProtected h => exact .untouched rfl rfl rfl rfl rfl rfl fun _ _ hb => hsame hb
  | unprotected => exact .untouched rfl rfl rfl rfl rfl rfl fun _ _ hb => hsame hb
  | reconciledBlocks h =>
      exact .untouched rfl rfl rfl rfl rfl rfl fun _ _ hb => reconcileRetryBlocks_source h hb
  | reconciledProtections h => exact .untouched rfl rfl rfl rfl rfl rfl fun _ _ hb => hsame hb
  | paused => exact .untouched rfl rfl rfl rfl rfl rfl fun _ _ hb => hsame hb
  | mutated h =>
      exact .untouched rfl rfl rfl rfl rfl rfl fun _ _ hb => hsame (h.applies.source hb)
  | cooled h => exact .untouched rfl rfl rfl rfl rfl rfl fun _ _ hb => hsame hb
  | retained => exact .untouched rfl rfl rfl rfl rfl rfl fun _ _ hb => hsame hb
  | pruned hok h => exact .pruned h
  | managed hmoves hstored hcooling =>
      exact .untouched rfl rfl rfl rfl rfl rfl fun _ _ hb => hsame hb

/-- **An operation does to the journal what its settlements say.** -/
theorem perform_journals (hs : s.AtMostOneOpen) (h : s.perform op = .ok s') :
    s.Journals op s' (s.settlements op) := by
  have hsame : ∀ k b, s.retryBlocks.lookup k = some b →
      ∃ b', s.retryBlocks.lookup k = some b' ∧ b'.sourceAttemptId = b.sourceAttemptId ∧
        b'.presence.since = b.presence.since := fun _ b hb => ⟨b, hb, rfl, rfl⟩
  cases hop : op.settles with
  | false =>
      have hnone : s.settlements op = [] := by
        cases op with
        | completeCleanupAttempt attempt at_ receipt => cases hop
        | recoverIncompleteAttempts at_ => cases hop
        | _ => rfl
      rw [hnone]
      exact (perform_effect hs h).journals hop
  | true =>
      cases op with
      | completeCleanupAttempt attempt at_ receipt =>
          obtain ⟨⟨_, returned⟩, hok, rfl⟩ := map_eq_ok.1 h
          rcases completeCleanupAttempt_ok hok with
            ⟨a, ended, ha, hended, -, -, heq⟩ | ⟨a, rows, hsettles, -, rfl⟩
          · have hnone : s.settlements (.completeCleanupAttempt attempt at_ receipt) = [] := by
              simp [settlements, hok, ha, hended]
            rw [hnone, heq]
            exact .untouched rfl rfl rfl rfl rfl rfl hsame
          · have hone : s.settlements (.completeCleanupAttempt attempt at_ receipt)
                = [⟨attempt.id, a.observedProcessCount, at_, returned⟩] := by
              simp [settlements, hok, hsettles.stored, hsettles.opened]
            rw [hone]
            exact .settled Completes.refl Completes.refl hsettles
      | recoverIncompleteAttempts at_ =>
          obtain ⟨⟨_, receipts⟩, hok, rfl⟩ := map_eq_ok.1 h
          rcases recoverIncompleteAttempts_ok hs hok with ⟨hnil, heq, -⟩ |
            ⟨i, a, actions, artifacts, receipt, rows, hopen, huncertain, rfl, -, hsettles, rfl⟩
          · have hnone : s.settlements (.recoverIncompleteAttempts at_) = [] := by
              simp [settlements, hok, hnil]
            rw [hnone, heq]
            exact .untouched rfl rfl rfl rfl rfl rfl hsame
          · have hone : s.settlements (.recoverIncompleteAttempts at_)
                = [⟨i, a.observedProcessCount, at_, receipt⟩] := by
              simp [settlements, hok, hopen]
            rw [hone]
            exact .settled (completeUnknown_completes huncertain.actions_ok)
              (completeUnknown_completes huncertain.artifactActions_ok) hsettles
      | _ => cases hop

/-- An operation that fails settles nothing. -/
theorem settlements_of_error {e : StoreError} (h : s.perform op = .error e) :
    s.settlements op = [] := by
  cases op with
  | completeCleanupAttempt attempt at_ receipt =>
      cases hok : s.completeCleanupAttempt attempt at_ receipt with
      | error e => simp [settlements, hok]
      | ok r => simp [perform, hok, Except.map] at h
  | recoverIncompleteAttempts at_ =>
      cases hok : s.recoverIncompleteAttempts at_ with
      | error e => simp [settlements, hok]
      | ok r => simp [perform, hok, Except.map] at h
  | _ => rfl

/-! ## Rows -/

/-- The rows of an attempt are told by the numbers they have. -/
theorem rowsOf_congr {ι δ : Type} {old new : Table (JournalRow ι δ)} {i : Nat}
    (h : SameRows old new i) : rowsOf new i = rowsOf old i := by
  have hfilter : ∀ rows : Table (JournalRow ι δ),
      (rows.entries.map Prod.snd).filter (fun r => r.attemptId == i)
        = ((rows.rows.filter fun _ r => r.attemptId == i).entries).map Prod.snd := by
    intro rows
    rw [List.filter_map]
    rfl
  have hmaps : (new.rows.filter fun _ r => r.attemptId == i)
      = old.rows.filter fun _ r => r.attemptId == i := by
    refine OrdMap.ext_lookup fun id => ?_
    ext r
    rw [OrdMap.lookup_filter, OrdMap.lookup_filter, Option.filter_eq_some_iff,
      Option.filter_eq_some_iff, beq_iff_eq]
    constructor
    · rintro ⟨hr, hid⟩
      exact ⟨(h id r hid).1 hr, hid⟩
    · rintro ⟨hr, hid⟩
      exact ⟨(h id r hid).2 hr, hid⟩
  unfold rowsOf
  rw [hfilter, hfilter, hmaps]

/-- A receipt stays the receipt of an attempt whose rows stay. -/
theorem Receipts.congr {i : Nat} {receipt : CleanupReceipt} (h : s.Receipts i receipt)
    (hactions : SameRows s.actions s'.actions i)
    (hartifacts : SameRows s.artifactActions s'.artifactActions i) : s'.Receipts i receipt := by
  refine ⟨?_, ?_⟩
  · rw [← h.actions, actionsForAttempt, actionsForAttempt, rowsOf_congr hactions]
  · rw [← h.artifactActions, artifactActionsForAttempt, artifactActionsForAttempt,
      rowsOf_congr hartifacts]

theorem sameRows_refl {ι δ : Type} {rows : Table (JournalRow ι δ)} {i : Nat} :
    SameRows rows rows i := fun _ _ _ => Iff.rfl

/-- A new row is of another attempt. -/
theorem sameRows_insert {ι δ : Type} {rows : Table (JournalRow ι δ)} {new : JournalRow ι δ}
    {i : Nat} (hne : new.attemptId ≠ i) : SameRows rows (rows.insert new) i := by
  rintro id r rfl
  rw [Table.get_insert]
  split_ifs with hid
  · subst hid
    rw [Table.get_nextId]
    constructor
    · rintro ⟨rfl⟩
      exact absurd rfl hne
    · intro h
      cases h
  · exact Iff.rfl

/-- Completing rows does not change those that were complete. -/
theorem Completes.sameRows {ι δ : Type} {old new : Table (JournalRow ι δ)} {i : Nat}
    (h : Completes old new)
    (hdone : ∀ id r, old.get id = some r → r.attemptId = i → r.completed ≠ none) :
    SameRows old new i := by
  rintro id r rfl
  constructor
  · intro hr
    obtain ⟨r', hr', hid, -, -, hsame⟩ := h.get id r hr
    obtain rfl := hsame (hdone id r' hr' hid.symm)
    exact hr'
  · intro hr
    obtain ⟨r', hr'⟩ := h.keeps id r hr
    obtain ⟨r₀, hr₀, -, -, -, hsame⟩ := h.get id r' hr'
    obtain rfl := Option.some.inj (hr.symm.trans hr₀)
    obtain rfl := hsame (hdone id r hr rfl)
    exact hr'

/-! ## New rows -/

theorem newRows_nil {ρ : Type} {old new : Table ρ}
    (h : ∀ id r, new.get id = some r → old.get id ≠ none) : newRows old new = [] := by
  have hempty : (new.rows.filter fun id _ => (old.get id).isNone) = OrdMap.empty := by
    refine OrdMap.ext_lookup fun id => ?_
    rw [OrdMap.lookup_filter, OrdMap.lookup_empty, Option.filter_eq_none_iff]
    intro r hr
    simpa using h id r hr
  unfold newRows
  rw [hempty]
  rfl

theorem mem_newRows {ρ : Type} {old new : Table ρ} {e : Nat × ρ} :
    e ∈ newRows old new ↔ new.get e.1 = some e.2 ∧ old.get e.1 = none := by
  unfold newRows
  rw [← OrdMap.lookup_eq_some, OrdMap.lookup_filter, Option.filter_eq_some_iff,
    Option.isNone_iff_eq_none]
  rfl

theorem newRows_self {ρ : Type} {rows : Table ρ} : newRows rows rows = [] :=
  newRows_nil fun _ r hr => by rw [hr]; simp

theorem newRows_insert {ρ : Type} {rows : Table ρ} {r : ρ} :
    newRows rows (rows.insert r) = [(rows.nextId, r)] := by
  have hone : ((rows.insert r).rows.filter fun id _ => (rows.get id).isNone)
      = OrdMap.empty.insert rows.nextId r := by
    refine OrdMap.ext_lookup fun id => ?_
    rw [OrdMap.lookup_filter, OrdMap.lookup_insert, OrdMap.lookup_empty]
    have hget : (rows.insert r).rows.lookup id = if id = rows.nextId then some r else rows.get id :=
      Table.get_insert
    rw [hget]
    split_ifs with hid
    · subst hid
      rw [Table.get_nextId]
      rfl
    · rw [Option.filter_eq_none_iff]
      intro x hx
      simp [hx]
  unfold newRows
  rw [hone]
  rfl

/-! ## What a receipt proves -/

/-- What the rows of an attempt are read as ended as the rows did. -/
theorem endedWith_read {ι δ γ : Type} [DecidableEq δ] {rows : Table (JournalRow ι δ)} {i : Nat}
    {read : JournalRow ι δ → Except StoreError γ} {disposition : γ → δ} {ys : List γ}
    (hread : ∀ r y, read r = .ok y → r.completed.map Prod.snd = some (disposition y))
    (h : (rowsOf rows i).mapM read = .ok ys) (d : δ) :
    endedWith rows i d = ys.any fun y => disposition y == d := by
  have hrows : ys.any (fun y => disposition y == d)
      = (rowsOf rows i).any (fun r => r.completed.any fun c => c.2 == d) := by
    refine mapM_any (fun r _ y hy => ?_) h
    obtain ⟨c, hc, hd⟩ := Option.map_eq_some_iff.1 (hread r y hy)
    rw [hc, ← hd]
    rfl
  rw [hrows, Bool.eq_iff_iff]
  simp only [endedWith, rowsOf, List.any_eq_true, List.mem_insertionSort, List.mem_filter,
    List.mem_map, Bool.and_eq_true, beq_iff_eq]
  constructor
  · rintro ⟨e, he, hid, hany⟩
    exact ⟨e.2, ⟨⟨e, he, rfl⟩, hid⟩, hany⟩
  · rintro ⟨r, ⟨⟨e, he, rfl⟩, hid⟩, hany⟩
    exact ⟨e, he, hid, hany⟩

/-- The actions of a receipt ended as the rows of the attempt did. -/
theorem Receipts.endedWith {i : Nat} {receipt : CleanupReceipt} (h : s.Receipts i receipt)
    (d : SignalDisposition) :
    endedWith s.actions i d = receipt.actions.any fun a => a.disposition == d := by
  refine endedWith_read (fun r y hy => ?_) h.actions d
  cases hc : r.completed with
  | none => simp [hc] at hy
  | some c =>
      simp only [hc, Except.ok.injEq] at hy
      subst hy
      rfl

/-- So did its artifact actions. -/
theorem Receipts.artifactEndedWith {i : Nat} {receipt : CleanupReceipt} (h : s.Receipts i receipt)
    (d : ArtifactDisposition) :
    Unlinger.endedWith s.artifactActions i d
      = receipt.artifactActions.any fun a => a.disposition == d := by
  refine endedWith_read (fun r y hy => ?_) h.artifactActions d
  cases hc : r.completed with
  | none => simp [hc] at hy
  | some c =>
      simp only [hc] at hy
      split_ifs at hy
      obtain rfl := Except.ok.inj hy
      rfl

/-- The query on the rows and the receipt agree on what was reclaimed. -/
theorem Receipts.attributed {i : Nat} {receipt : CleanupReceipt} (h : s.Receipts i receipt) :
    s.attributed i receipt = receipt.provesProcessReclaim := by
  rw [Store.attributed, CleanupReceipt.provesProcessReclaim, h.endedWith]

/-- The totals after one more settlement. -/
theorem tally_concat {settled : List Settlement} {σ : Settlement} :
    Settlement.tally (settled ++ [σ]) = ImpactAuthority.add (Settlement.tally settled)
      σ.receipt.provesProcessReclaim σ.processCount σ.memory := by
  have hcount : ∀ p : Settlement → Bool,
      (settled ++ [σ]).countP p = settled.countP p + (p σ).toNat := by
    intro p
    rw [List.countP_append, List.countP_singleton]
    cases p σ <;> rfl
  simp only [Settlement.tally, ImpactAuthority.add, hcount, List.length_append, List.length_singleton,
    List.map_append, List.sum_append, List.map_singleton, List.sum_singleton]

/-- What the impact counted is what the settlement tells. -/
theorem SettledAs.totals_eq {i : Nat} {a : CleanupAttempt} {receipt : CleanupReceipt}
    {rows : SettledRows} (h : s.SettledAs i t receipt rows) (ha : s.attempts.get i = some a)
    (hreceipts : s.Receipts i receipt) {σ : Settlement} (hreceipt : σ.receipt = receipt)
    (hobserved : σ.observedProcessCount = a.observedProcessCount) :
    rows.totals = ImpactAuthority.add s.impactAuthority σ.receipt.provesProcessReclaim
      σ.processCount σ.memory := by
  obtain ⟨b, count, memory, hb, hcount, hmemory, htotals⟩ := h.counted
  obtain rfl := Option.some.inj (ha.symm.trans hb)
  subst hreceipt
  rw [hreceipts.attributed] at hcount hmemory htotals
  have hcounted : count = σ.processCount := by
    unfold impactProcessCount at hcount
    unfold Settlement.processCount
    split_ifs at hcount ⊢
    · cases hbefore : σ.receipt.resources.before with
      | none =>
          simp only [hbefore, Except.ok.injEq] at hcount
          rw [← hcount, ← hobserved]
          rfl
      | some resources =>
          simp only [hbefore] at hcount
          obtain ⟨n, hn, rfl⟩ := map_eq_ok.1 hcount
          obtain ⟨-, rfl⟩ := sqliteMillis_eq_ok.1 hn
          rfl
    · exact (Except.ok.inj hcount).symm
  have hmeasured : memory = σ.memory := by
    unfold impactMemory at hmemory
    unfold Settlement.memory
    split_ifs at hmemory ⊢
    · cases hbytes : σ.receipt.resources.estimatedReclaimedMemoryBytes with
      | none =>
          simp only [hbytes, Except.ok.injEq] at hmemory
          exact hmemory.symm
      | some bytes =>
          simp only [hbytes] at hmemory
          obtain ⟨n, hn, rfl⟩ := map_eq_ok.1 hmemory
          obtain ⟨-, rfl⟩ := sqliteMillis_eq_ok.1 hn
          rfl
    · exact (Except.ok.inj hmemory).symm
  rw [htotals, hcounted, hmeasured]

/-! ## The invariant -/

/-- The attempt ended as it settled. -/
structure EndedBy (s : Store) (a : CleanupAttempt) (σ : Settlement) : Prop where
  ended : a.ended = some (endOf σ.occurredAt σ.receipt)
  incident : a.incidentId = σ.receipt.incidentId
  receipts : s.Receipts σ.attemptId σ.receipt

/-- **What a store has of its settlements.** -/
structure Remembers (s : Store) (settled : List Settlement) : Prop where
  once : (settled.map Settlement.attemptId).Nodup
  numbered : ∀ σ ∈ settled, σ.attemptId ≤ s.attempts.lastId
  terminal : ∀ σ ∈ settled, σ.receipt.state.isTerminal = true
  ended : ∀ i a, s.attempts.get i = some a → a.ended ≠ none → ∃ σ ∈ settled, σ.attemptId = i
  attempts : ∀ σ ∈ settled, ∀ a, s.attempts.get σ.attemptId = some a → s.EndedBy a σ
  named : ∀ id e, s.events.get id = some e → e.attemptId ≠ none → e.payload.isCleanup = true
  events : ∀ id e, s.events.get id = some e → e.isTerminal = true → ∃ σ ∈ settled, e.TerminalOf σ
  totals : s.impactAuthority = Settlement.tally settled
  blocks : ∀ k b, s.retryBlocks.lookup k = some b → ∃ σ ∈ settled, b.BlockOf k σ

theorem empty_remembers {token : NamespaceToken} : (Store.empty token).Remembers [] := by
  constructor <;> simp [Store.empty, Settlement.tally, OrdMap.lookup_empty]

/-- Nothing settled: an attempt that had ended is as it was with its rows,
and an event of an attempt that is new is not that it ended. -/
theorem Remembers.frame {settled : List Settlement} (h : s.Remembers settled)
    (hids : s.attempts.lastId ≤ s'.attempts.lastId)
    (hattempts : ∀ i a, s'.attempts.get i = some a →
      s.attempts.get i = some a ∨ (s.attempts.lastId < i ∧ a.ended = none))
    (hrows : ∀ i a, s'.attempts.get i = some a → s.attempts.get i = some a → a.ended ≠ none →
      SameRows s.actions s'.actions i ∧ SameRows s.artifactActions s'.artifactActions i)
    (hevents : ∀ id e, s'.events.get id = some e → e.attemptId ≠ none →
      s.events.get id = some e ∨ (e.payload.isCleanup = true ∧ e.isTerminal = false))
    (htotals : s'.impactAuthority = s.impactAuthority)
    (hblocks : ∀ k b, s'.retryBlocks.lookup k = some b → ∃ b', s.retryBlocks.lookup k = some b' ∧
      b'.sourceAttemptId = b.sourceAttemptId ∧ b'.presence.since = b.presence.since) :
    s'.Remembers settled := by
  refine ⟨h.once, fun σ hσ => le_trans (h.numbered σ hσ) hids, h.terminal, fun i a ha hended => ?_,
    fun σ hσ a ha => ?_, fun id e he hne => ?_, fun id e he hterm => ?_, htotals.trans h.totals,
    fun k b hb => ?_⟩
  · rcases hattempts i a ha with hold | ⟨-, hopen⟩
    · exact h.ended i a hold hended
    · exact absurd hopen hended
  · rcases hattempts σ.attemptId a ha with hold | ⟨hlt, -⟩
    · have hby := h.attempts σ hσ a hold
      have hended : a.ended ≠ none := by
        rw [hby.ended]
        simp
      obtain ⟨hact, hart⟩ := hrows σ.attemptId a ha hold hended
      exact ⟨hby.ended, hby.incident, hby.receipts.congr hact hart⟩
    · have hle := h.numbered σ hσ
      omega
  · rcases hevents id e he hne with hold | ⟨hcleanup, -⟩
    · exact h.named id e hold hne
    · exact hcleanup
  · have hne : e.attemptId ≠ none := by
      simp only [EventRow.isTerminal, Bool.and_eq_true, Option.isSome_iff_ne_none] at hterm
      exact hterm.1
    rcases hevents id e he hne with hold | ⟨-, hnot⟩
    · exact h.events id e hold hterm
    · rw [hterm] at hnot
      cases hnot
  · obtain ⟨b', hb', hsource, hsince⟩ := hblocks k b hb
    obtain ⟨σ, hσ, hof⟩ := h.blocks k b' hb'
    exact ⟨σ, hσ, hsource ▸ hof.attempt, hof.incident, hof.uncleared, hsince ▸ hof.since⟩

/-- An attempt that settled was not settled before. -/
theorem Remembers.fresh {settled : List Settlement} {i : Nat} {a : CleanupAttempt}
    (h : s.Remembers settled) (ha : s.attempts.get i = some a) (hopen : a.ended = none) :
    ∀ σ ∈ settled, σ.attemptId ≠ i := by
  rintro σ hσ rfl
  have hended := (h.attempts σ hσ a ha).ended
  rw [hopen] at hended
  cases hended

/-- **One attempt settled.** -/
theorem Remembers.settle {settled : List Settlement} {i : Nat} {a : CleanupAttempt}
    {receipt : CleanupReceipt} {rows : SettledRows} {key : String} (h : s.Remembers settled)
    (hs : s.Settles i a t receipt rows) :
    (s.withSettled i key t receipt rows).Remembers
      (settled ++ [⟨i, a.observedProcessCount, t, receipt⟩]) := by
  have hset := hs.settled
  have hfresh := h.fresh hs.stored hs.opened
  set σ₀ : Settlement := ⟨i, a.observedProcessCount, t, receipt⟩ with hσ₀
  have hmem : ∀ σ, σ ∈ settled ++ [σ₀] ↔ σ ∈ settled ∨ σ = σ₀ := by simp
  have hlast : rows.attempts.lastId = s.attempts.lastId := hset.finished.lastId
  -- field by field: what was remembered before, and the settlement just made
  refine ⟨?_, fun σ hσ => ?_, fun σ hσ => ?_, fun j b hb hended => ?_, fun σ hσ b hb => ?_,
    fun id e he hne => ?_, fun id e he hterm => ?_, ?_, fun k b hb => ?_⟩
  · rw [List.map_append, List.map_singleton, List.nodup_append]
    refine ⟨h.once, List.nodup_singleton _, fun x hx y hy => ?_⟩
    obtain ⟨σ, hσ, rfl⟩ := List.mem_map.1 hx
    rw [List.mem_singleton.1 hy]
    exact hfresh σ hσ
  · show σ.attemptId ≤ rows.attempts.lastId
    rw [hlast]
    rcases (hmem σ).1 hσ with hσ | rfl
    · exact h.numbered σ hσ
    · exact s.attempts.bounded i a hs.stored
  · rcases (hmem σ).1 hσ with hσ | rfl
    · exact h.terminal σ hσ
    · exact hset.terminal
  · obtain ⟨old, hold, -, hfin⟩ := hset.finished.get j b hb
    by_cases hj : j = i
    · exact ⟨σ₀, (hmem σ₀).2 (Or.inr rfl), hj.symm⟩
    · rw [if_neg fun hc => hj hc.1] at hfin
      obtain ⟨σ, hσ, hid⟩ := h.ended j old hold (by rw [← hfin]; exact hended)
      exact ⟨σ, (hmem σ).2 (Or.inl hσ), hid⟩
  · obtain ⟨old, hold, hincident, hfin⟩ := hset.finished.get σ.attemptId b hb
    rcases (hmem σ).1 hσ with hσ | rfl
    · rw [if_neg fun hc => hfresh σ hσ hc.1] at hfin
      have hby := h.attempts σ hσ old hold
      exact ⟨hfin.trans hby.ended, hincident.trans hby.incident,
        hby.receipts.congr sameRows_refl sameRows_refl⟩
    · obtain rfl := Option.some.inj (hs.stored.symm.trans hold)
      rw [if_pos ⟨rfl, hs.opened⟩] at hfin
      exact ⟨hfin, hincident.trans hs.incident.symm,
        hs.receipts.congr sameRows_refl sameRows_refl⟩
  · have he' : (s.events.insert rows.event).get id = some e := he
    rw [Table.get_insert] at he'
    split_ifs at he' with hid
    · obtain rfl := Option.some.inj he'
      rw [hset.eventPayload]
      rfl
    · exact h.named id e he' hne
  · have he' : (s.events.insert rows.event).get id = some e := he
    rw [Table.get_insert] at he'
    split_ifs at he' with hid
    · obtain rfl := Option.some.inj he'
      exact ⟨σ₀, (hmem σ₀).2 (Or.inr rfl), hset.eventAttempt, hset.eventPayload, hset.eventState,
        hset.eventTime⟩
    · obtain ⟨σ, hσ, hof⟩ := h.events id e he' hterm
      exact ⟨σ, (hmem σ).2 (Or.inl hσ), hof⟩
  · show rows.totals = _
    rw [tally_concat, ← h.totals]
    exact hset.totals_eq hs.stored hs.receipts rfl rfl
  · have hb' : (blocksAfter s.retryBlocks i key t receipt).lookup k = some b := hb
    have hold : s.retryBlocks.lookup k = some b → ∃ σ ∈ settled ++ [σ₀], b.BlockOf k σ := by
      intro hk
      obtain ⟨σ, hσ, hof⟩ := h.blocks k b hk
      exact ⟨σ, (hmem σ).2 (Or.inl hσ), hof⟩
    unfold blocksAfter at hb'
    split_ifs at hb' with hcleared
    · exact hold hb'
    · rw [OrdMap.lookup_insert] at hb'
      split_ifs at hb' with hk
      · obtain rfl := Option.some.inj hb'
        exact ⟨σ₀, (hmem σ₀).2 (Or.inr rfl), rfl, hk.symm, hcleared, rfl⟩
      · exact hold hb'

/-- The rows of an attempt that ended are complete. -/
theorem Sound.complete {i : Nat} {a : CleanupAttempt} (hs : s.Sound)
    (ha : s.attempts.get i = some a) (hended : a.ended ≠ none) : s.NothingPrepared i := by
  constructor
  · rintro id r hr rfl hnone
    obtain ⟨b, hb, hopen⟩ := hs.pending id r hr hnone
    obtain rfl := Option.some.inj (ha.symm.trans hb)
    exact hended hopen
  · rintro id r hr rfl hnone
    obtain ⟨b, hb, hopen⟩ := hs.pendingArtifacts id r hr hnone
    obtain rfl := Option.some.inj (ha.symm.trans hb)
    exact hended hopen

/-- Completing actions does not touch what ended. -/
theorem Remembers.complete {settled : List Settlement} {actions : Table ActionRow}
    {artifactActions : Table ArtifactActionRow} (hs : s.Sound) (h : s.Remembers settled)
    (hactions : Completes s.actions actions)
    (hartifacts : Completes s.artifactActions artifactActions) :
    ({ s with actions := actions, artifactActions := artifactActions } : Store).Remembers
      settled := by
  refine h.frame le_rfl (fun _ _ ha => Or.inl ha) (fun i a _ ha hended => ?_)
    (fun _ _ he _ => Or.inl he) rfl fun _ b hb => ⟨b, hb, rfl, rfl⟩
  have hdone := hs.complete ha hended
  exact ⟨hactions.sameRows hdone.actions, hartifacts.sameRows hdone.artifactActions⟩

/-- Preparing an action of an open attempt does not touch what ended. -/
theorem Prepares.sameRows {ι δ : Type} {rows : Table (JournalRow ι δ)} {r : JournalRow ι δ}
    {i j : Nat} {a : CleanupAttempt} (h : s.Prepares i r) (ha : s.attempts.get j = some a)
    (hended : a.ended ≠ none) : SameRows rows (rows.insert r) j := by
  refine sameRows_insert fun hj => ?_
  obtain ⟨b, hb, hopen⟩ := h.opened
  rw [← h.attempt, hj] at hb
  obtain rfl := Option.some.inj (ha.symm.trans hb)
  exact hended hopen

/-- **Every operation is remembered by what it settles.** -/
theorem Remembers.journals {settled new : List Settlement} (hs : s.Sound) (h : s.Remembers settled)
    (hj : s.Journals op s' new) : s'.Remembers (settled ++ new) := by
  have hrefl : ∀ {i : Nat}, SameRows s.actions s.actions i ∧
      SameRows s.artifactActions s.artifactActions i := ⟨sameRows_refl, sameRows_refl⟩
  cases hj with
  | untouched hattempts hactions hartifacts hevents himpacts htotals hblocks =>
      rw [List.append_nil]
      refine h.frame (by rw [hattempts]) (fun i a ha => Or.inl (hattempts ▸ ha)) (fun _ _ _ _ _ => ?_)
        (fun id e he _ => Or.inl (hevents ▸ he)) htotals hblocks
      rw [hactions, hartifacts]
      exact hrefl
  | observed ho =>
      rw [List.append_nil]
      refine h.frame le_rfl (fun _ _ ha => Or.inl ha) (fun _ _ _ _ _ => hrefl) (fun id e he hne => ?_)
        rfl fun _ b hb => ⟨b, hb, rfl, rfl⟩
      -- what names an attempt was there before, and is of a cleanup
      obtain ⟨e', he', hid⟩ := ho.attempts id e he hne
      have hcleanup := h.named id e' he' (by rw [hid]; exact hne)
      have hkept := (ho.cleanups id e' hcleanup).2 he'
      obtain rfl := Option.some.inj (hkept.symm.trans he)
      exact Or.inl he'
  | @began _ at_ report a e hb =>
      rw [List.append_nil]
      refine h.frame (Nat.le_succ _) (fun i b hget => ?_) (fun _ _ _ _ _ => hrefl)
        (fun id x hx hne => ?_) rfl fun _ b hb => ⟨b, hb, rfl, rfl⟩
      · have hget' : (s.attempts.insert a).get i = some b := hget
        rw [Table.get_insert] at hget'
        split_ifs at hget' with hid
        · obtain rfl := Option.some.inj hget'
          exact Or.inr ⟨by rw [hid]; exact Nat.lt_succ_self _, hb.opened⟩
        · exact Or.inl hget'
      · have hx' : (s.events.insert e).get id = some x := hx
        rw [Table.get_insert] at hx'
        split_ifs at hx' with hid
        · obtain rfl := Option.some.inj hx'
          refine Or.inr ⟨hb.eventPayload, ?_⟩
          rw [EventRow.isTerminal, hb.eventState]
          exact Bool.and_false _
        · exact Or.inl hx'
  | prepared hp =>
      rw [List.append_nil]
      exact h.frame le_rfl (fun _ _ ha => Or.inl ha)
        (fun _ _ _ ha hended => ⟨hp.sameRows ha hended, sameRows_refl⟩)
        (fun _ _ he _ => Or.inl he) rfl fun _ b hb => ⟨b, hb, rfl, rfl⟩
  | completedActions hc =>
      rw [List.append_nil]
      exact h.complete hs hc Completes.refl
  | preparedArtifact hp =>
      rw [List.append_nil]
      exact h.frame le_rfl (fun _ _ ha => Or.inl ha)
        (fun _ _ _ ha hended => ⟨sameRows_refl, hp.sameRows ha hended⟩)
        (fun _ _ he _ => Or.inl he) rfl fun _ b hb => ⟨b, hb, rfl, rfl⟩
  | completedArtifacts hc =>
      rw [List.append_nil]
      exact h.complete hs Completes.refl hc
  | settled hactions hartifacts hsettles => exact (h.complete hs hactions hartifacts).settle hsettles
  | pruned hp =>
      rw [List.append_nil]
      refine h.frame le_rfl (fun _ _ ha => Or.inl (get_of_filter ha)) (fun i a hkept ha _ => ?_)
        (fun id e he _ => Or.inl (hp.events id e he)) rfl fun _ b hb => ⟨b, hb, rfl, rfl⟩
      -- an attempt that is left was not forgotten
      refine withPruned_sameRows fun b hb => ?_
      obtain rfl := Option.some.inj (ha.symm.trans hb)
      have hnot := (Option.filter_eq_some_iff.1 (Table.get_filter.symm.trans hkept)).2
      exact (Bool.not_eq_true' _).mp hnot

/-! ## What an operation leaves behind -/

/-- An event says that an attempt ended exactly where one settled. -/
theorem Journals.terminalEvents {new : List Settlement} (hj : s.Journals op s' new) :
    ((newRows s.events s'.events).filter fun e => e.2.isTerminal).map
        (fun e => (e.2.attemptId, e.2.payload))
      = new.map fun σ => (some σ.attemptId, .cleanup σ.receipt) := by
  have hself : ∀ {x : Store}, x.events = s.events →
      ((newRows s.events x.events).filter fun e => e.2.isTerminal) = [] := by
    intro x hx
    rw [hx, newRows_self]
    rfl
  cases hj with
  | untouched hattempts hactions hartifacts hevents himpacts htotals hblocks =>
      rw [hself hevents]
      rfl
  | @observed _ events ho =>
      have hnone : ((newRows s.events events).filter fun e => e.2.isTerminal) = [] := by
        refine List.filter_eq_nil_iff.2 fun e he hterm => ?_
        obtain ⟨hget, habsent⟩ := mem_newRows.1 he
        simp only [EventRow.isTerminal, Bool.and_eq_true, Option.isSome_iff_ne_none] at hterm
        obtain ⟨e', he', -⟩ := ho.attempts e.1 e.2 hget hterm.1
        rw [habsent] at he'
        cases he'
      rw [hnone]
      rfl
  | @began _ at_ report a e hb =>
      have hterm : e.isTerminal = false := by
        rw [EventRow.isTerminal, hb.eventState]
        exact Bool.and_false _
      rw [newRows_insert, List.filter_cons_of_neg (by rw [hterm]; simp)]
      rfl
  | prepared hp =>
      rw [hself rfl]
      rfl
  | completedActions hc =>
      rw [hself rfl]
      rfl
  | preparedArtifact hp =>
      rw [hself rfl]
      rfl
  | completedArtifacts hc =>
      rw [hself rfl]
      rfl
  | @settled _ actions artifactActions i a at_ receipt rows hactions hartifacts hsettles =>
      have hset := hsettles.settled
      have hterm : rows.event.isTerminal = true := by
        rw [EventRow.isTerminal, hset.eventAttempt, hset.eventState, hset.terminal]
        rfl
      show ((newRows s.events (s.events.insert rows.event)).filter _).map _ = _
      rw [newRows_insert, List.filter_cons_of_pos (by rw [hterm])]
      simp only [List.filter_nil, List.map_cons, List.map_nil, hset.eventAttempt, hset.eventPayload]
  | @pruned now policy fresh p hp =>
      have hnone : newRows s.events (s.withPruned p).events = [] := by
        refine newRows_nil fun id e he => ?_
        rw [hp.events id e he]
        simp
      rw [hnone]
      rfl

/-- An impact is recorded exactly where an attempt settled. -/
theorem Journals.impacts {new : List Settlement} (hj : s.Journals op s' new) :
    (newRows s.impacts s'.impacts).map (fun m => (m.2.attemptId, m.2.state))
      = new.map fun σ => (σ.attemptId, σ.receipt.state) := by
  cases hj with
  | untouched hattempts hactions hartifacts hevents himpacts htotals hblocks =>
      rw [himpacts, newRows_self]
      rfl
  | @settled _ actions artifactActions i a at_ receipt rows hactions hartifacts hsettles =>
      show (newRows s.impacts (s.impacts.insert rows.impact)).map _ = _
      rw [newRows_insert]
      simp only [List.map_cons, List.map_nil, hsettles.settled.impactAttempt,
        hsettles.settled.impactState]
  | @pruned now policy fresh p hp =>
      have hnone : newRows s.impacts (s.withPruned p).impacts = [] := by
        refine newRows_nil fun id m hm => ?_
        rw [((hp.impacts id m).1 hm).1]
        simp
      rw [hnone]
      rfl
  | observed ho =>
      rw [newRows_self]
      rfl
  | began hb =>
      rw [newRows_self]
      rfl
  | prepared hp =>
      rw [newRows_self]
      rfl
  | completedActions hc =>
      rw [newRows_self]
      rfl
  | preparedArtifact hp =>
      rw [newRows_self]
      rfl
  | completedArtifacts hc =>
      rw [newRows_self]
      rfl

end Store

/-! ## Runs -/

namespace History

variable {token : NamespaceToken} {ops : List StoreOp}

/-- **The invariant of a history.** -/
structure Kept (h : History) : Prop where
  reachable : h.store.Reachable
  remembers : h.store.Remembers h.settled
  terminalEvents : h.terminalEvents.map (fun e => (e.2.attemptId, e.2.payload))
    = h.settled.map fun σ => (some σ.attemptId, .cleanup σ.receipt)
  impacts : h.impacts.map (fun m => (m.2.attemptId, m.2.state))
    = h.settled.map fun σ => (σ.attemptId, σ.receipt.state)

theorem ran_concat {op : StoreOp} : ran token (ops ++ [op]) = (ran token ops).step op := by
  unfold ran
  rw [List.foldl_append, List.foldl_cons, List.foldl_nil]

/-- **One more operation.** -/
theorem Kept.step {h : History} (hk : h.Kept) (op : StoreOp) : (h.step op).Kept := by
  have hsound := hk.reachable.sound
  rcases Store.committed_cases h.store op with ⟨s', hok, heq⟩ | ⟨err, herr, heq⟩
  · have hj := Store.perform_journals hsound.oneOpen hok
    refine ⟨?_, ?_, ?_, ?_⟩
    · show (h.store.committed op).Reachable
      rw [heq]
      exact hk.reachable.perform op hok
    · show (h.store.committed op).Remembers _
      rw [heq]
      exact hk.remembers.journals hsound hj
    · simp only [History.step, List.map_append, hk.terminalEvents, heq]
      rw [hj.terminalEvents]
    · simp only [History.step, List.map_append, hk.impacts, heq]
      rw [hj.impacts]
  · -- a failed operation leaves everything as it was
    have hsame : h.step op = h := by
      simp only [History.step, heq, Store.settlements_of_error herr, Store.newRows_self,
        List.filter_nil, List.append_nil]
    rw [hsame]
    exact hk

/-- **Every history keeps the invariant.** -/
theorem ran_kept : (ran token ops).Kept := by
  induction ops using List.reverseRecOn with
  | nil => exact ⟨Store.Reachable.empty token, Store.empty_remembers, rfl, rfl⟩
  | append_singleton ops op ih =>
      rw [ran_concat]
      exact ih.step op

end History

end Unlinger
