import Unlinger.Common.Transition
import Unlinger.Core.Helpers.Execute
import Unlinger.Daemon.Helpers.Store

/-!
# Ordinary mutations, at most once

A request is named by the namespace it was made under and an id. While its
receipt is there the request is answered from it; when a pruning deletes
receipts it also draws a new namespace, so a request whose receipt is gone
is of an older one and is refused. Beside the store stand every token that
was drawn and every request that was carried out.
-/

namespace Unlinger

/-! ## The store with its requests -/

/-- A request that was carried out, with its answer. -/
structure CommittedMutation where
  context : MutationContext
  mutation : OrdinaryMutation
  receipt : MutationReceipt
  deriving DecidableEq

/-- It changed the store. -/
def CommittedMutation.applied (c : CommittedMutation) : Bool :=
  match c.receipt.outcome with
  | .applied _ => true
  | .noChange _ | .rejected _ => false

/-- The operations that work with receipts. -/
def StoreOp.answers : StoreOp → Bool
  | .commitPublicOrdinaryMutation _ _ _ _ | .prune _ _ _ => true
  | _ => false

/-- The name of its request. -/
def CommittedMutation.key (c : CommittedMutation) : String ×ₗ String := Store.receiptKey c.context

namespace Store

/-- The request an operation carries out. -/
def newlyCommitted (s : Store) : StoreOp → List CommittedMutation
  | .commitPublicOrdinaryMutation context mutation runtime at_ =>
      match s.commitPublicOrdinaryMutation context mutation runtime at_ with
      | .ok (_, commit) =>
          if commit.newlyCommitted then [⟨context, mutation, commit.receipt⟩] else []
      | .error _ => []
  | _ => []

/-- The token an operation draws: a pruning draws one where it deletes
receipts. -/
def drawnBy (s : Store) : StoreOp → List NamespaceToken
  | .prune now policy fresh =>
      match s.prune now policy fresh with
      | .ok _ =>
          if s.mutationReceipts.entries.any fun e =>
              decide (e.2.receipt.retainUntilUnixMillis ≤ now) then [fresh]
          else []
      | .error _ => []
  | _ => []

end Store

/-- What happens to a store: an operation, or its file is closed and
opened again. -/
inductive LedgerStep
  | perform (op : StoreOp)
  | reopen

/-- A store with every token drawn for it and every request carried out
on it. -/
structure Ledger where
  store : Store
  drawn : List NamespaceToken
  committed : List CommittedMutation

namespace Ledger

/-- The ledger of an empty store. -/
def start (token : NamespaceToken) : Ledger := ⟨Store.empty token, [token], []⟩

/-- The ledger after a step; what is in the file survives a reopening. -/
def step (l : Ledger) : LedgerStep → Ledger
  | .reopen => l
  | .perform op =>
      { store := l.store.committed op
        drawn := l.drawn ++ l.store.drawnBy op
        committed := l.committed ++ l.store.newlyCommitted op }

/-- A token that is drawn was never drawn before. -/
def DrawsFresh (l : Ledger) : LedgerStep → Prop
  | .reopen => True
  | .perform op => ∀ token ∈ l.store.drawnBy op, token ∉ l.drawn

instance DrawsFresh.decidable (l : Ledger) : ∀ step, Decidable (l.DrawsFresh step)
  | .reopen => .isTrue trivial
  | .perform op => inferInstanceAs (Decidable (∀ token ∈ l.store.drawnBy op, token ∉ l.drawn))

/-- The ledger after a run. -/
def ran (token : NamespaceToken) (steps : List LedgerStep) : Ledger := steps.foldl step (start token)

/-- The receipt of a request is still there. -/
def Retains (l : Ledger) (c : CommittedMutation) : Prop :=
  l.store.mutationReceipts.lookup c.key = some ⟨c.mutation, c.receipt⟩

/-- A call whose time is not beyond what a column holds. -/
def inRange (at_ : Nat) : Prop := at_ + mutationReconciliationWindowMillis < 2 ^ 63

/-- **Each request is carried out at most once.** -/
structure AtMostOnce (l : Ledger) : Prop where
  once : (l.committed.map CommittedMutation.key).Nodup
  /-- a call that does not commit a request changes nothing -/
  otherwise : ∀ context mutation runtime at_ store commit,
    l.store.commitPublicOrdinaryMutation context mutation runtime at_ = .ok (store, commit) →
    commit.newlyCommitted = false → store = l.store
  replays : ∀ c ∈ l.committed, l.Retains c → ∀ runtime at_, inRange at_ →
    l.store.commitPublicOrdinaryMutation c.context c.mutation runtime at_
      = .ok (l.store, ⟨c.receipt, false, false⟩)
  conflicts : ∀ c ∈ l.committed, l.Retains c → ∀ mutation runtime at_, inRange at_ →
    mutation ≠ c.mutation → ∃ message,
    l.store.commitPublicOrdinaryMutation c.context mutation runtime at_ = .error (.conflict message)
  refuses : ∀ c ∈ l.committed, ¬ l.Retains c → ∀ mutation runtime at_, inRange at_ → ∃ message,
    l.store.commitPublicOrdinaryMutation c.context mutation runtime at_
      = .error (.authorityLost message)
  outOfRange : ∀ context mutation runtime at_, ¬ inRange at_ → ∃ message,
    l.store.commitPublicOrdinaryMutation context mutation runtime at_ = .error (.range message)
  /-- the durable revision counts the requests that changed something -/
  revision : l.store.cleanupPolicyRevision = 1 + l.committed.countP CommittedMutation.applied

end Ledger

namespace Store

variable {s s' : Store} {op : StoreOp} {t : Nat}

/-! ## One call -/

/-- A call in time looks its receipt up. -/
theorem commit_inRange {context : MutationContext} {mutation : OrdinaryMutation}
    {runtime : RuntimePolicyFacts} (ht : Ledger.inRange t) :
    s.commitPublicOrdinaryMutation context mutation runtime t =
      match s.mutationReceipts.lookup (receiptKey context) with
      | some row => (replayReceipt row context mutation).map fun commit => (s, commit)
      | none => s.commitFresh context mutation runtime t (t + mutationReconciliationWindowMillis) := by
  unfold Ledger.inRange at ht
  have hsmall : sqliteMillis t "mutation timestamp" = .ok t :=
    sqliteMillis_eq_ok.2 ⟨by omega, rfl⟩
  have hwide : require (t + mutationReconciliationWindowMillis < 2 ^ 64)
      (StoreError.range "mutation retention deadline overflowed u64") = .ok () :=
    require_eq_ok.2 (by omega)
  have hdeadline : sqliteMillis (t + mutationReconciliationWindowMillis)
      "mutation retention deadline" = .ok (t + mutationReconciliationWindowMillis) :=
    sqliteMillis_eq_ok.2 ⟨ht, rfl⟩
  unfold commitPublicOrdinaryMutation
  rw [hsmall, hwide, hdeadline, ok_bind, ok_bind, ok_bind]
  cases hl : s.mutationReceipts.lookup (receiptKey context) with
  | none =>
      unfold receiptKey at hl
      simp only [hl]
  | some row =>
      unfold receiptKey at hl
      simp only [hl]
      exact bind_pure_eq_map

theorem commit_outOfRange {context : MutationContext} {mutation : OrdinaryMutation}
    {runtime : RuntimePolicyFacts} (ht : ¬ Ledger.inRange t) :
    ∃ message, s.commitPublicOrdinaryMutation context mutation runtime t = .error (.range message) := by
  unfold Ledger.inRange at ht
  unfold commitPublicOrdinaryMutation
  by_cases hsmall : t < 2 ^ 63
  · have hok : sqliteMillis t "mutation timestamp" = .ok t := sqliteMillis_eq_ok.2 ⟨hsmall, rfl⟩
    have hwindow : mutationReconciliationWindowMillis < 2 ^ 63 := by decide
    have hwide : require (t + mutationReconciliationWindowMillis < 2 ^ 64)
        (StoreError.range "mutation retention deadline overflowed u64") = .ok () :=
      require_eq_ok.2 (by omega)
    have hdeadline : sqliteMillis (t + mutationReconciliationWindowMillis)
        "mutation retention deadline"
          = .error (.range ("mutation retention deadline" ++ " overflowed i64")) := if_neg ht
    rw [hok, hwide, hdeadline, ok_bind, ok_bind, error_bind]
    exact ⟨_, rfl⟩
  · have hfails : sqliteMillis t "mutation timestamp"
        = .error (.range ("mutation timestamp" ++ " overflowed i64")) := if_neg hsmall
    rw [hfails, error_bind]
    exact ⟨_, rfl⟩

/-! ## What an operation does to the receipts -/

/-- Nothing but a mutation and a pruning touches the receipts. -/
theorem Effect.authority (h : s.Effect op s') (hop : op.answers = false) :
    s'.mutationReceipts = s.mutationReceipts ∧ s'.namespaceToken = s.namespaceToken ∧
      s'.cleanupPolicyRevision = s.cleanupPolicyRevision := by
  cases h with
  | mutated h => cases hop
  | pruned hok h => cases hop
  | _ => exact ⟨rfl, rfl, rfl⟩

/-- What is not answered is not carried out, and draws nothing. -/
theorem newlyCommitted_of_not_answers (hop : op.answers = false) :
    s.newlyCommitted op = [] ∧ s.drawnBy op = [] := by
  cases op with
  | commitPublicOrdinaryMutation context mutation runtime at_ => cases hop
  | prune now policy fresh => cases hop
  | _ => exact ⟨rfl, rfl⟩

/-- An operation that fails carries nothing out, and draws nothing. -/
theorem newlyCommitted_of_error {e : StoreError} (h : s.perform op = .error e) :
    s.newlyCommitted op = [] ∧ s.drawnBy op = [] := by
  cases op with
  | commitPublicOrdinaryMutation context mutation runtime at_ =>
      cases hok : s.commitPublicOrdinaryMutation context mutation runtime at_ with
      | error e => exact ⟨by simp only [newlyCommitted, hok], rfl⟩
      | ok r => simp [perform, hok, Except.map] at h
  | prune now policy fresh =>
      cases hok : s.prune now policy fresh with
      | error e => exact ⟨rfl, by simp only [drawnBy, hok]⟩
      | ok r => simp [perform, hok, Except.map] at h
  | _ => exact ⟨rfl, rfl⟩

/-- A pruning keeps every receipt, or draws a token. -/
theorem Prunes.receipts_cases {policy : RetentionPolicy} {fresh : NamespaceToken} {p : Pruned}
    {result : PruneResult} (hok : s.prune t policy fresh = .ok (s.withPruned p, result))
    (h : s.Prunes t policy fresh p) :
    (p.receipts = s.mutationReceipts ∧ p.token = s.namespaceToken ∧
      s.drawnBy (.prune t policy fresh) = []) ∨
    (p.token = fresh ∧ s.drawnBy (.prune t policy fresh) = [fresh]) := by
  have hentries : p.receipts.entries = s.mutationReceipts.entries.filter fun e =>
      decide (t < e.2.receipt.retainUntilUnixMillis) := by
    rw [h.receipts]
    rfl
  cases hany : s.mutationReceipts.entries.any fun e =>
      decide (e.2.receipt.retainUntilUnixMillis ≤ t) with
  | false =>
      have hall : ∀ e ∈ s.mutationReceipts.entries,
          decide (t < e.2.receipt.retainUntilUnixMillis) = true := by
        intro e he
        have hnot := List.any_eq_false.1 hany e he
        simp only [decide_eq_true_eq, Nat.not_le] at hnot
        exact decide_eq_true hnot
      have hsame : p.receipts.entries = s.mutationReceipts.entries := by
        rw [hentries, List.filter_eq_self]
        exact hall
      refine Or.inl ⟨OrdMap.ext_lookup fun key => ?_, ?_, ?_⟩
      · unfold OrdMap.lookup
        rw [hsame]
      · rw [h.token, hsame, if_neg (Nat.lt_irrefl _)]
      · simp only [drawnBy, hok, hany, Bool.false_eq_true, if_false]
  | true =>
      have hfewer : p.receipts.entries.length < s.mutationReceipts.entries.length := by
        obtain ⟨e, he, hexpired⟩ := List.any_eq_true.1 hany
        rw [hentries]
        refine List.length_filter_lt_length_iff_exists.2 ⟨e, he, ?_⟩
        simp only [decide_eq_true_eq] at hexpired ⊢
        omega
      refine Or.inr ⟨?_, ?_⟩
      · rw [h.token, if_pos hfewer]
      · simp only [drawnBy, hok, hany, if_true]

end Store

/-! ## The invariant -/

theorem NamespaceToken.eq_of_value {a b : NamespaceToken} (h : a.value = b.value) : a = b := by
  cases a
  cases b
  simp only [NamespaceToken.mk.injEq]
  exact h

namespace Ledger

variable {l : Ledger}

/-- **What a store has of its requests.** -/
structure Kept (l : Ledger) : Prop where
  reachable : l.store.Reachable
  current : l.store.namespaceToken ∈ l.drawn
  named : ∀ c ∈ l.committed, ∃ token ∈ l.drawn, token.value = c.context.namespaceToken
  once : (l.committed.map CommittedMutation.key).Nodup
  stored : ∀ key row, l.store.mutationReceipts.lookup key = some row →
    ∃ c ∈ l.committed, c.key = key ∧ row = ⟨c.mutation, c.receipt⟩
  retained : ∀ c ∈ l.committed, c.context.namespaceToken = l.store.namespaceToken.value → l.Retains c
  answers : ∀ c ∈ l.committed, c.receipt.namespaceToken = c.context.namespaceToken ∧
    c.receipt.mutationId = c.context.mutationId ∧ c.receipt.kind = c.mutation.kind ∧
    c.receipt.committedAtUnixMillis ≤ c.receipt.retainUntilUnixMillis
  revision : l.store.cleanupPolicyRevision = 1 + l.committed.countP CommittedMutation.applied

theorem start_kept (token : NamespaceToken) : (start token).Kept := by
  refine ⟨Store.Reachable.empty token, by simp [start, Store.empty], by simp [start], by simp [start],
    fun key row h => ?_, by simp [start], by simp [start], rfl⟩
  cases h

/-- Where neither receipts nor requests nor tokens change, nothing does. -/
theorem Kept.frame {store : Store} (h : l.Kept) (hreachable : store.Reachable)
    (hreceipts : store.mutationReceipts = l.store.mutationReceipts)
    (htoken : store.namespaceToken = l.store.namespaceToken)
    (hrevision : store.cleanupPolicyRevision = l.store.cleanupPolicyRevision) :
    (⟨store, l.drawn, l.committed⟩ : Ledger).Kept where
  reachable := hreachable
  current := by rw [htoken]; exact h.current
  named := h.named
  once := h.once
  stored := by rw [hreceipts]; exact h.stored
  retained := by
    intro c hc hcurrent
    show store.mutationReceipts.lookup _ = _
    rw [hreceipts]
    exact h.retained c hc (by rw [← htoken]; exact hcurrent)
  answers := h.answers
  revision := by rw [hrevision]; exact h.revision

/-- A pruning that deletes receipts leaves their requests without a
current name. -/
theorem Kept.pruned {now : Nat} {policy : RetentionPolicy} {fresh : NamespaceToken}
    {p : Store.Pruned} {result : PruneResult} (h : l.Kept)
    (hok : l.store.prune now policy fresh = .ok (l.store.withPruned p, result))
    (hp : l.store.Prunes now policy fresh p)
    (hfresh : ∀ token ∈ l.store.drawnBy (.prune now policy fresh), token ∉ l.drawn) :
    (⟨l.store.withPruned p, l.drawn ++ l.store.drawnBy (.prune now policy fresh),
      l.committed⟩ : Ledger).Kept := by
  have hreachable : (l.store.withPruned p).Reachable :=
    h.reachable.perform (.prune now policy fresh) (by simp only [Store.perform, hok]; rfl)
  rcases Store.Prunes.receipts_cases hok hp with ⟨hreceipts, htoken, hdrawn⟩ | ⟨htoken, hdrawn⟩
  · rw [hdrawn, List.append_nil]
    exact h.frame hreachable hreceipts htoken rfl
  · rw [hdrawn] at hfresh ⊢
    have hnew : fresh ∉ l.drawn := hfresh fresh (List.mem_singleton.2 rfl)
    have hcurrent : (l.store.withPruned p).namespaceToken = fresh := htoken
    refine ⟨hreachable, ?_, ?_, h.once, ?_, ?_, h.answers, h.revision⟩
    · show (l.store.withPruned p).namespaceToken ∈ l.drawn ++ [fresh]
      rw [hcurrent]
      exact List.mem_append_right _ (List.mem_singleton.2 rfl)
    · intro c hc
      obtain ⟨token, htoken, hvalue⟩ := h.named c hc
      exact ⟨token, List.mem_append_left _ htoken, hvalue⟩
    · intro key row hrow
      have hkept : p.receipts.lookup key = some row := hrow
      rw [hp.receipts, OrdMap.lookup_filter, Option.filter_eq_some_iff] at hkept
      exact h.stored key row hkept.1
    · -- no request was made under the new name
      intro c hc hname
      obtain ⟨token, hmem, hvalue⟩ := h.named c hc
      have hname' : c.context.namespaceToken = fresh.value := by
        rw [← hcurrent]
        exact hname
      exact absurd (NamespaceToken.eq_of_value (hvalue.trans hname') ▸ hmem) hnew

/-- A request that is carried out was not carried out before. -/
theorem Kept.mutated {context : MutationContext} {mutation : OrdinaryMutation} {at_ : Nat}
    {m : Store.Mutated} (h : l.Kept) (hm : l.store.Mutates context mutation at_ m)
    (hreachable : (l.store.withMutated context mutation m).Reachable) :
    (⟨l.store.withMutated context mutation m, l.drawn,
      l.committed ++ [⟨context, mutation, m.commit.receipt⟩]⟩ : Ledger).Kept := by
  -- were the key used before, its receipt would be retained and the request answered by replay
  have hnew : ∀ c ∈ l.committed, c.key ≠ Store.receiptKey context := by
    intro c hc hkey
    have hctx : c.context.namespaceToken = context.namespaceToken :=
      (Prod.mk.inj (toLex.injective hkey)).1
    have hretains := h.retained c hc (hctx.trans hm.token.symm)
    unfold Retains at hretains
    rw [hkey, hm.unanswered] at hretains
    cases hretains
  have hlookup : ∀ key, (l.store.withMutated context mutation m).mutationReceipts.lookup key
      = if key = Store.receiptKey context then some ⟨mutation, m.commit.receipt⟩
        else l.store.mutationReceipts.lookup key := fun _ => OrdMap.lookup_insert
  have hmem : ∀ c, c ∈ l.committed ++ [⟨context, mutation, m.commit.receipt⟩] ↔
      c ∈ l.committed ∨ c = ⟨context, mutation, m.commit.receipt⟩ := by simp
  refine ⟨hreachable, h.current, fun c hc => ?_, ?_, fun key row hrow => ?_, fun c hc hname => ?_,
    fun c hc => ?_, ?_⟩
  · rcases (hmem c).1 hc with hc | rfl
    · exact h.named c hc
    · exact ⟨l.store.namespaceToken, h.current, hm.token⟩
  · rw [List.map_append, List.map_singleton, List.nodup_append]
    refine ⟨h.once, List.nodup_singleton _, fun x hx y hy => ?_⟩
    obtain ⟨c, hc, rfl⟩ := List.mem_map.1 hx
    rw [List.mem_singleton.1 hy]
    exact hnew c hc
  · rw [hlookup] at hrow
    split_ifs at hrow with hkey
    · exact ⟨_, (hmem _).2 (Or.inr rfl), hkey.symm, (Option.some.inj hrow).symm⟩
    · obtain ⟨c, hc, hck, hcr⟩ := h.stored key row hrow
      exact ⟨c, (hmem c).2 (Or.inl hc), hck, hcr⟩
  · show (l.store.withMutated context mutation m).mutationReceipts.lookup c.key = _
    rw [hlookup]
    rcases (hmem c).1 hc with hc | rfl
    · rw [if_neg (hnew c hc)]
      exact h.retained c hc hname
    · exact if_pos rfl
  · rcases (hmem c).1 hc with hc | rfl
    · exact h.answers c hc
    · refine ⟨hm.receiptToken, hm.receiptId, hm.receiptKind, ?_⟩
      show m.commit.receipt.committedAtUnixMillis ≤ m.commit.receipt.retainUntilUnixMillis
      rw [hm.receiptTime, hm.receiptDeadline]
      exact Nat.le_add_right _ _
  · -- the revision counts the receipts that applied: one more exactly when the state changed
    have happlied : (⟨context, mutation, m.commit.receipt⟩ : CommittedMutation).applied
        = m.commit.stateChanged := by
      rw [Bool.eq_iff_iff, hm.changed_iff]
      unfold CommittedMutation.applied
      cases m.commit.receipt.outcome with
      | applied result => simp
      | noChange reasonId => simp
      | rejected reasonId => simp
    show l.store.cleanupPolicyRevision + m.commit.stateChanged.toNat = _
    rw [List.countP_append, List.countP_singleton, happlied, h.revision]
    cases m.commit.stateChanged <;> rfl

/-- **One more step.** -/
theorem Kept.step {step : LedgerStep} (h : l.Kept) (hfresh : l.DrawsFresh step) :
    (l.step step).Kept := by
  cases step with
  | reopen => exact h
  | perform op =>
      show (⟨l.store.committed op, l.drawn ++ l.store.drawnBy op,
        l.committed ++ l.store.newlyCommitted op⟩ : Ledger).Kept
      rcases Store.committed_cases l.store op with ⟨s', hok, heq⟩ | ⟨e, herr, heq⟩
      · have hreachable := h.reachable.perform op hok
        have heffect := Store.perform_effect h.reachable.sound.oneOpen hok
        rw [heq]
        cases hop : op.answers with
        | false =>
            obtain ⟨hnone, hnodraw⟩ := Store.newlyCommitted_of_not_answers (s := l.store) hop
            obtain ⟨hreceipts, htoken, hrevision⟩ := heffect.authority hop
            rw [hnone, hnodraw, List.append_nil, List.append_nil]
            exact h.frame hreachable hreceipts htoken hrevision
        | true =>
            cases op with
            | commitPublicOrdinaryMutation context mutation runtime at_ =>
                obtain ⟨⟨store, commit⟩, hcommit, rfl⟩ := map_eq_ok.1 hok
                rcases Store.commitPublicOrdinaryMutation_cases hcommit with
                  ⟨row, -, -, rfl, rfl⟩ | ⟨m, hm, rfl, rfl⟩
                · have hnone : l.store.newlyCommitted
                      (.commitPublicOrdinaryMutation context mutation runtime at_) = [] := by
                    simp [Store.newlyCommitted, hcommit]
                  rw [hnone]
                  simp only [Store.drawnBy, List.append_nil]
                  exact h
                · have hone : l.store.newlyCommitted
                      (.commitPublicOrdinaryMutation context mutation runtime at_)
                        = [⟨context, mutation, m.commit.receipt⟩] := by
                    simp [Store.newlyCommitted, hcommit, hm.fresh]
                  rw [hone]
                  simp only [Store.drawnBy, List.append_nil]
                  exact h.mutated hm hreachable
            | prune now policy fresh =>
                obtain ⟨⟨store, result⟩, hprune, rfl⟩ := map_eq_ok.1 hok
                obtain ⟨p, hp, rfl⟩ := Store.prune_prunes hprune
                simp only [Store.newlyCommitted, List.append_nil]
                exact h.pruned hprune hp hfresh
            | _ => cases hop
      · obtain ⟨hnone, hnodraw⟩ := Store.newlyCommitted_of_error herr
        rw [heq, hnone, hnodraw, List.append_nil, List.append_nil]
        exact h

/-! ## Every run -/

/-- What the invariant says of calls. -/
theorem Kept.atMostOnce (h : l.Kept) : l.AtMostOnce where
  once := h.once
  otherwise := by
    intro context mutation runtime at_ store commit hok hnot
    rcases Store.commitPublicOrdinaryMutation_cases hok with ⟨row, -, -, heq, -⟩ | ⟨m, hm, rfl, -⟩
    · exact heq
    · rw [hm.fresh] at hnot
      cases hnot
  replays := by
    intro c hc hretains runtime at_ hrange
    obtain ⟨htoken, hid, hkind, htime⟩ := h.answers c hc
    have hreplay : Store.replayReceipt ⟨c.mutation, c.receipt⟩ c.context c.mutation
        = .ok ⟨c.receipt, false, false⟩ := by
      simp only [Store.replayReceipt, bind_eq_ok, require_eq_ok, exists_const, pure_eq_ok]
      exact ⟨trivial, ⟨htoken, hid, hkind, htime⟩, trivial⟩
    have hrow : l.store.mutationReceipts.lookup (Store.receiptKey c.context)
        = some ⟨c.mutation, c.receipt⟩ := hretains
    rw [Store.commit_inRange hrange, hrow]
    simp only [hreplay]
    rfl
  conflicts := by
    intro c hc hretains mutation runtime at_ hrange hne
    have hrow : l.store.mutationReceipts.lookup (Store.receiptKey c.context)
        = some ⟨c.mutation, c.receipt⟩ := hretains
    refine ⟨"mutation ID was already committed for a different canonical request", ?_⟩
    rw [Store.commit_inRange hrange, hrow]
    simp only [Store.replayReceipt, require, if_neg hne.symm, error_bind]
    rfl
  refuses := by
    intro c hc hgone mutation runtime at_ hrange
    have hold : l.store.namespaceToken.value ≠ c.context.namespaceToken :=
      fun hname => hgone (h.retained c hc hname.symm)
    have hnone : l.store.mutationReceipts.lookup (Store.receiptKey c.context) = none := by
      cases hrow : l.store.mutationReceipts.lookup (Store.receiptKey c.context) with
      | none => rfl
      | some row =>
          -- a receipt under this name is the request's own
          obtain ⟨d, hd, hkey, rfl⟩ := h.stored _ row hrow
          have hsame : d = c := List.inj_on_of_nodup_map h.once hd hc hkey
          exact absurd (hsame ▸ hrow) hgone
    refine ⟨"request namespace is no longer current and has no retained receipt", ?_⟩
    rw [Store.commit_inRange hrange, hnone]
    simp only [Store.commitFresh, require, if_neg hold, error_bind]
  outOfRange := fun _ _ _ _ hrange => Store.commit_outOfRange hrange
  revision := h.revision

/-- **Each request is carried out at most once**, in every run in which
every token that is drawn is new. -/
theorem mutations_once (token : NamespaceToken) (steps : List LedgerStep)
    (hfresh : Transition.Along step DrawsFresh (start token) steps) (n : Nat) :
    (ran token (steps.take n)).AtMostOnce := by
  have hkept : (ran token (steps.take n)).Kept :=
    (hfresh.take n).invariant (fun _ _ hl hok => hl.step hok) (start_kept token)
  exact hkept.atMostOnce

/-- A request of the owner under the first namespace. -/
def sampleContext : MutationContext :=
  ⟨Store.sampleToken.value, "00000000-0000-4000-8000-000000000001"⟩

/-- The owner pauses, and repeats the request after a reopening; two weeks
later the receipt is pruned and another token drawn. -/
def sampleSteps : List LedgerStep :=
  [.perform (.commitPublicOrdinaryMutation sampleContext (.pause 1000) {} 10),
    .reopen,
    .perform (.commitPublicOrdinaryMutation sampleContext (.pause 1000) {} 20),
    .perform (.prune (15 * 24 * 60 * 60 * 1000) {} ⟨"00000000000000000000000000000000", by decide⟩)]

theorem mutations_once_sample :
    Transition.Along step DrawsFresh (start Store.sampleToken) sampleSteps ∧
    (ran Store.sampleToken (sampleSteps.take 4)).AtMostOnce ∧
    (ran Store.sampleToken sampleSteps).committed.length = 1 ∧
    (ran Store.sampleToken sampleSteps).drawn.length = 2 :=
  ⟨by decide +kernel, mutations_once _ _ (by decide +kernel) 4, by decide +kernel, by decide +kernel⟩

/-- A repeated request whose own time does not fit a column is told of that
and not of its receipt. -/
theorem replay_outOfRange : ¬ ∀ (token : NamespaceToken) (steps : List LedgerStep),
    Transition.Along step DrawsFresh (start token) steps → ∀ c ∈ (ran token steps).committed,
      (ran token steps).Retains c → ∀ runtime at_,
      (ran token steps).store.commitPublicOrdinaryMutation c.context c.mutation runtime at_
        = .ok ((ran token steps).store, ⟨c.receipt, false, false⟩) := by
  intro hall
  have hone : (ran Store.sampleToken (sampleSteps.take 1)).committed
      = [⟨sampleContext, .pause 1000, ⟨Store.sampleToken.value, sampleContext.mutationId, .pause, 10,
        10 + mutationReconciliationWindowMillis, 2, .applied (.paused 1010)⟩⟩] := by
    decide +kernel
  have hok := hall Store.sampleToken (sampleSteps.take 1) (by decide +kernel) _
    (by rw [hone]; exact List.mem_singleton.2 rfl) (by unfold Retains; decide +kernel) {} (2 ^ 63)
  have hnot : ¬ inRange (2 ^ 63) := by
    unfold inRange
    omega
  have hrange : ∃ message,
      (ran Store.sampleToken (sampleSteps.take 1)).store.commitPublicOrdinaryMutation
        sampleContext (.pause 1000) {} (2 ^ 63) = .error (.range message) :=
    Store.commit_outOfRange hnot
  obtain ⟨message, herror⟩ := hrange
  rw [herror] at hok
  cases hok

end Ledger

end Unlinger
