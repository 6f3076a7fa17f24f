import Unlinger.Core.Helpers.Execute
import Unlinger.Daemon.Helpers.References

/-!
# What retention never takes

A pruning deletes history: old observations, impacts and cleanup events,
cooling candidates and receipts, and in the end the attempts nothing is
left of. Whatever keeps the daemon from acting is not history. Blocks,
protections, the pause, the open attempt with its actions, and the actions
of a blocked attempt stay, so what blocked enforcement before blocks it
afterwards.
-/

namespace Unlinger

namespace Store

variable {s s' : Store} {now : Nat} {policy : RetentionPolicy} {fresh : NamespaceToken}
  {result : PruneResult} {p : Pruned}

/-! ## The property -/

/-- **Every record of safety is as it was.** -/
structure KeepsSafety (s s' : Store) : Prop where
  blocked : ∀ incidentId, s'.cleanupBlocked incidentId = s.cleanupBlocked incidentId
  isProtected : ∀ report, s'.isIncidentProtected report = s.isIncidentProtected report
  persistentBlocker : s'.persistentEnforcementBlocker = s.persistentEnforcementBlocker
  armBlocker : s'.managedArmBlocker = s.managedArmBlocker
  openAttempts : ∀ i a, a.ended = none → (s'.attempts.get i = some a ↔ s.attempts.get i = some a)
  openActions : ∀ i a, s.attempts.get i = some a → a.ended = none →
    SameRows s.actions s'.actions i ∧ SameRows s.artifactActions s'.artifactActions i
  lifecycle : s'.managedLifecycle = s.managedLifecycle
  pause : s'.pauseUntil = s.pauseUntil
  totals : s'.impactAuthority = s.impactAuthority
  revision : s'.cleanupPolicyRevision = s.cleanupPolicyRevision
  referenced : ∀ id m e, s'.impacts.get id = some m → s.events.get m.eventId = some e →
    e.payload.isCleanup = true → s'.events.get m.eventId = some e

/-- **A pruning is safe**: it fails only on a number that does not fit; it
keeps every record of safety; and it is a sequence of statements after each
of which every foreign key finds its row. -/
structure PrunesSafely (s : Store) (now : Nat) (policy : RetentionPolicy)
    (fresh : NamespaceToken) : Prop where
  fails : ∀ e, s.prune now policy fresh = .error e → ∃ message, e = .range message
  keeps : ∀ s' result, s.prune now policy fresh = .ok (s', result) → KeepsSafety s s'
  statements : ∀ s' result, s.prune now policy fresh = .ok (s', result) →
    s' = s.executed (pruneStatements now (now - policy.maxAgeMillis)
      (now - max policy.maxAgeMillis cleanupDetailRetentionMillis) policy.maxEvents fresh)
  references : ∀ n, (s.executed ((pruneStatements now (now - policy.maxAgeMillis)
    (now - max policy.maxAgeMillis cleanupDetailRetentionMillis) policy.maxEvents fresh).take
      n)).Referential

/-! ## Rows that stay -/

theorem endedWith_congr {ι δ : Type} [DecidableEq δ] {old new : Table (JournalRow ι δ)} {i : Nat}
    (h : SameRows old new i) (d : δ) : endedWith new i d = endedWith old i d := by
  rw [Bool.eq_iff_iff]
  simp only [endedWith, List.any_eq_true, Bool.and_eq_true, beq_iff_eq, Prod.exists]
  constructor
  · rintro ⟨id, r, hr, hid, hd⟩
    exact ⟨id, r, Table.mem_entries.2 ((h id r hid).1 (Table.mem_entries.1 hr)), hid, hd⟩
  · rintro ⟨id, r, hr, hid, hd⟩
    exact ⟨id, r, Table.mem_entries.2 ((h id r hid).2 (Table.mem_entries.1 hr)), hid, hd⟩

/-- The attempt of a retry block is never forgotten. -/
theorem withPruned_blockRows {k : String} {b : RetryBlock}
    (hb : s.retryBlocks.lookup k = some b) :
    SameRows s.actions (s.withPruned p).actions b.sourceAttemptId ∧
      SameRows s.artifactActions (s.withPruned p).artifactActions b.sourceAttemptId := by
  refine withPruned_sameRows fun a _ => ?_
  exact not_forgotten (Or.inr (Or.inl ⟨k, b, hb, rfl⟩))

theorem withPruned_blockedWith (d : SignalDisposition) (d' : ArtifactDisposition) :
    (s.withPruned p).blockedWith d d' = s.blockedWith d d' := by
  have hentry : ∀ e ∈ s.retryBlocks.entries,
      (endedWith (s.withPruned p).actions e.2.sourceAttemptId d
        || endedWith (s.withPruned p).artifactActions e.2.sourceAttemptId d') =
      (endedWith s.actions e.2.sourceAttemptId d
        || endedWith s.artifactActions e.2.sourceAttemptId d') := by
    intro e he
    obtain ⟨hact, hart⟩ := withPruned_blockRows (p := p) (OrdMap.lookup_eq_some.2 he)
    rw [endedWith_congr hact, endedWith_congr hart]
  unfold blockedWith
  rw [Bool.eq_iff_iff, List.any_eq_true, List.any_eq_true]
  constructor
  · rintro ⟨e, he, hended⟩
    exact ⟨e, he, by rw [← hentry e he]; exact hended⟩
  · rintro ⟨e, he, hended⟩
    exact ⟨e, he, by rw [hentry e he]; exact hended⟩

/-- The open attempts stay, and only they are open. -/
theorem withPruned_open {i : Nat} {a : CleanupAttempt} (hopen : a.ended = none) :
    (s.withPruned p).attempts.get i = some a ↔ s.attempts.get i = some a := by
  constructor
  · exact fun ha => get_of_filter ha
  · intro ha
    refine get_filter_of ha ?_
    simp [forgotten, hopen]

theorem withPruned_openAttempts : (s.withPruned p).openAttempts.isEmpty = s.openAttempts.isEmpty := by
  rw [Bool.eq_iff_iff, List.isEmpty_iff, List.isEmpty_iff, openAttempts_nil_iff,
    openAttempts_nil_iff]
  constructor
  · intro h i a ha hopen
    exact h i a ((withPruned_open hopen).2 ha) hopen
  · intro h i a ha hopen
    exact h i a ((withPruned_open hopen).1 ha) hopen

theorem withPruned_persistentBlocker :
    (s.withPruned p).persistentEnforcementBlocker = s.persistentEnforcementBlocker := by
  unfold persistentEnforcementBlocker
  rw [withPruned_blockedWith, withPruned_blockedWith]

/-! ## Every pruning -/

theorem Prunes.keepsSafety (h : s.Prunes now policy fresh p) : KeepsSafety s (s.withPruned p) where
  blocked := fun _ => rfl
  isProtected := fun _ => rfl
  persistentBlocker := withPruned_persistentBlocker
  armBlocker := by
    unfold managedArmBlocker
    rw [withPruned_openAttempts, withPruned_persistentBlocker]
  openAttempts := fun _ _ hopen => withPruned_open hopen
  openActions := by
    intro i a ha hopen
    refine withPruned_sameRows fun b hb => ?_
    obtain rfl := Option.some.inj (ha.symm.trans hb)
    simp [forgotten, hopen]
  lifecycle := rfl
  pause := rfl
  totals := rfl
  revision := rfl
  referenced := by
    intro id m e hm he hcleanup
    exact h.cleanups m.eventId e he hcleanup (Or.inr ⟨id, m, hm, rfl⟩)

/-- A number that does not fit is the only failure. -/
theorem sqliteMillis_fails {value : Nat} {label : String} {e : StoreError}
    (h : sqliteMillis value label = .error e) : ∃ message, e = .range message := by
  unfold sqliteMillis at h
  split_ifs at h
  exact ⟨_, (Except.error.inj h).symm⟩

theorem prune_fails {e : StoreError} (h : s.prune now policy fresh = .error e) :
    ∃ message, e = .range message := by
  simp only [prune, bind_eq_error, pure_eq_error, and_false, exists_false, or_false] at h
  rcases h with h | ⟨_, -, h | ⟨_, -, h | ⟨_, -, h⟩⟩⟩
  all_goals exact sqliteMillis_fails h

/-- **Retention takes no record of safety**: of every store the operations
lead to, at every time and under every policy. -/
theorem prune_safe (h : s.Reachable) (now : Nat) (policy : RetentionPolicy)
    (fresh : NamespaceToken) : s.PrunesSafely now policy fresh where
  fails := fun _ he => prune_fails he
  keeps := by
    intro s' result hok
    obtain ⟨p, hp, rfl⟩ := prune_prunes hok
    exact hp.keepsSafety
  statements := fun _ _ hok => prune_ok hok
  references := fun n => (h.linked.statements _ _ _ _ _ n).toReferential

/-- A cleanup sent a signal and was interrupted; its incident is blocked. -/
def blockedStore : Store :=
  built [.beginCleanupAttempt 10 sampleReport "epoch",
    .prepareCleanupAction ⟨1, "incident"⟩ 0 12 ⟨.primaryTerm, 101, "browser", .term⟩,
    .completeCleanupAction ⟨1, 1, 0⟩ 13 .delivered,
    .recoverIncompleteAttempts 20]

/-- A year later the cleanup's event is pruned, and the block still keeps
enforcement off. -/
theorem prune_safe_blocked : blockedStore.Reachable ∧
    blockedStore.persistentEnforcementBlocker.isSome = true ∧
    blockedStore.PrunesSafely (365 * 24 * 60 * 60 * 1000) {} sampleToken :=
  ⟨built_reachable, by decide +kernel, prune_safe built_reachable _ _ _⟩

end Store

end Unlinger
