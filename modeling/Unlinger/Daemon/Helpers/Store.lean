import Unlinger.Daemon.Helpers.Effect

/-!
# What every store keeps to

The invariant of the store over all its operations: one attempt is open at
most, what is prepared and not completed belongs to it, its incident is not
blocked and it has no impact yet. What leaves the journal alone is one frame
lemma; the journal's own operations are proved from what they do.
-/

namespace Unlinger

namespace Store

variable {s s' : Store} {t : Nat}

/-! ## The invariant -/

/-- **The invariant of the store.** -/
structure Sound (s : Store) : Prop where
  oneOpen : ∀ i j a b, s.attempts.get i = some a → s.attempts.get j = some b →
    a.ended = none → b.ended = none → i = j
  pending : ∀ id r, s.actions.get id = some r → r.completed = none →
    ∃ a, s.attempts.get r.attemptId = some a ∧ a.ended = none
  pendingArtifacts : ∀ id r, s.artifactActions.get id = some r → r.completed = none →
    ∃ a, s.attempts.get r.attemptId = some a ∧ a.ended = none
  fingerprints : ∀ id r, s.artifactActions.get id = some r →
    validArtifactFingerprint r.intent.artifactFingerprint = true
  unblocked : ∀ i a, s.attempts.get i = some a → a.ended = none →
    s.retryBlocks.lookup a.incidentId = none
  unsettled : ∀ id m, s.impacts.get id = some m →
    m.attemptId ≤ s.attempts.lastId ∧ m.eventId ≤ s.events.lastId ∧
      ∀ a, s.attempts.get m.attemptId = some a → a.ended ≠ none

theorem empty_sound {token : NamespaceToken} : (Store.empty token).Sound := by
  constructor <;> simp [Store.empty]

/-! ## Operations that leave the journal alone -/

/-- Nothing of the journal changed, no incident was blocked, and no event's
number was taken back. -/
structure Frame (s s' : Store) : Prop where
  attempts : s'.attempts = s.attempts
  actions : s'.actions = s.actions
  artifactActions : s'.artifactActions = s.artifactActions
  impacts : s'.impacts = s.impacts
  events : s.events.lastId ≤ s'.events.lastId
  blocks : ∀ i, s.retryBlocks.lookup i = none → s'.retryBlocks.lookup i = none

theorem Sound.frame (hs : s.Sound) (h : Frame s s') : s'.Sound := by
  obtain ⟨hatt, hact, hart, himp, hev, hbl⟩ := h
  constructor
  · rw [hatt]
    exact hs.oneOpen
  · rw [hact, hatt]
    exact hs.pending
  · rw [hart, hatt]
    exact hs.pendingArtifacts
  · rw [hart]
    exact hs.fingerprints
  · rw [hatt]
    exact fun i a ha hopen => hbl _ (hs.unblocked i a ha hopen)
  · rw [himp, hatt]
    intro id m hm
    obtain ⟨h₁, h₂, h₃⟩ := hs.unsettled id m hm
    exact ⟨h₁, le_trans h₂ hev, h₃⟩

theorem lookup_erase_none {m : OrdMap String RetryBlock} {i k : String} (h : m.lookup i = none) :
    (m.erase k).lookup i = none := by
  rw [OrdMap.lookup_erase]
  split_ifs
  · rfl
  · exact h

theorem lookup_rewrite_none {ε : Type} {old new : OrdMap String RetryBlock}
    {f : String → RetryBlock → Except ε (Option RetryBlock)} (h : old.rewrite f = .ok new)
    {i : String} (hi : old.lookup i = none) : new.lookup i = none := by
  refine Option.eq_none_iff_forall_ne_some.2 fun b hb => ?_
  obtain ⟨w, hw, -⟩ := (OrdMap.lookup_rewrite h).1 hb
  rw [hi] at hw
  cases hw

theorem reconcileRetryBlocks_frame {view : CycleView} {retention : Nat} {counts : Reconciliation}
    (h : s.reconcileRetryBlocks view t retention = .ok (s', counts)) : Frame s s' := by
  simp only [reconcileRetryBlocks, bind_eq_ok, pure_eq_ok] at h
  obtain ⟨_, -, _, -, _, -, blocks, hblocks, heq⟩ := h
  obtain ⟨rfl, -⟩ := Prod.mk.inj heq
  exact ⟨rfl, rfl, rfl, rfl, le_rfl, fun _ hi => lookup_rewrite_none hblocks hi⟩

/-- A mutation blocks no incident. -/
theorem Applies.blocks {mutation : OrdinaryMutation} {changed : Bool} {pause : Option Nat}
    {blocks : OrdMap String RetryBlock} {cooling : OrdMap String CoolingCandidate}
    {protections : OrdMap String IncidentProtection}
    (h : s.Applies t mutation changed pause blocks cooling protections) {i : String}
    (hi : s.retryBlocks.lookup i = none) : blocks.lookup i = none := by
  cases h with
  | retried hblock => exact lookup_erase_none hi
  | nothing => exact hi
  | paused => exact hi
  | resumed => exact hi
  | isProtected hnone hrow => exact hi
  | unprotected => exact hi

/-- **What a public mutation does**: a request that has a receipt gets it
again and changes nothing; another is of the current namespace, and its
receipt carries the durable revision it left. -/
theorem commitPublicOrdinaryMutation_ok {context : MutationContext} {mutation : OrdinaryMutation}
    {runtime : RuntimePolicyFacts} {commit : MutationCommit}
    (h : s.commitPublicOrdinaryMutation context mutation runtime t = .ok (s', commit)) :
    (∃ row, s.mutationReceipts.lookup (toLex (context.namespaceToken, context.mutationId)) = some row ∧
      row.command = mutation ∧ s' = s ∧ commit = ⟨row.receipt, false, false⟩) ∨
    (s.mutationReceipts.lookup (toLex (context.namespaceToken, context.mutationId)) = none ∧
      s.namespaceToken.value = context.namespaceToken ∧
      commit.receipt.policyRevisionAfter = s.cleanupPolicyRevision + commit.stateChanged.toNat) := by
  rcases commitPublicOrdinaryMutation_cases h with hreplay | ⟨m, hm, rfl, rfl⟩
  · exact Or.inl hreplay
  · exact Or.inr ⟨hm.unanswered, hm.token, hm.revision⟩

/-! ## The journal -/

theorem Sound.begin {report : IncidentReport} {a : CleanupAttempt} {e : EventRow} (hs : s.Sound)
    (h : s.Begins t report a e) :
    ({ s with attempts := s.attempts.insert a, events := s.events.insert e } : Store).Sound := by
  have hopen := openAttempts_nil_iff.1 h.noneOpen
  -- the new attempt is the only open one
  have hnew : ∀ {i b}, (s.attempts.insert a).get i = some b → b.ended = none →
      i = s.attempts.nextId ∧ b = a := by
    intro i b hi hnone
    rw [Table.get_insert] at hi
    split_ifs at hi with hid
    · exact ⟨hid, (Option.some.inj hi).symm⟩
    · exact absurd hnone (hopen i b hi)
  constructor
  · intro i j b c hb hc hbe hce
    exact (hnew hb hbe).1.trans (hnew hc hce).1.symm
  · intro id r hr hc
    obtain ⟨b, hb, hbe⟩ := hs.pending id r hr hc
    exact absurd hbe (hopen _ b hb)
  · intro id r hr hc
    obtain ⟨b, hb, hbe⟩ := hs.pendingArtifacts id r hr hc
    exact absurd hbe (hopen _ b hb)
  · exact hs.fingerprints
  · intro i b hb hbe
    obtain ⟨-, rfl⟩ := hnew hb hbe
    show s.retryBlocks.lookup _ = none
    rw [h.incident]
    exact h.unblocked
  · intro id m hm
    obtain ⟨h₁, h₂, h₃⟩ := hs.unsettled id m hm
    refine ⟨Nat.le_succ_of_le h₁, Nat.le_succ_of_le h₂, fun b hb => ?_⟩
    have hold : (s.attempts.insert a).get m.attemptId = some b := hb
    rw [Table.get_insert, if_neg (by rw [Table.nextId]; omega)] at hold
    exact h₃ b hold

/-- New rows of signal actions keep the invariant where what is prepared
has an open attempt. -/
theorem Sound.withActions {actions : Table ActionRow} (hs : s.Sound)
    (h : ∀ id r, actions.get id = some r → r.completed = none →
      ∃ a, s.attempts.get r.attemptId = some a ∧ a.ended = none) :
    ({ s with actions := actions } : Store).Sound :=
  ⟨hs.oneOpen, h, hs.pendingArtifacts, hs.fingerprints, hs.unblocked, hs.unsettled⟩

/-- New rows of artifact actions likewise, with valid fingerprints. -/
theorem Sound.withArtifactActions {rows : Table ArtifactActionRow} (hs : s.Sound)
    (h : ∀ id r, rows.get id = some r →
      validArtifactFingerprint r.intent.artifactFingerprint = true ∧ (r.completed = none →
        ∃ a, s.attempts.get r.attemptId = some a ∧ a.ended = none)) :
    ({ s with artifactActions := rows } : Store).Sound :=
  ⟨hs.oneOpen, hs.pending, fun id r hr => (h id r hr).2, fun id r hr => (h id r hr).1,
    hs.unblocked, hs.unsettled⟩

theorem Sound.prepareAction {attemptId : Nat} {new : ActionRow} (hs : s.Sound)
    (h : s.Prepares attemptId new) :
    ({ s with actions := s.actions.insert new } : Store).Sound := by
  refine hs.withActions fun id r hr hc => ?_
  rw [Table.get_insert] at hr
  split_ifs at hr with hnew
  · obtain rfl := Option.some.inj hr
    rw [h.attempt]
    exact h.opened
  · exact hs.pending id r hr hc

theorem Sound.prepareArtifactAction {attemptId : Nat} {new : ArtifactActionRow} (hs : s.Sound)
    (h : s.Prepares attemptId new)
    (hvalid : validArtifactFingerprint new.intent.artifactFingerprint = true) :
    ({ s with artifactActions := s.artifactActions.insert new } : Store).Sound := by
  refine hs.withArtifactActions fun id r hr => ?_
  rw [Table.get_insert] at hr
  split_ifs at hr with hnew
  · obtain rfl := Option.some.inj hr
    rw [h.attempt]
    exact ⟨hvalid, fun _ => h.opened⟩
  · exact ⟨hs.fingerprints id r hr, hs.pendingArtifacts id r hr⟩

theorem Sound.completeActions {rows : Table ActionRow} (hs : s.Sound)
    (h : Completes s.actions rows) : ({ s with actions := rows } : Store).Sound := by
  refine hs.withActions fun id r hr hc => ?_
  obtain ⟨old, hold, hid, -, hpending, -⟩ := h.get id r hr
  rw [hid]
  exact hs.pending id old hold (hpending hc)

theorem Sound.completeArtifactActions {rows : Table ArtifactActionRow} (hs : s.Sound)
    (h : Completes s.artifactActions rows) :
    ({ s with artifactActions := rows } : Store).Sound := by
  refine hs.withArtifactActions fun id r hr => ?_
  obtain ⟨old, hold, hid, hintent, hpending, -⟩ := h.get id r hr
  rw [hid, hintent]
  exact ⟨hs.fingerprints id old hold, fun hc => hs.pendingArtifacts id old hold (hpending hc)⟩

/-- Settling an attempt that prepared nothing more keeps the invariant. -/
theorem Sound.settle {attemptId : Nat} {trackingKey : String} {receipt : CleanupReceipt}
    {a : CleanupAttempt} {rows : SettledRows} (hs : s.Sound)
    (h : s.Settles attemptId a t receipt rows) :
    (s.withSettled attemptId trackingKey t receipt rows).Sound := by
  obtain ⟨ha, hopen, -, ⟨hact, hart⟩, -, hsettled⟩ := h
  have hfin := hsettled.finished
  -- no attempt is open any more: the only one that was has ended
  have hclosed : ∀ i b, rows.attempts.get i = some b → b.ended ≠ none := by
    intro i b hb
    obtain ⟨old, hold, -, hended⟩ := hfin.get i b hb
    rw [hended]
    split_ifs with hif
    · simp
    · intro hnone
      exact hif ⟨hs.oneOpen i attemptId old a hold ha hnone hopen, hnone⟩
  constructor
  · intro i j b c hb _ hbe _
    exact absurd hbe (hclosed i b hb)
  · intro id r hr hc
    obtain ⟨b, hb, hbe⟩ := hs.pending id r hr hc
    exact absurd hc (hact id r hr (hs.oneOpen _ _ b a hb ha hbe hopen))
  · intro id r hr hc
    obtain ⟨b, hb, hbe⟩ := hs.pendingArtifacts id r hr hc
    exact absurd hc (hart id r hr (hs.oneOpen _ _ b a hb ha hbe hopen))
  · exact hs.fingerprints
  · intro i b hb hbe
    exact absurd hbe (hclosed i b hb)
  · intro id n hn
    have hn' : (s.impacts.insert rows.impact).get id = some n := hn
    rw [Table.get_insert] at hn'
    have hlast : rows.attempts.lastId = s.attempts.lastId := hfin.lastId
    split_ifs at hn' with hid
    · obtain rfl := Option.some.inj hn'
      refine ⟨?_, ?_, fun b hb => hclosed _ b hb⟩
      · show rows.impact.attemptId ≤ rows.attempts.lastId
        rw [hsettled.impactAttempt, hlast]
        exact s.attempts.bounded attemptId a ha
      · rw [hsettled.impactEvent]
        exact le_rfl
    · obtain ⟨h₁, h₂, -⟩ := hs.unsettled id n hn'
      exact ⟨hlast ▸ h₁, Nat.le_succ_of_le h₂, fun b hb => hclosed _ b hb⟩

/-! ## Pruning -/

/-- Rows were deleted, but none of an open attempt and none of a retry
block. -/
structure Shrinks (s s' : Store) : Prop where
  attempts : ∀ id a, s'.attempts.get id = some a → s.attempts.get id = some a
  openAttempts : ∀ id a, s.attempts.get id = some a → a.ended = none →
    s'.attempts.get id = some a
  actions : ∀ id r, s'.actions.get id = some r → s.actions.get id = some r
  artifactActions : ∀ id r, s'.artifactActions.get id = some r → s.artifactActions.get id = some r
  impacts : ∀ id m, s'.impacts.get id = some m → s.impacts.get id = some m
  blocks : s'.retryBlocks = s.retryBlocks
  attemptIds : s'.attempts.lastId = s.attempts.lastId
  eventIds : s'.events.lastId = s.events.lastId

theorem Shrinks.trans {s'' : Store} (h : Shrinks s s') (h' : Shrinks s' s'') : Shrinks s s'' :=
  ⟨fun id a ha => h.attempts id a (h'.attempts id a ha),
    fun id a ha hopen => h'.openAttempts id a (h.openAttempts id a ha hopen) hopen,
    fun id r hr => h.actions id r (h'.actions id r hr),
    fun id r hr => h.artifactActions id r (h'.artifactActions id r hr),
    fun id m hm => h.impacts id m (h'.impacts id m hm),
    h'.blocks.trans h.blocks, h'.attemptIds.trans h.attemptIds, h'.eventIds.trans h.eventIds⟩

theorem Sound.shrink (hs : s.Sound) (h : Shrinks s s') : s'.Sound := by
  constructor
  · intro i j a b ha hb hae hbe
    exact hs.oneOpen i j a b (h.attempts i a ha) (h.attempts j b hb) hae hbe
  · intro id r hr hc
    obtain ⟨a, ha, hae⟩ := hs.pending id r (h.actions id r hr) hc
    exact ⟨a, h.openAttempts _ a ha hae, hae⟩
  · intro id r hr hc
    obtain ⟨a, ha, hae⟩ := hs.pendingArtifacts id r (h.artifactActions id r hr) hc
    exact ⟨a, h.openAttempts _ a ha hae, hae⟩
  · intro id r hr
    exact hs.fingerprints id r (h.artifactActions id r hr)
  · intro i a ha hae
    rw [h.blocks]
    exact hs.unblocked i a (h.attempts i a ha) hae
  · intro id m hm
    obtain ⟨h₁, h₂, h₃⟩ := hs.unsettled id m (h.impacts id m hm)
    exact ⟨h.attemptIds ▸ h₁, h.eventIds ▸ h₂, fun a ha => h₃ a (h.attempts _ a ha)⟩

theorem pruneAttempts_shrinks : Shrinks s s.pruneAttempts := by
  refine ⟨fun _ _ ha => get_of_filter ha, fun id a ha hopen => ?_, fun _ _ hr => get_of_filter hr,
    fun _ _ hr => get_of_filter hr, fun _ _ hm => hm, rfl, rfl, rfl⟩
  -- an open attempt is not forgotten
  have hkeep : s.forgotten id a = false := by simp [forgotten, hopen]
  show (s.attempts.filter _).get id = some a
  rw [Table.get_filter, ha]
  simp [hkeep]

theorem prune_shrinks {policy : RetentionPolicy} {fresh : NamespaceToken} {p : Pruned}
    (h : s.Prunes t policy fresh p) : Shrinks s (s.withPruned p) := by
  have htables : Shrinks s ({ s with
      events := p.events
      impacts := p.impacts
      coolingCandidates := p.cooling
      mutationReceipts := p.receipts
      namespaceToken := p.token } : Store) :=
    ⟨fun _ _ ha => ha, fun _ _ ha _ => ha, fun _ _ hr => hr, fun _ _ hr => hr,
      fun id m hm => ((h.impacts id m).1 hm).1, rfl, rfl, h.eventIds⟩
  exact htables.trans pruneAttempts_shrinks

/-! ## Recovery -/

/-- The store after the prepared actions of an attempt were completed as
unknown. -/
theorem Sound.unknownCompleted {actions : Table ActionRow} {artifacts : Table ArtifactActionRow}
    {attemptId : Nat} (hs : s.Sound) (h : s.Uncertain attemptId t actions artifacts) :
    ({ s with actions := actions, artifactActions := artifacts } : Store).Sound := by
  have hfirst : ({ s with actions := actions } : Store).Sound :=
    hs.completeActions (completeUnknown_completes h.actions_ok)
  exact hfirst.completeArtifactActions (completeUnknown_completes h.artifactActions_ok)

/-! ## Every operation -/

/-- What an operation does keeps the invariant. -/
theorem Sound.effect {op : StoreOp} (hs : s.Sound) (h : s.Effect op s') : s'.Sound := by
  -- a record update that leaves the journal alone is a frame by computation
  have hframe : ∀ {s' : Store}, s'.attempts = s.attempts → s'.actions = s.actions →
      s'.artifactActions = s.artifactActions → s'.impacts = s.impacts →
      s'.events = s.events → s'.retryBlocks = s.retryBlocks → s'.Sound := by
    intro s' h₁ h₂ h₃ h₄ h₅ h₆
    exact hs.frame ⟨h₁, h₂, h₃, h₄, by rw [h₅], fun i hi => by rw [h₆]; exact hi⟩
  cases h with
  | same => exact hs
  | observed h => exact hs.frame ⟨rfl, rfl, rfl, rfl, h.lastId, fun _ hi => hi⟩
  | began h => exact hs.begin h
  | prepared h => exact hs.prepareAction h
  | completedAction h => exact hs.completeActions h
  | preparedArtifact h hvalid => exact hs.prepareArtifactAction h hvalid
  | completedArtifact h => exact hs.completeArtifactActions h
  | completed h => exact hs.settle h
  | recovered hone huncertain hstate h => exact (hs.unknownCompleted huncertain).settle h
  | retried h => exact hs.frame ⟨rfl, rfl, rfl, rfl, le_rfl, fun _ hi => lookup_erase_none hi⟩
  | isProtected h => exact hframe rfl rfl rfl rfl rfl rfl
  | unprotected => exact hframe rfl rfl rfl rfl rfl rfl
  | reconciledBlocks h => exact hs.frame (reconcileRetryBlocks_frame h)
  | reconciledProtections h => exact hframe rfl rfl rfl rfl rfl rfl
  | paused => exact hframe rfl rfl rfl rfl rfl rfl
  | mutated h => exact hs.frame ⟨rfl, rfl, rfl, rfl, le_rfl, fun _ hi => h.applies.blocks hi⟩
  | cooled h => exact hframe rfl rfl rfl rfl rfl rfl
  | retained => exact hframe rfl rfl rfl rfl rfl rfl
  | pruned hok h => exact hs.shrink (prune_shrinks h)
  | managed hmoves hstored hcooling => exact hframe rfl rfl rfl rfl rfl rfl

/-- **Every operation keeps the invariant.** -/
theorem Sound.perform {op : StoreOp} (hs : s.Sound) (h : s.perform op = .ok s') : s'.Sound :=
  hs.effect (perform_effect hs.oneOpen h)

/-- **Every reachable store keeps the invariant.** -/
theorem Reachable.sound (h : s.Reachable) : s.Sound := by
  induction h with
  | empty token => exact empty_sound
  | perform op _ hop ih => exact ih.perform hop

/-- Operations lead from a reachable store to a reachable one. -/
theorem Reachable.run {ops : List StoreOp} (h : s.Reachable) (hrun : s.run ops = .ok s') :
    s'.Reachable :=
  foldlM_invariant (fun _ op _ hc hop => hc.perform op hop) h hrun

/-- An operation succeeds, or changes nothing. -/
theorem committed_cases (s : Store) (op : StoreOp) :
    (∃ s', s.perform op = .ok s' ∧ s.committed op = s') ∨
      ∃ e, s.perform op = .error e ∧ s.committed op = s := by
  unfold committed
  cases h : s.perform op with
  | ok s' => exact Or.inl ⟨s', rfl, rfl⟩
  | error e => exact Or.inr ⟨e, rfl, rfl⟩

theorem ran_concat {token : NamespaceToken} {ops : List StoreOp} {op : StoreOp} :
    ran token (ops ++ [op]) = (ran token ops).committed op := by
  unfold ran
  rw [List.foldl_append, List.foldl_cons, List.foldl_nil]

/-- Every run leads to a reachable store. -/
theorem ran_reachable {token : NamespaceToken} {ops : List StoreOp} :
    (ran token ops).Reachable := by
  induction ops using List.reverseRecOn with
  | nil => exact Reachable.empty token
  | append_singleton ops op ih =>
      rw [ran_concat]
      rcases committed_cases (ran token ops) op with ⟨s', hok, heq⟩ | ⟨e, -, heq⟩
      · rw [heq]
        exact ih.perform op hok
      · rw [heq]
        exact ih

theorem ran_sound {token : NamespaceToken} {ops : List StoreOp} : (ran token ops).Sound :=
  ran_reachable.sound

/-! ## Sample stores -/

/-- A namespace token. -/
def sampleToken : NamespaceToken := ⟨"0123456789abcdef0123456789abcdef", by decide⟩

/-- The store some operations lead to from the empty one. -/
def built (ops : List StoreOp) : Store :=
  ((Store.empty sampleToken).run ops).toOption.getD (.empty sampleToken)

/-- Whatever was built is reachable. -/
theorem built_reachable {ops : List StoreOp} : (built ops).Reachable := by
  unfold built
  cases hrun : (Store.empty sampleToken).run ops with
  | error e => exact Reachable.empty sampleToken
  | ok s => exact (Reachable.empty sampleToken).run hrun

end Store

end Unlinger
