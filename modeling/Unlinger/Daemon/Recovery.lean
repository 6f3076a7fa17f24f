import Unlinger.Core.Helpers.Execute
import Unlinger.Daemon.Helpers.Store

/-!
# Crash recovery

`recover_incomplete_attempts` ends the attempt a crash left open: what it
had prepared is of unknown delivery, and it failed. The rows it writes
carry the recovery's own time, and the schema refuses an end before its
beginning. So recovery settles everything exactly when its time is not
before the start of the open attempt nor before the preparation of what it
completes; a clock that was set back in between makes it fail, and every
later recovery with it, until the clock has caught up.
-/

namespace Unlinger

namespace Store

variable {s s' : Store} {t : Nat} {receipts : List CleanupReceipt}

/-! ## The property and its condition -/

/-- The time is not before anything a recovery would end. -/
structure RecoversInOrder (s : Store) (t : Nat) : Prop where
  attempts : ∀ i a, s.attempts.get i = some a → a.ended = none → a.startedAt ≤ t
  actions : ∀ id r, s.actions.get id = some r → r.completed = none → r.preparedAt ≤ t
  artifactActions : ∀ id r, s.artifactActions.get id = some r → r.completed = none →
    r.preparedAt ≤ t

/-- The attempt is open. -/
def IsOpen (s : Store) (i : Nat) : Prop := ∃ a, s.attempts.get i = some a ∧ a.ended = none

/-- A table keeps its rows and got one more for each open attempt. -/
structure AddsOnePer {ρ : Type} (isOpen : Nat → Prop) (attemptOf : ρ → Option Nat)
    (failed : ρ → Prop) (old new : Table ρ) : Prop where
  keeps : ∀ id r, old.get id = some r → new.get id = some r
  one : ∀ i, isOpen i → ∃! id, old.get id = none ∧ ∃ r, new.get id = some r ∧ attemptOf r = some i
  only : ∀ id r, new.get id = some r → old.get id = none →
    ∃ i, isOpen i ∧ attemptOf r = some i ∧ failed r

/-- Every action of the table has ended: as unknown at `t` where it had
not, and as it had otherwise. -/
structure Resolved {ι δ : Type} (t : Nat) (unknown : δ) (old new : Table (JournalRow ι δ)) : Prop where
  completed : ∀ id r, new.get id = some r → r.completed ≠ none
  resolves : ∀ id r, old.get id = some r → ∃ r', new.get id = some r' ∧ r'.attemptId = r.attemptId ∧
    r'.sequence = r.sequence ∧ r'.intent = r.intent ∧
    r'.completed = some (r.completed.getD (t, unknown))
  noMore : ∀ id, old.get id = none → new.get id = none

/-- **Everything the crash left is settled**, once and for all. -/
structure Settled (s : Store) (t : Nat) (s' : Store) (receipts : List CleanupReceipt) : Prop where
  attempts : ∀ i, ¬ s'.IsOpen i
  actions : Resolved t .deliveryUnknown s.actions s'.actions
  artifactActions : Resolved t .deliveryUnknown s.artifactActions s'.artifactActions
  events : AddsOnePer s.IsOpen EventRow.attemptId (fun e => e.state = .failed) s.events s'.events
  impacts : AddsOnePer s.IsOpen (fun m => some m.attemptId) (fun m => m.state = .failed) s.impacts
    s'.impacts
  blocks : ∀ i a, s.attempts.get i = some a → a.ended = none →
    s.retryBlocks.lookup a.incidentId = none ∧
      ∃ b, s'.retryBlocks.lookup a.incidentId = some b ∧ b.sourceAttemptId = i
  otherBlocks : ∀ k, (∀ i a, s.attempts.get i = some a → a.ended = none → a.incidentId ≠ k) →
    s'.retryBlocks.lookup k = s.retryBlocks.lookup k
  receipts : receipts.map CleanupReceipt.incidentId = s.openAttempts.map fun e => e.2.incidentId
  again : ∀ t' < 2 ^ 63, s'.recoverIncompleteAttempts t' = .ok (s', [])

/-! ## One attempt -/

/-- Whatever signal is pending belongs to the open attempt. -/
theorem Sound.pending_attempt {i : Nat} {a : CleanupAttempt} (hs : s.Sound)
    (ha : s.attempts.get i = some a) (hopen : a.ended = none) :
    ∀ id r, s.actions.get id = some r → r.completed = none → r.attemptId = i := by
  intro id r hr hc
  obtain ⟨b, hb, hbe⟩ := hs.pending id r hr hc
  exact hs.oneOpen _ _ b a hb ha hbe hopen

/-- And whatever removal is. -/
theorem Sound.pendingArtifact_attempt {i : Nat} {a : CleanupAttempt} (hs : s.Sound)
    (ha : s.attempts.get i = some a) (hopen : a.ended = none) :
    ∀ id r, s.artifactActions.get id = some r → r.completed = none → r.attemptId = i := by
  intro id r hr hc
  obtain ⟨b, hb, hbe⟩ := hs.pendingArtifacts id r hr hc
  exact hs.oneOpen _ _ b a hb ha hbe hopen

/-- It is the only one. -/
theorem Sound.isOpen_iff {i : Nat} {a : CleanupAttempt} (hs : s.Sound)
    (ha : s.attempts.get i = some a) (hopen : a.ended = none) (j : Nat) : s.IsOpen j ↔ j = i := by
  constructor
  · rintro ⟨b, hb, hbe⟩
    exact hs.oneOpen _ _ b a hb ha hbe hopen
  · rintro rfl
    exact ⟨a, ha, hopen⟩

theorem mem_rowsOf {ι δ : Type} {rows : Table (JournalRow ι δ)} {i : Nat} {r : JournalRow ι δ}
    (h : r ∈ rowsOf rows i) : ∃ id, rows.get id = some r ∧ r.attemptId = i := by
  simp only [rowsOf, List.mem_insertionSort, List.mem_filter, List.mem_map, Prod.exists,
    beq_iff_eq] at h
  obtain ⟨⟨id, r', hin, rfl⟩, hid⟩ := h
  exact ⟨id, Table.mem_entries.1 hin, hid⟩

theorem actionsForAttempt_fits {i : Nat}
    (h : ∀ id r, s.actions.get id = some r → r.attemptId = i → r.completed ≠ none) :
    ∃ actions, s.actionsForAttempt i = .ok actions := by
  refine mapM_ok_iff.2 fun r hr => ?_
  obtain ⟨id, hget, hid⟩ := mem_rowsOf hr
  cases hc : r.completed with
  | none => exact absurd hc (h id r hget hid)
  | some c => exact ⟨_, rfl⟩

theorem artifactActionsForAttempt_fits {i : Nat}
    (h : ∀ id r, s.artifactActions.get id = some r → r.attemptId = i → r.completed ≠ none)
    (hvalid : ∀ id r, s.artifactActions.get id = some r →
      validArtifactFingerprint r.intent.artifactFingerprint = true) :
    ∃ actions, s.artifactActionsForAttempt i = .ok actions := by
  refine mapM_ok_iff.2 fun r hr => ?_
  obtain ⟨id, hget, hid⟩ := mem_rowsOf hr
  cases hc : r.completed with
  | none => exact absurd hc (h id r hget hid)
  | some c =>
      simp only [hvalid id r hget, if_true]
      exact ⟨_, rfl⟩

/-- What recovering an attempt went through. -/
theorem recoverAttempt_ok {i : Nat} {a : CleanupAttempt} {before : List CleanupReceipt}
    (h : recoverAttempt t (s, before) (i, a) = .ok (s', receipts)) :
    ∃ actions artifacts receipt,
      completeUnknown s.actions "cleanup_actions" i t .deliveryUnknown = .ok actions ∧
      completeUnknown s.artifactActions "cleanup_artifact_actions" i t .deliveryUnknown
        = .ok artifacts ∧
      receipt.incidentId = a.incidentId ∧ receipt.state = .failed ∧
      receipts = before ++ [receipt] ∧
      ({ s with actions := actions, artifactActions := artifacts } : Store).settleAttempt i
        a.trackingKey t receipt = .ok s' := by
  simp only [recoverAttempt, bind_eq_ok, pure_eq_ok] at h
  obtain ⟨actions, hact, artifacts, hart, _, -, _, -, s₂, hsettle, heq⟩ := h
  obtain ⟨rfl, rfl⟩ := Prod.mk.inj heq
  exact ⟨actions, artifacts, _, hact, hart, rfl, rfl, rfl, hsettle⟩

/-- The open attempt is recovered exactly when the time is in order. -/
theorem Sound.recoverAttempt_ok_iff {i : Nat} {a : CleanupAttempt} {before : List CleanupReceipt}
    (hs : s.Sound) (ha : s.attempts.get i = some a) (hopen : a.ended = none) (ht : t < 2 ^ 63) :
    (∃ r, recoverAttempt t (s, before) (i, a) = .ok r) ↔ RecoversInOrder s t := by
  have hpending := hs.pending_attempt ha hopen
  have hpendingArt := hs.pendingArtifact_attempt ha hopen
  -- the attempt has no impact yet
  have himpacts : ∀ id m, s.impacts.get id = some m → m.attemptId ≠ i ∧ m.eventId ≤ s.events.lastId := by
    intro id m hm
    obtain ⟨-, hevent, hended⟩ := hs.unsettled id m hm
    refine ⟨?_, hevent⟩
    rintro rfl
    exact hended a ha hopen
  constructor
  · rintro ⟨⟨s₁, rs⟩, h⟩
    obtain ⟨actions, artifacts, receipt, hact, hart, -, hstate, -, hsettle⟩ := recoverAttempt_ok h
    refine ⟨fun j b hb hbe => ?_, fun id r hr hc => ?_, fun id r hr hc => ?_⟩
    · obtain rfl := (hs.isOpen_iff ha hopen j).1 ⟨b, hb, hbe⟩
      rw [ha] at hb
      obtain rfl := Option.some.inj hb
      exact settleAttempt_started hsettle ha hopen (by rw [hstate]; rfl)
    · exact completeUnknown_ok_iff.1 ⟨actions, hact⟩ id r hr (hpending id r hr hc) hc
    · exact completeUnknown_ok_iff.1 ⟨artifacts, hart⟩ id r hr (hpendingArt id r hr hc) hc
  · rintro ⟨hstart, hactions, hartifacts⟩
    have hact : ∃ actions, completeUnknown s.actions "cleanup_actions" i t .deliveryUnknown
        = .ok actions := completeUnknown_ok_iff.2 fun id r hr _ hc => hactions id r hr hc
    have hart : ∃ artifacts, completeUnknown s.artifactActions "cleanup_artifact_actions" i
        t .deliveryUnknown = .ok artifacts :=
      completeUnknown_ok_iff.2 fun id r hr _ hc => hartifacts id r hr hc
    obtain ⟨actions, hact⟩ := hact
    obtain ⟨artifacts, hart⟩ := hart
    set s₁ : Store := { s with actions := actions, artifactActions := artifacts } with hs₁
    have hsound : s₁.Sound := hs.unknownCompleted ⟨hact, hart⟩
    have hprocess : ∃ l, s₁.actionsForAttempt i = .ok l :=
      actionsForAttempt_fits fun _ _ hr hid => completeUnknown_done hact hr hid
    have hremoval : ∃ l, s₁.artifactActionsForAttempt i = .ok l :=
      artifactActionsForAttempt_fits (fun _ _ hr hid => completeUnknown_done hart hr hid)
        hsound.fingerprints
    obtain ⟨process, hprocess⟩ := hprocess
    obtain ⟨removals, hremoval⟩ := hremoval
    have ha₁ : s₁.attempts.get i = some a := ha
    have hsettle : ∃ s', s₁.settleAttempt i a.trackingKey t ⟨a.incidentId, .failed,
        some (s.interruptedReason i), process, removals, [], 0, {}⟩ = .ok s' := by
      rw [settleAttempt_ok_iff ha₁ hopen ht rfl rfl rfl himpacts]
      exact hstart i a ha hopen
    obtain ⟨s₂, hsettle⟩ := hsettle
    simp only [recoverAttempt, bind_eq_ok, pure_eq_ok]
    exact ⟨_, actions, hact, artifacts, hart, process, hprocess, removals, hremoval, s₂, hsettle,
      rfl⟩

/-! ## What is settled -/

/-- Completing as unknown what one attempt prepared resolves a table in
which nothing else is pending. -/
theorem resolved_of_completeUnknown {ι δ : Type} {rows rows' : Table (JournalRow ι δ)}
    {table : String} {i : Nat} {unknown : δ}
    (hpending : ∀ id r, rows.get id = some r → r.completed = none → r.attemptId = i)
    (h : completeUnknown rows table i t unknown = .ok rows') : Resolved t unknown rows rows' := by
  have hvalue : ∀ id r r', rows.get id = some r → rows'.get id = some r' →
      r'.attemptId = r.attemptId ∧ r'.sequence = r.sequence ∧ r'.intent = r.intent ∧
        r'.completed = some (r.completed.getD (t, unknown)) := by
    intro id r r' hr hr'
    obtain ⟨old, hold, hid, hseq, -, hintent, hcomp⟩ := completeUnknown_get h hr'
    obtain rfl : r = old := Option.some.inj (hr.symm.trans hold)
    refine ⟨hid, hseq, hintent, ?_⟩
    rw [hcomp]
    cases hc : r.completed with
    | none => rw [if_pos ⟨hpending id r hr hc, rfl⟩]; rfl
    | some c => rw [if_neg (by simp)]; rfl
  refine ⟨fun id r' hr' => ?_, fun id r hr => ?_, fun id hnone => (completeUnknown_keeps h).2 hnone⟩
  · obtain ⟨old, hold, -⟩ := completeUnknown_get h hr'
    rw [(hvalue id old r' hold hr').2.2.2]
    simp
  · have hsome : rows'.get id ≠ none := fun hnone => by
      rw [(completeUnknown_keeps h).1 hnone] at hr
      cases hr
    obtain ⟨r', hr'⟩ := Option.ne_none_iff_exists'.1 hsome
    exact ⟨r', hr', hvalue id r r' hr hr'⟩

/-- A table in which nothing is pending is resolved as it is. -/
theorem resolved_self {ι δ : Type} {rows : Table (JournalRow ι δ)} {unknown : δ}
    (h : ∀ id r, rows.get id = some r → r.completed ≠ none) : Resolved t unknown rows rows := by
  refine ⟨h, fun id r hr => ⟨r, hr, rfl, rfl, rfl, ?_⟩, fun _ hnone => hnone⟩
  obtain ⟨c, hc⟩ := Option.ne_none_iff_exists'.1 (h id r hr)
  rw [hc]
  rfl

/-- One more row, for the one open attempt. -/
theorem addsOnePer_insert {ρ : Type} {isOpen : Nat → Prop} {attemptOf : ρ → Option Nat}
    {failed : ρ → Prop} {old : Table ρ} {r : ρ} {i : Nat} (hopen : ∀ j, isOpen j ↔ j = i)
    (hof : attemptOf r = some i) (hfailed : failed r) :
    AddsOnePer isOpen attemptOf failed old (old.insert r) := by
  refine ⟨fun id x hx => Table.get_insert_of_some hx, fun j hj => ?_, fun id x hx hnone => ?_⟩
  · obtain rfl := (hopen j).1 hj
    refine ⟨old.nextId, ⟨Table.get_nextId, r, by rw [Table.get_insert, if_pos rfl], hof⟩, ?_⟩
    rintro id ⟨hnone, x, hx, -⟩
    by_contra hne
    rw [Table.get_insert, if_neg hne, hnone] at hx
    cases hx
  · rw [Table.get_insert] at hx
    split_ifs at hx with hid
    · obtain rfl := Option.some.inj hx
      exact ⟨i, (hopen i).2 rfl, hof, hfailed⟩
    · rw [hnone] at hx
      cases hx

/-- No more row where no attempt is open. -/
theorem addsOnePer_self {ρ : Type} {isOpen : Nat → Prop} {attemptOf : ρ → Option Nat}
    {failed : ρ → Prop} {rows : Table ρ} (hopen : ∀ j, ¬ isOpen j) :
    AddsOnePer isOpen attemptOf failed rows rows := by
  refine ⟨fun _ _ hr => hr, fun j hj => absurd hj (hopen j), fun id r hr hnone => ?_⟩
  rw [hnone] at hr
  cases hr

/-- Where no attempt is open, recovery changes nothing. -/
theorem recover_nil (hnil : s.openAttempts = []) (ht : t < 2 ^ 63) :
    s.recoverIncompleteAttempts t = .ok (s, []) := by
  simp only [recoverIncompleteAttempts, hnil, List.foldlM_nil, bind_eq_ok, pure_eq_ok,
    sqliteMillis_eq_ok]
  exact ⟨t, ⟨ht, rfl⟩, trivial⟩

theorem not_isOpen_of_nil (hnil : s.openAttempts = []) (i : Nat) : ¬ s.IsOpen i := by
  rintro ⟨a, ha, hopen⟩
  exact openAttempts_nil_iff.1 hnil i a ha hopen

/-- A store without an open attempt is settled already. -/
theorem Sound.settled_self (hs : s.Sound) (hnil : s.openAttempts = []) : Settled s t s [] where
  attempts := not_isOpen_of_nil hnil
  actions := by
    refine resolved_self fun id r hr hc => ?_
    obtain ⟨a, ha, hopen⟩ := hs.pending id r hr hc
    exact not_isOpen_of_nil hnil _ ⟨a, ha, hopen⟩
  artifactActions := by
    refine resolved_self fun id r hr hc => ?_
    obtain ⟨a, ha, hopen⟩ := hs.pendingArtifacts id r hr hc
    exact not_isOpen_of_nil hnil _ ⟨a, ha, hopen⟩
  events := addsOnePer_self (not_isOpen_of_nil hnil)
  impacts := addsOnePer_self (not_isOpen_of_nil hnil)
  blocks := fun i a ha hopen => absurd ⟨a, ha, hopen⟩ (not_isOpen_of_nil hnil i)
  otherBlocks := fun _ _ => rfl
  receipts := by rw [hnil]; rfl
  again := fun _ ht' => recover_nil hnil ht'

/-- The recovery of the one open attempt settles everything. -/
theorem Sound.settled_recovered {i : Nat} {a : CleanupAttempt} (hs : s.Sound)
    (hone : s.openAttempts = [(i, a)]) (ha : s.attempts.get i = some a) (hopen : a.ended = none)
    (h : recoverAttempt t (s, []) (i, a) = .ok (s', receipts)) : Settled s t s' receipts := by
  obtain ⟨actions, artifacts, receipt, hact, hart, hincident, hstate, hreceipts, hsettle⟩ :=
    recoverAttempt_ok h
  have honly := hs.isOpen_iff ha hopen
  obtain ⟨rows, hrows, rfl⟩ := settleAttempt_ok hsettle
  have hclosed : ∀ j b, rows.attempts.get j = some b → b.ended ≠ none := by
    intro j b hb
    obtain ⟨old, hold, -, hended⟩ := hrows.finished.get j b hb
    rw [hended]
    split_ifs with hif
    · simp
    · exact fun hnone => hif ⟨(honly j).1 ⟨old, hold, hnone⟩, hnone⟩
  have hblocks : ∀ k, (blocksAfter s.retryBlocks i a.trackingKey t receipt).lookup k =
      if k = a.incidentId then some ⟨a.trackingKey, receipt.reasonId, i, Presence.fresh t⟩
      else s.retryBlocks.lookup k := by
    intro k
    rw [blocksAfter, if_neg (by rw [hstate]; simp), OrdMap.lookup_insert, hincident]
  exact
    { attempts := by
        rintro j ⟨b, hb, hbe⟩
        exact hclosed j b hb hbe
      actions := resolved_of_completeUnknown (hs.pending_attempt ha hopen) hact
      artifactActions := resolved_of_completeUnknown (hs.pendingArtifact_attempt ha hopen) hart
      events := addsOnePer_insert honly hrows.eventAttempt (hrows.eventState.trans hstate)
      impacts := addsOnePer_insert honly (congrArg some hrows.impactAttempt)
        (hrows.impactState.trans hstate)
      blocks := by
        intro j b hb hbe
        obtain rfl := (honly j).1 ⟨b, hb, hbe⟩
        obtain rfl := Option.some.inj (hb.symm.trans ha)
        exact ⟨hs.unblocked j b hb hbe, _, (hblocks _).trans (if_pos rfl), rfl⟩
      otherBlocks := by
        intro k hk
        refine (hblocks k).trans (if_neg ?_)
        rintro rfl
        exact hk i a ha hopen rfl
      receipts := by simp [hreceipts, hone, hincident]
      again := fun t' ht' => recover_nil (openAttempts_nil_iff.2 hclosed) ht' }

/-- **Recovery settles what a crash left exactly when its time is in
order**: of every store the operations lead to, at every time that fits. -/
theorem recover_settles_iff (h : s.Reachable) (ht : t < 2 ^ 63) :
    (∃ s' receipts, s.recoverIncompleteAttempts t = .ok (s', receipts) ∧ Settled s t s' receipts) ↔
      RecoversInOrder s t := by
  have hs := h.sound
  rcases AtMostOneOpen.openAttempts_cases hs.oneOpen with hnil | ⟨i, a, hone, ha, hopen⟩
  · -- nothing is open, so nothing is pending
    refine iff_of_true ⟨s, [], recover_nil hnil ht, hs.settled_self hnil⟩ ⟨fun i a ha hopen => ?_,
      fun id r hr hc => ?_, fun id r hr hc => ?_⟩
    · exact absurd ⟨a, ha, hopen⟩ (not_isOpen_of_nil hnil i)
    · obtain ⟨a, ha, hopen⟩ := hs.pending id r hr hc
      exact absurd ⟨a, ha, hopen⟩ (not_isOpen_of_nil hnil _)
    · obtain ⟨a, ha, hopen⟩ := hs.pendingArtifacts id r hr hc
      exact absurd ⟨a, ha, hopen⟩ (not_isOpen_of_nil hnil _)
  · have hrun : ∀ r, s.recoverIncompleteAttempts t = .ok r ↔
        recoverAttempt t (s, []) (i, a) = .ok r := by
      intro r
      simp only [recoverIncompleteAttempts, hone, List.foldlM_cons, List.foldlM_nil, bind_eq_ok,
        pure_eq_ok, sqliteMillis_eq_ok]
      constructor
      · rintro ⟨at_, ⟨-, rfl⟩, x, hx, rfl⟩
        exact hx
      · exact fun hr => ⟨t, ⟨ht, rfl⟩, r, hr, rfl⟩
    have hok : (∃ r, recoverAttempt t (s, []) (i, a) = .ok r) ↔ RecoversInOrder s t :=
      hs.recoverAttempt_ok_iff ha hopen ht
    rw [← hok]
    constructor
    · rintro ⟨s', receipts, hok, -⟩
      exact ⟨_, (hrun _).1 hok⟩
    · rintro ⟨⟨s', receipts⟩, hok⟩
      exact ⟨s', receipts, (hrun _).2 hok, hs.settled_recovered hone ha hopen hok⟩

/-- A worker began at 10, sent a signal and prepared another at 20, and
died. -/
def interrupted : Store :=
  built [.beginCleanupAttempt 10 sampleReport "epoch",
    .prepareCleanupAction ⟨1, "incident"⟩ 0 12 ⟨.primaryTerm, 101, "browser", .term⟩,
    .completeCleanupAction ⟨1, 1, 0⟩ 13 .delivered,
    .prepareCleanupAction ⟨1, "incident"⟩ 1 20 ⟨.memberTerm, 102, "renderer", .term⟩]

/-- The panic of a worker is stamped with its start, and recovery at that
time fails: it would complete the second signal before it was prepared. -/
theorem recovery_refused : ¬ ∀ (s : Store) (t : Nat), s.Reachable → t < 2 ^ 63 →
    ∃ s' receipts, s.recoverIncompleteAttempts t = .ok (s', receipts) ∧ Settled s t s' receipts := by
  intro hall
  obtain ⟨s', receipts, hok, -⟩ := hall interrupted 10 built_reachable (by decide)
  have hfails : (interrupted.recoverIncompleteAttempts 10).toOption.isNone = true := by
    decide +kernel
  rw [hok] at hfails
  cases hfails

/-- Recovery at the time of the last preparation settles it. -/
theorem recover_settles_iff_interrupted : RecoversInOrder interrupted 20 ∧
    ∃ s' receipts, interrupted.recoverIncompleteAttempts 20 = .ok (s', receipts) ∧
      Settled interrupted 20 s' receipts := by
  have hattempts : interrupted.attempts.entries.all (fun e => decide (e.2.startedAt ≤ 20)) = true := by
    decide +kernel
  have hactions : interrupted.actions.entries.all (fun e => decide (e.2.preparedAt ≤ 20)) = true := by
    decide +kernel
  have hartifacts : interrupted.artifactActions.entries.all (fun _ => false) = true := by
    decide +kernel
  have hinOrder : RecoversInOrder interrupted 20 := by
    refine ⟨fun i a ha _ => ?_, fun id r hr _ => ?_, fun id r hr _ => ?_⟩
    · simpa using Table.all_entries.1 hattempts i a ha
    · simpa using Table.all_entries.1 hactions id r hr
    · cases Table.all_entries.1 hartifacts id r hr
  exact ⟨hinOrder, (recover_settles_iff built_reachable (by decide)).2 hinOrder⟩

end Store

end Unlinger
