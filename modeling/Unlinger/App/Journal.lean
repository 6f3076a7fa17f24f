import Unlinger.App.Helpers.Sending

/-!
# The journal and the lock agree

A mutation is given to the journal, then to the lock, and then it is sent;
when it is resolved its record is removed and then the lock. A load at a
launch and the writing of a dismissal happen beside that. As long as none
of them acts on a record that is gone or that another call is still about
to send, each mutation is sent once and with its record in the journal, and
whenever nothing is going on the journal has the mutation of the lock.
-/

namespace Unlinger

namespace App

open Interaction

/-! ## The property -/

/-- A call of the journal that failed. -/
def fails : AppEvent → Bool
  | ⟨.load, .error _⟩ | ⟨.persist _, .error _⟩ | ⟨.remove _, .error _⟩ => true
  | _ => false

/-- No call of the journal has failed. -/
def Unfailed (s : AppTasks) : Prop := ∀ t ∈ s.tasks, ∀ e ∈ t.done, fails e = false

instance Unfailed.decidable (s : AppTasks) : Decidable (Unfailed s) := by
  unfold Unfailed
  infer_instance

/-- The task is in a reconciliation. -/
def reconciles (t : AppTrace) : Bool :=
  t.foldl (fun going e => match e.call with
    | .setReconcilingMutationID mutationID => mutationID.isSome
    | _ => going) false

/-- A call of `perform`, `checkAgain` or a dismissal. -/
def AppMethod.mutates : AppMethod → Bool
  | .perform _ _ _ | .dismissMutationState | .persistDismissed _ | .checkAgain _ => true
  | _ => false

/-- The task is about a mutation, or has something of the journal in
hand. -/
def Outstanding (t : AppTask) : Prop :=
  t.rest.ended = false ∧
    (t.call.mutates = true ∨ reconciles t.done = true ∨ (phase t).hand ≠ .idle)

instance Outstanding.decidable (t : AppTask) : Decidable (Outstanding t) := by
  unfold Outstanding
  infer_instance

/-- The journal was loaded, and no task is about a mutation. -/
def AtRest (s : AppTasks) : Prop :=
  s.shared.app.journalLoaded = true ∧ ∀ t ∈ s.tasks, ¬ Outstanding t

instance AtRest.decidable (s : AppTasks) : Decidable (AtRest s) := by
  unfold AtRest
  infer_instance

/-- **The journal and the lock agree** in a run. -/
structure JournalAgrees (s : AppTasks) (ms : List AppMove) : Prop where
  /-- A mutation is sent on one connection only. -/
  once : ∀ (a b : Nat) (p q : PendingMutation),
    (ms.foldl appState.move s).shared.requests[a]? = some (.mutation p) →
    (ms.foldl appState.move s).shared.requests[b]? = some (.mutation q) →
    p.mutationID = q.mutationID → a = b
  /-- When it is sent the journal has its record, and so no other. -/
  durable : ∀ before i x after p j, ms = before ++ .go i x :: after →
    appState.event (before.foldl appState.move s) i x = some ⟨.connect (.mutation p), .ok j⟩ →
    ∃ r ∈ (before.foldl appState.move s).shared.journal, r.undismissed = p
  agrees : Unfailed (ms.foldl appState.move s) → AtRest (ms.foldl appState.move s) →
    (ms.foldl appState.move s).shared.journal.map PendingMutation.mutationID
      = (ms.foldl appState.move s).shared.app.pendingMutation.map PendingMutation.mutationID

/-- **The condition** on a call a task comes to. The record of a dismissal
is written where there is still a record; what was loaded is put into the
lock where the journal still has it, and nothing where there is nothing in
the lock; a record is removed when its mutation is not about to be sent. -/
def Undisturbed (s : AppTasks) (t : AppTask) : AppCall → Prop
  | .persist _ => t.call.performs = none → s.shared.journal.isSome = true
  | .setPendingMutation value => (phase t).hand = .loaded value →
      match value with
      | some p => s.shared.journal.map PendingMutation.mutationID = some p.mutationID
      | none => s.shared.app.pendingMutation = none
  | .remove mutationID => ∀ u ∈ s.tasks, u.rest.ended = false →
      (phase u).stage.unsettled.map PendingMutation.mutationID ≠ some mutationID
  | _ => True

instance Undisturbed.decidable (s : AppTasks) (t : AppTask) : ∀ c, Decidable (Undisturbed s t c)
  | .persist _ =>
      inferInstanceAs (Decidable (t.call.performs = none → s.shared.journal.isSome = true))
  | .setPendingMutation (some p) => inferInstanceAs (Decidable ((phase t).hand = .loaded (some p) →
      s.shared.journal.map PendingMutation.mutationID = some p.mutationID))
  | .setPendingMutation none => inferInstanceAs (Decidable ((phase t).hand = .loaded none →
      s.shared.app.pendingMutation = none))
  | .remove mutationID => inferInstanceAs (Decidable (∀ u ∈ s.tasks, u.rest.ended = false →
      (phase u).stage.unsettled.map PendingMutation.mutationID ≠ some mutationID))
  | .read | .setConnection _ | .setStatus _ | .setMutationState _ | .setMutationJournalAvailable _
  | .setJournalLoaded | .setRefreshRequested _ | .setReconcilingMutationID _ | .startRefresh _
  | .finishRefresh _ | .nextRound _ | .stopPolling | .isCancelled | .detachPersist _ | .load
  | .connect _ | .receive _ _ | .fetchRefreshSnapshot | .notify | .awaitRefresh => .isTrue trivial

/-- A move that comes, and does not act on what is gone. -/
def Orderly (s : AppTasks) (m : AppMove) : Prop :=
  Comes s m ∧ match m with
    | .go i _ => ∀ t ∈ s.tasks[i]?, ∀ c ∈ t.rest.next, Undisturbed s t c
    | _ => True

instance Orderly.decidable (s : AppTasks) : ∀ m, Decidable (Orderly s m)
  | .begin k => inferInstanceAs (Decidable (Comes s (.begin k) ∧ True))
  | .go i x => inferInstanceAs (Decidable (Comes s (.go i x) ∧
      ∀ t ∈ s.tasks[i]?, ∀ c ∈ t.rest.next, Undisturbed s t c))
  | .outside o => inferInstanceAs (Decidable (Comes s (.outside o) ∧ True))

/-! ## What a place allows -/

section Places

variable {k : AppMethod} {φ : Phase} {c : AppCall} {e : AppEvent} {p : PendingMutation}

theorem Allowed.of_loading (h : Allowed k φ c) (hhand : φ.hand = .loading) : c = .load := by
  cases c with
  | load => rfl
  | connect request =>
      cases request <;> simp [Allowed, Phase.Settled, hhand] at h
  | setPendingMutation value => simp [Allowed, Phase.Puts, Phase.Settled, hhand] at h
  | _ => simp [Allowed, Phase.Settled, hhand] at h

theorem Allowed.of_loaded {value : Option PendingMutation} (h : Allowed k φ c)
    (hhand : φ.hand = .loaded value) : c = .setPendingMutation value := by
  cases c with
  | connect request =>
      cases request <;> simp [Allowed, Phase.Settled, hhand] at h
  | setPendingMutation v =>
      simp only [Allowed, Phase.Puts, Phase.Settled, hhand] at h
      rcases h with ⟨hv, -⟩ | ⟨hv, -⟩ | ⟨-, -, q, -, hv⟩ | ⟨⟨hv, -⟩, -⟩
      · rw [Hand.loaded.inj hv]
      · cases hv
      · cases hv
      · cases hv
  | _ => simp [Allowed, Phase.Settled, hhand] at h

theorem Allowed.of_removed {mutationID : String} (h : Allowed k φ c)
    (hhand : φ.hand = .removed mutationID) : c = .read ∨ c = .setPendingMutation none := by
  cases c with
  | read => exact Or.inl rfl
  | connect request =>
      cases request <;> simp [Allowed, Phase.Settled, hhand] at h
  | setPendingMutation v =>
      simp only [Allowed, Phase.Puts, Phase.Settled, hhand] at h
      rcases h with ⟨hv, -⟩ | ⟨hv, -⟩ | ⟨-, rfl, -⟩ | ⟨⟨hv, -⟩, -⟩
      · cases hv
      · cases hv
      · exact Or.inr rfl
      · cases hv
  | _ => simp [Allowed, Phase.Settled, hhand] at h

theorem Allowed.of_persisted (h : Allowed k φ c) (hstage : φ.stage = .persisted p) :
    c = .setPendingMutation (some p) := by
  cases c with
  | connect request =>
      cases request <;> simp [Allowed, Phase.Settled, Stage.unsettled, hstage] at h
  | setPendingMutation v =>
      simp only [Allowed, Phase.Puts, Phase.Settled, Stage.unsettled, hstage] at h
      rcases h with ⟨-, hv, -⟩ | ⟨-, q, hq, rfl⟩ | ⟨hv, -⟩ | ⟨⟨-, hv⟩, -⟩
      · cases hv
      · rw [Stage.persisted.inj hq]
      · cases hv
      · cases hv
  | _ => simp [Allowed, Phase.Settled, Stage.unsettled, hstage] at h

/-- The hand is full after an event that fills it, and else as it was. -/
theorem Hand.removed_after {hand : Hand} {mutationID : String}
    (h : hand.after e = .removed mutationID) :
    (e = ⟨.remove mutationID, .ok ()⟩) ∨ hand = .removed mutationID := by
  obtain ⟨c, r⟩ := e
  unfold Hand.after at h
  cases c with
  | remove id =>
      cases r with
      | ok u =>
          obtain rfl := Hand.removed.inj h
          exact Or.inl rfl
      | error e => cases h
  | read =>
      cases hand with
      | removed id =>
          dsimp only [Hand.look] at h
          split_ifs at h
          exact Or.inr h
      | _ => cases h
  | load => cases r <;> cases h
  | setJournalLoaded => cases h
  | setPendingMutation v => cases h
  | _ => exact Or.inr h

end Places

/-! ## A mutation that is about to be sent is in the journal -/

/-- The record of what is to be sent is there. -/
def Durable (s : AppTasks) : Prop :=
  ∀ i t p, Going s i t → (phase t).stage.unsettled = some p →
    ∃ r ∈ s.shared.journal, r.undismissed = p

section Durable

variable {s : AppTasks} {i : Nat} {x : AppChoice} {k : AppMethod} {done : AppTrace}
  {c : AppCall} {f : c.Answer → AppProg Unit} {p r : PendingMutation} {m : AppMove}

/-- What a task comes to is undisturbed. -/
theorem Orderly.undisturbed (hm : Orderly s (.go i x))
    (hi : s.tasks[i]? = some ⟨k, done, .call c f⟩) :
    Undisturbed s ⟨k, done, .call c f⟩ c := hm.2 _ hi c rfl

/-- Where the journal's record changes: to one that is persisted beside no
other, or to none, where it was the one. -/
theorem journal_go (hi : s.tasks[i]? = some ⟨k, done, .call c f⟩) :
    (appState.move s (.go i x)).shared.journal = s.shared.journal ∨
    (∃ q, c = .persist q ∧ (appState.move s (.go i x)).shared.journal = some q ∧
      ∀ r ∈ s.shared.journal, r.mutationID = q.mutationID) ∨
    (∃ mutationID, c = .remove mutationID ∧ (appState.move s (.go i x)).shared.journal = none ∧
      ∀ r ∈ s.shared.journal, r.mutationID = mutationID) := by
  rw [move_journal hi]
  cases c with
  | persist q =>
      cases htook : MutationJournal.took (MutationJournal.persist s.shared.journal q x.journal) with
      | true =>
          refine Or.inr (Or.inl ⟨q, rfl, if_pos htook, MutationJournal.persist_took htook⟩)
      | false =>
          left
          show (if MutationJournal.took (MutationJournal.persist s.shared.journal q x.journal) then
            some q else s.shared.journal) = _
          rw [htook]
          rfl
  | remove mutationID =>
      cases htook : MutationJournal.took
          (MutationJournal.remove s.shared.journal mutationID x.journal) with
      | true =>
          exact Or.inr (Or.inr ⟨mutationID, rfl, if_pos htook, MutationJournal.remove_took htook⟩)
      | false =>
          left
          show (if MutationJournal.took (MutationJournal.remove s.shared.journal mutationID x.journal)
            then none else s.shared.journal) = _
          rw [htook]
          rfl
  | _ => exact Or.inl rfl

/-- A task that persists or removes has nothing of its own to send. -/
theorem Consistent.settled_of_journal (h : Consistent s)
    (hi : s.tasks[i]? = some ⟨k, done, .call c f⟩)
    (hc : (∃ q, c = .persist q) ∨ ∃ mutationID, c = .remove mutationID) :
    (phaseOf k done).Settled := by
  have hallowed := h.allowed hi
  rcases hc with ⟨q, rfl⟩ | ⟨mutationID, rfl⟩
  · exact hallowed.1
  · exact hallowed

theorem Durable.go (h : Consistent s) (hd : Durable s) (hm : Orderly s (.go i x))
    (hi : s.tasks[i]? = some ⟨k, done, .call c f⟩) : Durable (appState.move s (.go i x)) := by
  intro j u p hu hp
  rcases going_go hi hu with ⟨rfl, rfl⟩ | ⟨hne, hold⟩ | hstart
  · rw [phase_of_went] at hp
    rcases Stage.unsettled_after hp with hbefore | ⟨hevent, hfresh, hperforms⟩
    · -- what is to be sent is neither persisted nor removed by its own task
      have hrecord := hd j _ p (going_self hi) hbefore
      rcases journal_go (x := x) hi with hsame | ⟨q, hc, -⟩ | ⟨mutationID, hc, -⟩
      · rw [hsame]
        exact hrecord
      · have hsettled := (h.settled_of_journal hi (Or.inl ⟨q, hc⟩)).2
        rw [hbefore] at hsettled
        cases hsettled
      · have hsettled := (h.settled_of_journal hi (Or.inr ⟨mutationID, hc⟩)).2
        rw [hbefore] at hsettled
        cases hsettled
    · obtain rfl : c = .persist p := congrArg Event.call hevent
      have hok : appState.answer s.shared (.persist p) x = .ok () := eq_of_heq (Event.mk.inj hevent).2
      refine ⟨p, ?_, ?_⟩
      · rw [move_journal hi, hok]
        rfl
      · obtain ⟨-, hdismissed | ⟨-, -, hsame⟩⟩ := h.allowed hi
        · rw [hdismissed] at hperforms
          cases hperforms
        · exact hsame
  · obtain ⟨r, hr, hrp⟩ := hd j u p hold hp
    have hknown := h.journal r hr
    rcases journal_go (x := x) hi with hsame | ⟨q, rfl, hjournal, hid⟩ | ⟨mutationID, rfl, -, hid⟩
    · rw [hsame]
      exact ⟨r, hr, hrp⟩
    · refine ⟨q, hjournal, ?_⟩
      rcases h.persists hi with hq | ⟨-, hperforms, -⟩
      · rw [← hrp]
        exact (h.same hknown hq (hid r hr)).symm
      · -- the other task's mutation is not this one's own
        have hown := (h.own u (List.mem_of_getElem? hold.1) p
          (Stage.pending_of_unsettled hp)).1
        have hpid : p.mutationID = q.mutationID := by
          rw [← hrp]
          exact hid r hr
        rw [hpid] at hown
        exact absurd (h.distinct j i u _ _ hold.1 hi hown hperforms) hne
    · have hfree := hm.undisturbed hi u (List.mem_of_getElem? hold.1) hold.2
      rw [hp] at hfree
      have hpid : p.mutationID = mutationID := by
        rw [← hrp]
        exact hid r hr
      exact absurd (congrArg some hpid) hfree
  · rw [hstart] at hp
    cases hp

theorem Durable.move (h : Consistent s) (hd : Durable s) (hm : Orderly s m) :
    Durable (appState.move s m) := by
  cases m with
  | begin k =>
      intro j u p hu hp
      rcases going_begin hu with hold | hstart
      · exact hd j u p hold hp
      · rw [hstart] at hp
        cases hp
  | go i x =>
      rcases Actor.move_go_cases (a := appState) s i x with ⟨k, done, c, f, hi⟩ | hsame
      · exact hd.go h hm hi
      · rw [hsame]
        exact hd
  | outside o =>
      intro j u p hu hp
      obtain ⟨r, hr, hrp⟩ := hd j u p (going_outside hu).1 hp
      refine ⟨r, ?_, hrp⟩
      show r ∈ (s.shared.outside o).journal
      rw [AppWorld.outside_journal]
      exact hr

end Durable

/-! ## The journal and the lock -/

/-- The task is about to bring the mutation into the lock. -/
def Brings (φ : Phase) (mutationID : String) : Prop :=
  φ.hand = .loading ∨ (∃ r, φ.hand = .loaded (some r) ∧ r.mutationID = mutationID) ∨
    ∃ p, φ.stage = .persisted p ∧ p.mutationID = mutationID

/-- The journal and the lock agree but for what the tasks are about to
do. -/
structure Agreed (s : AppTasks) : Prop where
  journal : ∀ r ∈ s.shared.journal,
    s.shared.app.pendingMutation.map PendingMutation.mutationID = some r.mutationID ∨
    s.shared.app.journalLoaded = false ∨ ∃ i t, Going s i t ∧ Brings (phase t) r.mutationID
  lock : ∀ p ∈ s.shared.app.pendingMutation,
    s.shared.journal.map PendingMutation.mutationID = some p.mutationID ∨
    ∃ i t, Going s i t ∧ (phase t).hand = .removed p.mutationID
  /-- what was removed does not come back -/
  removed : ∀ i t mutationID, Going s i t → (phase t).hand = .removed mutationID →
    s.shared.journal.map PendingMutation.mutationID ≠ some mutationID ∧
      ∃ p, p.mutationID = mutationID ∧ Known s p

section Agreed

variable {s : AppTasks} {i : Nat} {x : AppChoice} {k : AppMethod} {done : AppTrace}
  {c : AppCall} {f : c.Answer → AppProg Unit} {p : PendingMutation} {m : AppMove}

theorem not_settled_of_brings {φ : Phase} {mutationID : String} (h : Brings φ mutationID) :
    ¬ φ.Settled := by
  rintro ⟨hhand, hstage⟩
  rcases h with hl | ⟨r, hl, -⟩ | ⟨q, hq, -⟩
  · rw [hhand] at hl
    cases hl
  · rw [hhand] at hl
    cases hl
  · rw [hq] at hstage
    cases hstage

theorem not_settled_of_removed {φ : Phase} {mutationID : String}
    (h : φ.hand = .removed mutationID) : ¬ φ.Settled := by
  rintro ⟨hhand, -⟩
  rw [hhand] at h
  cases h

/-- What no failure interrupts is answered. -/
theorem Unfailed.answered (hu : Unfailed (appState.move s (.go i x)))
    (hi : s.tasks[i]? = some ⟨k, done, .call c f⟩) :
    fails ⟨c, appState.answer s.shared c x⟩ = false :=
  hu _ (List.mem_of_getElem? (Actor.go_self hi)) _ (List.mem_append_right _ (List.mem_singleton.2 rfl))

theorem Unfailed.before (hu : Unfailed (appState.move s m)) : Unfailed s := by
  intro t ht e he
  obtain ⟨j, hj⟩ := List.mem_iff_getElem?.1 ht
  obtain ⟨u, hu', -, hdone⟩ := Actor.move_grows (a := appState) m hj
  exact hu u (List.mem_of_getElem? hu') e (hdone.subset he)

/-- A task that removes knows what it removes. -/
theorem Consistent.removes {mutationID : String}
    {g : (AppCall.remove mutationID).Answer → AppProg Unit} (h : Consistent s)
    (hi : s.tasks[i]? = some ⟨k, done, .call (.remove mutationID) g⟩) :
    ∃ p, p.mutationID = mutationID ∧ Known s p := by
  obtain ⟨p, hid, hheard, -⟩ := (h.keeping.next hi).1.2
  exact ⟨p, hid, (h.heard _ (List.mem_of_getElem? hi) _ hheard).of_undismissed rfl⟩

/-- A task that persists its own mutation is the only one that knows it. -/
theorem Consistent.own_unknown {q : PendingMutation} {t : PendingMutation} (h : Consistent s)
    (hi : s.tasks[i]? = some ⟨k, done, .call c f⟩) (hfresh : (phaseOf k done).stage = .fresh)
    (hperforms : k.performs = some q.mutationID) (hknown : Known s t) :
    t.mutationID ≠ q.mutationID := by
  intro hid
  obtain ⟨u, hu, hup, hstage⟩ := hknown
  obtain ⟨b, hb⟩ := List.mem_iff_getElem?.1 hu
  rw [hid] at hup
  obtain rfl := h.distinct b i u _ _ hb hi hup hperforms
  obtain rfl := Option.some.inj (hb.symm.trans hi)
  have hstage' : (phaseOf k done).stage.pending = some t.undismissed := hstage
  rw [hfresh] at hstage'
  cases hstage'

/-- A dismissal is written over the record there is. -/
theorem Orderly.dismisses {q : PendingMutation}
    {g : (AppCall.persist q).Answer → AppProg Unit} (hm : Orderly s (.go i x))
    (hi : s.tasks[i]? = some ⟨k, done, .call (.persist q) g⟩) (hk : k = .persistDismissed q)
    (hid : ∀ r ∈ s.shared.journal, r.mutationID = q.mutationID) :
    s.shared.journal.map PendingMutation.mutationID = some q.mutationID := by
  have hsome := hm.undisturbed hi (by rw [hk]; rfl)
  obtain ⟨r, hr⟩ := Option.isSome_iff_exists.1 hsome
  rw [hr, Option.map_some, hid r hr]

theorem Agreed.removed_go (h : Consistent s) (ha : Agreed s) (hm : Orderly s (.go i x))
    (hi : s.tasks[i]? = some ⟨k, done, .call c f⟩) :
    ∀ j u mutationID, Going (appState.move s (.go i x)) j u →
      (phase u).hand = .removed mutationID →
      (appState.move s (.go i x)).shared.journal.map PendingMutation.mutationID ≠ some mutationID ∧
        ∃ p, p.mutationID = mutationID ∧ Known (appState.move s (.go i x)) p := by
  intro j u mutationID hu hhand
  -- what was removed before the move
  have hbefore : ∀ {j' u'}, Going s j' u' → (phase u').hand = .removed mutationID →
      (appState.move s (.go i x)).shared.journal.map PendingMutation.mutationID ≠ some mutationID ∧
        ∃ p, p.mutationID = mutationID ∧ Known (appState.move s (.go i x)) p := by
    intro j' u' hu' hhand'
    obtain ⟨hne, p, hp, hknown⟩ := ha.removed j' u' mutationID hu' hhand'
    refine ⟨?_, p, hp, hknown.move _⟩
    rcases journal_go (x := x) hi with hsame | ⟨q, rfl, hjournal, hid⟩ | ⟨id, rfl, hjournal, -⟩
    · rw [hsame]
      exact hne
    · rw [hjournal]
      obtain ⟨-, hdismissed | ⟨hfresh, hperforms, -⟩⟩ := h.allowed hi
      · rw [hm.dismisses hi hdismissed hid] at hne
        exact hne
      · have hother := h.own_unknown hi hfresh hperforms hknown
        rw [hp] at hother
        intro heq
        exact hother (Option.some.inj heq).symm
    · rw [hjournal]
      intro heq
      cases heq
  rcases going_go hi hu with ⟨rfl, rfl⟩ | ⟨-, hold⟩ | hstart
  · rw [phase_of_went] at hhand
    rcases Hand.removed_after hhand with hevent | hhad
    · obtain rfl : c = .remove mutationID := congrArg Event.call hevent
      have hok : appState.answer s.shared (.remove mutationID) x = .ok () :=
        eq_of_heq (Event.mk.inj hevent).2
      obtain ⟨p, hp, hknown⟩ := h.removes hi
      refine ⟨?_, p, hp, hknown.move _⟩
      rw [move_journal hi, hok]
      intro heq
      cases heq
    · exact hbefore (going_self hi) hhad
  · exact hbefore hold hhand
  · rw [hstart] at hhand
    cases hhand

theorem Agreed.lock_go (h : Consistent s) (ha : Agreed s) (hd : Durable s)
    (hm : Orderly s (.go i x)) (hi : s.tasks[i]? = some ⟨k, done, .call c f⟩)
    (hf : fails ⟨c, appState.answer s.shared c x⟩ = false) :
    ∀ p ∈ (appState.move s (.go i x)).shared.app.pendingMutation,
      (appState.move s (.go i x)).shared.journal.map PendingMutation.mutationID = some p.mutationID ∨
      ∃ j t, Going (appState.move s (.go i x)) j t ∧ (phase t).hand = .removed p.mutationID := by
  intro p hp
  rw [move_app hi] at hp
  -- either the lock is as it was, or this step set it
  rcases AppWorld.accessed_pending (a := s.shared.app) (c := c) with hsame | ⟨value, rfl, hvalue⟩
  · rw [hsame] at hp
    rcases ha.lock p hp with hjournal | ⟨j, t, ht, hhand⟩
    · rcases journal_go (x := x) hi with hkept | ⟨q, rfl, hj, hid⟩ | ⟨mutationID, rfl, hj, hid⟩
      · rw [hkept]
        exact Or.inl hjournal
      · left
        obtain ⟨r, hr, hrid⟩ := Option.map_eq_some_iff.1 hjournal
        rw [hj, Option.map_some, ← hid r hr, hrid]
      · -- the record is gone, and its task goes on to the lock
        obtain ⟨r, hr, hrid⟩ := Option.map_eq_some_iff.1 hjournal
        have hpid : mutationID = p.mutationID := by
          rw [← hid r hr]
          exact hrid
        right
        have hphase : (phase (went s x k done (.remove mutationID) f)).hand
            = .removed p.mutationID := by
          rw [phase_of_went]
          show Hand.removeEnds mutationID (appState.answer s.shared (.remove mutationID) x) = _
          cases hr' : appState.answer s.shared (.remove mutationID) x with
          | ok u =>
              rw [hpid]
              rfl
          | error e =>
              rw [hr'] at hf
              cases hf
        exact ⟨i, _, h.went_going hi (not_settled_of_removed hphase), hphase⟩
    · right
      by_cases hji : j = i
      · subst hji
        obtain rfl := Option.some.inj (ht.1.symm.trans hi)
        have hhand' : (phaseOf k done).hand = .removed p.mutationID := hhand
        rcases (h.allowed hi).of_removed hhand' with rfl | rfl
        · have hphase : (phase (went s x k done .read f)).hand = .removed p.mutationID := by
            rw [phase_of_went]
            show Hand.look s.shared.app.pendingMutation (phaseOf k done).hand = _
            rw [hhand', Option.mem_def.1 hp]
            exact if_pos rfl
          exact ⟨j, _, h.went_going hi (not_settled_of_removed hphase), hphase⟩
        · have hnone : (AppWorld.accessed s.shared.app (.setPendingMutation none)).pendingMutation
              = none := rfl
          rw [hnone] at hsame
          rw [← hsame] at hp
          cases hp
      · exact ⟨j, t, going_other ht hji, hhand⟩
  · rw [hvalue] at hp
    have hjournal : (appState.move s (.go i x)).shared.journal = s.shared.journal := by
      rw [move_journal hi]
      rfl
    rw [hjournal]
    rcases h.allowed hi with ⟨hhand, -, -⟩ | ⟨-, q, hstage, rfl⟩ | ⟨-, rfl, -⟩ |
      ⟨hsettled, q, hsaw, rfl⟩
    · have hcurrent := hm.undisturbed hi hhand
      obtain rfl := Option.mem_def.1 hp
      exact Or.inl hcurrent
    · -- the lock of a send that is under way is the record it wrote
      obtain rfl := Option.some.inj hp
      obtain ⟨r, hr, hrq⟩ := hd i _ q (going_self hi) (by
        show (phaseOf k done).stage.unsettled = some q
        rw [hstage]
        rfl)
      left
      rw [Option.mem_def.1 hr, Option.map_some, ← hrq]
      rfl
    · cases hp
    · obtain rfl := Option.some.inj hp
      obtain ⟨-, hlock⟩ := h.saw i _ _ _ hi rfl rfl hsaw
      rcases ha.lock q hlock with hq | ⟨j, t, ht, hhand⟩
      · exact Or.inl hq
      · refine Or.inr ⟨j, t, going_other ht ?_, hhand⟩
        rintro rfl
        obtain rfl := Option.some.inj (ht.1.symm.trans hi)
        exact not_settled_of_removed hhand hsettled

/-- A load that does not fail has the record in hand. -/
theorem loaded_of_load {r : PendingMutation} {g : AppCall.load.Answer → AppProg Unit}
    (hr : s.shared.journal = some r)
    (hf : fails ⟨.load, appState.answer s.shared .load x⟩ = false) :
    (phase (went s x k done .load g)).hand = .loaded (some r) := by
  rw [phase_of_went]
  show Hand.loadEnds (MutationJournal.load s.shared.journal x.journal) = _
  have hf' : fails ⟨.load, MutationJournal.load s.shared.journal x.journal⟩ = false := hf
  cases hload : MutationJournal.load s.shared.journal x.journal with
  | ok found =>
      rw [MutationJournal.load_eq_ok hload, hr]
      rfl
  | error e =>
      rw [hload] at hf'
      cases hf'

/-- A task that is about to bring the record of the journal has brought it,
or still is. -/
theorem Brings.go {r : PendingMutation} {j : Nat} {t : AppTask} (h : Consistent s)
    (hi : s.tasks[i]? = some ⟨k, done, .call c f⟩)
    (hf : fails ⟨c, appState.answer s.shared c x⟩ = false) (ht : Going s j t)
    (hb : Brings (phase t) r.mutationID) (hr : s.shared.journal = some r ∨ j ≠ i) :
    (appState.move s (.go i x)).shared.app.pendingMutation.map PendingMutation.mutationID
      = some r.mutationID ∨
    ∃ j t, Going (appState.move s (.go i x)) j t ∧ Brings (phase t) r.mutationID := by
  by_cases hji : j = i
  · subst hji
    obtain rfl := Option.some.inj (ht.1.symm.trans hi)
    have hrecord : s.shared.journal = some r := hr.resolve_right fun hne => hne rfl
    rcases hb with hloading | ⟨r', hloaded, hid⟩ | ⟨p, hpersisted, hid⟩
    · obtain rfl := (h.allowed hi).of_loading hloading
      have hb' : Brings (phase (went s x k done .load f)) r.mutationID :=
        Or.inr (Or.inl ⟨r, loaded_of_load hrecord hf, rfl⟩)
      exact Or.inr ⟨j, _, h.went_going hi (not_settled_of_brings hb'), hb'⟩
    · obtain rfl := (h.allowed hi).of_loaded hloaded
      left
      rw [move_app hi]
      show (some r').map PendingMutation.mutationID = _
      rw [Option.map_some, hid]
    · obtain rfl := (h.allowed hi).of_persisted hpersisted
      left
      rw [move_app hi]
      show (some p).map PendingMutation.mutationID = _
      rw [Option.map_some, hid]
  · exact Or.inr ⟨j, t, going_other ht hji, hb⟩

/-- A lock that has the mutation of the record keeps it while the record
stays. -/
theorem Agreed.locked_go {r : PendingMutation} (h : Consistent s) (ha : Agreed s)
    (hd : Durable s) (hm : Orderly s (.go i x)) (hi : s.tasks[i]? = some ⟨k, done, .call c f⟩)
    (hr : s.shared.journal = some r)
    (hlock : s.shared.app.pendingMutation.map PendingMutation.mutationID = some r.mutationID) :
    (appState.move s (.go i x)).shared.app.pendingMutation.map PendingMutation.mutationID
      = some r.mutationID := by
  rw [move_app hi]
  rcases AppWorld.accessed_pending (a := s.shared.app) (c := c) with hsame | ⟨value, rfl, hvalue⟩
  · rw [hsame]
    exact hlock
  · rw [hvalue]
    -- what is put into the lock was loaded, persisted, removed or dismissed
    rcases h.allowed hi with ⟨hhand, -, -⟩ | ⟨-, q, hstage, rfl⟩ | ⟨-, rfl, q, hsaw, hhand⟩ |
      ⟨-, q, hsaw, rfl⟩
    · have hcurrent := hm.undisturbed hi hhand
      cases value with
      | some p =>
          have hcurrent' : s.shared.journal.map PendingMutation.mutationID
              = some p.mutationID := hcurrent
          rw [hr, Option.map_some] at hcurrent'
          exact hcurrent'.symm
      | none =>
          have hnone : s.shared.app.pendingMutation = none := hcurrent
          rw [hnone] at hlock
          cases hlock
    · obtain ⟨r', hr', hrq⟩ := hd i _ q (going_self hi) (by
        show (phaseOf k done).stage.unsettled = some q
        rw [hstage]
        rfl)
      obtain rfl := Option.some.inj (hr.symm.trans hr')
      rw [Option.map_some, ← hrq]
      rfl
    · obtain ⟨-, hsame⟩ := h.saw i _ _ _ hi rfl rfl hsaw
      rw [hsame, Option.map_some] at hlock
      have hgone := (ha.removed i _ _ (going_self hi) hhand).1
      rw [hr, Option.map_some] at hgone
      exact absurd hlock.symm hgone
    · obtain ⟨-, hsame⟩ := h.saw i _ _ _ hi rfl rfl hsaw
      rw [hsame] at hlock
      exact hlock

/-- A journal that is still to be loaded is still, or its task has begun
to. -/
theorem unloaded_go (mutationID : String) (h : Consistent s)
    (hi : s.tasks[i]? = some ⟨k, done, .call c f⟩) (hunloaded : s.shared.app.journalLoaded = false) :
    (appState.move s (.go i x)).shared.app.journalLoaded = false ∨
    ∃ j t, Going (appState.move s (.go i x)) j t ∧ Brings (phase t) mutationID := by
  by_cases hsets : c = .setJournalLoaded
  · subst hsets
    right
    have hb : Brings (phase (went s x k done .setJournalLoaded f)) mutationID := by
      left
      rw [phase_of_went]
      rfl
    exact ⟨i, _, h.went_going hi (not_settled_of_brings hb), hb⟩
  · left
    rw [move_app hi, ← hunloaded]
    cases c with
    | setJournalLoaded => exact absurd rfl hsets
    | finishRefresh refresh =>
        unfold AppWorld.accessed
        dsimp only
        split_ifs <;> rfl
    | _ => rfl

/-- A task that persisted its own mutation goes on to bring it into the
lock. -/
theorem persisted_brings {q : PendingMutation} {g : (AppCall.persist q).Answer → AppProg Unit}
    (h : Consistent s) (hi : s.tasks[i]? = some ⟨k, done, .call (.persist q) g⟩)
    (hf : fails ⟨.persist q, appState.answer s.shared (.persist q) x⟩ = false)
    (hfresh : (phaseOf k done).stage = .fresh) (hperforms : k.performs = some q.mutationID) :
    ∃ j t, Going (appState.move s (.go i x)) j t ∧ Brings (phase t) q.mutationID := by
  have hphase : (phase (went s x k done (.persist q) g)).stage = .persisted q := by
    rw [phase_of_went]
    show (if (phaseOf k done).stage = .fresh ∧ k.performs = some q.mutationID then
      Stage.persistEnds q (appState.answer s.shared (.persist q) x) else _) = _
    rw [if_pos ⟨hfresh, hperforms⟩]
    cases hr : appState.answer s.shared (.persist q) x with
    | ok u => rfl
    | error e =>
        rw [hr] at hf
        cases hf
  have hb : Brings (phase (went s x k done (.persist q) g)) q.mutationID :=
    Or.inr (Or.inr ⟨q, hphase, rfl⟩)
  exact ⟨i, _, h.went_going hi (not_settled_of_brings hb), hb⟩

theorem Agreed.journal_go (h : Consistent s) (ha : Agreed s) (hd : Durable s)
    (hm : Orderly s (.go i x)) (hi : s.tasks[i]? = some ⟨k, done, .call c f⟩)
    (hf : fails ⟨c, appState.answer s.shared c x⟩ = false) :
    ∀ r ∈ (appState.move s (.go i x)).shared.journal,
      (appState.move s (.go i x)).shared.app.pendingMutation.map PendingMutation.mutationID
        = some r.mutationID ∨
      (appState.move s (.go i x)).shared.app.journalLoaded = false ∨
      ∃ j t, Going (appState.move s (.go i x)) j t ∧ Brings (phase t) r.mutationID := by
  intro r hr
  rcases Unlinger.App.journal_go (x := x) hi with hkept | ⟨q, rfl, hj, hid⟩ | ⟨id, -, hj, -⟩
  · rw [hkept] at hr
    rcases ha.journal r hr with hlock | hunloaded | ⟨j, t, ht, hb⟩
    · exact Or.inl (ha.locked_go h hd hm hi hr hlock)
    · exact Or.inr (unloaded_go r.mutationID h hi hunloaded)
    · rcases hb.go h hi hf ht (Or.inl hr) with hdone | hgoes
      · exact Or.inl hdone
      · exact Or.inr (Or.inr hgoes)
  · rw [hj] at hr
    obtain rfl := Option.some.inj hr
    obtain ⟨hsettled, hdismissed | ⟨hfresh, hperforms, -⟩⟩ := h.allowed hi
    · -- the record was there before
      have hrecord := hm.dismisses hi hdismissed hid
      obtain ⟨r', hr', hrid⟩ := Option.map_eq_some_iff.1 hrecord
      rw [move_app hi]
      rcases ha.journal r' hr' with hlock | hunloaded | ⟨j, t, ht, hb⟩
      · rw [hrid] at hlock
        exact Or.inl hlock
      · exact Or.inr (Or.inl hunloaded)
      · have hne : j ≠ i := by
          rintro rfl
          obtain rfl := Option.some.inj (ht.1.symm.trans hi)
          exact not_settled_of_brings hb hsettled
        rw [hrid] at hb
        exact Or.inr (Or.inr ⟨j, t, going_other ht hne, hb⟩)
    · exact Or.inr (Or.inr (persisted_brings h hi hf hfresh hperforms))
  · rw [hj] at hr
    cases hr

theorem Agreed.move (h : Consistent s) (ha : Agreed s) (hd : Durable s) (hm : Orderly s m)
    (hu : Unfailed (appState.move s m)) : Agreed (appState.move s m) := by
  cases m with
  | begin k =>
      refine ⟨fun r hr => ?_, fun p hp => ?_, fun j t id ht hhand => ?_⟩
      · rcases ha.journal r hr with hlock | hunloaded | ⟨j, t, ht, hb⟩
        · exact Or.inl hlock
        · exact Or.inr (Or.inl hunloaded)
        · exact Or.inr (Or.inr ⟨j, t, going_begun ht, hb⟩)
      · rcases ha.lock p hp with hjournal | ⟨j, t, ht, hhand⟩
        · exact Or.inl hjournal
        · exact Or.inr ⟨j, t, going_begun ht, hhand⟩
      · rcases going_begin ht with hold | hstart
        · obtain ⟨hne, p, hp, hknown⟩ := ha.removed j t id hold hhand
          exact ⟨hne, p, hp, hknown.move _⟩
        · rw [hstart] at hhand
          cases hhand
  | go i x =>
      rcases Actor.move_go_cases (a := appState) s i x with ⟨k, done, c, f, hi⟩ | hsame
      · have hf := hu.answered hi
        exact ⟨ha.journal_go h hd hm hi hf, ha.lock_go h hd hm hi hf, ha.removed_go h hm hi⟩
      · rw [hsame]
        exact ha
  | outside o =>
      have hjournal : (appState.move s (.outside o)).shared.journal = s.shared.journal :=
        AppWorld.outside_journal
      have happ : (appState.move s (.outside o)).shared.app = (s.shared.outside o).app := rfl
      by_cases hends : o.ends = true
      · -- nothing goes on, and the journal is to be loaded
        have hlaunched := (happ.trans (AppWorld.outside_launched hends))
        have hnone : ∀ j t, ¬ Going (appState.move s (.outside o)) j t := by
          intro j t ht
          have hgoes := (going_outside ht).2
          rw [hends] at hgoes
          cases hgoes
        refine ⟨fun r hr => ?_, fun p hp => ?_, fun j t id ht => absurd ht (hnone j t)⟩
        · rw [hlaunched]
          exact Or.inr (Or.inl rfl)
        · rw [hlaunched] at hp
          cases hp
      · rw [Bool.not_eq_true] at hends
        have hkept := happ.trans (AppWorld.outside_app hends)
        refine ⟨fun r hr => ?_, fun p hp => ?_, fun j t id ht hhand => ?_⟩
        · rw [hjournal] at hr
          rw [hkept]
          rcases ha.journal r hr with hlock | hunloaded | ⟨j, t, ht, hb⟩
          · exact Or.inl hlock
          · exact Or.inr (Or.inl hunloaded)
          · exact Or.inr (Or.inr ⟨j, t, going_stays ht hends, hb⟩)
        · rw [hkept] at hp
          rw [hjournal]
          rcases ha.lock p hp with hl | ⟨j, t, ht, hhand⟩
          · exact Or.inl hl
          · exact Or.inr ⟨j, t, going_stays ht hends, hhand⟩
        · rw [hjournal]
          obtain ⟨hne, p, hp, hknown⟩ := ha.removed j t id (going_outside ht).1 hhand
          exact ⟨hne, p, hp, hknown.move _⟩

theorem mutates_of_performs {mutationID : String} (h : k.performs = some mutationID) :
    k.mutates = true := by
  cases k with
  | perform mutation id createdAt => rfl
  | _ => cases h

/-- Where nothing is outstanding they agree. -/
theorem Agreed.atRest (h : Consistent s) (ha : Agreed s) (hq : AtRest s) :
    s.shared.journal.map PendingMutation.mutationID
      = s.shared.app.pendingMutation.map PendingMutation.mutationID := by
  obtain ⟨hloaded, hnone⟩ := hq
  cases hpending : s.shared.app.pendingMutation with
  | some p =>
      rcases ha.lock p hpending with hjournal | ⟨j, t, ht, hhand⟩
      · exact hjournal
      · refine absurd ⟨ht.2, Or.inr (Or.inr ?_)⟩ (hnone t (List.mem_of_getElem? ht.1))
        rw [hhand]
        exact Hand.noConfusion
  | none =>
      cases hjournal : s.shared.journal with
      | none => rfl
      | some r =>
          rcases ha.journal r hjournal with hlock | hunloaded | ⟨j, t, ht, hb⟩
          · rw [hpending] at hlock
            cases hlock
          · rw [hloaded] at hunloaded
            cases hunloaded
          · have hout := hnone t (List.mem_of_getElem? ht.1)
            rcases hb with hhand | ⟨r', hhand, -⟩ | ⟨p, hstage, -⟩
            · refine absurd ⟨ht.2, Or.inr (Or.inr ?_)⟩ hout
              rw [hhand]
              exact Hand.noConfusion
            · refine absurd ⟨ht.2, Or.inr (Or.inr ?_)⟩ hout
              rw [hhand]
              exact Hand.noConfusion
            · have hown : (phase t).stage.pending = some p := by
                rw [hstage]
                rfl
              obtain ⟨hperforms, -⟩ := h.own t (List.mem_of_getElem? ht.1) p hown
              exact absurd ⟨ht.2, Or.inl (mutates_of_performs hperforms)⟩ hout

end Agreed

/-! ## Every run -/

/-- What an orderly run keeps. -/
structure Lawful (s : AppTasks) : Prop where
  consistent : Consistent s
  durable : Durable s
  sent : SentOnce s
  agreed : Unfailed s → Agreed s

theorem start_lawful (token : NamespaceToken) : Lawful (AppWorld.start token) := by
  refine ⟨start_consistent token, ?_, ⟨?_, ?_⟩, fun _ => ⟨?_, ?_, ?_⟩⟩
  · intro i t p ht
    cases ht.1
  · intro a p ha
    cases ha
  · intro a b p q ha
    cases ha
  · intro r hr
    cases hr
  · intro p hp
    cases hp
  · intro i t id ht
    cases ht.1

theorem Lawful.move {s : AppTasks} {m : AppMove} (h : Lawful s) (hm : Orderly s m) :
    Lawful (appState.move s m) where
  consistent := h.consistent.move hm.1
  durable := h.durable.move h.consistent hm
  sent := h.sent.move h.consistent m
  agreed := fun hu => (h.agreed hu.before).move h.consistent h.durable hm hu

/-- **The journal and the lock agree** in every run in which no call acts
on a record that is gone, or is yet to be sent. -/
theorem journalAgrees_of_orderly (token : NamespaceToken) (ms : List AppMove)
    (h : Transition.Along appState.move Orderly (AppWorld.start token) ms) :
    JournalAgrees (AppWorld.start token) ms := by
  have hlawful : ∀ ns, Transition.Along appState.move Orderly (AppWorld.start token) ns →
      Lawful (ns.foldl appState.move (AppWorld.start token)) := fun ns hns =>
    hns.invariant (P := Lawful) (fun _ _ hs hm => hs.move hm) (start_lawful token)
  have hend := hlawful ms h
  refine ⟨hend.sent.once, fun before i x after p j hms he => ?_, fun hu hq => ?_⟩
  · rw [hms] at h
    obtain ⟨hbefore, -⟩ := Transition.along_append.1 h
    have hthere := hlawful before hbefore
    obtain ⟨k, done, c, f, hi, hevent⟩ := Actor.event_eq_some.1 he
    obtain rfl : AppCall.connect (.mutation p) = c := congrArg Event.call hevent
    obtain ⟨-, hlocked⟩ := hthere.consistent.allowed hi
    refine hthere.durable i _ p (going_self hi) ?_
    show (phaseOf k done).stage.unsettled = some p
    rw [hlocked]
    rfl
  · exact (hend.agreed hu).atRest hend.consistent hq

/-! ## A dismissal -/

/-- The owner resumes; the request is lost on its way, and the owner
dismisses what is shown of it. -/
def dismisses : List AppMove :=
  launches ++ [.begin (.perform .resume "00000000-0000-4000-8000-000000000001" 7)]
    ++ List.replicate 6 (.go 2 answered) ++ [.go 2 { answered with delivered := false }]
    ++ List.replicate 3 (.go 2 answered) ++ [.begin .dismissMutationState]
    ++ List.replicate 4 (.go 3 answered)

/-- The daemon knows nothing of the mutation, and it is resolved. -/
def resolves : List AppMove :=
  [.outside (.lose 0), .go 2 answered, .outside (.handle 1 (.new .enforce "instance") 20)]
    ++ List.replicate 14 (.go 2 answered) ++ List.replicate 10 (.go 5 answered)

/-- The dismissal is written before the mutation is resolved. -/
def dismissedFirst : List AppMove := dismisses ++ [.go 4 answered] ++ resolves

/-- It is written after. -/
def dismissedLast : List AppMove := dismisses ++ resolves ++ [.go 4 answered]

theorem journalAgrees_dismissed :
    Transition.Along appState.move Orderly (AppWorld.start Store.sampleToken) dismissedFirst ∧
    JournalAgrees (AppWorld.start Store.sampleToken) dismissedFirst :=
  ⟨by decide +kernel, journalAgrees_of_orderly _ _ (by decide +kernel)⟩

/-- The record of a mutation that was resolved is in the journal again. -/
theorem dismissal_resurrects : ¬ ∀ (token : NamespaceToken) (ms : List AppMove),
    Transition.Along appState.move Comes (AppWorld.start token) ms →
    JournalAgrees (AppWorld.start token) ms := by
  intro hall
  have hrun := hall Store.sampleToken dismissedLast (by decide +kernel)
  have hu : Unfailed (dismissedLast.foldl appState.move (AppWorld.start Store.sampleToken)) := by
    decide +kernel
  have hrest : AtRest (dismissedLast.foldl appState.move (AppWorld.start Store.sampleToken)) := by
    decide +kernel
  have hdiffer : ¬ ((dismissedLast.foldl appState.move
        (AppWorld.start Store.sampleToken)).shared.journal.map PendingMutation.mutationID
      = (dismissedLast.foldl appState.move
        (AppWorld.start Store.sampleToken)).shared.app.pendingMutation.map
          PendingMutation.mutationID) := by
    decide +kernel
  exact hdiffer (hrun.agrees hu hrest)

end App

end Unlinger
