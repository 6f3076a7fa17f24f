import Unlinger.App.Helpers.Protocol

/-!
# The journal, the lock, and what the tasks know

Whatever moves are made, the mutations in the journal, in the lock and
with the tasks are ones that calls of `perform` gave to the journal, each
call its own; and between two accesses a task sees the lock as it is.
-/

namespace Unlinger

namespace App

open Interaction

/-! ## The moves -/

/-- The calls the App is asked to make; the others it makes itself. -/
def AppMethod.asked : AppMethod → Bool
  | .persistDismissed _ | .runRefreshLoop _ => false
  | _ => true

/-- A move as it can come: a task goes on where it may, and the id of a
mutation is drawn anew. -/
def Comes (s : AppTasks) : AppMove → Prop
  | .begin k => k.asked = true ∧
      ∀ t ∈ s.tasks, ∀ mutationID ∈ k.performs, t.call.performs ≠ some mutationID
  | m => appState.May s m

instance Comes.decidable (s : AppTasks) (m : AppMove) : Decidable (Comes s m) := by
  cases m with
  | begin k =>
      unfold Comes
      infer_instance
  | go i x =>
      unfold Comes
      infer_instance
  | outside o =>
      unfold Comes
      infer_instance

/-- Where a task is. -/
def phase (t : AppTask) : Phase := phaseOf t.call t.done

/-- A task that is not over, by its number. -/
def Going (s : AppTasks) (i : Nat) (t : AppTask) : Prop :=
  s.tasks[i]? = some t ∧ t.rest.ended = false

/-- A call of `perform` gave the mutation to the journal. -/
def Known (s : AppTasks) (pending : PendingMutation) : Prop :=
  ∃ t ∈ s.tasks, t.call.performs = some pending.mutationID ∧
    (phase t).stage.pending = some pending.undismissed

/-! ## The surroundings, field by field -/

namespace AppWorld

variable {s : AppWorld} {o : AppOutside}

theorem outside_journal : (s.outside o).journal = s.journal := by
  cases o with
  | handle i status now =>
      unfold outside
      dsimp only
      cases s.openRequest i <;> rfl
  | refuse i reason =>
      unfold outside
      dsimp only
      split_ifs <;> rfl
  | lose i =>
      unfold outside
      dsimp only
      split_ifs <;> rfl
  | work op => rfl
  | relaunch => rfl

theorem outside_app (h : o.ends = false) : (s.outside o).app = s.app := by
  cases o with
  | handle i status now =>
      unfold outside
      dsimp only
      cases s.openRequest i <;> rfl
  | refuse i reason =>
      unfold outside
      dsimp only
      split_ifs <;> rfl
  | lose i =>
      unfold outside
      dsimp only
      split_ifs <;> rfl
  | work op => rfl
  | relaunch => cases h

theorem outside_launched (h : o.ends = true) : (s.outside o).app = .launched := by
  cases o with
  | relaunch => rfl
  | _ => cases h

/-- Only one call changes the lock. -/
theorem accessed_pending {a : AppState} {c : AppCall} :
    (accessed a c).pendingMutation = a.pendingMutation ∨
      ∃ value, c = .setPendingMutation value ∧ (accessed a c).pendingMutation = value := by
  cases c with
  | setPendingMutation value => exact Or.inr ⟨value, rfl, rfl⟩
  | finishRefresh refresh =>
      unfold accessed
      dsimp only
      split_ifs <;> exact Or.inl rfl
  | _ => exact Or.inl rfl

/-- What is awaited leaves the fields as they are. -/
theorem accessed_of_not_access {a : AppState} {c : AppCall} (h : access c = false) :
    accessed a c = a := by
  cases c with
  | load => rfl
  | persist pending => rfl
  | remove mutationID => rfl
  | connect request => rfl
  | receive request connection => rfl
  | fetchRefreshSnapshot => rfl
  | notify => rfl
  | awaitRefresh => rfl
  | _ => cases h

/-- The journal changes by what is persisted and removed in it. -/
theorem journaled_cases (record : Option PendingMutation) (e : AppEvent) :
    journaled record e = record ∨
      (∃ pending, e.call = .persist pending ∧ journaled record e = some pending) ∨
      ((∃ mutationID, e.call = .remove mutationID) ∧ journaled record e = none) := by
  obtain ⟨c, r⟩ := e
  cases c with
  | persist pending =>
      unfold journaled
      dsimp only
      split_ifs
      · exact Or.inr (Or.inl ⟨pending, rfl, rfl⟩)
      · exact Or.inl rfl
  | remove mutationID =>
      unfold journaled
      dsimp only
      split_ifs
      · exact Or.inr (Or.inr ⟨⟨mutationID, rfl⟩, rfl⟩)
      · exact Or.inl rfl
  | _ => exact Or.inl rfl

/-- A task the App starts itself that persists a dismissal. -/
theorem spawns_dismissed {e : AppEvent} {pending : PendingMutation}
    (h : AppMethod.persistDismissed pending ∈ spawns e) : e.call = .detachPersist pending := by
  obtain ⟨c, r⟩ := e
  cases c with
  | detachPersist p =>
      obtain rfl := AppMethod.persistDismissed.inj (List.mem_singleton.1 h)
      rfl
  | startRefresh epoch => cases List.mem_singleton.1 h
  | nextRound epoch => cases List.mem_singleton.1 h
  | _ => cases h

/-- No task the App starts itself performs a mutation. -/
theorem spawns_performs {e : AppEvent} {k : AppMethod} (h : k ∈ spawns e) : k.performs = none := by
  obtain ⟨c, r⟩ := e
  cases c with
  | detachPersist p =>
      obtain rfl := List.mem_singleton.1 h
      rfl
  | startRefresh epoch =>
      obtain rfl := List.mem_singleton.1 h
      rfl
  | nextRound epoch =>
      obtain rfl := List.mem_singleton.1 h
      rfl
  | _ => cases h

end AppWorld

namespace MutationJournal

variable {record : Option PendingMutation} {fault : Option Bool}

/-- What is loaded is what is there. -/
theorem load_eq_ok {found : Option PendingMutation} (h : load record fault = .ok found) :
    found = record := by
  unfold load at h
  cases fault with
  | some changed => cases h
  | none =>
      dsimp only at h
      split_ifs at h
      exact (Except.ok.inj h).symm

/-- A record is written beside none of another mutation. -/
theorem persist_took {pending : PendingMutation} (h : took (persist record pending fault) = true) :
    ∀ existing ∈ record, existing.mutationID = pending.mutationID := by
  intro existing hexisting
  rw [Option.mem_def] at hexisting
  subst hexisting
  by_contra hne
  unfold persist at h
  split_ifs at h with hinvalid hoccupied
  · cases h
  · cases h
  · refine hoccupied ?_
    show (existing.mutationID != pending.mutationID) = true
    exact bne_iff_ne.2 hne

/-- A record is removed by the id of its mutation. -/
theorem remove_took {mutationID : String} (h : took (remove record mutationID fault) = true) :
    ∀ existing ∈ record, existing.mutationID = mutationID := by
  intro existing hexisting
  rw [Option.mem_def] at hexisting
  subst hexisting
  by_contra hne
  unfold remove at h
  dsimp only at h
  rw [if_pos hne] at h
  cases h

end MutationJournal

/-! ## What is known -/

section Known

variable {s : AppTasks} {k : AppMethod} {stage : Stage} {e : AppEvent} {p q : PendingMutation}

/-- A stage has a mutation from before, or was just given it. -/
theorem Stage.pending_after_cases (h : (stage.after k e).pending = some p) :
    stage.pending = some p ∨
      (stage = .fresh ∧ e.call = .persist p ∧ k.performs = some p.mutationID) := by
  obtain ⟨c, r⟩ := e
  unfold Stage.after at h
  cases c with
  | persist q =>
      dsimp only at h
      split_ifs at h with hown
      · obtain ⟨hfresh, hperforms⟩ := hown
        have hpq : q = p := by
          cases r <;> exact Option.some.inj h
        subst hpq
        exact Or.inr ⟨hfresh, rfl, hperforms⟩
      · exact Or.inl h
  | setPendingMutation value => cases stage <;> exact Or.inl h
  | connect request =>
      cases request with
      | mutation q =>
          cases stage with
          | locked q' => cases r <;> exact Or.inl h
          | _ => exact Or.inl h
      | mutationStatus context => exact Or.inl h
  | _ => exact Or.inl h

theorem Stage.pending_of_unsettled {stage : Stage} (h : stage.unsettled = some p) :
    stage.pending = some p := by
  cases stage <;> first | exact h | cases h

/-- A stage is unsettled by a record that is persisted. -/
theorem Stage.unsettled_after {stage : Stage} {e : AppEvent}
    (h : (stage.after k e).unsettled = some p) :
    stage.unsettled = some p ∨ (e = ⟨.persist p, .ok ()⟩ ∧ stage = .fresh ∧
      k.performs = some p.mutationID) := by
  obtain ⟨c, r⟩ := e
  unfold Stage.after at h
  cases c with
  | persist q =>
      dsimp only at h
      split_ifs at h with hown
      · cases r with
        | ok u =>
            obtain rfl := Option.some.inj h
            exact Or.inr ⟨rfl, hown⟩
        | error e => cases h
      · exact Or.inl h
  | setPendingMutation value => cases stage <;> exact Or.inl h
  | connect request =>
      cases request with
      | mutation q =>
          cases stage with
          | locked q' => cases r <;> cases h
          | _ => exact Or.inl h
      | mutationStatus context => exact Or.inl h
  | _ => exact Or.inl h

theorem Known.move (h : Known s p) (m : AppMove) : Known (appState.move s m) p := by
  obtain ⟨t, ht, hperforms, hstage⟩ := h
  obtain ⟨j, hj⟩ := List.mem_iff_getElem?.1 ht
  obtain ⟨u, hu, hcall, hdone⟩ := Actor.move_grows (a := appState) m hj
  refine ⟨u, List.mem_of_getElem? hu, ?_, ?_⟩
  · rw [hcall]
    exact hperforms
  · unfold phase
    rw [hcall]
    exact phaseOf_mono (P := fun φ => φ.stage.pending = some p.undismissed)
      (fun _ _ hφ => Stage.pending_after hφ) hdone hstage

/-- Whether it is dismissed has no part in it. -/
theorem Known.of_undismissed (h : Known s p) (hpq : p.undismissed = q.undismissed) :
    Known s q := by
  have hid : p.undismissed.mutationID = q.undismissed.mutationID := by rw [hpq]
  obtain ⟨t, ht, hperforms, hstage⟩ := h
  exact ⟨t, ht, hperforms.trans (congrArg some hid), hstage.trans (congrArg some hpq)⟩

end Known

/-! ## The invariant -/

/-- **What holds of the App** whatever moves are made. -/
structure Consistent (s : AppTasks) : Prop where
  keeping : Actor.Keeping Conforms Done s
  distinct : ∀ (i j : Nat) (t u : AppTask) (mutationID : String), s.tasks[i]? = some t →
    s.tasks[j]? = some u → t.call.performs = some mutationID →
    u.call.performs = some mutationID → i = j
  own : ∀ t ∈ s.tasks, ∀ p, (phase t).stage.pending = some p →
    t.call.performs = some p.mutationID ∧ p.undismissed = p
  /-- what a task saw since it last awaited something is still so -/
  saw : ∀ (i : Nat) (t : AppTask) c x, s.tasks[i]? = some t → t.rest.next = some c →
    AppWorld.access c = true → (phase t).saw = some x →
    s.running = some i ∧ s.shared.app.pendingMutation = x
  journal : ∀ p ∈ s.shared.journal, Known s p
  lock : ∀ p ∈ s.shared.app.pendingMutation, Known s p
  heard : ∀ t ∈ s.tasks, ∀ p ∈ (phase t).heard, Known s p
  dismissed : ∀ t ∈ s.tasks, ∀ p, t.call = .persistDismissed p → Known s p

theorem start_consistent (token : NamespaceToken) : Consistent (AppWorld.start token) := by
  refine ⟨?_, ?_, ?_, ?_, ?_, ?_, ?_, ?_⟩
  · intro t ht
    cases ht
  · intro i j t u mutationID ht
    cases ht
  · intro t ht
    cases ht
  · intro i t c x ht
    cases ht
  · intro p hp
    cases hp
  · intro p hp
    cases hp
  · intro t ht
    cases ht
  · intro t ht
    cases ht

section Step

variable {s : AppTasks} {i : Nat} {x : AppChoice} {k : AppMethod} {done : AppTrace} {c : AppCall}
  {f : c.Answer → AppProg Unit} {p q : PendingMutation}

/-- Mutations of one id are one mutation. -/
theorem Consistent.same (h : Consistent s) (hp : Known s p) (hq : Known s q)
    (hid : p.mutationID = q.mutationID) : p.undismissed = q.undismissed := by
  obtain ⟨t, ht, htp, hts⟩ := hp
  obtain ⟨u, hu, hup, hus⟩ := hq
  obtain ⟨a, ha⟩ := List.mem_iff_getElem?.1 ht
  obtain ⟨b, hb⟩ := List.mem_iff_getElem?.1 hu
  rw [← hid] at hup
  obtain rfl := h.distinct a b t u _ ha hb htp hup
  obtain rfl := Option.some.inj (ha.symm.trans hb)
  exact Option.some.inj (hts.symm.trans hus)

/-- What is next of a task is allowed where it is. -/
theorem Consistent.allowed (h : Consistent s) (hi : s.tasks[i]? = some ⟨k, done, .call c f⟩) :
    Allowed k (phaseOf k done) c := (h.keeping.next hi).1.1

/-- A task that had itself persist a mutation knows it. -/
theorem Consistent.known_own (h : Consistent s) {t : AppTask} (ht : t ∈ s.tasks)
    (hp : (phase t).stage.pending = some p) : Known s p := by
  obtain ⟨hperforms, hsame⟩ := h.own t ht p hp
  refine ⟨t, ht, hperforms, ?_⟩
  rw [hsame]
  exact hp

/-- What is persisted was known, or is the task's own. -/
theorem Consistent.persists {g : (AppCall.persist p).Answer → AppProg Unit} (h : Consistent s)
    (hi : s.tasks[i]? = some ⟨k, done, .call (.persist p) g⟩) :
    Known s p ∨ ((phaseOf k done).stage = .fresh ∧ k.performs = some p.mutationID ∧
      p.undismissed = p) := by
  obtain ⟨-, hdismissed | hown⟩ := h.allowed hi
  · exact Or.inl (h.dismissed _ (List.mem_of_getElem? hi) p hdismissed)
  · exact Or.inr hown

/-- What was persisted is known. -/
theorem Consistent.persisted {g : (AppCall.persist p).Answer → AppProg Unit} (h : Consistent s)
    (hi : s.tasks[i]? = some ⟨k, done, .call (.persist p) g⟩) :
    Known (appState.move s (.go i x)) p := by
  rcases h.persists hi with hknown | ⟨hfresh, hperforms, hsame⟩
  · exact hknown.move _
  · refine ⟨_, List.mem_of_getElem? (Actor.go_self hi), hperforms, ?_⟩
    show (phaseOf k (done ++ [⟨.persist p, _⟩])).stage.pending = some p.undismissed
    rw [stage_append, hfresh, hsame]
    show (if Stage.fresh = .fresh ∧ k.performs = some p.mutationID then
      Stage.persistEnds p _ else Stage.fresh).pending = some p
    rw [if_pos ⟨rfl, hperforms⟩]
    cases (appState.answer s.shared (.persist p) x) <;> rfl

/-- What is put into the lock is known. -/
theorem Consistent.puts {value : Option PendingMutation}
    {g : (AppCall.setPendingMutation value).Answer → AppProg Unit} (h : Consistent s)
    (hi : s.tasks[i]? = some ⟨k, done, .call (.setPendingMutation value) g⟩) :
    ∀ p ∈ value, Known s p := by
  intro p hp
  have ht := List.mem_of_getElem? hi
  rcases h.allowed hi with ⟨-, -, hheard⟩ | ⟨-, q, hstage, rfl⟩ | ⟨-, rfl, -⟩ | ⟨-, q, hsaw, rfl⟩
  · exact (h.heard _ ht _ (hheard p hp)).of_undismissed rfl
  · obtain rfl := Option.some.inj hp
    refine h.known_own ht ?_
    show (phaseOf k done).stage.pending = some q
    rw [hstage]
    rfl
  · cases hp
  · obtain rfl := Option.some.inj hp
    obtain ⟨-, hlock⟩ := h.saw i _ _ _ hi rfl rfl hsaw
    exact (h.lock q hlock).of_undismissed rfl

/-- What an event tells of is known. -/
theorem Consistent.told (h : Consistent s) (hi : s.tasks[i]? = some ⟨k, done, .call c f⟩) :
    ∀ p ∈ Phase.told ⟨c, appState.answer s.shared c x⟩, Known (appState.move s (.go i x)) p := by
  intro p hp
  cases c with
  | read => exact (h.lock p (Option.mem_toList.1 hp)).move _
  | load =>
      have hload : ∃ found, MutationJournal.load s.shared.journal x.journal = .ok found ∧
          p ∈ found := by
        have hp' : p ∈ Phase.told ⟨.load, MutationJournal.load s.shared.journal x.journal⟩ := hp
        cases hr : MutationJournal.load s.shared.journal x.journal with
        | error e =>
            rw [hr] at hp'
            cases hp'
        | ok found =>
            rw [hr] at hp'
            exact ⟨found, rfl, Option.mem_toList.1 hp'⟩
      obtain ⟨found, hfound, hmem⟩ := hload
      obtain rfl := MutationJournal.load_eq_ok hfound
      exact (h.journal p hmem).move _
  | persist pending =>
      obtain rfl := List.mem_singleton.1 hp
      exact h.persisted hi
  | _ => cases hp

/-! ## One move -/

theorem move_journal (hi : s.tasks[i]? = some ⟨k, done, .call c f⟩) :
    (appState.move s (.go i x)).shared.journal
      = AppWorld.journaled s.shared.journal ⟨c, appState.answer s.shared c x⟩ := by
  rw [Actor.move_go hi]
  rfl

theorem move_app (hi : s.tasks[i]? = some ⟨k, done, .call c f⟩) :
    (appState.move s (.go i x)).shared.app = AppWorld.accessed s.shared.app c := by
  rw [Actor.move_go hi]
  rfl

theorem move_running (hi : s.tasks[i]? = some ⟨k, done, .call c f⟩) :
    (appState.move s (.go i x)).running = if AppWorld.access c then some i else s.running := by
  rw [Actor.move_go hi]
  rfl

theorem phase_went {r : c.Answer} {rest : AppProg Unit} :
    phase ⟨k, done ++ [⟨c, r⟩], rest⟩ = (phaseOf k done).after k ⟨c, r⟩ := phaseOf_append

/-- A task that has just begun is nowhere yet. -/
theorem phase_started : phase (appState.started k) = Phase.start := rfl

/-- The tasks after a move, seen one by one: what they do or did before,
the one that went on, and those that have just begun. -/
theorem move_task {m : AppMove} {j : Nat} {u : AppTask}
    (hu : (appState.move s m).tasks[j]? = some u) :
    (∃ v, s.tasks[j]? = some v ∧ u.call = v.call ∧ u.done = v.done ∧
      (u.rest.ended = false → u = v)) ∨
    (∃ x k done c f, m = .go j x ∧ s.tasks[j]? = some ⟨k, done, .call c f⟩ ∧
      u = ⟨k, done ++ [⟨c, appState.answer s.shared c x⟩], f (appState.answer s.shared c x)⟩) ∨
    (s.tasks.length ≤ j ∧ ∃ k, u = appState.started k ∧ (m = .begin k ∨
      ∃ i x k' done c f, m = .go i x ∧ s.tasks[i]? = some ⟨k', done, .call c f⟩ ∧
        k ∈ AppWorld.spawns ⟨c, appState.answer s.shared c x⟩)) := by
  cases m with
  | begin k =>
      rcases Actor.begin_task hu with hold | ⟨hge, rfl⟩
      · exact Or.inl ⟨u, hold, rfl, rfl, fun _ => rfl⟩
      · exact Or.inr (Or.inr ⟨hge, k, rfl, Or.inl rfl⟩)
  | go i x =>
      rcases Actor.move_go_cases (a := appState) s i x with ⟨k, done, c, f, hi⟩ | hsame
      · rcases Actor.go_task hi hu with ⟨rfl, rfl⟩ | ⟨-, hold⟩ | ⟨hge, k', hk', rfl⟩
        · exact Or.inr (Or.inl ⟨x, k, done, c, f, rfl, hi, rfl⟩)
        · exact Or.inl ⟨u, hold, rfl, rfl, fun _ => rfl⟩
        · exact Or.inr (Or.inr ⟨hge, k', rfl, Or.inr ⟨i, x, k, done, c, f, rfl, hi, hk'⟩⟩)
      · rw [hsame] at hu
        exact Or.inl ⟨u, hu, rfl, rfl, fun _ => rfl⟩
  | outside o =>
      obtain ⟨v, hv, hcall, hdone, hopen⟩ := Actor.outside_task hu
      exact Or.inl ⟨v, hv, hcall, hdone, fun h => (hopen h).1⟩

variable {m : AppMove}

/-- A task that has just begun and performs a mutation was asked to. -/
theorem started_performs {mutationID : String} (hm : Comes s m) (hk : k.performs = some mutationID)
    (h : m = .begin k ∨ ∃ i x k' done c f, m = .go i x ∧
      s.tasks[i]? = some ⟨k', done, .call c f⟩ ∧
      k ∈ AppWorld.spawns ⟨c, appState.answer s.shared c x⟩) :
    ∀ t ∈ s.tasks, t.call.performs ≠ some mutationID := by
  rcases h with rfl | ⟨i, x, k', done, c, f, rfl, hi, hspawns⟩
  · exact fun t ht => hm.2 t ht mutationID hk
  · rw [AppWorld.spawns_performs hspawns] at hk
    cases hk

theorem Consistent.distinct_move (h : Consistent s) (hm : Comes s m) :
    ∀ (i j : Nat) (t u : AppTask) (mutationID : String),
      (appState.move s m).tasks[i]? = some t → (appState.move s m).tasks[j]? = some u →
      t.call.performs = some mutationID → u.call.performs = some mutationID → i = j := by
  -- a task has its call from before, or has it from this very move
  have hbefore : ∀ (i : Nat) (t : AppTask) (mutationID : String),
      (appState.move s m).tasks[i]? = some t → t.call.performs = some mutationID →
      (∃ v, s.tasks[i]? = some v ∧ v.call.performs = some mutationID) ∨
      (m = .begin t.call ∧ i = s.tasks.length ∧
        ∀ v ∈ s.tasks, v.call.performs ≠ some mutationID) := by
    intro i t mutationID hi ht
    rcases move_task hi with ⟨v, hv, hcall, -, -⟩ | ⟨x, k, done, c, f, -, hv, rfl⟩ |
      ⟨hge, k, rfl, hfrom⟩
    · exact Or.inl ⟨v, hv, by rw [← hcall]; exact ht⟩
    · exact Or.inl ⟨_, hv, ht⟩
    · have hnew := started_performs hm ht hfrom
      rcases hfrom with rfl | ⟨i', x, k', done, c, f, rfl, hi', hspawns⟩
      · refine Or.inr ⟨rfl, ?_, hnew⟩
        have hlen : i < (s.tasks ++ [appState.started k]).length :=
          (List.getElem?_eq_some_iff.1 hi).1
        rw [List.length_append, List.length_singleton] at hlen
        omega
      · have ht' : k.performs = some mutationID := ht
        rw [AppWorld.spawns_performs hspawns] at ht'
        cases ht'
  intro i j t u mutationID hi hj ht hu
  rcases hbefore i t mutationID hi ht with ⟨v, hv, hvp⟩ | ⟨-, rfl, hnew⟩
  · rcases hbefore j u mutationID hj hu with ⟨w, hw, hwp⟩ | ⟨-, -, hnew⟩
    · exact h.distinct i j v w mutationID hv hw hvp hwp
    · exact absurd hvp (hnew v (List.mem_of_getElem? hv))
  · rcases hbefore j u mutationID hj hu with ⟨w, hw, hwp⟩ | ⟨-, rfl, -⟩
    · exact absurd hwp (hnew w (List.mem_of_getElem? hw))
    · rfl

theorem Consistent.own_move (h : Consistent s) :
    ∀ t ∈ (appState.move s m).tasks, ∀ p, (phase t).stage.pending = some p →
      t.call.performs = some p.mutationID ∧ p.undismissed = p := by
  intro t ht p hp
  obtain ⟨j, hj⟩ := List.mem_iff_getElem?.1 ht
  rcases move_task hj with ⟨v, hv, hcall, hdone, -⟩ | ⟨x, k, done, c, f, -, hv, rfl⟩ |
    ⟨-, k, rfl, -⟩
  · unfold phase at hp
    rw [hcall, hdone] at hp
    rw [hcall]
    exact h.own v (List.mem_of_getElem? hv) p hp
  · have hold := h.own _ (List.mem_of_getElem? hv)
    rw [phase_went] at hp
    rcases Stage.pending_after_cases hp with hp' | ⟨hfresh, hpersist, hperforms⟩
    · exact hold p hp'
    · have hc : c = .persist p := hpersist
      subst hc
      refine ⟨hperforms, ?_⟩
      obtain ⟨-, hdismissed | ⟨-, -, hsame⟩⟩ := h.allowed hv
      · rw [hdismissed] at hperforms
        cases hperforms
      · exact hsame
  · rw [phase_started] at hp
    cases hp

theorem Consistent.journal_move (h : Consistent s) :
    ∀ p ∈ (appState.move s m).shared.journal, Known (appState.move s m) p := by
  intro p hp
  cases m with
  | begin k => exact (h.journal p hp).move _
  | go i x =>
      rcases Actor.move_go_cases (a := appState) s i x with ⟨k, done, c, f, hi⟩ | hsame
      · rw [move_journal hi] at hp
        rcases AppWorld.journaled_cases s.shared.journal
          ⟨c, appState.answer s.shared c x⟩ with hj | ⟨q, hc, hj⟩ | ⟨-, hj⟩
        · rw [hj] at hp
          exact (h.journal p hp).move _
        · rw [hj] at hp
          obtain rfl := Option.some.inj hp
          have hc' : c = .persist q := hc
          subst hc'
          exact h.persisted hi
        · rw [hj] at hp
          cases hp
      · rw [hsame] at hp ⊢
        exact h.journal p hp
  | outside o =>
      have hp' : p ∈ (s.shared.outside o).journal := hp
      rw [AppWorld.outside_journal] at hp'
      exact (h.journal p hp').move _

theorem Consistent.lock_move (h : Consistent s) :
    ∀ p ∈ (appState.move s m).shared.app.pendingMutation, Known (appState.move s m) p := by
  intro p hp
  cases m with
  | begin k => exact (h.lock p hp).move _
  | go i x =>
      rcases Actor.move_go_cases (a := appState) s i x with ⟨k, done, c, f, hi⟩ | hsame
      · rw [move_app hi] at hp
        rcases AppWorld.accessed_pending (a := s.shared.app) (c := c) with hsame | ⟨v, rfl, hv⟩
        · rw [hsame] at hp
          exact (h.lock p hp).move _
        · rw [hv] at hp
          exact (h.puts hi p hp).move _
      · rw [hsame] at hp ⊢
        exact h.lock p hp
  | outside o =>
      have hp' : p ∈ (s.shared.outside o).app.pendingMutation := hp
      by_cases hends : o.ends = true
      · rw [AppWorld.outside_launched hends] at hp'
        cases hp'
      · rw [Bool.not_eq_true] at hends
        rw [AppWorld.outside_app hends] at hp'
        exact (h.lock p hp').move _

theorem Consistent.heard_move (h : Consistent s) :
    ∀ t ∈ (appState.move s m).tasks, ∀ p ∈ (phase t).heard, Known (appState.move s m) p := by
  intro t ht p hp
  obtain ⟨j, hj⟩ := List.mem_iff_getElem?.1 ht
  rcases move_task hj with ⟨v, hv, hcall, hdone, -⟩ | ⟨x, k, done, c, f, rfl, hv, rfl⟩ |
    ⟨-, k, rfl, -⟩
  · unfold phase at hp
    rw [hcall, hdone] at hp
    exact (h.heard v (List.mem_of_getElem? hv) p hp).move _
  · rw [phase_went] at hp
    rcases List.mem_append.1 hp with hp' | hp'
    · exact (h.heard _ (List.mem_of_getElem? hv) p hp').move _
    · obtain ⟨q, hq, rfl⟩ := List.mem_map.1 hp'
      exact (h.told hv q hq).of_undismissed rfl
  · rw [phase_started] at hp
    cases hp

theorem Consistent.dismissed_move (h : Consistent s) (hm : Comes s m) :
    ∀ t ∈ (appState.move s m).tasks, ∀ p, t.call = .persistDismissed p →
      Known (appState.move s m) p := by
  intro t ht p hp
  obtain ⟨j, hj⟩ := List.mem_iff_getElem?.1 ht
  rcases move_task hj with ⟨v, hv, hcall, -, -⟩ | ⟨x, k, done, c, f, -, hv, rfl⟩ |
    ⟨-, k, rfl, hfrom⟩
  · rw [hcall] at hp
    exact (h.dismissed v (List.mem_of_getElem? hv) p hp).move _
  · exact (h.dismissed _ (List.mem_of_getElem? hv) p hp).move _
  · have hk : k = .persistDismissed p := hp
    subst hk
    rcases hfrom with rfl | ⟨i, x, k', done, c, f, rfl, hi, hspawns⟩
    · cases hm.1
    · have hc : c = .detachPersist p := AppWorld.spawns_dismissed hspawns
      subst hc
      obtain ⟨-, hheard⟩ := h.allowed hi
      exact ((h.heard _ (List.mem_of_getElem? hi) _ hheard).of_undismissed rfl).move _

/-- What a task sees after an event is the lock after it. -/
theorem sawAfter_cases {saw : Option (Option PendingMutation)} {e : AppEvent}
    {x : Option PendingMutation} (h : Phase.sawAfter saw e = some x) :
    (∃ a : AppState, e = ⟨.read, a⟩ ∧ a.pendingMutation = x) ∨
    (saw = some x ∧ AppWorld.access e.call = true ∧ ∀ value, e.call ≠ .setPendingMutation value) := by
  obtain ⟨c, r⟩ := e
  unfold Phase.sawAfter at h
  cases c with
  | read => exact Or.inl ⟨r, rfl, Option.some.inj h⟩
  | setPendingMutation value => cases h
  | _ =>
      dsimp only at h
      split_ifs at h with haccess
      refine Or.inr ⟨h, haccess, fun value hvalue => ?_⟩
      cases hvalue

theorem Consistent.saw_move (h : Consistent s) (hm : Comes s m) :
    ∀ (j : Nat) (t : AppTask) c' y, (appState.move s m).tasks[j]? = some t →
      t.rest.next = some c' → AppWorld.access c' = true → (phase t).saw = some y →
      (appState.move s m).running = some j ∧
        (appState.move s m).shared.app.pendingMutation = y := by
  intro j t c' y hj hnext haccess hsaw
  have hopen : t.rest.ended = false := by
    cases hrest : t.rest with
    | call c f => rfl
    | ret v =>
        rw [hrest] at hnext
        cases hnext
    | throw e => exact e.elim
  cases m with
  | begin k =>
      rcases Actor.begin_task hj with hold | ⟨-, rfl⟩
      · exact h.saw j t c' y hold hnext haccess hsaw
      · cases hsaw
  | go i x =>
      rcases Actor.move_go_cases (a := appState) s i x with ⟨k, done, c, f, hi⟩ | hsame
      · rw [move_running hi, move_app hi]
        rcases Actor.go_task hi hj with ⟨rfl, rfl⟩ | ⟨hne, hold⟩ | ⟨-, k', -, rfl⟩
        · rw [phase_went] at hsaw
          rcases sawAfter_cases hsaw with ⟨a, ha, hpending⟩ | ⟨hbefore, haccess', hnot⟩
          · obtain rfl : c = .read := congrArg Event.call ha
            obtain rfl : appState.answer s.shared .read x = a := eq_of_heq (Event.mk.inj ha).2
            exact ⟨rfl, hpending⟩
          · obtain ⟨-, hlock⟩ := h.saw j _ c y hi rfl haccess' hbefore
            refine ⟨if_pos haccess', ?_⟩
            rcases AppWorld.accessed_pending (a := s.shared.app) (c := c) with hkept | ⟨v, hv, -⟩
            · rw [hkept]
              exact hlock
            · exact absurd hv (hnot v)
        · -- the lock is only accessed where no other task is between two accesses
          obtain ⟨hrunning, hlock⟩ := h.saw j t c' y hold hnext haccess hsaw
          have hawaits : AppWorld.access c = false := by
            by_contra hc
            rw [Bool.not_eq_false] at hc
            obtain ⟨t', ht', c'', hc'', hyielded⟩ := hm
            obtain rfl := Option.some.inj (hi.symm.trans ht')
            obtain rfl := Option.some.inj hc''
            rcases hyielded hc j hrunning with heq | hother
            · exact hne heq
            · have hfalse := hother t hold c' hnext
              have htrue : appState.access c' = true := haccess
              rw [htrue] at hfalse
              cases hfalse
          rw [hawaits, AppWorld.accessed_of_not_access hawaits]
          exact ⟨hrunning, hlock⟩
        · cases hsaw
      · rw [hsame] at hj ⊢
        exact h.saw j t c' y hj hnext haccess hsaw
  | outside o =>
      obtain ⟨v, hv, -, -, hsame⟩ := Actor.outside_task hj
      obtain ⟨rfl, hends⟩ := hsame hopen
      obtain ⟨hrunning, hlock⟩ := h.saw j t c' y hv hnext haccess hsaw
      have hends' : o.ends = false := hends
      refine ⟨?_, ?_⟩
      · show (if appState.ends o then none else s.running) = some j
        rw [hends]
        exact hrunning
      · show (s.shared.outside o).app.pendingMutation = y
        rw [AppWorld.outside_app hends']
        exact hlock

/-- **One move.** -/
theorem Consistent.move (h : Consistent s) (hm : Comes s m) : Consistent (appState.move s m) where
  keeping := h.keeping.move program_conforms m
  distinct := h.distinct_move hm
  own := h.own_move
  saw := h.saw_move hm
  journal := h.journal_move
  lock := h.lock_move
  heard := h.heard_move
  dismissed := h.dismissed_move hm

end Step

end App

end Unlinger
