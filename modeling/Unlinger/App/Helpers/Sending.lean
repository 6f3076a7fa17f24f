import Unlinger.App.Helpers.Journal

/-!
# What is sent

Each mutation is sent by the call of `perform` that made it, and once,
whatever moves are made.
-/

namespace Unlinger

namespace App

open Interaction

/-! ## Tasks that go on -/

section Going

variable {s : AppTasks} {i j : Nat} {x : AppChoice} {k : AppMethod} {done : AppTrace}
  {c : AppCall} {f : c.Answer → AppProg Unit} {t u : AppTask} {p : PendingMutation}

/-- The task after the answer to its call. -/
def went (s : AppTasks) (x : AppChoice) (k : AppMethod) (done : AppTrace) (c : AppCall)
    (f : c.Answer → AppProg Unit) : AppTask :=
  ⟨k, done ++ [⟨c, appState.answer s.shared c x⟩], f (appState.answer s.shared c x)⟩

theorem going_self (hi : s.tasks[i]? = some ⟨k, done, .call c f⟩) :
    Going s i ⟨k, done, .call c f⟩ := ⟨hi, rfl⟩

theorem going_other (ht : Going s j t) (hne : j ≠ i) : Going (appState.move s (.go i x)) j t :=
  ⟨Actor.go_other hne ht.1, ht.2⟩

theorem phase_of_went :
    phase (went s x k done c f)
      = (phaseOf k done).after k ⟨c, appState.answer s.shared c x⟩ := phaseOf_append

/-- A task in the middle of something is not over. -/
theorem Consistent.went_going (h : Consistent s)
    (hi : s.tasks[i]? = some ⟨k, done, .call c f⟩)
    (hunsettled : ¬ (phase (went s x k done c f)).Settled) :
    Going (appState.move s (.go i x)) i (went s x k done c f) := by
  refine ⟨Actor.go_self hi, ?_⟩
  by_contra hended
  rw [Bool.not_eq_false] at hended
  exact hunsettled (h.keeping.ended hi hended)

/-- The tasks that go on after one did. -/
theorem going_go (hi : s.tasks[i]? = some ⟨k, done, .call c f⟩)
    (hu : Going (appState.move s (.go i x)) j u) :
    (j = i ∧ u = went s x k done c f) ∨ (j ≠ i ∧ Going s j u) ∨ phase u = .start := by
  rcases Actor.go_task hi hu.1 with ⟨rfl, rfl⟩ | ⟨hne, hold⟩ | ⟨-, k', -, rfl⟩
  · exact Or.inl ⟨rfl, rfl⟩
  · exact Or.inr (Or.inl ⟨hne, hold, hu.2⟩)
  · exact Or.inr (Or.inr phase_started)

theorem going_begin (hu : Going (appState.move s (.begin k)) j u) :
    Going s j u ∨ phase u = .start := by
  rcases Actor.begin_task hu.1 with hold | ⟨-, rfl⟩
  · exact Or.inl ⟨hold, hu.2⟩
  · exact Or.inr phase_started

theorem going_begun (ht : Going s j t) : Going (appState.move s (.begin k)) j t := by
  refine ⟨?_, ht.2⟩
  have hlen : j < s.tasks.length := (List.getElem?_eq_some_iff.1 ht.1).1
  show (s.tasks ++ [appState.started k])[j]? = some t
  rw [List.getElem?_append_left hlen]
  exact ht.1

theorem going_outside {o : AppOutside} (hu : Going (appState.move s (.outside o)) j u) :
    Going s j u ∧ o.ends = false := by
  obtain ⟨v, hv, -, -, hsame⟩ := Actor.outside_task hu.1
  obtain ⟨rfl, hends⟩ := hsame hu.2
  exact ⟨⟨hv, hu.2⟩, hends⟩

theorem going_stays {o : AppOutside} (ht : Going s j t) (ho : o.ends = false) :
    Going (appState.move s (.outside o)) j t := by
  refine ⟨?_, ht.2⟩
  show (if o.ends then _ else s.tasks)[j]? = some t
  rw [ho]
  exact ht.1

end Going

/-! ## A mutation is sent once -/

/-- What was sent, connection by connection. -/
def AppWorld.requests (s : AppWorld) : List Request := s.connections.map Connection.request

/-- What was sent was sent by its own call, and once. -/
structure SentOnce (s : AppTasks) : Prop where
  sent : ∀ (a : Nat) (p : PendingMutation), s.shared.requests[a]? = some (.mutation p) →
    ∃ t ∈ s.tasks, t.call.performs = some p.mutationID ∧ (phase t).stage = .sent p
  once : ∀ (a b : Nat) (p q : PendingMutation), s.shared.requests[a]? = some (.mutation p) →
    s.shared.requests[b]? = some (.mutation q) → p.mutationID = q.mutationID → a = b

section SentOnce

variable {s : AppTasks} {i : Nat} {x : AppChoice} {k : AppMethod} {done : AppTrace}
  {c : AppCall} {f : c.Answer → AppProg Unit} {p : PendingMutation} {m : AppMove}

theorem sent_after {e : AppEvent} : (Stage.sent p).after k e = .sent p := by
  obtain ⟨c, r⟩ := e
  unfold Stage.after
  cases c with
  | persist q => exact if_neg fun h => Stage.noConfusion h.1
  | connect request => cases request <;> rfl
  | _ => rfl

/-- A call that sent its mutation has sent it ever after. -/
theorem sent_move {t : AppTask} (ht : t ∈ s.tasks) (hsent : (phase t).stage = .sent p) :
    ∃ u ∈ (appState.move s m).tasks, u.call = t.call ∧ (phase u).stage = .sent p := by
  obtain ⟨j, hj⟩ := List.mem_iff_getElem?.1 ht
  obtain ⟨u, hu, hcall, hdone⟩ := Actor.move_grows (a := appState) m hj
  refine ⟨u, List.mem_of_getElem? hu, hcall, ?_⟩
  unfold phase
  rw [hcall]
  refine phaseOf_mono (P := fun φ => φ.stage = .sent p) (fun φ e hφ => ?_) hdone hsent
  show φ.stage.after _ e = .sent p
  rw [hφ]
  exact sent_after

/-- What was sent stays as it was sent. -/
theorem AppWorld.requests_settled {w : AppWorld} {a : Nat} {reply : Option Reply} :
    (w.settled a reply).map Connection.request = w.requests := by
  unfold AppWorld.settled AppWorld.requests
  refine List.ext_getElem? fun b => ?_
  rw [List.getElem?_map, List.getElem?_map, List.getElem?_modify]
  cases w.connections[b]? with
  | none => rfl
  | some connection =>
      rw [Option.map_some]
      split_ifs <;> rfl

theorem AppWorld.outside_requests {w : AppWorld} {o : AppOutside} :
    (w.outside o).requests = w.requests := by
  cases o with
  | handle a status now =>
      unfold AppWorld.outside
      dsimp only
      cases w.openRequest a with
      | none => rfl
      | some request => exact AppWorld.requests_settled
  | refuse a reason =>
      unfold AppWorld.outside
      dsimp only
      split_ifs
      · exact AppWorld.requests_settled
      · rfl
  | lose a =>
      unfold AppWorld.outside
      dsimp only
      split_ifs
      · exact AppWorld.requests_settled
      · rfl
  | work op => rfl
  | relaunch => rfl

/-- What was sent after a task went on: what was sent before, and what the
task sent. -/
theorem requests_go (hi : s.tasks[i]? = some ⟨k, done, .call c f⟩) :
    (appState.move s (.go i x)).shared.requests = s.shared.requests ∨
    ∃ request j, (⟨c, appState.answer s.shared c x⟩ : AppEvent) = ⟨.connect request, .ok j⟩ ∧
      (appState.move s (.go i x)).shared.requests = s.shared.requests ++ [request] := by
  have hconnected : (appState.move s (.go i x)).shared.connections
      = AppWorld.connected s.shared.connections ⟨c, appState.answer s.shared c x⟩ := by
    rw [Actor.move_go hi]
    rfl
  unfold AppWorld.requests
  rw [hconnected]
  cases c with
  | connect request =>
      cases hr : appState.answer s.shared (.connect request) x with
      | error failure => exact Or.inl rfl
      | ok j =>
          refine Or.inr ⟨request, j, rfl, ?_⟩
          exact List.map_append
  | _ => exact Or.inl rfl

theorem SentOnce.go (h : Consistent s) (hs : SentOnce s)
    (hi : s.tasks[i]? = some ⟨k, done, .call c f⟩) : SentOnce (appState.move s (.go i x)) := by
  have hkept : ∀ (a : Nat) p, s.shared.requests[a]? = some (.mutation p) →
      ∃ t ∈ (appState.move s (.go i x)).tasks, t.call.performs = some p.mutationID ∧
        (phase t).stage = .sent p := by
    intro a p ha
    obtain ⟨t, ht, hperforms, hsent⟩ := hs.sent a p ha
    obtain ⟨u, hu, hcall, hsent'⟩ := sent_move (m := .go i x) ht hsent
    exact ⟨u, hu, by rw [hcall]; exact hperforms, hsent'⟩
  rcases requests_go (x := x) hi with hsame | ⟨request, j, hevent, hrequests⟩
  · rw [← hsame] at hkept
    refine ⟨hkept, ?_⟩
    rw [hsame]
    exact hs.once
  obtain rfl : c = .connect request := congrArg Event.call hevent
  have hok : appState.answer s.shared (.connect request) x = .ok j := eq_of_heq (Event.mk.inj hevent).2
  cases request with
  | mutationStatus context =>
      have hold : ∀ (a : Nat) p, (s.shared.requests ++ [Request.mutationStatus context])[a]?
          = some (.mutation p) → s.shared.requests[a]? = some (.mutation p) := by
        intro a p ha
        rw [List.getElem?_append] at ha
        split_ifs at ha with hlt
        · exact ha
        · cases List.mem_singleton.1 (List.mem_of_getElem? ha)
      refine ⟨fun a p ha => ?_, fun a b p q ha hb => ?_⟩
      · rw [hrequests] at ha
        exact hkept a p (hold a p ha)
      · rw [hrequests] at ha hb
        exact hs.once a b p q (hold a p ha) (hold b q hb)
  | mutation q =>
      obtain ⟨-, hlocked⟩ := h.allowed hi
      have hown : k.performs = some q.mutationID := by
        refine (h.own _ (List.mem_of_getElem? hi) q ?_).1
        show (phaseOf k done).stage.pending = some q
        rw [hlocked]
        rfl
      -- nothing of this mutation was sent before
      have hfirst : ∀ (a : Nat) p, s.shared.requests[a]? = some (.mutation p) →
          p.mutationID ≠ q.mutationID := by
        intro a p ha hid
        obtain ⟨t, ht, hperforms, hsent⟩ := hs.sent a p ha
        obtain ⟨b, hb⟩ := List.mem_iff_getElem?.1 ht
        rw [hid] at hperforms
        obtain rfl := h.distinct b i t _ _ hb hi hperforms hown
        obtain rfl := Option.some.inj (hb.symm.trans hi)
        have hlocked' : (phaseOf k done).stage = .sent p := hsent
        rw [hlocked] at hlocked'
        cases hlocked'
      have hcases : ∀ (a : Nat) p, (s.shared.requests ++ [Request.mutation q])[a]?
          = some (.mutation p) → s.shared.requests[a]? = some (.mutation p) ∨
            (a = s.shared.requests.length ∧ p = q) := by
        intro a p ha
        have hlen := (List.getElem?_eq_some_iff.1 ha).1
        rw [List.length_append, List.length_singleton] at hlen
        rw [List.getElem?_append] at ha
        split_ifs at ha with hlt
        · exact Or.inl ha
        · have hp := List.mem_singleton.1 (List.mem_of_getElem? ha)
          exact Or.inr ⟨by omega, Request.mutation.inj hp⟩
      refine ⟨fun a p ha => ?_, fun a b p p' ha hb hid => ?_⟩
      · rw [hrequests] at ha
        rcases hcases a p ha with hold | ⟨-, rfl⟩
        · exact hkept a p hold
        · refine ⟨_, List.mem_of_getElem? (Actor.go_self hi), hown, ?_⟩
          show (phaseOf k (done ++ [⟨.connect (.mutation p), _⟩])).stage = .sent p
          rw [stage_append, hlocked, hok]
          rfl
      · rw [hrequests] at ha hb
        rcases hcases a p ha with hp | ⟨rfl, rfl⟩
        · rcases hcases b p' hb with hp' | ⟨-, rfl⟩
          · exact hs.once a b p p' hp hp' hid
          · exact absurd hid (hfirst a p hp)
        · rcases hcases b p' hb with hp' | ⟨rfl, -⟩
          · exact absurd hid.symm (hfirst b p' hp')
          · rfl

theorem SentOnce.move (h : Consistent s) (hs : SentOnce s) (m : AppMove) :
    SentOnce (appState.move s m) := by
  have hkept : ∀ (a : Nat) p, s.shared.requests[a]? = some (.mutation p) →
      ∃ t ∈ (appState.move s m).tasks, t.call.performs = some p.mutationID ∧
        (phase t).stage = .sent p := by
    intro a p ha
    obtain ⟨t, ht, hperforms, hsent⟩ := hs.sent a p ha
    obtain ⟨u, hu, hcall, hsent'⟩ := sent_move (m := m) ht hsent
    exact ⟨u, hu, by rw [hcall]; exact hperforms, hsent'⟩
  cases m with
  | begin k => exact ⟨hkept, hs.once⟩
  | go i x =>
      rcases Actor.move_go_cases (a := appState) s i x with ⟨k, done, c, f, hi⟩ | hsame
      · exact hs.go h hi
      · rw [hsame]
        exact hs
  | outside o =>
      have hsame : (appState.move s (.outside o)).shared.requests = s.shared.requests :=
        AppWorld.outside_requests
      refine ⟨?_, ?_⟩
      · rw [hsame]
        exact hkept
      · rw [hsame]
        exact hs.once

end SentOnce

/-! ## A launch -/

/-- Everything is answered. -/
def answered : AppChoice := ⟨none, none, true, .success Store.sampleToken.value, false⟩

/-- The App is launched, and its first refresh finds the daemon. -/
def launches : List AppMove :=
  .begin .refresh :: (List.replicate 8 (.go 0 answered) ++ List.replicate 10 (.go 1 answered))

end App

end Unlinger
