import Unlinger.App.Helpers.Sending

/-!
# What becomes of a request

A connection that is settled stays as it is, and what a task receives on
it is its answer. The daemon carries out what comes from somewhere else, or
what it answered on a connection of the App.
-/

namespace Unlinger

namespace App

open Interaction

/-! ## The moves -/

/-- The context of a mutation that is sent. -/
def Request.sends : Request → Option MutationContext
  | .mutation pending => some pending.context
  | .mutationStatus _ => none

/-- The context that is asked about. -/
def Request.asks : Request → Option MutationContext
  | .mutation _ => none
  | .mutationStatus context => some context

/-- The mutation is not on its way: no connection with it is to be handled,
and no call is about to send it. -/
def Unraced (s : AppTasks) (context : MutationContext) : Prop :=
  (∀ cn ∈ s.shared.connections, cn.isOpen = true → cn.request.sends ≠ some context) ∧
  ∀ t ∈ s.tasks, t.rest.ended = false →
    (phase t).stage.unsettled.map PendingMutation.context ≠ some context

instance Unraced.decidable (s : AppTasks) (context : MutationContext) :
    Decidable (Unraced s context) := by
  unfold Unraced
  infer_instance

/-- A move as it can come, beside a daemon that serves others too: the ids
of the App's mutations are not used by others, and a namespace that is
drawn is new. -/
def ComesBeside (s : AppTasks) (m : AppMove) : Prop :=
  Comes s m ∧ match m with
    | .begin k => ∀ mutationID ∈ k.performs, ∀ c ∈ s.shared.ledger.committed,
        c.context.mutationId ≠ mutationID
    | .outside (.work op) => s.shared.ledger.DrawsFresh (.perform op) ∧
        ∀ c ∈ s.shared.ledger.store.newlyCommitted op, ∀ t ∈ s.tasks,
          t.call.performs ≠ some c.context.mutationId
    | _ => True

instance ComesBeside.decidable (s : AppTasks) : ∀ m, Decidable (ComesBeside s m)
  | .begin k => inferInstanceAs (Decidable (Comes s (.begin k) ∧ ∀ mutationID ∈ k.performs,
      ∀ c ∈ s.shared.ledger.committed, c.context.mutationId ≠ mutationID))
  | .go i x => inferInstanceAs (Decidable (Comes s (.go i x) ∧ True))
  | .outside (.work op) => inferInstanceAs (Decidable (Comes s (.outside (.work op)) ∧
      s.shared.ledger.DrawsFresh (.perform op) ∧
        ∀ c ∈ s.shared.ledger.store.newlyCommitted op, ∀ t ∈ s.tasks,
          t.call.performs ≠ some c.context.mutationId))
  | .outside (.handle a status now) =>
      inferInstanceAs (Decidable (Comes s (.outside (.handle a status now)) ∧ True))
  | .outside (.refuse a reason) =>
      inferInstanceAs (Decidable (Comes s (.outside (.refuse a reason)) ∧ True))
  | .outside (.lose a) => inferInstanceAs (Decidable (Comes s (.outside (.lose a)) ∧ True))
  | .outside .relaunch => inferInstanceAs (Decidable (Comes s (.outside .relaunch) ∧ True))

/-! ## Connections -/

/-- What a connection is after the surroundings settled one. -/
theorem AppWorld.settled_getElem? {w : AppWorld} {a b : Nat} {reply : Option Reply} :
    (w.settled a reply)[b]? = if a = b then
      w.connections[b]?.map fun c => { c with isOpen := false, reply := reply }
    else w.connections[b]? := by
  unfold AppWorld.settled
  rw [List.getElem?_modify]
  cases w.connections[b]? with
  | none =>
      split_ifs <;> rfl
  | some cn =>
      split_ifs <;> rfl

/-- What the surroundings do to the connections: nothing, or they settle one
that is open. -/
theorem AppWorld.outside_connections {w : AppWorld} {o : AppOutside} :
    (w.outside o).connections = w.connections ∨
    ∃ a cn reply, w.connections[a]? = some cn ∧ cn.isOpen = true ∧
      (w.outside o).connections = w.settled a reply := by
  have hopen : ∀ {a request}, w.openRequest a = some request →
      ∃ cn, w.connections[a]? = some cn ∧ cn.isOpen = true := by
    intro a request h
    unfold AppWorld.openRequest at h
    cases hcn : w.connections[a]? with
    | none =>
        rw [hcn] at h
        cases h
    | some cn =>
        rw [hcn] at h
        dsimp only at h
        split_ifs at h with hisOpen
        exact ⟨cn, rfl, hisOpen⟩
  cases o with
  | handle a status now =>
      unfold AppWorld.outside
      dsimp only
      cases hreq : w.openRequest a with
      | none => exact Or.inl rfl
      | some request =>
          obtain ⟨cn, hcn, hisOpen⟩ := hopen hreq
          exact Or.inr ⟨a, cn, _, hcn, hisOpen, rfl⟩
  | refuse a reason =>
      unfold AppWorld.outside
      dsimp only
      split_ifs with hsome
      · obtain ⟨request, hreq⟩ := Option.isSome_iff_exists.1 hsome
        obtain ⟨cn, hcn, hisOpen⟩ := hopen hreq
        exact Or.inr ⟨a, cn, _, hcn, hisOpen, rfl⟩
      · exact Or.inl rfl
  | lose a =>
      unfold AppWorld.outside
      dsimp only
      split_ifs with hsome
      · obtain ⟨request, hreq⟩ := Option.isSome_iff_exists.1 hsome
        obtain ⟨cn, hcn, hisOpen⟩ := hopen hreq
        exact Or.inr ⟨a, cn, _, hcn, hisOpen, rfl⟩
      · exact Or.inl rfl
  | work op => exact Or.inl rfl
  | relaunch => exact Or.inl rfl

/-- A connection is named by the number of those before it. -/
theorem AppWorld.answer_connect {w : AppWorld} {request : Request} {x : AppChoice} {j : Nat}
    (h : w.answer (.connect request) x = .ok j) : j = w.connections.length := by
  unfold AppWorld.answer at h
  cases hconnect : x.connect with
  | none =>
      simp only [hconnect] at h
      exact (Except.ok.inj h).symm
  | some failure =>
      simp only [hconnect] at h
      cases h

section Connections

variable {s : AppTasks} {i a : Nat} {x : AppChoice} {k : AppMethod} {done : AppTrace}
  {c : AppCall} {f : c.Answer → AppProg Unit} {cn : Connection} {m : AppMove}

/-- The connections after a task went on: those before, and the one it
made. -/
theorem connections_go (hi : s.tasks[i]? = some ⟨k, done, .call c f⟩) :
    (appState.move s (.go i x)).shared.connections = s.shared.connections ∨
    ∃ request j, (⟨c, appState.answer s.shared c x⟩ : AppEvent) = ⟨.connect request, .ok j⟩ ∧
      (appState.move s (.go i x)).shared.connections
        = s.shared.connections ++ [⟨request, true, none⟩] := by
  have hconnected : (appState.move s (.go i x)).shared.connections
      = AppWorld.connected s.shared.connections ⟨c, appState.answer s.shared c x⟩ := by
    rw [Actor.move_go hi]
    rfl
  rw [hconnected]
  cases c with
  | connect request =>
      cases hr : appState.answer s.shared (.connect request) x with
      | error failure => exact Or.inl rfl
      | ok j => exact Or.inr ⟨request, j, rfl, rfl⟩
  | _ => exact Or.inl rfl

/-- A connection that is settled stays as it is. -/
theorem connection_settled (ha : s.shared.connections[a]? = some cn) (hclosed : cn.isOpen = false) :
    (appState.move s m).shared.connections[a]? = some cn := by
  have hlen : a < s.shared.connections.length := (List.getElem?_eq_some_iff.1 ha).1
  cases m with
  | begin k => exact ha
  | go i x =>
      rcases Actor.move_go_cases (a := appState) s i x with ⟨k, done, c, f, hi⟩ | hsame
      · rcases connections_go (x := x) hi with hkept | ⟨request, j, -, hmore⟩
        · rw [hkept]
          exact ha
        · rw [hmore, List.getElem?_append_left hlen]
          exact ha
      · rw [hsame]
        exact ha
  | outside o =>
      show (s.shared.outside o).connections[a]? = some cn
      rcases AppWorld.outside_connections (w := s.shared) (o := o) with hkept |
        ⟨b, cn', reply, hb, hisOpen, hsettled⟩
      · rw [hkept]
        exact ha
      · rw [hsettled, AppWorld.settled_getElem?]
        split_ifs with hab
        · subst hab
          obtain rfl := Option.some.inj (ha.symm.trans hb)
          rw [hclosed] at hisOpen
          cases hisOpen
        · exact ha

/-- What is on a connection stays on it. -/
theorem connection_request (ha : s.shared.connections[a]? = some cn) :
    ∃ cn', (appState.move s m).shared.connections[a]? = some cn' ∧ cn'.request = cn.request := by
  have hlen : a < s.shared.connections.length := (List.getElem?_eq_some_iff.1 ha).1
  cases m with
  | begin k => exact ⟨cn, ha, rfl⟩
  | go i x =>
      rcases Actor.move_go_cases (a := appState) s i x with ⟨k, done, c, f, hi⟩ | hsame
      · refine ⟨cn, ?_, rfl⟩
        rcases connections_go (x := x) hi with hkept | ⟨request, j, -, hmore⟩
        · rw [hkept]
          exact ha
        · rw [hmore, List.getElem?_append_left hlen]
          exact ha
      · rw [hsame]
        exact ⟨cn, ha, rfl⟩
  | outside o =>
      have hconnections : (appState.move s (.outside o)).shared.connections
          = (s.shared.outside o).connections := rfl
      rw [hconnections]
      rcases AppWorld.outside_connections (w := s.shared) (o := o) with hkept |
        ⟨b, cn', reply, hb, hisOpen, hsettled⟩
      · rw [hkept]
        exact ⟨cn, ha, rfl⟩
      · rw [hsettled, AppWorld.settled_getElem?, ha]
        split_ifs with hab
        · exact ⟨_, rfl, rfl⟩
        · exact ⟨cn, rfl, rfl⟩

end Connections

/-! ## What was received -/

/-- What the tasks know of the connections is so. -/
structure Delivers (s : AppTasks) : Prop where
  /-- an open connection has no answer yet -/
  unanswered : ∀ cn ∈ s.shared.connections, cn.isOpen = true → cn.reply = none
  connected : ∀ t ∈ s.tasks, ∀ r j, (⟨.connect r, .ok j⟩ : AppEvent) ∈ t.done →
    ∃ cn, s.shared.connections[j]? = some cn ∧ cn.request = r
  received : ∀ t ∈ s.tasks, ∀ r j reply, (⟨.receive r j, some reply⟩ : AppEvent) ∈ t.done →
    ∃ cn, s.shared.connections[j]? = some cn ∧ cn.request = r ∧ cn.isOpen = false ∧
      cn.reply = some reply

section Delivers

variable {s : AppTasks} {m : AppMove}

theorem Delivers.unanswered_move (hd : Delivers s) :
    ∀ cn ∈ (appState.move s m).shared.connections, cn.isOpen = true → cn.reply = none := by
  intro cn hcn hopen
  cases m with
  | begin k => exact hd.unanswered cn hcn hopen
  | go i x =>
      rcases Actor.move_go_cases (a := appState) s i x with ⟨k, done, c, f, hi⟩ | hsame
      · rcases connections_go (x := x) hi with hkept | ⟨request, j, -, hmore⟩
        · rw [hkept] at hcn
          exact hd.unanswered cn hcn hopen
        · rw [hmore] at hcn
          rcases List.mem_append.1 hcn with hold | hnew
          · exact hd.unanswered cn hold hopen
          · rw [List.mem_singleton.1 hnew]
      · rw [hsame] at hcn
        exact hd.unanswered cn hcn hopen
  | outside o =>
      have hcn' : cn ∈ (s.shared.outside o).connections := hcn
      rcases AppWorld.outside_connections (w := s.shared) (o := o) with hkept |
        ⟨b, cn', reply, hb, -, hsettled⟩
      · rw [hkept] at hcn'
        exact hd.unanswered cn hcn' hopen
      · rw [hsettled] at hcn'
        obtain ⟨a, ha⟩ := List.mem_iff_getElem?.1 hcn'
        rw [AppWorld.settled_getElem?] at ha
        split_ifs at ha with hab
        · obtain ⟨old, -, rfl⟩ := Option.map_eq_some_iff.1 ha
          cases hopen
        · exact hd.unanswered cn (List.mem_of_getElem? ha) hopen

/-- An event of a task after a move: from before, or the one it came to. -/
theorem event_move {t : AppTask} {e : AppEvent} (ht : t ∈ (appState.move s m).tasks)
    (he : e ∈ t.done) : (∃ u ∈ s.tasks, e ∈ u.done) ∨
      ∃ i x k done c f, m = .go i x ∧ s.tasks[i]? = some ⟨k, done, .call c f⟩ ∧
        e = ⟨c, appState.answer s.shared c x⟩ := by
  obtain ⟨j, hj⟩ := List.mem_iff_getElem?.1 ht
  rcases move_task hj with ⟨v, hv, -, hdone, -⟩ | ⟨x, k, done, c, f, rfl, hv, rfl⟩ | ⟨-, k, rfl, -⟩
  · rw [hdone] at he
    exact Or.inl ⟨v, List.mem_of_getElem? hv, he⟩
  · rcases List.mem_append.1 he with hold | hnew
    · exact Or.inl ⟨_, List.mem_of_getElem? hv, hold⟩
    · exact Or.inr ⟨j, x, k, done, c, f, rfl, hv, List.mem_singleton.1 hnew⟩
  · cases he

theorem Delivers.move (h : Consistent s) (hd : Delivers s) : Delivers (appState.move s m) := by
  refine ⟨hd.unanswered_move, fun t ht r j he => ?_, fun t ht r j reply he => ?_⟩
  · rcases event_move ht he with ⟨u, hu, hold⟩ | ⟨i, x, k, done, c, f, rfl, hi, hevent⟩
    · obtain ⟨cn, hcn, hr⟩ := hd.connected u hu r j hold
      obtain ⟨cn', hcn', hr'⟩ := connection_request (m := m) hcn
      exact ⟨cn', hcn', hr'.trans hr⟩
    · -- the connection it made is the last one
      obtain rfl : AppCall.connect r = c := congrArg Event.call hevent
      have hok : Except.ok j = appState.answer s.shared (.connect r) x :=
        eq_of_heq (Event.mk.inj hevent).2
      have hj : j = s.shared.connections.length := AppWorld.answer_connect hok.symm
      rcases connections_go (x := x) hi with hkept | ⟨request, j', hevent', hmore⟩
      · have hgrown : (appState.move s (.go i x)).shared.connections
            = AppWorld.connected s.shared.connections ⟨.connect r, .ok j⟩ := by
          rw [Actor.move_go hi, hok]
          rfl
        rw [hkept] at hgrown
        exact absurd (congrArg List.length hgrown) (by simp [AppWorld.connected])
      · rw [hmore, hj]
        refine ⟨_, List.getElem?_concat_length, ?_⟩
        exact (AppCall.connect.inj (congrArg Event.call hevent')).symm
  · rcases event_move ht he with ⟨u, hu, hold⟩ | ⟨i, x, k, done, c, f, rfl, hi, hevent⟩
    · obtain ⟨cn, hcn, hr, hclosed, hreply⟩ := hd.received u hu r j reply hold
      exact ⟨cn, connection_settled hcn hclosed, hr, hclosed, hreply⟩
    · obtain rfl : AppCall.receive r j = c := congrArg Event.call hevent
      have hanswer : some reply = appState.answer s.shared (.receive r j) x :=
        eq_of_heq (Event.mk.inj hevent).2
      obtain ⟨cn, hcn, hr⟩ := hd.connected _ (List.mem_of_getElem? hi) r j (h.keeping.next hi).1.2
      have hanswer' : some reply = if x.delivered then
          s.shared.connections[j]?.bind Connection.reply else none := hanswer
      split_ifs at hanswer'
      rw [hcn, Option.bind_some] at hanswer'
      have hclosed : cn.isOpen = false := by
        by_contra hopen
        rw [Bool.not_eq_false] at hopen
        rw [hd.unanswered cn (List.mem_of_getElem? hcn) hopen] at hanswer'
        cases hanswer'
      exact ⟨cn, connection_settled hcn hclosed, hr, hclosed, hanswer'.symm⟩

end Delivers

end App

end Unlinger
