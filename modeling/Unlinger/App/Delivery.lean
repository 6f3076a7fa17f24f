import Unlinger.App.Helpers.Delivery

/-!
# What the App gives up is not applied

The App gives a mutation up where the daemon knows nothing of it, where it
could not be sent, or where the daemon refused to read it. Nothing of the
kind is ever carried out afterwards: a mutation is sent once, so what was
not sent or was refused never comes again, and what the daemon knows
nothing of never came. The last holds where the daemon is asked about a
mutation that is not on its way, and nothing in the App makes sure of that.
-/

namespace Unlinger

namespace App

open Interaction

/-! ## The property -/

/-- With this event the App gives the mutation up: it shows that it was not
applied or not sent, or removes its record. -/
def Disowns (s : AppWorld) (p : PendingMutation) : AppEvent → Prop
  | ⟨.setMutationState (.definitelyNotApplied q), _⟩ => q = p
  | ⟨.setMutationState (.failedBeforeSend q _), _⟩ => q = p
  | ⟨.remove _, r⟩ => MutationJournal.took r = true ∧ s.journal = some p
  | _ => False

/-- The App has received a valid receipt of the mutation, or an error in
answer to its own request. -/
def Acknowledged (s : AppTasks) (p : PendingMutation) : Prop :=
  ∃ t ∈ s.tasks, ∃ e ∈ t.done, Acknowledges p e

instance Acknowledged.decidable (s : AppTasks) (p : PendingMutation) :
    Decidable (Acknowledged s p) := by
  unfold Acknowledged
  infer_instance

/-- **The App never disowns a mutation the daemon applies**: what it gives
up without having been answered is not applied, then or later. -/
def NeverDisowns (s : AppTasks) (ms : List AppMove) : Prop :=
  ∀ before i x after p e, ms = before ++ .go i x :: after →
    appState.event (before.foldl appState.move s) i x = some e →
    Disowns (before.foldl appState.move s).shared p e →
    ¬ Acknowledged (before.foldl appState.move s) p →
    ∀ c ∈ (ms.foldl appState.move s).shared.ledger.committed, c.context = p.context →
      c.applied = false

/-- The daemon answers with nothing. -/
def Reply.isNotFound : Reply → Bool
  | .status (.notFound _) => true
  | _ => false

/-- **The condition**: a query that finds nothing is answered while its
mutation is not on its way. -/
def AsksInTime (s : AppTasks) (m : AppMove) : Prop :=
  ComesBeside s m ∧ match m with
    | .outside (.handle a status now) => ∀ request ∈ s.shared.openRequest a,
        (Reply.decoded ((s.shared.plane status).handlePublic request.command now).2).isNotFound
          = true → ∀ context ∈ request.asks, Unraced s context
    | _ => True

instance AsksInTime.decidable (s : AppTasks) : ∀ m, Decidable (AsksInTime s m)
  | .begin k => inferInstanceAs (Decidable (ComesBeside s (.begin k) ∧ True))
  | .go i x => inferInstanceAs (Decidable (ComesBeside s (.go i x) ∧ True))
  | .outside (.handle a status now) => inferInstanceAs (Decidable (
      ComesBeside s (.outside (.handle a status now)) ∧ ∀ request ∈ s.shared.openRequest a,
        (Reply.decoded ((s.shared.plane status).handlePublic request.command now).2).isNotFound
          = true → ∀ context ∈ request.asks, Unraced s context))
  | .outside (.work op) => inferInstanceAs (Decidable (ComesBeside s (.outside (.work op)) ∧ True))
  | .outside (.refuse a reason) =>
      inferInstanceAs (Decidable (ComesBeside s (.outside (.refuse a reason)) ∧ True))
  | .outside (.lose a) => inferInstanceAs (Decidable (ComesBeside s (.outside (.lose a)) ∧ True))
  | .outside .relaunch =>
      inferInstanceAs (Decidable (ComesBeside s (.outside .relaunch) ∧ True))

/-! ## The daemon's side -/

section Daemon

variable {l : Ledger} {context : MutationContext} {mutation : OrdinaryMutation}
  {runtime : RuntimePolicyFacts} {now : Nat} {status : DaemonStatus} {w : AppWorld}
  {request : Request}

/-- What the daemon has no receipt of under its present namespace was never
carried out. -/
theorem unknown_uncommitted (hl : l.Kept)
    (h : l.store.mutationLookup context = .ok .notFound) :
    ∀ c ∈ l.committed, c.context ≠ context := by
  intro c hc hcontext
  subst hcontext
  unfold Store.mutationLookup at h
  cases hrow : l.store.mutationReceipts.lookup
      (toLex (c.context.namespaceToken, c.context.mutationId)) with
  | some row =>
      rw [hrow] at h
      simp only [bind_eq_ok, pure_eq_ok] at h
      obtain ⟨-, -, heq⟩ := h
      cases heq
  | none =>
      rw [hrow] at h
      have hname : l.store.namespaceToken.value = c.context.namespaceToken := by
        by_contra hne
        simp only [if_neg hne, pure_eq_ok] at h
        cases h
      have hretained : l.store.mutationReceipts.lookup c.key = some ⟨c.mutation, c.receipt⟩ :=
        hl.retained c hc hname.symm
      have hnone : l.store.mutationReceipts.lookup c.key = none := hrow
      rw [hnone] at hretained
      cases hretained

/-- A query is answered with nothing where the store knows nothing. -/
theorem finds_nothing {found : MutationContext}
    (h : Reply.decoded ((w.plane status).handlePublic request.command now).2
      = .status (.notFound found)) :
    request = .mutationStatus found ∧ w.ledger.store.mutationLookup found = .ok .notFound := by
  unfold ControlPlane.handlePublic at h
  cases hvalid : request.command.validate with
  | error e =>
      simp only [hvalid] at h
      cases h
  | ok u =>
      simp only [hvalid] at h
      cases request with
      | mutation pending =>
          dsimp only [Request.command] at h
          cases hcommit : ((w.plane status).commitPublicMutation pending.context
              pending.mutation.ordinary now).2 with
          | error e =>
              rw [hcommit] at h
              cases h
          | ok commit =>
              rw [hcommit] at h
              cases h
      | mutationStatus context =>
          dsimp only [Request.command] at h
          unfold ControlPlane.mutationLookup at h
          cases hlookup : w.ledger.store.mutationLookup context with
          | error e =>
              have hplane : (w.plane status).store.mutationLookup context = .error e := hlookup
              rw [hplane] at h
              cases h
          | ok result =>
              have hplane : (w.plane status).store.mutationLookup context = .ok result := hlookup
              rw [hplane] at h
              cases result with
              | committed receipt => cases h
              | authorityLost => cases h
              | notFound =>
                  obtain rfl : context = found := Lookup.notFound.inj (Reply.status.inj h)
                  exact ⟨rfl, hlookup⟩

/-- What an operation carries out for a request has its context. -/
theorem newlyCommitted_context {store : Store} {c : CommittedMutation}
    (h : c ∈ store.newlyCommitted (.commitPublicOrdinaryMutation context mutation runtime now)) :
    c.context = context := by
  unfold Store.newlyCommitted at h
  dsimp only at h
  cases hcommit : store.commitPublicOrdinaryMutation context mutation runtime now with
  | error e =>
      rw [hcommit] at h
      cases h
  | ok result =>
      rw [hcommit] at h
      dsimp only at h
      split_ifs at h
      · rw [List.mem_singleton.1 h]
      · cases h

/-- A request is carried out or not, and nothing else. -/
theorem handled_committed {command : PublicCommand} {c : CommittedMutation}
    (h : c ∈ (AppWorld.handled l command status now).committed) :
    c ∈ l.committed ∨ ∃ mutation, command = .mutation c.context mutation := by
  unfold AppWorld.handled at h
  cases hvalid : command.validate with
  | error e =>
      simp only [hvalid] at h
      exact Or.inl h
  | ok u =>
      cases command with
      | mutationStatus context =>
          simp only [hvalid] at h
          exact Or.inl h
      | mutation context mutation =>
          simp only [hvalid] at h
          rcases List.mem_append.1 h with hold | hnew
          · exact Or.inl hold
          · refine Or.inr ⟨mutation, ?_⟩
            rw [newlyCommitted_context hnew]

theorem handled_kept {command : PublicCommand} (hl : l.Kept) :
    (AppWorld.handled l command status now).Kept := by
  unfold AppWorld.handled
  cases hvalid : command.validate with
  | error e => exact hl
  | ok u =>
      cases command with
      | mutationStatus context => exact hl
      | mutation context mutation =>
          refine hl.step fun token htoken => ?_
          cases htoken

end Daemon

/-! ## Mutations that are over -/

/-- The mutation was not carried out and is not on its way, and its own
call is past sending it. -/
structure Dead (s : AppTasks) (context : MutationContext) : Prop where
  uncommitted : ∀ c ∈ s.shared.ledger.committed, c.context ≠ context
  unraced : Unraced s context
  own : ∃ t ∈ s.tasks, t.call.performs = some context.mutationId ∧
    (phase t).stage.pending.map PendingMutation.context = some context

section Dead

variable {s : AppTasks} {m : AppMove} {context : MutationContext} {i : Nat} {x : AppChoice}
  {k : AppMethod} {done : AppTrace} {c : AppCall} {f : c.Answer → AppProg Unit}

/-- What the daemon has carried out after a move. -/
theorem committed_move {c : CommittedMutation}
    (h : c ∈ (appState.move s m).shared.ledger.committed) :
    c ∈ s.shared.ledger.committed ∨
    (∃ a cn status now pending, m = .outside (.handle a status now) ∧
      s.shared.connections[a]? = some cn ∧ cn.isOpen = true ∧ cn.request = .mutation pending ∧
      pending.context = c.context) ∨
    ∃ op, m = .outside (.work op) ∧ c ∈ s.shared.ledger.store.newlyCommitted op := by
  -- only the daemon commits: a move of the app leaves the ledger where it is
  cases m with
  | begin k => exact Or.inl h
  | go i x =>
      -- a resumed call takes its answer, and no answer writes the ledger
      rcases Actor.move_go_cases (a := appState) s i x with ⟨k, done, c', f, hi⟩ | hsame
      · have hledger : (appState.move s (.go i x)).shared.ledger = s.shared.ledger := by
          rw [Actor.move_go hi]
          rfl
        rw [hledger] at h
        exact Or.inl h
      · rw [hsame] at h
        exact Or.inl h
  | outside o =>
      have h' : c ∈ (s.shared.outside o).ledger.committed := h
      cases o with
      | handle a status now =>
          unfold AppWorld.outside at h'
          dsimp only at h'
          cases hreq : s.shared.openRequest a with
          | none =>
              rw [hreq] at h'
              exact Or.inl h'
          | some request =>
              rw [hreq] at h'
              rcases handled_committed h' with hold | ⟨mutation, hcommand⟩
              · exact Or.inl hold
              · unfold AppWorld.openRequest at hreq
                cases hcn : s.shared.connections[a]? with
                | none =>
                    rw [hcn] at hreq
                    cases hreq
                | some cn =>
                    rw [hcn] at hreq
                    dsimp only at hreq
                    split_ifs at hreq with hisOpen
                    obtain rfl := Option.some.inj hreq
                    cases hr : cn.request with
                    | mutationStatus context =>
                        rw [hr] at hcommand
                        cases hcommand
                    | mutation pending =>
                        rw [hr] at hcommand
                        have hcontext := (PublicCommand.mutation.inj hcommand).1
                        exact Or.inr (Or.inl
                          ⟨a, cn, status, now, pending, rfl, hcn, hisOpen, hr, hcontext⟩)
      | refuse a reason =>
          unfold AppWorld.outside at h'
          dsimp only at h'
          split_ifs at h'
          · exact Or.inl h'
          · exact Or.inl h'
      | lose a =>
          unfold AppWorld.outside at h'
          dsimp only at h'
          split_ifs at h'
          · exact Or.inl h'
          · exact Or.inl h'
      | work op =>
          rcases List.mem_append.1 h' with hold | hnew
          · exact Or.inl hold
          · exact Or.inr (Or.inr ⟨op, rfl, hnew⟩)
      | relaunch => exact Or.inl h'

/-- A connection after a move that is open: from before, or just made for
what its task was about to send. -/
theorem open_move {cn : Connection} (h : Consistent s)
    (hcn : cn ∈ (appState.move s m).shared.connections) (hopen : cn.isOpen = true) :
    cn ∈ s.shared.connections ∨
    (∃ i x k done c f, m = .go i x ∧ s.tasks[i]? = some ⟨k, done, .call c f⟩ ∧
      (∀ context, cn.request.sends = some context →
        (phaseOf k done).stage.unsettled.map PendingMutation.context = some context) ∧
      ∀ context, cn.request = .mutationStatus context →
        ∃ p, Known s p ∧ p.context = context) := by
  cases m with
  | begin k => exact Or.inl hcn
  | go i x =>
      rcases Actor.move_go_cases (a := appState) s i x with ⟨k, done, c, f, hi⟩ | hsame
      · rcases connections_go (x := x) hi with hkept | ⟨request, j, hevent, hmore⟩
        · rw [hkept] at hcn
          exact Or.inl hcn
        · rw [hmore] at hcn
          rcases List.mem_append.1 hcn with hold | hnew
          · exact Or.inl hold
          · obtain rfl := List.mem_singleton.1 hnew
            obtain rfl : c = .connect request := congrArg Event.call hevent
            refine Or.inr ⟨i, x, k, done, _, f, rfl, hi, fun context hsends => ?_, fun context hq => ?_⟩
            · cases request with
              | mutation p =>
                  obtain ⟨-, hlocked⟩ := h.allowed hi
                  rw [hlocked]
                  exact hsends
              | mutationStatus found => cases hsends
            · obtain rfl : request = .mutationStatus context := hq
              obtain ⟨-, p, hp, hcontext⟩ := h.allowed hi
              exact ⟨p, h.heard _ (List.mem_of_getElem? hi) p hp, hcontext⟩
      · rw [hsame] at hcn
        exact Or.inl hcn
  | outside o =>
      left
      have hcn' : cn ∈ (s.shared.outside o).connections := hcn
      rcases AppWorld.outside_connections (w := s.shared) (o := o) with hkept |
        ⟨b, cn', reply, hb, -, hsettled⟩
      · rw [hkept] at hcn'
        exact hcn'
      · rw [hsettled] at hcn'
        obtain ⟨a, ha⟩ := List.mem_iff_getElem?.1 hcn'
        rw [AppWorld.settled_getElem?] at ha
        split_ifs at ha
        · obtain ⟨old, -, rfl⟩ := Option.map_eq_some_iff.1 ha
          cases hopen
        · exact List.mem_of_getElem? ha

/-- **What is over stays over.** -/
theorem Dead.move (h : Consistent s) (hd : Dead s context) (hm : ComesBeside s m) :
    Dead (appState.move s m) context := by
  obtain ⟨v, hv, hperforms, hstage⟩ := hd.own
  obtain ⟨b, hb⟩ := List.mem_iff_getElem?.1 hv
  -- no other call has its id, so none sends it
  have honly : ∀ (j : Nat) (t : AppTask), s.tasks[j]? = some t →
      t.call.performs = some context.mutationId → t = v := by
    intro j t hj ht
    obtain rfl := h.distinct j b t v _ hj hb ht hperforms
    exact Option.some.inj (hj.symm.trans hb)
  refine ⟨fun c hc hcontext => ?_, ⟨fun cn hcn hopen hsends => ?_, fun u hu hopen hsends => ?_⟩, ?_⟩
  · rcases committed_move hc with hold | ⟨a, cn, status, now, p, -, hcn, hopen, hr, hp⟩ |
      ⟨op, rfl, hnew⟩
    · exact hd.uncommitted c hold hcontext
    · refine hd.unraced.1 cn (List.mem_of_getElem? hcn) hopen ?_
      rw [hr, ← hcontext, ← hp]
      rfl
    · refine hm.2.2 c hnew v hv ?_
      rw [hcontext]
      exact hperforms
  · rcases open_move h hcn hopen with hold | ⟨i, x, k, done, c, f, rfl, hi, hsent, -⟩
    · exact hd.unraced.1 cn hold hopen hsends
    · exact hd.unraced.2 _ (List.mem_of_getElem? hi) rfl (hsent context hsends)
  · obtain ⟨j, hj⟩ := List.mem_iff_getElem?.1 hu
    rcases move_task hj with ⟨u', hu', -, -, hsame⟩ | ⟨x, k, done, c, f, rfl, hu', rfl⟩ |
      ⟨-, k, rfl, -⟩
    · rw [hsame hopen] at hsends hopen
      exact hd.unraced.2 u' (List.mem_of_getElem? hu') hopen hsends
    · rw [phase_went] at hsends
      obtain ⟨p, hp, hcontext⟩ := Option.map_eq_some_iff.1 hsends
      rcases Stage.unsettled_after hp with hbefore | ⟨-, hfresh, hown⟩
      · refine hd.unraced.2 _ (List.mem_of_getElem? hu') rfl ?_
        show (phaseOf k done).stage.unsettled.map PendingMutation.context = some context
        rw [hbefore, Option.map_some, hcontext]
      · have hid : k.performs = some context.mutationId := by
          rw [hown, ← hcontext]
          rfl
        obtain rfl := honly j _ hu' hid
        have hstage' : (phaseOf k done).stage.pending.map PendingMutation.context = some context :=
          hstage
        rw [hfresh] at hstage'
        cases hstage'
    · rw [phase_started] at hsends
      cases hsends
  · obtain ⟨u, hu, hcall, hdone⟩ := Actor.move_grows (a := appState) m hb
    refine ⟨u, List.mem_of_getElem? hu, by rw [hcall]; exact hperforms, ?_⟩
    obtain ⟨p, hp, hcontext⟩ := Option.map_eq_some_iff.1 hstage
    have hp' : (phase u).stage.pending = some p := by
      unfold phase
      rw [hcall]
      exact phaseOf_mono (P := fun φ => φ.stage.pending = some p)
        (fun _ _ hφ => Stage.pending_after hφ) hdone hp
    rw [hp', Option.map_some, hcontext]

end Dead

/-! ## What the daemon carried out -/

/-- A connection of the App with the mutation was answered. -/
def Answered (w : AppWorld) (context : MutationContext) : Prop :=
  ∃ (a : Nat) (cn : Connection) (p : PendingMutation) (r : Except ControlError PublicPayload),
    w.connections[a]? = some cn ∧ cn.request = .mutation p ∧ p.context = context ∧
      cn.isOpen = false ∧ cn.reply = some (.decoded r)

/-- What the daemon carried out and answered is accounted for. -/
structure Accounted (s : AppTasks) : Prop where
  kept : s.shared.ledger.Kept
  /-- it is no mutation of the App, or it came on a connection that was
  answered -/
  origin : ∀ c ∈ s.shared.ledger.committed,
    (∀ t ∈ s.tasks, t.call.performs ≠ some c.context.mutationId) ∨ Answered s.shared c.context
  queried : ∀ cn ∈ s.shared.connections, cn.isOpen = true → ∀ context,
    cn.request = .mutationStatus context → ∃ p, Known s p ∧ p.context = context
  unknown : ∀ cn ∈ s.shared.connections, ∀ context,
    cn.reply = some (.status (.notFound context)) → Dead s context

section Accounted

variable {s : AppTasks} {m : AppMove} {context : MutationContext}

/-- A connection after a move has the answer it had, or is being answered. -/
theorem reply_move {cn : Connection} {reply : Reply}
    (hcn : cn ∈ (appState.move s m).shared.connections) (hreply : cn.reply = some reply) :
    (∃ cn' ∈ s.shared.connections, cn'.reply = some reply) ∨
    (∃ a cn' status now, m = .outside (.handle a status now) ∧
      s.shared.connections[a]? = some cn' ∧ cn'.isOpen = true ∧
      reply = .decoded ((s.shared.plane status).handlePublic cn'.request.command now).2) ∨
    ∃ reason, reply = .incompatible reason := by
  cases m with
  | begin k => exact Or.inl ⟨cn, hcn, hreply⟩
  | go i x =>
      rcases Actor.move_go_cases (a := appState) s i x with ⟨k, done, c, f, hi⟩ | hsame
      · rcases connections_go (x := x) hi with hkept | ⟨request, j, -, hmore⟩
        · rw [hkept] at hcn
          exact Or.inl ⟨cn, hcn, hreply⟩
        · rw [hmore] at hcn
          rcases List.mem_append.1 hcn with hold | hnew
          · exact Or.inl ⟨cn, hold, hreply⟩
          · rw [List.mem_singleton.1 hnew] at hreply
            cases hreply
      · rw [hsame] at hcn
        exact Or.inl ⟨cn, hcn, hreply⟩
  | outside o =>
      have hcn' : cn ∈ (s.shared.outside o).connections := hcn
      -- a connection that is settled has the answer it is settled with
      have hsettles : ∀ {a : Nat} {answer : Option Reply}, cn ∈ s.shared.settled a answer →
          (∃ cn' ∈ s.shared.connections, cn'.reply = some reply) ∨ answer = some reply := by
        intro a answer hmem
        obtain ⟨b, hb⟩ := List.mem_iff_getElem?.1 hmem
        rw [AppWorld.settled_getElem?] at hb
        split_ifs at hb
        · obtain ⟨old, -, rfl⟩ := Option.map_eq_some_iff.1 hb
          exact Or.inr hreply
        · exact Or.inl ⟨cn, List.mem_of_getElem? hb, hreply⟩
      cases o with
      | handle a status now =>
          unfold AppWorld.outside at hcn'
          dsimp only at hcn'
          cases hreq : s.shared.openRequest a with
          | none =>
              rw [hreq] at hcn'
              exact Or.inl ⟨cn, hcn', hreply⟩
          | some request =>
              rw [hreq] at hcn'
              rcases hsettles hcn' with hold | hanswer
              · exact Or.inl hold
              · unfold AppWorld.openRequest at hreq
                cases hfound : s.shared.connections[a]? with
                | none =>
                    rw [hfound] at hreq
                    cases hreq
                | some cn' =>
                    rw [hfound] at hreq
                    dsimp only at hreq
                    split_ifs at hreq with hisOpen
                    obtain rfl := Option.some.inj hreq
                    exact Or.inr (Or.inl ⟨a, cn', status, now, rfl, hfound, hisOpen,
                      (Option.some.inj hanswer).symm⟩)
      | refuse a reason =>
          unfold AppWorld.outside at hcn'
          dsimp only at hcn'
          split_ifs at hcn'
          · rcases hsettles hcn' with hold | hanswer
            · exact Or.inl hold
            · exact Or.inr (Or.inr ⟨reason, (Option.some.inj hanswer).symm⟩)
          · exact Or.inl ⟨cn, hcn', hreply⟩
      | lose a =>
          unfold AppWorld.outside at hcn'
          dsimp only at hcn'
          split_ifs at hcn'
          · rcases hsettles hcn' with hold | hanswer
            · exact Or.inl hold
            · cases hanswer
          · exact Or.inl ⟨cn, hcn', hreply⟩
      | work op => exact Or.inl ⟨cn, hcn', hreply⟩
      | relaunch => exact Or.inl ⟨cn, hcn', hreply⟩

/-- A mutation that is known was made by its own call. -/
theorem Known.own {p : PendingMutation} (h : Known s p) :
    ∃ t ∈ s.tasks, t.call.performs = some p.context.mutationId ∧
      (phase t).stage.pending.map PendingMutation.context = some p.context := by
  obtain ⟨t, ht, hperforms, hstage⟩ := h
  refine ⟨t, ht, hperforms, ?_⟩
  rw [hstage]
  rfl

/-- A query in time that finds nothing is of a mutation that is over. -/
theorem Accounted.dead_of_notFound (ha : Accounted s) {a now : Nat} {cn : Connection}
    {status : DaemonStatus} (hm : AsksInTime s (.outside (.handle a status now)))
    (hcn : s.shared.connections[a]? = some cn) (hopen : cn.isOpen = true)
    (hreply : Reply.decoded ((s.shared.plane status).handlePublic cn.request.command now).2
      = .status (.notFound context)) : Dead s context := by
  obtain ⟨hrequest, hlookup⟩ := finds_nothing hreply
  have hopenRequest : s.shared.openRequest a = some cn.request := by
    unfold AppWorld.openRequest
    rw [hcn]
    exact if_pos hopen
  have hnothing : (Reply.decoded
      ((s.shared.plane status).handlePublic cn.request.command now).2).isNotFound = true := by
    rw [hreply]
    rfl
  have hasks : cn.request.asks = some context := by
    rw [hrequest]
    rfl
  have hunraced := hm.2 cn.request hopenRequest hnothing context hasks
  obtain ⟨p, hp, hcontext⟩ := ha.queried cn (List.mem_of_getElem? hcn) hopen context hrequest
  refine ⟨unknown_uncommitted ha.kept hlookup, hunraced, ?_⟩
  rw [← hcontext]
  exact hp.own

theorem Accounted.kept_move (ha : Accounted s) (hm : ComesBeside s m) :
    (appState.move s m).shared.ledger.Kept := by
  cases m with
  | begin k => exact ha.kept
  | go i x =>
      rcases Actor.move_go_cases (a := appState) s i x with ⟨k, done, c, f, hi⟩ | hsame
      · rw [Actor.move_go hi]
        exact ha.kept
      · rw [hsame]
        exact ha.kept
  | outside o =>
      show (s.shared.outside o).ledger.Kept
      cases o with
      | handle a status now =>
          unfold AppWorld.outside
          dsimp only
          cases s.shared.openRequest a with
          | none => exact ha.kept
          | some request => exact handled_kept ha.kept
      | refuse a reason =>
          unfold AppWorld.outside
          dsimp only
          split_ifs <;> exact ha.kept
      | lose a =>
          unfold AppWorld.outside
          dsimp only
          split_ifs <;> exact ha.kept
      | work op => exact ha.kept.step hm.2.1
      | relaunch => exact ha.kept

theorem Accounted.origin_move (ha : Accounted s) (hm : ComesBeside s m) :
    ∀ c ∈ (appState.move s m).shared.ledger.committed,
      (∀ t ∈ (appState.move s m).tasks, t.call.performs ≠ some c.context.mutationId) ∨
      Answered (appState.move s m).shared c.context := by
  intro c hc
  -- calls that began with this move draw ids no one used
  have hforeign : ((∀ t ∈ s.tasks, t.call.performs ≠ some c.context.mutationId) ∧
      (c ∈ s.shared.ledger.committed ∨ ∀ k, m ≠ .begin k)) →
      ∀ t ∈ (appState.move s m).tasks, t.call.performs ≠ some c.context.mutationId := by
    rintro ⟨hbefore, hwhen⟩ t ht hperforms
    obtain ⟨j, hj⟩ := List.mem_iff_getElem?.1 ht
    rcases move_task hj with ⟨v, hv, hcall, -, -⟩ | ⟨x, k, done, c', f, -, hv, rfl⟩ |
      ⟨-, k, rfl, hfrom⟩
    · rw [hcall] at hperforms
      exact hbefore v (List.mem_of_getElem? hv) hperforms
    · exact hbefore _ (List.mem_of_getElem? hv) hperforms
    · rcases hfrom with rfl | ⟨i, x, k', done, c', f, rfl, hi, hspawns⟩
      · rcases hwhen with hold | hnot
        · exact hm.2 _ hperforms c hold rfl
        · exact hnot k rfl
      · have hk : k.performs = some c.context.mutationId := hperforms
        rw [AppWorld.spawns_performs hspawns] at hk
        cases hk
  rcases committed_move hc with hold | ⟨a, cn, status, now, p, rfl, hcn, hopen, hr, hp⟩ |
    ⟨op, rfl, hnew⟩
  · rcases ha.origin c hold with hbefore | ⟨a, cn, p, r, hcn, hr, hp, hclosed, hreply⟩
    · exact Or.inl (hforeign ⟨hbefore, Or.inl hold⟩)
    · exact Or.inr ⟨a, cn, p, r, connection_settled hcn hclosed, hr, hp, hclosed, hreply⟩
  · right
    have hopenRequest : s.shared.openRequest a = some cn.request := by
      unfold AppWorld.openRequest
      rw [hcn]
      exact if_pos hopen
    have hconnections : (appState.move s (.outside (.handle a status now))).shared.connections
        = s.shared.settled a (some (.decoded
          ((s.shared.plane status).handlePublic cn.request.command now).2)) := by
      show (s.shared.outside (.handle a status now)).connections = _
      unfold AppWorld.outside
      dsimp only
      rw [hopenRequest]
    refine ⟨a, { cn with isOpen := false, reply := some (.decoded
      ((s.shared.plane status).handlePublic cn.request.command now).2) }, p, _, ?_, hr, hp, rfl, rfl⟩
    rw [hconnections, AppWorld.settled_getElem?, if_pos rfl, hcn]
    rfl
  · refine Or.inl (hforeign ⟨hm.2.2 c hnew, Or.inr fun k hk => ?_⟩)
    cases hk

theorem Accounted.move (h : Consistent s) (ha : Accounted s) (hm : AsksInTime s m) :
    Accounted (appState.move s m) := by
  refine ⟨ha.kept_move hm.1, ha.origin_move hm.1, fun cn hcn hopen context hr => ?_,
    fun cn hcn context hreply => ?_⟩
  · rcases open_move h hcn hopen with hold | ⟨i, x, k, done, c, f, -, -, -, hquery⟩
    · obtain ⟨p, hp, hcontext⟩ := ha.queried cn hold hopen context hr
      exact ⟨p, hp.move m, hcontext⟩
    · obtain ⟨p, hp, hcontext⟩ := hquery context hr
      exact ⟨p, hp.move m, hcontext⟩
  · rcases reply_move hcn hreply with ⟨cn', hcn', hbefore⟩ |
      ⟨a, cn', status, now, rfl, hcn', hopen, hanswer⟩ | ⟨reason, hanswer⟩
    · exact (ha.unknown cn' hcn' context hbefore).move h hm.1
    · exact (ha.dead_of_notFound hm hcn' hopen hanswer.symm).move h hm.1
    · cases hanswer

end Accounted

/-! ## What is given up is over -/

section Over

variable {s : AppTasks} {t : AppTask} {p : PendingMutation}

/-- A call that did not send its mutation: nothing of it is anywhere. -/
theorem dead_of_unsent (h : Consistent s) (hs : SentOnce s) (ha : Accounted s) (ht : t ∈ s.tasks)
    (hstage : (phase t).stage = .unsent p) : Dead s p.context := by
  have hpending : (phase t).stage.pending = some p := by
    rw [hstage]
    rfl
  obtain ⟨hperforms, -⟩ := h.own t ht p hpending
  obtain ⟨b, hb⟩ := List.mem_iff_getElem?.1 ht
  have honly : ∀ u ∈ s.tasks, u.call.performs = some p.mutationID → u = t := by
    intro u hu hup
    obtain ⟨j, hj⟩ := List.mem_iff_getElem?.1 hu
    obtain rfl := h.distinct j b u t _ hj hb hup hperforms
    exact Option.some.inj (hj.symm.trans hb)
  have hnever : ∀ (a : Nat) cn q, s.shared.connections[a]? = some cn → cn.request = .mutation q →
      q.context ≠ p.context := by
    intro a cn q hcn hr hcontext
    have hrequest : s.shared.requests[a]? = some (.mutation q) := by
      unfold AppWorld.requests
      rw [List.getElem?_map, hcn, Option.map_some, hr]
    obtain ⟨u, hu, hup, hsent⟩ := hs.sent a q hrequest
    have hid : q.mutationID = p.mutationID := congrArg MutationContext.mutationId hcontext
    rw [hid] at hup
    rw [honly u hu hup, hstage] at hsent
    cases hsent
  refine ⟨fun c hc hcontext => ?_, ⟨fun cn hcn _ hsends => ?_, fun u hu hopen hsends => ?_⟩, ?_⟩
  · rcases ha.origin c hc with hforeign | ⟨a, cn, q, r, hcn, hr, hq, -⟩
    · rw [hcontext] at hforeign
      exact hforeign t ht hperforms
    · exact hnever a cn q hcn hr (hq.trans hcontext)
  · obtain ⟨a, ha'⟩ := List.mem_iff_getElem?.1 hcn
    cases hr : cn.request with
    | mutation q =>
        rw [hr] at hsends
        exact hnever a cn q ha' hr (Option.some.inj hsends)
    | mutationStatus context =>
        rw [hr] at hsends
        cases hsends
  · obtain ⟨q, hq, hcontext⟩ := Option.map_eq_some_iff.1 hsends
    obtain ⟨hup, -⟩ := h.own u hu q (Stage.pending_of_unsettled hq)
    have hid : q.mutationID = p.mutationID := congrArg MutationContext.mutationId hcontext
    rw [hid] at hup
    rw [honly u hu hup, hstage] at hq
    cases hq
  · refine ⟨t, ht, hperforms, ?_⟩
    rw [hpending]
    rfl

/-- A connection on which the mutation was refused unread is the only one
with it. -/
theorem dead_of_refused (h : Consistent s) (hs : SentOnce s) (ha : Accounted s) {j : Nat}
    {cn : Connection} {reason : String} (hcn : s.shared.connections[j]? = some cn)
    (hr : cn.request = .mutation p) (hclosed : cn.isOpen = false)
    (hreply : cn.reply = some (.incompatible reason)) : Dead s p.context := by
  have hrequest : ∀ {a : Nat} {cn' : Connection} {q}, s.shared.connections[a]? = some cn' →
      cn'.request = .mutation q → s.shared.requests[a]? = some (.mutation q) := by
    intro a cn' q hcn' hr'
    unfold AppWorld.requests
    rw [List.getElem?_map, hcn', Option.map_some, hr']
  obtain ⟨t, ht, hperforms, hsent⟩ := hs.sent j p (hrequest hcn hr)
  have honly : ∀ {a : Nat} {cn' : Connection} {q}, s.shared.connections[a]? = some cn' →
      cn'.request = .mutation q → q.context = p.context → cn' = cn := by
    intro a cn' q hcn' hr' hcontext
    have hid : q.mutationID = p.mutationID := congrArg MutationContext.mutationId hcontext
    obtain rfl := hs.once a j q p (hrequest hcn' hr') (hrequest hcn hr) hid
    exact Option.some.inj (hcn'.symm.trans hcn)
  refine ⟨fun c hc hcontext => ?_, ⟨fun cn' hcn' hopen hsends => ?_, fun u hu hopen hsends => ?_⟩, ?_⟩
  · rcases ha.origin c hc with hforeign | ⟨a, cn', q, r, hcn', hr', hq, -, hreply'⟩
    · rw [hcontext] at hforeign
      exact hforeign t ht hperforms
    · obtain rfl := honly hcn' hr' (hq.trans hcontext)
      rw [hreply] at hreply'
      have hdecoded := Option.some.inj hreply'
      cases r with
      | error e => cases hdecoded
      | ok payload => cases payload <;> cases hdecoded
  · obtain ⟨a, ha'⟩ := List.mem_iff_getElem?.1 hcn'
    cases hr' : cn'.request with
    | mutation q =>
        rw [hr'] at hsends
        obtain rfl := honly ha' hr' (Option.some.inj hsends)
        rw [hclosed] at hopen
        cases hopen
    | mutationStatus context =>
        rw [hr'] at hsends
        cases hsends
  · obtain ⟨q, hq, hcontext⟩ := Option.map_eq_some_iff.1 hsends
    obtain ⟨hup, -⟩ := h.own u hu q (Stage.pending_of_unsettled hq)
    have hid : q.mutationID = p.mutationID := congrArg MutationContext.mutationId hcontext
    rw [hid] at hup
    obtain ⟨b, hb⟩ := List.mem_iff_getElem?.1 hu
    obtain ⟨b', hb'⟩ := List.mem_iff_getElem?.1 ht
    obtain rfl := h.distinct b b' u t _ hb hb' hup hperforms
    obtain rfl := Option.some.inj (hb.symm.trans hb')
    rw [hsent] at hq
    cases hq
  · refine ⟨t, ht, hperforms, ?_⟩
    rw [hsent]
    rfl

/-- **What a task can show of a mutation** that is not applied means that it
is over. -/
theorem dead_of_disproves (h : Consistent s) (hs : SentOnce s) (hd : Delivers s)
    (ha : Accounted s) (ht : t ∈ s.tasks) (hp : Disproves t.call t.done p) : Dead s p.context := by
  rcases hp with ⟨r, j, hmem⟩ | hunsent | ⟨j, reason, hmem⟩
  · obtain ⟨cn, hcn, -, -, hreply⟩ := hd.received t ht r j _ hmem
    exact ha.unknown cn (List.mem_of_getElem? hcn) p.context hreply
  · exact dead_of_unsent h hs ha ht hunsent
  · obtain ⟨cn, hcn, hr, hclosed, hreply⟩ := hd.received t ht _ j _ hmem
    exact dead_of_refused h hs ha hcn hr hclosed hreply

end Over

/-! ## Every run -/

/-- What a run keeps in which the daemon is asked in time. -/
structure Watched (s : AppTasks) : Prop where
  consistent : Consistent s
  sent : SentOnce s
  delivers : Delivers s
  accounted : Accounted s

theorem start_watched (token : NamespaceToken) : Watched (AppWorld.start token) := by
  refine ⟨start_consistent token, ⟨?_, ?_⟩, ⟨?_, ?_, ?_⟩,
    ⟨Ledger.start_kept token, ?_, ?_, ?_⟩⟩
  · intro a p ha
    cases ha
  · intro a b p q ha
    cases ha
  · intro cn hcn
    cases hcn
  · intro t ht
    cases ht
  · intro t ht
    cases ht
  · intro c hc
    cases hc
  · intro cn hcn
    cases hcn
  · intro cn hcn
    cases hcn

theorem Watched.move {s : AppTasks} {m : AppMove} (h : Watched s) (hm : AsksInTime s m) :
    Watched (appState.move s m) where
  consistent := h.consistent.move hm.1.1
  sent := h.sent.move h.consistent m
  delivers := h.delivers.move h.consistent
  accounted := h.accounted.move h.consistent hm

/-- Whether a record is dismissed has no part in what acknowledges it. -/
theorem Acknowledges.of_undismissed {p q : PendingMutation} {e : AppEvent} (h : Acknowledges q e)
    (hpq : q.undismissed = p.undismissed) : Acknowledges p e := by
  have hvalid : ∀ receipt, q.validate receipt = p.validate receipt := by
    intro receipt
    show q.undismissed.validate receipt = p.undismissed.validate receipt
    rw [hpq]
  obtain ⟨c, r⟩ := e
  cases c with
  | receive request j =>
      cases r with
      | none => exact h
      | some reply =>
          cases reply with
          | receipt receipt => exact (hvalid receipt).symm.trans h
          | status found =>
              cases found with
              | committed receipt => exact (hvalid receipt).symm.trans h
              | _ => exact h
          | error code =>
              cases request with
              | mutation sent => exact h.trans hpq
              | mutationStatus context => exact h
          | incompatible reason => exact h
  | _ => exact h

/-- What the App gives up without an answer is over. -/
theorem Watched.dead {s : AppTasks} {i : Nat} {x : AppChoice} {e : AppEvent}
    {p : PendingMutation} (h : Watched s) (he : appState.event s i x = some e)
    (hdisowns : Disowns s.shared p e) (hnot : ¬ Acknowledged s p) : Dead s p.context := by
  obtain ⟨k, done, c, f, hi, rfl⟩ := Actor.event_eq_some.1 he
  have ht := List.mem_of_getElem? hi
  have hlicensed := (h.consistent.keeping.next hi).1.2
  have hover : ∀ q, Disproves k done q → Dead s q.context := fun q hq =>
    dead_of_disproves h.consistent h.sent h.delivers h.accounted ht hq
  cases c with
  | setMutationState state =>
      cases state with
      | definitelyNotApplied q =>
          obtain rfl : q = p := hdisowns
          exact hover q hlicensed
      | failedBeforeSend q reasonID =>
          obtain rfl : q = p := hdisowns
          exact hover q hlicensed
      | _ => exact hdisowns.elim
  | remove mutationID =>
      obtain ⟨htook, hrecord⟩ := hdisowns
      obtain ⟨q, hid, hheard, hgives⟩ := hlicensed
      have hpid : p.mutationID = mutationID := MutationJournal.remove_took htook p hrecord
      have hq : Known s q := (h.consistent.heard _ ht _ hheard).of_undismissed rfl
      have hp : Known s p := h.consistent.journal p hrecord
      have hsame : q.undismissed = p.undismissed :=
        h.consistent.same hq hp (hid.trans hpid.symm)
      rcases hgives with hdisproves | ⟨e, he, hack⟩
      · have hcontext : q.undismissed.context = p.undismissed.context := by rw [hsame]
        have hdead := hover q hdisproves
        have hcontext' : q.context = p.context := hcontext
        rw [hcontext'] at hdead
        exact hdead
      · exact absurd ⟨_, ht, e, he, hack.of_undismissed hsame⟩ hnot
  | _ => exact hdisowns.elim

/-- **The App never disowns a mutation the daemon applies**, in every run in
which a query that finds nothing is answered while its mutation is not on
its way. -/
theorem neverDisowns_of_inTime (token : NamespaceToken) (ms : List AppMove)
    (h : Transition.Along appState.move AsksInTime (AppWorld.start token) ms) :
    NeverDisowns (AppWorld.start token) ms := by
  intro before i x after p e hms he hdisowns hnot c hc hcontext
  rw [hms] at h
  obtain ⟨hbefore, hafter⟩ := Transition.along_append.1 h
  have hwatched : Watched (before.foldl appState.move (AppWorld.start token)) :=
    hbefore.invariant (P := Watched) (fun _ _ hs hm => hs.move hm) (start_watched token)
  have hdead := hwatched.dead he hdisowns hnot
  -- what is over stays over for the rest of the run
  have hend : Consistent (ms.foldl appState.move (AppWorld.start token)) ∧
      Dead (ms.foldl appState.move (AppWorld.start token)) p.context := by
    rw [hms, List.foldl_append]
    refine hafter.invariant (P := fun s => Consistent s ∧ Dead s p.context) ?_
      ⟨hwatched.consistent, hdead⟩
    intro s m hs hm
    exact ⟨hs.1.move hm.1.1, hs.2.move hs.1 hm.1⟩
  exact absurd hcontext (hend.2.uncommitted c hc)

/-- The owner pauses, and the request is sent. -/
def pauses : List AppMove :=
  launches ++ [.begin (.perform (.pause 60000 "1m") "00000000-0000-4000-8000-000000000001" 7)]
    ++ List.replicate 6 (.go 2 answered)

/-- The request is lost; the daemon is asked, knows nothing of it, and the
App gives it up. -/
def gaveUp : List AppMove :=
  pauses ++ [.outside (.lose 0)] ++ List.replicate 5 (.go 2 answered)
    ++ [.outside (.handle 1 (.new .enforce "instance") 20)] ++ List.replicate 6 (.go 2 answered)

theorem neverDisowns_gaveUp :
    Transition.Along appState.move AsksInTime (AppWorld.start Store.sampleToken) gaveUp ∧
    NeverDisowns (AppWorld.start Store.sampleToken) gaveUp :=
  ⟨by decide +kernel, neverDisowns_of_inTime _ _ (by decide +kernel)⟩

/-- The refresh loop asks while the request is on its way, and is about to
give it up. -/
def givesUpEarly : List AppMove :=
  pauses ++ [.begin .refresh] ++ List.replicate 3 (.go 3 answered)
    ++ List.replicate 11 (.go 4 answered)
    ++ [.outside (.handle 1 (.new .enforce "instance") 20)] ++ List.replicate 5 (.go 4 answered)

/-- It gives it up, and then the daemon comes to it. -/
def overtaken : List AppMove :=
  givesUpEarly ++ .go 4 answered :: [.outside (.handle 0 (.new .enforce "instance") 30)]

/-- The pause as it was asked for. -/
def pausePending : PendingMutation :=
  .new ⟨Store.sampleToken.value, "00000000-0000-4000-8000-000000000001"⟩ (.pause 60000 "1m") 7

/-- The call shows that the mutation was not applied. -/
def AppCall.givesUp (p : PendingMutation) : AppCall → Bool
  | .setMutationState (.definitelyNotApplied q) => decide (q = p)
  | _ => false

/-- A mutation that is shown as definitely not applied is applied after
that. -/
theorem disowned_applied : ¬ ∀ (token : NamespaceToken) (ms : List AppMove),
    Transition.Along appState.move ComesBeside (AppWorld.start token) ms →
    NeverDisowns (AppWorld.start token) ms := by
  intro hall
  have hnever := hall Store.sampleToken overtaken (by decide +kernel)
  have hnext : (((givesUpEarly.foldl appState.move (AppWorld.start Store.sampleToken)).tasks[4]?.bind
      fun t => t.rest.next).any (AppCall.givesUp pausePending)) = true := by
    decide +kernel
  have hnot : ¬ Acknowledged (givesUpEarly.foldl appState.move (AppWorld.start Store.sampleToken))
      pausePending := by
    decide +kernel
  have happlied : ∃ c ∈ (overtaken.foldl appState.move
      (AppWorld.start Store.sampleToken)).shared.ledger.committed,
      c.context = pausePending.context ∧ c.applied = true := by
    decide +kernel
  obtain ⟨c, hc, hshown⟩ := (Option.any_eq_true _ _).1 hnext
  have hevent : appState.event (givesUpEarly.foldl appState.move
      (AppWorld.start Store.sampleToken)) 4 answered = some ⟨c, appState.answer
        (givesUpEarly.foldl appState.move (AppWorld.start Store.sampleToken)).shared c answered⟩ := by
    unfold Actor.event
    rw [hc]
    rfl
  have hdisowns : ∀ (w : AppWorld) r, Disowns w pausePending ⟨c, r⟩ := by
    intro w r
    cases c with
    | setMutationState state =>
        cases state with
        | definitelyNotApplied q =>
            have hq : q = pausePending := of_decide_eq_true hshown
            exact hq
        | _ => cases hshown
    | _ => cases hshown
  obtain ⟨committed, hmem, hcontext, happlied⟩ := happlied
  have hclaimed := hnever givesUpEarly 4 answered _ pausePending _ rfl hevent (hdisowns _ _) hnot
    committed hmem hcontext
  rw [happlied] at hclaimed
  cases hclaimed

end App

end Unlinger
