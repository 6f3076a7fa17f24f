import Unlinger.App.Helpers.Notifications

/-!
# What a call of the coordinator guarantees

A call saves what it composed before it schedules. If it records something
in the ledger that the ways of a call do not take back, then whatever is
read later has it; and what it may only schedule with the record, it
schedules after it.
-/

namespace Unlinger

namespace App

open Interaction NotificationLedgerState

/-! ## Episodes and calls -/

/-- The episodes the user is told of. -/
inductive Episode
  | daemonFailed
  | eventSourceDegraded
  | daemonUnavailable
deriving DecidableEq

namespace Episode

def bodyKey : Episode → String
  | .daemonFailed => "notification.daemon_failed"
  | .eventSourceDegraded => "notification.event_source_degraded"
  | .daemonUnavailable => "notification.daemon_unavailable"

/-- The condition of the episode, as a trusted refresh shows it. -/
def holds (status : PublicStatus) : Episode → Bool
  | .daemonFailed => !status.healthy || status.readiness == .failed
  | .eventSourceDegraded => !status.eventSourceHealthy
  | .daemonUnavailable => false

/-- A refresh in which the condition does not hold. -/
def ends (e : Episode) : CoordinatorCall → Bool
  | .receiveTrustedRefresh status _ _ _ => !e.holds status
  | _ => false

/-- The notification is of such an episode. -/
def Notifies (e : Episode) (n : LocalNotification) : Prop :=
  n.eventToken = none ∧ n.bodyKey = e.bodyKey

/-- The ledger has told of the episode. -/
def told : Episode → NotificationLedgerState → Bool
  | .daemonFailed, state => (state.activeEpisodes.lookup "daemon_failed").isSome
  | .eventSourceDegraded, state => (state.activeEpisodes.lookup "event_source_degraded").isSome
  | .daemonUnavailable, state => state.unavailableEpisode.any fun e => e.handled

end Episode

/-- The moves of the coordinator. -/
abbrev CoordinatorMove := Move CoordinatorCall NotificationChoice NotificationMode

abbrev CoordinatorTasks := Tasks NotificationCall.Answer NotificationCoordinator CoordinatorCall

abbrev NotificationEvent := Event NotificationCall.Answer

/-- The ledger a call reads. -/
def NotificationCoordinator.Reads (s : NotificationCoordinator) (state : NotificationLedgerState) :
    Prop :=
  s.loadedState = some state ∨ s.loadedState = none ∧ s.ledger = state

namespace CoordinatorCall

/-- The ledger after the pruning of a call. -/
def pruned (k : CoordinatorCall) (state : NotificationLedgerState) : NotificationLedgerState :=
  match k with
  | .receiveTrustedRefresh _ _ now order => state.prune now order
  | .receiveUnavailable now order => state.prune now order
  | _ => state

/-- The call is a refresh that does not contain the token. -/
def Withdraws (k : CoordinatorCall) (token : String) : Prop :=
  match k with
  | .receiveTrustedRefresh status history _ _ => token ∉ retainedTokens status history
  | _ => False

/-- What the call composes its ledger with, if it does. -/
def compose : CoordinatorCall → Option (NotificationMode → NotificationLedgerState → Composed)
  | .receiveTrustedRefresh status history now order => some (refreshed status history now order)
  | .receiveUnavailable now order => some (unavailable now order)
  | _ => none

end CoordinatorCall

/-! ## What the ledger owes -/

section Owed

variable {P : NotificationLedgerState → Prop} {N : LocalNotification → Prop} {always : Prop}
  {state : NotificationLedgerState} {s : NotificationCoordinator}
  {t : Trace NotificationCall.Answer}

/-- What a ledger keeps when a call notes how it went. -/
structure Stable (P : NotificationLedgerState → Prop) : Prop where
  disposed : ∀ state n d, P state → P (NotificationCoordinator.disposed state n d)
  promptAttempted : ∀ state, P state → P { state with promptAttempted := true }
  authorizationSummary : ∀ state a, P state → P { state with authorizationSummary := a }

/-- The call has saved such a ledger. -/
def Recorded (P : NotificationLedgerState → Prop) (t : Trace NotificationCall.Answer) : Prop :=
  ∃ state, (⟨.save state, .saved⟩ : NotificationEvent) ∈ t ∧ P state

/-- Whatever a later call reads is such a ledger. -/
structure Holds (P : NotificationLedgerState → Prop) (s : NotificationCoordinator) : Prop where
  ledger : P s.ledger
  loaded : ∀ state, s.loadedState = some state → P state

/-- What holds while a call goes on: the file is such a ledger, always or
once the call has recorded one, and what it schedules of the notifications
`N` comes after the record, once. -/
def Owes (P : NotificationLedgerState → Prop) (N : LocalNotification → Prop) (always : Prop)
    (s : NotificationCoordinator) (t : Trace NotificationCall.Answer) (c : NotificationCall) : Prop :=
  (always ∨ Recorded P t → P s.ledger) ∧ ∀ n, c = .schedule n → N n →
    ¬ always ∧ Recorded P t ∧ ∀ n' r, (⟨.schedule n', r⟩ : NotificationEvent) ∈ t → ¬ N n'

theorem recorded_append {e : NotificationEvent} :
    Recorded P (t ++ [e]) ↔
      Recorded P t ∨ ∃ state, e = ⟨.save state, .saved⟩ ∧ P state := by
  unfold Recorded
  constructor
  · rintro ⟨state, hmem, hP⟩
    rcases List.mem_append.1 hmem with hmem | hmem
    · exact Or.inl ⟨state, hmem, hP⟩
    · exact Or.inr ⟨state, (List.mem_singleton.1 hmem).symm, hP⟩
  · rintro (⟨state, hmem, hP⟩ | ⟨state, rfl, hP⟩)
    · exact ⟨state, List.mem_append_left _ hmem, hP⟩
    · exact ⟨state, List.mem_append_right _ (List.mem_singleton.2 rfl), hP⟩

/-- What is owed of the ledger a call goes on with. -/
def Goes (P : NotificationLedgerState → Prop) (always : Prop) (state : NotificationLedgerState)
    (s : NotificationCoordinator) (t : Trace NotificationCall.Answer) : Prop :=
  always ∨ Recorded P t → P state ∧ Holds P s

/-- The schedules of a past. -/
def Scheduled (t : Trace NotificationCall.Answer) (n : LocalNotification) : Prop :=
  ∃ r, (⟨.schedule n, r⟩ : NotificationEvent) ∈ t

theorem scheduled_of_append {e : NotificationEvent} {n : LocalNotification}
    (h : Scheduled (t ++ [e]) n) (he : ∀ m, e.call ≠ .schedule m) : Scheduled t n := by
  obtain ⟨r, hmem⟩ := h
  rcases List.mem_append.1 hmem with hmem | hmem
  · exact ⟨r, hmem⟩
  · obtain rfl := List.mem_singleton.1 hmem
    exact absurd rfl (he n)

theorem recorded_other {e : NotificationEvent} (he : ∀ state, e.call ≠ .save state) :
    Recorded P (t ++ [e]) ↔ Recorded P t := by
  rw [recorded_append]
  constructor
  · rintro (hrec | ⟨state, rfl, -⟩)
    · exact hrec
    · exact absurd rfl (he state)
  · exact Or.inl

/-- A call that is no schedule is owed nothing. -/
theorem owes_of_ne {c : NotificationCall} (hc : ∀ n, c ≠ .schedule n)
    (h : always ∨ Recorded P t → P s.ledger) : Owes P N always s t c :=
  ⟨h, fun n hn => absurd hn (hc n)⟩

theorem persist_triple (hgoes : Goes P always state s t) :
    coordinator.Triple (Owes P N always) (NotificationCoordinator.persist state) s t
      fun s' t' saved => Goes P always state s' t' ∧
        (saved = true → P state → Recorded P t') ∧ (Recorded P t → Recorded P t') ∧
        ∀ n, Scheduled t' n → Scheduled t n := by
  refine Actor.triple_ask.2 ⟨owes_of_ne nofun fun hdue => (hgoes hdue).2.ledger, fun x => ?_⟩
  generalize coordinator.answer s (NotificationCall.save state) x = result
  cases result with
  | saved =>
      have hsaved : Recorded P (t ++ [⟨.save state, SaveResult.saved⟩]) ↔ Recorded P t ∨ P state := by
        rw [recorded_append]
        refine or_congr Iff.rfl ⟨?_, fun hP => ⟨state, rfl, hP⟩⟩
        rintro ⟨state', heq, hP⟩
        cases heq
        exact hP
      have hdue : always ∨ Recorded P (t ++ [⟨.save state, SaveResult.saved⟩]) → P state := by
        rintro (halways | hrec)
        · exact (hgoes (Or.inl halways)).1
        · rcases hsaved.1 hrec with hrec | hP
          · exact (hgoes (Or.inr hrec)).1
          · exact hP
      set past := t ++ [(⟨.save state, SaveResult.saved⟩ : NotificationEvent)] with hpast
      have hloaded : Recorded P (past ++ [⟨.setLoadedState state, ()⟩]) ↔ Recorded P past :=
        recorded_other nofun
      refine Actor.triple_ask.2 ⟨owes_of_ne nofun hdue, fun _ => ⟨fun h => ?_, ?_, ?_, ?_⟩⟩
      · have hP := hdue (h.imp_right hloaded.1)
        refine ⟨hP, hP, fun loaded heq => ?_⟩
        obtain rfl := Option.some.inj heq
        exact hP
      · exact fun _ hP => hloaded.2 (hsaved.2 (Or.inr hP))
      · exact fun hrec => hloaded.2 (hsaved.2 (Or.inl hrec))
      · exact fun n hn => scheduled_of_append (scheduled_of_append hn nofun) nofun
  | failed replaced =>
      have hfailed : Recorded P (t ++ [⟨.save state, SaveResult.failed replaced⟩]) ↔ Recorded P t := by
        rw [recorded_append]
        refine ⟨?_, Or.inl⟩
        rintro (hrec | ⟨state', heq, -⟩)
        · exact hrec
        · cases heq
      refine ⟨fun hdue => ?_, nofun, hfailed.2, fun n hn => scheduled_of_append hn nofun⟩
      rw [hfailed] at hdue
      obtain ⟨hP, hholds⟩ := hgoes hdue
      -- the file is as it was, or has been replaced
      cases replaced with
      | false => exact ⟨hP, hholds.ledger, hholds.loaded⟩
      | true => exact ⟨hP, hP, hholds.loaded⟩

/-- Nothing was saved or scheduled yet. -/
def Quiet (t : Trace NotificationCall.Answer) : Prop :=
  (∀ state r, (⟨.save state, r⟩ : NotificationEvent) ∉ t) ∧ ∀ n, ¬ Scheduled t n

theorem Quiet.not_recorded (h : Quiet t) : ¬ Recorded P t := by
  rintro ⟨state, hmem, -⟩
  exact h.1 state _ hmem

theorem quiet_nil : Quiet [] := by
  refine ⟨fun state r => List.not_mem_nil, fun n hn => ?_⟩
  obtain ⟨r, hmem⟩ := hn
  exact List.not_mem_nil hmem

theorem Quiet.append {e : NotificationEvent} (h : Quiet t) (hsave : ∀ state, e.call ≠ .save state)
    (hschedule : ∀ n, e.call ≠ .schedule n) : Quiet (t ++ [e]) := by
  refine ⟨fun state r hmem => ?_, fun n hn => h.2 n (scheduled_of_append hn hschedule)⟩
  rcases List.mem_append.1 hmem with hmem | hmem
  · exact h.1 state r hmem
  · obtain rfl := List.mem_singleton.1 hmem
    exact hsave state rfl

/-- What a call that was quiet so far goes on with. -/
theorem Quiet.goes (h : Quiet t) (halways : always → P state ∧ Holds P s) :
    Goes P always state s t :=
  fun hdue => hdue.elim halways fun hrec => absurd hrec h.not_recorded

theorem Quiet.owes {c : NotificationCall} (h : Quiet t) (hc : ∀ n, c ≠ .schedule n)
    (halways : always → Holds P s) : Owes P N always s t c :=
  owes_of_ne hc fun hdue => hdue.elim (fun ha => (halways ha).ledger)
    fun hrec => absurd hrec h.not_recorded

/-- Loading finds what there is to read, and changes nothing else. -/
theorem loadState_triple (halways : always → Holds P s) :
    coordinator.Triple (Owes P N always) NotificationCoordinator.loadState s []
      fun s' t' found => Quiet t' ∧ (always → Holds P s') ∧
        ∀ state, found = some state → s.Reads state := by
  refine Actor.triple_ask.2 ⟨quiet_nil.owes nofun halways, fun x => ?_⟩
  generalize hfield : coordinator.answer s NotificationCall.loadedState x = field
  have hloaded : s.loadedState = field := hfield
  have hquiet : Quiet ([] ++ [⟨.loadedState, field⟩]) := quiet_nil.append nofun nofun
  cases field with
  | some state =>
      refine ⟨hquiet, halways, fun found hfound => Or.inl ?_⟩
      exact hloaded.trans hfound
  | none =>
      refine Actor.triple_ask.2 ⟨hquiet.owes nofun halways, fun y => ?_⟩
      have hstep : coordinator.step s ⟨.loadedState, none⟩ = s := rfl
      rw [hstep]
      generalize hfile : coordinator.answer s NotificationCall.load y = file
      have hquiet' : Quiet ([] ++ [⟨.loadedState, none⟩] ++ [⟨.load, file⟩]) :=
        hquiet.append nofun nofun
      cases file with
      | some state =>
          have hledger : s.ledger = state := by
            change (if y.loads = true ∧ s.ledger.schemaVersion = 1 then some s.ledger else none)
              = some state at hfile
            split_ifs at hfile
            exact Option.some.inj hfile
          refine Actor.triple_ask.2 ⟨hquiet'.owes (by exact nofun) halways, fun _ =>
            ⟨?_, fun ha => ?_, ?_⟩⟩
          · exact hquiet'.append nofun nofun
          · refine ⟨(halways ha).ledger, fun found hfound => ?_⟩
            obtain rfl := Option.some.inj hfound
            rw [← hledger]
            exact (halways ha).ledger
          · intro found hfound
            obtain rfl := Option.some.inj hfound
            exact Or.inr ⟨hloaded, hledger⟩
      | none =>
          exact ⟨hquiet', halways, nofun⟩

theorem schedule_triple (hstable : Stable P) {pending : List LocalNotification}
    (hgoes : Goes P always state s t)
    (hpending : ∀ n ∈ pending, N n → ¬ always ∧ Recorded P t)
    (hdistinct : pending.Pairwise fun a b => ¬ (N a ∧ N b))
    (honce : ∀ n ∈ pending, N n → ∀ n', Scheduled t n' → ¬ N n') :
    coordinator.Triple (Owes P N always) (NotificationCoordinator.schedule pending state) s t
      fun s' t' _ => always ∨ Recorded P t' → Holds P s' := by
  induction pending generalizing state s t with
  | nil => exact fun hdue => (hgoes hdue).2
  | cons n pending ih =>
      obtain ⟨hfirst, hrest⟩ := List.pairwise_cons.1 hdistinct
      refine Actor.triple_ask.2 ⟨⟨fun hdue => (hgoes hdue).2.ledger, fun m hm hN => ?_⟩, fun x => ?_⟩
      · obtain rfl : n = m := NotificationCall.schedule.inj hm
        obtain ⟨halways, hrec⟩ := hpending n List.mem_cons_self hN
        refine ⟨halways, hrec, fun n' r hmem => ?_⟩
        exact honce n List.mem_cons_self hN n' ⟨r, hmem⟩
      · generalize coordinator.answer s (NotificationCall.schedule n) x = result
        set past := t ++ [(⟨.schedule n, result⟩ : NotificationEvent)] with hpast
        have hrec : Recorded P past ↔ Recorded P t := recorded_other nofun
        have hgoes' : Goes P always (NotificationCoordinator.disposed state n
            (if result.isSome then .scheduled else .failedToSchedule)) s past := by
          intro hdue
          obtain ⟨hP, hholds⟩ := hgoes (hdue.imp_right hrec.1)
          exact ⟨hstable.disposed _ _ _ hP, hholds⟩
        refine Actor.Triple.bind (persist_triple hgoes') fun s' t' _ hpost => ?_
        obtain ⟨hgoes'', -, hrec', hscheduled⟩ := hpost
        refine ih hgoes'' (fun m hm hN => ?_) hrest fun m hm hN n' hn' => ?_
        · obtain ⟨halways, hrecm⟩ := hpending m (List.mem_cons_of_mem n hm) hN
          exact ⟨halways, hrec' (hrec.2 hrecm)⟩
        · -- it was scheduled before, or it is the first of these
          obtain ⟨r, hmem⟩ := hscheduled n' hn'
          rcases List.mem_append.1 hmem with hmem | hmem
          · exact honce m (List.mem_cons_of_mem n hm) hN n' ⟨r, hmem⟩
          · have heq := congrArg Event.call (List.mem_singleton.1 hmem)
            obtain rfl : n' = n := NotificationCall.schedule.inj heq
            exact fun hNn => hfirst m hm ⟨hNn, hN⟩

/-- What is composed can be owed. -/
structure Composes (P : NotificationLedgerState → Prop) (N : LocalNotification → Prop)
    (always : Prop) (c : Composed) : Prop where
  keeps : always → P c.1
  warrants : ∀ n ∈ c.2, N n → ¬ always ∧ P c.1
  distinct : c.2.Pairwise fun a b => ¬ (N a ∧ N b)

theorem receive_triple (hstable : Stable P)
    {compose : NotificationMode → NotificationLedgerState → Composed}
    (halways : always → Holds P s)
    (hcompose : ∀ state, s.Reads state → ∀ mode, Composes P N always (compose mode state)) :
    coordinator.Triple (Owes P N always) (NotificationCoordinator.receive compose) s []
      fun s' t' _ => always ∨ Recorded P t' → Holds P s' := by
  refine Actor.Triple.bind (loadState_triple halways) fun s' t' found hfound => ?_
  obtain ⟨hquiet, hholds, hreads⟩ := hfound
  cases found with
  | none => exact fun hdue => hdue.elim hholds fun hrec => absurd hrec hquiet.not_recorded
  | some state =>
      refine Actor.triple_ask.2 ⟨hquiet.owes (by exact nofun) hholds, fun x => ?_⟩
      generalize coordinator.answer s' NotificationCall.mode x = mode
      have hquiet' : Quiet (t' ++ [⟨.mode, mode⟩]) := hquiet.append nofun nofun
      have hc := hcompose state (hreads state rfl) mode
      have hgoes : Goes P always (compose mode state).1 s' (t' ++ [⟨.mode, mode⟩]) :=
        hquiet'.goes fun ha => ⟨hc.keeps ha, hholds ha⟩
      refine Actor.Triple.bind (persist_triple hgoes) fun s₁ t₁ saved hpost => ?_
      obtain ⟨hgoes', hrecord, -, hscheduled⟩ := hpost
      cases saved with
      | false => exact fun hdue => (hgoes' hdue).2
      | true =>
          refine schedule_triple hstable hgoes' (fun n hn hN => ?_) hc.distinct
            fun n hn hN n' hn' => absurd (hscheduled n' hn') (hquiet'.2 n')
          obtain ⟨hnot, hP⟩ := hc.warrants n hn hN
          exact ⟨hnot, hrecord rfl hP⟩

theorem prepareAuthorization_triple (hstable : Stable P) (halways : always → Holds P s) :
    coordinator.Triple (Owes P N always) NotificationCoordinator.prepareAuthorization s []
      fun s' t' _ => always ∨ Recorded P t' → Holds P s' := by
  -- the last save, wherever it comes
  have hsummarize : ∀ state authorization s t, Goes P always state s t →
      coordinator.Triple (Owes P N always)
        (NotificationCoordinator.summarize state authorization) s t
        fun s' t' _ => always ∨ Recorded P t' → Holds P s' := by
    intro state authorization s t hgoes
    have hgoes' : Goes P always { state with authorizationSummary := authorization } s t :=
      fun hdue => ⟨hstable.authorizationSummary _ _ (hgoes hdue).1, (hgoes hdue).2⟩
    exact Actor.Triple.bind (persist_triple hgoes') fun s' t' _ hpost hdue => (hpost.1 hdue).2
  refine Actor.Triple.bind (loadState_triple halways) fun s' t' found hfound => ?_
  obtain ⟨hquiet, hholds, hreads⟩ := hfound
  cases found with
  | none => exact fun hdue => hdue.elim hholds fun hrec => absurd hrec hquiet.not_recorded
  | some state =>
      have hread : always → P state := by
        intro ha
        rcases hreads state rfl with hloaded | ⟨-, rfl⟩
        · exact (halways ha).loaded state hloaded
        · exact (halways ha).ledger
      refine Actor.triple_ask.2 ⟨hquiet.owes (by exact nofun) hholds, fun x => ?_⟩
      generalize coordinator.answer s' NotificationCall.currentAuthorization x = authorization
      have hquiet₁ : Quiet (t' ++ [⟨.currentAuthorization, authorization⟩]) :=
        hquiet.append nofun nofun
      refine Actor.triple_ask.2 ⟨hquiet₁.owes (by exact nofun) hholds, fun y => ?_⟩
      have hstep : coordinator.step s' ⟨.currentAuthorization, authorization⟩ = s' := rfl
      rw [hstep]
      generalize coordinator.answer s' NotificationCall.mode y = mode
      have hquiet₂ : Quiet (t' ++ [⟨.currentAuthorization, authorization⟩] ++ [⟨.mode, mode⟩]) :=
        hquiet₁.append nofun nofun
      split_ifs with hprompt
      · have hgoes : Goes P always { state with promptAttempted := true } s'
            (t' ++ [⟨.currentAuthorization, authorization⟩] ++ [⟨.mode, mode⟩]) :=
          hquiet₂.goes fun ha => ⟨hstable.promptAttempted _ (hread ha), hholds ha⟩
        refine Actor.Triple.bind (persist_triple hgoes) fun s₁ t₁ saved hpost => ?_
        obtain ⟨hgoes', -⟩ := hpost
        cases saved with
        | false => exact fun hdue => (hgoes' hdue).2
        | true =>
            refine Actor.triple_ask.2 ⟨owes_of_ne (by exact nofun) fun hdue =>
              (hgoes' hdue).2.ledger, fun z => hsummarize _ _ _ _ fun hdue => ?_⟩
            exact hgoes' (hdue.imp_right (recorded_other (by exact nofun)).1)
      · exact hsummarize _ _ _ _ (hquiet₂.goes fun ha => ⟨hread ha, hholds ha⟩)

/-- **Every call**, alone: what it records it keeps, and what it schedules
it has recorded. -/
theorem program_triple (hstable : Stable P) (k : CoordinatorCall) (halways : always → Holds P s)
    (hcompose : ∀ compose, k.compose = some compose → ∀ state, s.Reads state → ∀ mode,
      Composes P N always (compose mode state)) :
    coordinator.Triple (Owes P N always) k.program s []
      fun s' t' _ => always ∨ Recorded P t' → Holds P s' := by
  cases k with
  | setMode mode =>
      refine Actor.triple_ask.2 ⟨quiet_nil.owes nofun halways, fun _ hdue => ?_⟩
      have hquiet : Quiet ([] ++ [⟨.setMode mode, ()⟩]) := quiet_nil.append nofun nofun
      rcases hdue with ha | hrec
      · exact ⟨(halways ha).ledger, (halways ha).loaded⟩
      · exact absurd hrec hquiet.not_recorded
  | prepareAuthorization =>
      exact Actor.Triple.bind (prepareAuthorization_triple hstable halways) fun _ _ _ h => h
  | receiveTrustedRefresh status history now order =>
      exact receive_triple hstable halways (hcompose _ rfl)
  | receiveUnavailable now order =>
      exact receive_triple hstable halways (hcompose _ rfl)

theorem pairwise_none {xs : List LocalNotification} (h : ∀ n ∈ xs, ¬ N n) :
    xs.Pairwise fun a b => ¬ (N a ∧ N b) :=
  List.Pairwise.imp_of_mem (fun ha _ _ hab => h _ ha hab.1)
    (List.pairwise_of_forall (R := fun _ _ => True) fun _ _ => trivial)

/-- Only one of them can be such a notification. -/
theorem pairwise_one {xs ys : List LocalNotification} {n : LocalNotification}
    (hxs : ∀ m ∈ xs, ¬ N m) (hys : ∀ m ∈ ys, ¬ N m) :
    (xs ++ [n] ++ ys).Pairwise fun a b => ¬ (N a ∧ N b) := by
  rw [List.append_assoc, List.pairwise_append]
  refine ⟨pairwise_none hxs, ?_, fun a ha b _ h => hxs a ha h.1⟩
  rw [List.singleton_append, List.pairwise_cons]
  exact ⟨fun b hb h => hys b hb h.2, pairwise_none hys⟩

theorem composes_of_none {c : Composed} (hkeeps : always → P c.1) (hnone : ∀ n ∈ c.2, ¬ N n) :
    Composes P N always c :=
  ⟨hkeeps, fun n hn hN => absurd hN (hnone n hn), pairwise_none hnone⟩

/-! ## Events -/

section Events

variable {status : PublicStatus} {history : List HistoryEvent} {now : Nat} {order : Order}
  {mode : NotificationMode} {token : String}

theorem disposed_cases (state : NotificationLedgerState) (n : LocalNotification)
    (d : NotificationClaimDisposition) :
    (state.claims.lookup (NotificationCoordinator.claimKeyOf n) = none ∧
      NotificationCoordinator.disposed state n d = state) ∨
    ∃ claim, state.claims.lookup (NotificationCoordinator.claimKeyOf n) = some claim ∧
      NotificationCoordinator.disposed state n d = { state with
        claims := state.claims.insert (NotificationCoordinator.claimKeyOf n)
          { claim with disposition := d } } := by
  unfold NotificationCoordinator.disposed
  cases h : state.claims.lookup (NotificationCoordinator.claimKeyOf n) with
  | none => exact Or.inl ⟨rfl, rfl⟩
  | some claim => exact Or.inr ⟨claim, rfl, rfl⟩

theorem stable_seen : Stable fun state => state.seenEventTokens.contains token = true := by
  refine ⟨fun state n d h => ?_, fun _ h => h, fun _ _ h => h⟩
  rcases disposed_cases state n d with ⟨-, heq⟩ | ⟨claim, -, heq⟩
  · rw [heq]
    exact h
  · rw [heq]
    exact h

theorem stable_claims {key : String} : Stable fun state => state.claims.contains key = true := by
  refine ⟨fun state n d h => ?_, fun _ h => h, fun _ _ h => h⟩
  rcases disposed_cases state n d with ⟨-, heq⟩ | ⟨claim, -, heq⟩
  · rw [heq]
    exact h
  · rw [heq]
    exact contains_insert.2 (Or.inr h)

theorem Episode.stable_told (e : Episode) : Stable fun state => e.told state = true := by
  refine ⟨fun state n d h => ?_, fun _ h => ?_, fun _ _ h => ?_⟩
  · rcases disposed_cases state n d with ⟨-, heq⟩ | ⟨claim, -, heq⟩
    · rw [heq]
      exact h
    · rw [heq]
      cases e <;> exact h
  · cases e <;> exact h
  · cases e <;> exact h

/-- No episode's notification is of an event. -/
theorem unavailable_event {n : LocalNotification} (hn : n ∈ (unavailable now order mode state).2) :
    n.eventToken = none := by
  rcases unavailable_cases now order mode state with ⟨-, eligible, heq⟩ | ⟨-, heq⟩
  · rw [heq] at hn
    dsimp only at hn
    split_ifs at hn
    · rw [List.mem_singleton.1 hn]
      rfl
    · cases hn
  · rw [heq] at hn
    cases hn

/-- An event is scheduled where its claim was saved. -/
theorem composes_claims (k : CoordinatorCall)
    {compose : NotificationMode → NotificationLedgerState → Composed}
    (hk : k.compose = some compose) :
    Composes (fun state => state.claims.contains (eventClaimKey token) = true)
      (fun n => n.eventToken = some token) False (compose mode state) := by
  cases k with
  | setMode mode => cases hk
  | prepareAuthorization => cases hk
  | receiveUnavailable now order =>
      obtain rfl := Option.some.inj hk
      refine composes_of_none nofun fun n hn ht => ?_
      rw [unavailable_event hn] at ht
      cases ht
  | receiveTrustedRefresh status history now order =>
      obtain rfl := Option.some.inj hk
      obtain ⟨noted, mid, hr⟩ := refreshed_refreshes status history now order mode state
      refine ⟨nofun, fun n hn ht => ⟨not_false, (hr.event hn ht).2⟩, ?_⟩
      obtain ⟨l, l', hpending, hl, hl'⟩ := hr.pending
      have hno : ∀ n ∈ l ++ l', n.eventToken = none := by
        intro n hn
        rcases List.mem_append.1 hn with hn | hn
        · rcases hl with rfl | ⟨-, -, rfl⟩
          · cases hn
          · rw [List.mem_singleton.1 hn]
            rfl
        · rcases hl' with rfl | ⟨-, -, rfl⟩
          · cases hn
          · rw [List.mem_singleton.1 hn]
            rfl
      rw [hpending, List.append_assoc, List.pairwise_append]
      refine ⟨hr.noted_distinct.imp fun hne h => hne (h.1.trans h.2.symm), ?_, ?_⟩
      · refine pairwise_none fun a ha ht => ?_
        rw [hno a ha] at ht
        cases ht
      · intro a _ b hb h
        rw [hno b hb] at h
        cases h.2

/-- An event that was seen, and is not forgotten, is not scheduled. -/
theorem composes_seen (k : CoordinatorCall)
    {compose : NotificationMode → NotificationLedgerState → Composed}
    (hk : k.compose = some compose)
    (hseen : (k.pruned state).seenEventTokens.contains token = true) :
    Composes (fun state => state.seenEventTokens.contains token = true)
      (fun n => n.eventToken = some token) True (compose mode state) := by
  cases k with
  | setMode mode => cases hk
  | prepareAuthorization => cases hk
  | receiveUnavailable now order =>
      obtain rfl := Option.some.inj hk
      refine composes_of_none (fun _ => ?_) fun n hn ht => ?_
      · rcases unavailable_cases now order mode state with ⟨-, eligible, heq⟩ | ⟨-, heq⟩
        · rw [heq]
          exact hseen
        · rw [heq]
          exact hseen
      · rw [unavailable_event hn] at ht
        cases ht
  | receiveTrustedRefresh status history now order =>
      obtain rfl := Option.some.inj hk
      obtain ⟨noted, mid, hr⟩ := refreshed_refreshes status history now order mode state
      refine composes_of_none (fun _ => hr.seen hseen) fun n hn ht => ?_
      have hnew := (hr.event hn ht).1
      have hold : (state.prune now order).seenEventTokens.contains token = true := hseen
      rw [hnew] at hold
      cases hold

/-! ## Episodes -/

/-- What an episode was told of depends on the episodes of the ledger. -/
theorem Episode.told_congr {e : Episode} {state' : NotificationLedgerState}
    (he : e ≠ .daemonUnavailable) (h : state'.activeEpisodes = state.activeEpisodes) :
    e.told state' = e.told state := by
  cases e with
  | daemonFailed => exact congrArg (fun m => (OrdMap.lookup m "daemon_failed").isSome) h
  | eventSourceDegraded =>
      exact congrArg (fun m => (OrdMap.lookup m "event_source_degraded").isSome) h
  | daemonUnavailable => exact absurd rfl he

theorem Episode.notifies_episodeNotification {e : Episode} {claimKey bodyKey : String} :
    e.Notifies (episodeNotification claimKey bodyKey) ↔ bodyKey = e.bodyKey :=
  and_iff_right rfl

/-- The episode of unavailability is told of once. -/
theorem unavailable_told :
    Composes (fun state => Episode.daemonUnavailable.told state = true)
      Episode.daemonUnavailable.Notifies False (unavailable now order mode state) ∧
    (Episode.daemonUnavailable.told state = true →
      Composes (fun state => Episode.daemonUnavailable.told state = true)
        Episode.daemonUnavailable.Notifies True (unavailable now order mode state)) := by
  rcases unavailable_cases now order mode state with ⟨hdue, eligible, heq⟩ | ⟨hdue, heq⟩
  · rw [heq]
    refine ⟨⟨nofun, fun _ _ _ => ⟨not_false, rfl⟩, ?_⟩, fun htold => ?_⟩
    · dsimp only
      split_ifs
      · exact List.pairwise_singleton _ _
      · exact List.Pairwise.nil
    · -- an episode that was told of is not due again
      exfalso
      obtain ⟨episode, hepisode, hhandled⟩ := (Option.any_eq_true _ _).1 htold
      rw [hepisode] at hdue
      have hnot : (failedAgain now (some episode)).handled = true := hhandled
      unfold UnavailableNotificationEpisode.due at hdue
      rw [hnot] at hdue
      cases hdue
  · rw [heq]
    refine ⟨composes_of_none nofun fun n hn => absurd hn List.not_mem_nil, fun htold => ?_⟩
    refine composes_of_none (fun _ => ?_) fun n hn => absurd hn List.not_mem_nil
    obtain ⟨episode, hepisode, hhandled⟩ := (Option.any_eq_true _ _).1 htold
    rw [hepisode]
    exact hhandled

/-- It tells of no other episode. -/
theorem unavailable_other {e : Episode} (he : e ≠ .daemonUnavailable) (ha : always →
    e.told state = true) : Composes (fun state => e.told state = true) e.Notifies always
      (unavailable now order mode state) := by
  have hbody : "notification.daemon_unavailable" ≠ e.bodyKey := by
    cases e with
    | daemonFailed => decide
    | eventSourceDegraded => decide
    | daemonUnavailable => exact absurd rfl he
  have hactive : (unavailable now order mode state).1.activeEpisodes = state.activeEpisodes := by
    rcases unavailable_cases now order mode state with ⟨-, eligible, heq⟩ | ⟨-, heq⟩
    · rw [heq]
      rfl
    · rw [heq]
      rfl
  refine composes_of_none (fun halways => ?_) fun n hn hN => ?_
  · rw [Episode.told_congr he hactive]
    exact ha halways
  · rcases unavailable_cases now order mode state with ⟨-, eligible, heq⟩ | ⟨-, heq⟩
    · rw [heq] at hn
      dsimp only at hn
      split_ifs at hn
      · rw [List.mem_singleton.1 hn, Episode.notifies_episodeNotification] at hN
        exact hbody hN
      · cases hn
    · rw [heq] at hn
      cases hn

/-- A refresh tells of each episode that begins, and of none that goes
on. -/
theorem refreshed_told {e : Episode} :
    Composes (fun state => e.told state = true) e.Notifies False
      (refreshed status history now order mode state) ∧
    (e.holds status = true → e.told state = true →
      Composes (fun state => e.told state = true) e.Notifies True
        (refreshed status history now order mode state)) := by
  obtain ⟨noted, mid, hr⟩ := refreshed_refreshes status history now order mode state
  obtain ⟨l, l', hpending, hl, hl'⟩ := hr.pending
  have hfailed := hr.daemonFailed_open
  have hdegraded := hr.eventSourceDegraded.isOpen
  -- the notifications of events carry a token, those of episodes do not
  have hevents : ∀ n ∈ noted.2, ¬ e.Notifies n := by
    intro n hn hN
    obtain ⟨token, ht, -⟩ := hr.noted_event n hn
    rw [hN.1] at ht
    cases ht
  have hfirst : e ≠ .daemonFailed → ∀ n ∈ l, ¬ e.Notifies n := by
    intro he n hn hN
    rcases hl with rfl | ⟨-, -, rfl⟩
    · cases hn
    · rw [List.mem_singleton.1 hn, Episode.notifies_episodeNotification] at hN
      cases e with
      | daemonFailed => exact he rfl
      | eventSourceDegraded => exact absurd hN (by decide)
      | daemonUnavailable => exact absurd hN (by decide)
  have hsecond : e ≠ .eventSourceDegraded → ∀ n ∈ l', ¬ e.Notifies n := by
    intro he n hn hN
    rcases hl' with rfl | ⟨-, -, rfl⟩
    · cases hn
    · rw [List.mem_singleton.1 hn, Episode.notifies_episodeNotification] at hN
      cases e with
      | daemonFailed => exact absurd hN (by decide)
      | eventSourceDegraded => exact he rfl
      | daemonUnavailable => exact absurd hN (by decide)
  have hnone : (∀ n ∈ l, ¬ e.Notifies n) → (∀ n ∈ l', ¬ e.Notifies n) →
      ∀ n ∈ (refreshed status history now order mode state).2, ¬ e.Notifies n := by
    intro h h' n hn
    rw [hpending, List.mem_append, List.mem_append] at hn
    rcases hn with (hn | hn) | hn
    · exact hevents n hn
    · exact h n hn
    · exact h' n hn
  cases e with
  | daemonUnavailable =>
      exact ⟨composes_of_none nofun (hnone (hfirst nofun) (hsecond nofun)), nofun⟩
  | daemonFailed =>
      have hrest := hsecond nofun
      constructor
      · rcases hl with rfl | ⟨-, hon, rfl⟩
        · exact composes_of_none nofun (hnone (fun n hn => absurd hn List.not_mem_nil) hrest)
        · refine ⟨nofun, fun n _ _ => ⟨not_false, hfailed.trans hon⟩, ?_⟩
          rw [hpending]
          exact pairwise_one hevents hrest
      · intro hholds htold
        refine composes_of_none (fun _ => hfailed.trans hholds) (hnone (fun n hn => ?_) hrest)
        rcases hl with rfl | ⟨hnew, -, -⟩
        · cases hn
        · unfold Episode.told at htold
          dsimp only at htold
          rw [hnew] at htold
          cases htold
  | eventSourceDegraded =>
      have hrest := hfirst nofun
      constructor
      · rcases hl' with rfl | ⟨-, hon, rfl⟩
        · exact composes_of_none nofun (hnone hrest fun n hn => absurd hn List.not_mem_nil)
        · refine ⟨nofun, fun n _ _ => ⟨not_false, hdegraded.trans hon⟩, ?_⟩
          rw [hpending, ← List.append_nil (noted.2 ++ l ++ _)]
          refine pairwise_one (fun n hn => ?_) fun n hn => absurd hn List.not_mem_nil
          rcases List.mem_append.1 hn with hn | hn
          · exact hevents n hn
          · exact hrest n hn
      · intro hholds htold
        refine composes_of_none (fun _ => hdegraded.trans hholds) (hnone hrest fun n hn => ?_)
        rcases hl' with rfl | ⟨hnew, -, -⟩
        · cases hn
        · unfold Episode.told at htold
          dsimp only at htold
          rw [hnew] at htold
          cases htold

/-- Whatever is told of an episode the ledger holds. -/
theorem composes_told (e : Episode) (k : CoordinatorCall)
    {compose : NotificationMode → NotificationLedgerState → Composed}
    (hk : k.compose = some compose) :
    Composes (fun state => e.told state = true) e.Notifies False (compose mode state) ∧
    (e.ends k = false → e.told state = true →
      Composes (fun state => e.told state = true) e.Notifies True (compose mode state)) := by
  cases k with
  | setMode mode => cases hk
  | prepareAuthorization => cases hk
  | receiveTrustedRefresh status history now order =>
      obtain rfl := Option.some.inj hk
      refine ⟨refreshed_told.1, fun hends htold => refreshed_told.2 ?_ htold⟩
      simpa [Episode.ends] using hends
  | receiveUnavailable now order =>
      obtain rfl := Option.some.inj hk
      by_cases he : e = .daemonUnavailable
      · subst he
        exact ⟨unavailable_told.1, fun _ htold => unavailable_told.2 htold⟩
      · exact ⟨unavailable_other he nofun, fun _ htold => unavailable_other he fun _ => htold⟩

end Events

end Owed

end App

end Unlinger
