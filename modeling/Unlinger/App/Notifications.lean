import Unlinger.App.Helpers.Coordinator

/-!
# One notification for one event

Calls of the coordinator one after another, with saves and schedules that
fail and Apps that are started again. Nothing is scheduled before its claim
was saved, and an episode is notified once while it lasts. That an event is
notified once rests on the ledger's record of it, and the ledger forgets:
it is true of every run none of whose calls forgets an event that may still
be shown.
-/

namespace Unlinger

namespace App

open Interaction NotificationLedgerState

/-! ## The property -/

/-- **Each event and each episode is notified at most once** along the
moves. -/
structure NotifiesOnce (s : CoordinatorTasks) (ms : List CoordinatorMove) : Prop where
  /-- A call schedules an event after it saved its claim. -/
  claimed : ∀ before i x after n r token, ms = before ++ .go i x :: after →
    coordinator.event (before.foldl coordinator.move s) i x = some ⟨.schedule n, r⟩ →
    n.eventToken = some token → ∃ t, (before.foldl coordinator.move s).tasks[i]? = some t ∧
      ∃ state, (⟨.save state, .saved⟩ : NotificationEvent) ∈ t.done ∧
        state.claims.contains (eventClaimKey token) = true
  /-- Where it was seen in a ledger that was saved, no later call schedules
  it while every refresh contains it. -/
  events : ∀ before i x middle j y after state n r token,
    ms = before ++ .go i x :: middle ++ .go j y :: after → i ≠ j →
    coordinator.event (before.foldl coordinator.move s) i x = some ⟨.save state, .saved⟩ →
    state.seenEventTokens.contains token = true →
    coordinator.event ((before ++ .go i x :: middle).foldl coordinator.move s) j y
      = some ⟨.schedule n, r⟩ → n.eventToken = some token →
    ∃ status history now order,
      .begin (.receiveTrustedRefresh status history now order) ∈ middle ∧
        token ∉ retainedTokens status history
  /-- Between two notifications of an episode a refresh ended it. -/
  episodes : ∀ before i x middle j y after (e : Episode) n r n' r',
    ms = before ++ .go i x :: middle ++ .go j y :: after →
    coordinator.event (before.foldl coordinator.move s) i x = some ⟨.schedule n, r⟩ →
    e.Notifies n →
    coordinator.event ((before ++ .go i x :: middle).foldl coordinator.move s) j y
      = some ⟨.schedule n', r'⟩ → e.Notifies n' →
    ∃ call, .begin call ∈ middle ∧ e.ends call = true

namespace CoordinatorCall

/-- **The condition**: of the tokens seen the call prunes none but those it
shows to be withdrawn. -/
def Remembers (s : NotificationCoordinator) (k : CoordinatorCall) : Prop :=
  ∀ state, s.Reads state → ∀ token, state.seenEventTokens.contains token = true →
    (k.pruned state).seenEventTokens.contains token = true ∨ k.Withdraws token

end CoordinatorCall

/-- Calls one after another, each of which remembers. -/
def RemembersAlong (s : CoordinatorTasks) (ms : List CoordinatorMove) : Prop :=
  Transition.Along coordinator.move (fun s m => coordinator.May s m ∧ Actor.Serial s m ∧
    ∀ k, m = .begin k → k.Remembers s.shared) s ms

/-! ## Runs -/

section Runs

variable {P : NotificationLedgerState → Prop} {N : LocalNotification → Prop}
  {s : CoordinatorTasks} {ms : List CoordinatorMove}

theorem Holds.reads {c : NotificationCoordinator} {state : NotificationLedgerState}
    (h : Holds P c) (hreads : c.Reads state) : P state := by
  rcases hreads with hloaded | ⟨-, rfl⟩
  · exact h.loaded state hloaded
  · exact h.ledger

/-- What a call owes of its own record. -/
abbrev Recording (P : NotificationLedgerState → Prop) (N : LocalNotification → Prop)
    (s : CoordinatorTasks) : Prop :=
  coordinator.Alone (fun _ => True) (fun _ => Owes P N False)
    (fun _ s' t' => False ∨ Recorded P t' → Holds P s') s

/-- What every call owes of a record there is. -/
abbrev Keeping (P : NotificationLedgerState → Prop) (N : LocalNotification → Prop)
    (s : CoordinatorTasks) : Prop :=
  coordinator.Alone (Holds P) (fun _ => Owes P N True)
    (fun _ s' t' => True ∨ Recorded P t' → Holds P s') s

theorem recording_run (hstable : Stable P)
    (hcompose : ∀ (k : CoordinatorCall) compose, k.compose = some compose → ∀ mode state,
      Composes P N False (compose mode state)) (hs : s.tasks = [])
    (h : Transition.Along coordinator.move Actor.Serial s ms) :
    Recording P N (ms.foldl coordinator.move s) := by
  have hidle : ∀ t ∈ s.tasks, t.rest.ended = true := by
    intro t ht
    rw [hs] at ht
    cases ht
  have hbegin : ∀ (s : CoordinatorTasks) (k : CoordinatorCall), True → True →
      coordinator.Triple (Owes P N False) k.program s.shared []
        fun s' t' _ => False ∨ Recorded P t' → Holds P s' :=
    fun s k _ _ => program_triple hstable k nofun fun compose hk state _ mode =>
      hcompose k compose hk mode state
  exact Actor.Alone.run (fun _ => rfl) (fun _ => rfl) hbegin
    (fun _ _ _ _ => trivial) (fun _ _ _ _ _ _ => trivial) (fun _ _ _ => trivial)
    (Actor.alone_idle hidle trivial) (h.imp fun _ _ _ hserial => ⟨hserial, fun _ _ => trivial⟩)

theorem keeping_run (hstable : Stable P) {cond : CoordinatorTasks → CoordinatorCall → Prop}
    (hcompose : ∀ s k, cond s k → ∀ compose, k.compose = some compose → ∀ state,
      s.shared.Reads state → P state → ∀ mode, Composes P N True (compose mode state))
    (hs : Keeping P N s)
    (h : Transition.Along coordinator.move
      (fun s m => Actor.Serial s m ∧ ∀ k, m = .begin k → cond s k) s ms) :
    Keeping P N (ms.foldl coordinator.move s) := by
  have hbegin : ∀ (s : CoordinatorTasks) (k : CoordinatorCall), Holds P s.shared → cond s k →
      coordinator.Triple (Owes P N True) k.program s.shared []
        fun s' t' _ => True ∨ Recorded P t' → Holds P s' :=
    fun s k hholds hk => program_triple hstable k (fun _ => hholds)
      fun compose hc state hreads => hcompose s k hk compose hc state hreads (hholds.reads hreads)
  refine Actor.Alone.run (fun _ => rfl) (fun _ => rfl) hbegin (fun _ _ _ hQ => hQ (Or.inl trivial))
    (fun _ s' _ _ mode hG => ?_) (fun s' mode hI => ?_) hs h
  -- an App that is started again reads the file
  · exact ⟨hG.1 (Or.inl trivial), nofun⟩
  · exact ⟨hI.ledger, nofun⟩

/-- Once a call has recorded it, all calls keep it. -/
theorem Recording.keeping {i : Nat} {x : NotificationChoice} {e : NotificationEvent}
    {t : Task NotificationCall.Answer CoordinatorCall} (h : Recording P N s)
    (hi : s.tasks[i]? = some t) (he : coordinator.event s i x = some e)
    (hrec : Recorded P (t.done ++ [e]))
    (honce : ∀ n, N n → ∃ n', Scheduled (t.done ++ [e]) n' ∧ N n') :
    Keeping P N (coordinator.move s (.go i x)) := by
  obtain ⟨k, done, c, f, hi', rfl⟩ := Actor.event_eq_some.1 he
  obtain rfl := Option.some.inj (hi.symm.trans hi')
  obtain ⟨-, hnext⟩ := h.task _ (List.mem_of_getElem? hi) rfl
  rw [Actor.move_go hi]
  have hlen : i < s.tasks.length := (List.getElem?_eq_some_iff.1 hi).1
  have hrec' : ∀ t', done ++ [⟨c, coordinator.answer s.shared c x⟩] <+: t' → Recorded P t' := by
    rintro t' ⟨rest, rfl⟩
    obtain ⟨state, hmem, hP⟩ := hrec
    exact ⟨state, List.mem_append_left _ hmem, hP⟩
  refine Actor.alone_task (i := i) (k := k) ?_ (fun j u hu hne => ?_)
    ((hnext x).weaken (fun s' t' c' hpast hG => ⟨fun _ => ?_, fun n hc hN => ?_⟩) ?_)
    fun s' t' hQ => hQ (Or.inl trivial)
  · show (s.tasks.set i _ ++ [])[i]? = _
    rw [List.append_nil]
    exact List.getElem?_set_self hlen
  · have hu' : (s.tasks.set i _ ++ [])[j]? = some u := hu
    rw [List.append_nil, List.getElem?_set_ne (Ne.symm hne)] at hu'
    by_contra hopen
    rw [Bool.not_eq_true] at hopen
    exact hne (h.one j i u _ hu' hi hopen rfl)
  · exact hG.1 (Or.inr (hrec' t' hpast))
  · obtain ⟨-, -, hnone⟩ := hG.2 n hc hN
    obtain ⟨n', ⟨r, hmem⟩, hN'⟩ := honce n hN
    obtain ⟨rest, rfl⟩ := hpast
    exact absurd hN' (hnone n' r (List.mem_append_left _ hmem))
  · exact fun s' t' v hpast hQ _ => hQ (Or.inr (hrec' t' hpast))

end Runs

/-! ## Once -/

section Once

variable {s : CoordinatorTasks} {ms before middle after : List CoordinatorMove}
  {m m' : CoordinatorMove} {i j : Nat} {x y : NotificationChoice} {token : String}
  {n n' : LocalNotification} {r : NotificationCall.Answer (.schedule n)}
  {r' : NotificationCall.Answer (.schedule n')}

theorem RemembersAlong.serial (h : RemembersAlong s (before ++ m :: after)) :
    Transition.Along coordinator.move Actor.Serial s before :=
  (Transition.along_append.1 h).1.imp fun _ _ _ hm => hm.2.1

/-- What comes between two moves. -/
theorem RemembersAlong.between (h : RemembersAlong s (before ++ m :: middle ++ m' :: after)) :
    Transition.Along coordinator.move
      (fun s m => Actor.Serial s m ∧ ∀ k, m = .begin k → k.Remembers s.shared)
      (coordinator.move (before.foldl coordinator.move s) m) middle := by
  have hfront := (Transition.along_append.1 (Transition.along_append.1 h).1).2
  exact hfront.2.imp fun _ _ _ hm => hm.2

/-- A call schedules an event after it saved its claim. -/
theorem claimed_of_serial (hs : s.tasks = [])
    (h : Transition.Along coordinator.move Actor.Serial s before)
    (he : coordinator.event (before.foldl coordinator.move s) i x = some ⟨.schedule n, r⟩)
    (ht : n.eventToken = some token) :
    ∃ t, (before.foldl coordinator.move s).tasks[i]? = some t ∧
      ∃ state, (⟨.save state, .saved⟩ : NotificationEvent) ∈ t.done ∧
        state.claims.contains (eventClaimKey token) = true := by
  have hrun : Recording (fun state => state.claims.contains (eventClaimKey token) = true)
      (fun n => n.eventToken = some token) (before.foldl coordinator.move s) :=
    recording_run stable_claims (fun k compose hk mode state => composes_claims k hk) hs h
  obtain ⟨k, done, c, f, hi, hevent⟩ := Actor.event_eq_some.1 he
  have howes := hrun.event hi he
  obtain ⟨-, ⟨state, hmem, hclaim⟩, -⟩ := howes.2 n rfl ht
  exact ⟨_, hi, state, hmem, hclaim⟩

/-- A call that is still going on when another one moves is the same, or
was begun before it. -/
theorem Recording.begun_between {P : NotificationLedgerState → Prop}
    {N : LocalNotification → Prop} {u : Task NotificationCall.Answer CoordinatorCall}
    {e : NotificationEvent} (h : Recording P N s) (hi : s.tasks[i]? = some u)
    (hopen : u.rest.ended = false) (hij : i ≠ j)
    (he : coordinator.event ((.go i x :: middle).foldl coordinator.move s) j y = some e) :
    ∃ k, .begin k ∈ middle := by
  by_contra hno
  obtain ⟨k, done, c, f, hj, -⟩ := Actor.event_eq_some.1 he
  have hnone : ∀ k, .begin k ∉ .go i x :: middle := by
    intro k hk
    rcases List.mem_cons.1 hk with hk | hk
    · cases hk
    · exact hno ⟨k, hk⟩
  obtain ⟨u', hu', hopen'⟩ := Actor.open_before (fun _ => rfl) (fun _ => rfl) hnone hj rfl
  exact hij (h.one i j u u' hi hu' hopen hopen')

/-- What was seen in a ledger that was saved no later call schedules, as
long as the calls remember it. -/
theorem unscheduled_of_seen {state : NotificationLedgerState} (hs : s.tasks = [])
    (hbefore : Transition.Along coordinator.move Actor.Serial s before)
    (hmiddle : Transition.Along coordinator.move (fun s m => Actor.Serial s m ∧
      ∀ k, m = .begin k → k.Remembers s.shared ∧ ¬ k.Withdraws token)
      (coordinator.move (before.foldl coordinator.move s) (.go i x)) middle) (hij : i ≠ j)
    (he : coordinator.event (before.foldl coordinator.move s) i x = some ⟨.save state, .saved⟩)
    (hseen : state.seenEventTokens.contains token = true)
    (he' : coordinator.event ((before ++ .go i x :: middle).foldl coordinator.move s) j y
      = some ⟨.schedule n, r⟩) : n.eventToken ≠ some token := by
  intro ht
  have hcompose : ∀ (s : CoordinatorTasks) (k : CoordinatorCall),
      k.Remembers s.shared ∧ ¬ k.Withdraws token → ∀ compose, k.compose = some compose →
      ∀ state, s.shared.Reads state → state.seenEventTokens.contains token = true → ∀ mode,
      Composes (fun state => state.seenEventTokens.contains token = true)
        (fun n => n.eventToken = some token) True (compose mode state) := by
    intro s k hk compose hc state hreads hP mode
    exact composes_seen k hc ((hk.1 state hreads token hP).resolve_right hk.2)
  -- the call that saved it keeps it, whatever it schedules itself
  have hrecording : Recording (fun state => state.seenEventTokens.contains token = true)
      (fun _ => False) (before.foldl coordinator.move s) :=
    recording_run stable_seen (fun k compose hk mode state =>
      composes_of_none nofun fun _ _ => not_false) hs hbefore
  obtain ⟨k, done, c, f, hi, -⟩ := Actor.event_eq_some.1 he
  have hkeeping := hrecording.keeping hi he (recorded_append.2 (Or.inr ⟨state, rfl, hseen⟩)) nofun
  -- the later call was made after that
  rw [List.foldl_append] at he'
  obtain ⟨k, hk⟩ := hrecording.begun_between hi rfl hij he'
  obtain ⟨first, rest, rfl⟩ := List.append_of_mem hk
  obtain ⟨hfirst, hrest⟩ := Transition.along_append.1 hmiddle
  have hidle := (keeping_run stable_seen (fun s k hk compose hc state hreads hP mode =>
    composes_of_none (fun _ => (hcompose s k hk compose hc state hreads hP mode).keeps trivial)
      fun _ _ => not_false) hkeeping hfirst).idle hrest.1.1
  have hends := keeping_run stable_seen hcompose (Actor.alone_idle hrest.1.1 hidle) hrest
  rw [List.foldl_cons, List.foldl_append] at he'
  obtain ⟨k', done', c', f', hj, -⟩ := Actor.event_eq_some.1 he'
  exact ((hends.event hj he').2 n rfl ht).1 trivial

/-- What was notified of an episode is not notified again while no call
ends it. -/
theorem unnotified_while_open {e : Episode} (hs : s.tasks = [])
    (hbefore : Transition.Along coordinator.move Actor.Serial s before)
    (hmiddle : Transition.Along coordinator.move
      (fun s m => Actor.Serial s m ∧ ∀ k, m = .begin k → e.ends k = false)
      (coordinator.move (before.foldl coordinator.move s) (.go i x)) middle)
    (he : coordinator.event (before.foldl coordinator.move s) i x = some ⟨.schedule n, r⟩)
    (hn : e.Notifies n)
    (he' : coordinator.event ((before ++ .go i x :: middle).foldl coordinator.move s) j y
      = some ⟨.schedule n', r'⟩) : ¬ e.Notifies n' := by
  intro hn'
  have hrecording : Recording (fun state => e.told state = true) e.Notifies
      (before.foldl coordinator.move s) :=
    recording_run e.stable_told (fun k compose hk mode state => (composes_told e k hk).1) hs hbefore
  obtain ⟨k, done, c, f, hi, -⟩ := Actor.event_eq_some.1 he
  obtain ⟨-, hrecorded, -⟩ := (hrecording.event hi he).2 n rfl hn
  have hscheduled : Scheduled (done ++ [⟨.schedule n, r⟩]) n :=
    ⟨r, List.mem_append_right _ (List.mem_singleton.2 rfl)⟩
  have hkeeping := hrecording.keeping hi he (recorded_append.2 (Or.inl hrecorded))
    fun _ _ => ⟨n, hscheduled, hn⟩
  have hends := keeping_run e.stable_told (fun s k hk compose hc state _ hP mode =>
    (composes_told e k hc).2 hk hP) hkeeping hmiddle
  obtain ⟨k', done', c', f', hj, -⟩ := Actor.event_eq_some.1 he'
  rw [List.foldl_append, List.foldl_cons] at he' hj
  exact ((hends.event hj he').2 n' rfl hn').1 trivial

end Once

/-- **In every run whose calls remember**, from any ledger file, an event is
notified at most once while it stays shown, and an episode while it
lasts. -/
theorem notifiesOnce_of_remembers (ledger : NotificationLedgerState) (mode : NotificationMode)
    (ms : List CoordinatorMove)
    (h : RemembersAlong (NotificationCoordinator.start ledger mode) ms) :
    NotifiesOnce (NotificationCoordinator.start ledger mode) ms := by
  refine ⟨?_, ?_, ?_⟩
  · rintro before i x after n r token rfl he ht
    exact claimed_of_serial rfl h.serial he ht
  · rintro before i x middle j y after state n r token rfl hij he hseen he' ht
    by_contra hkept
    have hnot : ∀ k, .begin k ∈ middle → ¬ k.Withdraws token := by
      intro k hk hwithdraws
      cases k with
      | receiveTrustedRefresh status history now order =>
          exact hkept ⟨status, history, now, order, hk, hwithdraws⟩
      | setMode mode => exact hwithdraws
      | prepareAuthorization => exact hwithdraws
      | receiveUnavailable now order => exact hwithdraws
    have hmiddle := h.between.imp fun s m hm hok =>
      (⟨hok.1, fun k hk => ⟨hok.2 k hk, hnot k (hk ▸ hm)⟩⟩ : Actor.Serial s m ∧
        ∀ k, m = .begin k → k.Remembers s.shared ∧ ¬ k.Withdraws token)
    rw [List.append_assoc, List.cons_append] at h
    exact unscheduled_of_seen rfl h.serial hmiddle hij he hseen he' ht
  · rintro before i x middle j y after e n r n' r' rfl he hn he' hn'
    by_contra hgoes
    have hnot : ∀ k, .begin k ∈ middle → e.ends k = false := by
      intro k hk
      by_contra hends
      rw [Bool.not_eq_false] at hends
      exact hgoes ⟨k, hk, hends⟩
    have hmiddle := h.between.imp fun s m hm hok =>
      (⟨hok.1, fun k hk => hnot k (hk ▸ hm)⟩ : Actor.Serial s m ∧
        ∀ k, m = .begin k → e.ends k = false)
    rw [List.append_assoc, List.cons_append] at h
    exact unnotified_while_open rfl h.serial hmiddle he hn he' hn'

/-! ## An event of old -/

/-- A status with these attention items, and nothing wrong. -/
def calmStatus (attention : List AttentionItem) : PublicStatus :=
  ⟨true, .ready, none, true, none, attention⟩

/-- A failed cleanup, as long as it needs attention. -/
def failedItem : AttentionItem := ⟨some "event", .cleanupFailed, some "incident"⟩

def sampleOrder : Order := ⟨fun _ => 0, fun _ => 0, fun _ => 0⟩

/-- Everything works. -/
def sampleChoice : NotificationChoice := ⟨true, .saved, .authorized, none, some ()⟩

/-- Refreshes at these times, the first of which shows nothing and is the
baseline; each goes on to its end. -/
def refreshesAt (first : Nat) (times : List Nat) : List CoordinatorMove :=
  .begin (.receiveTrustedRefresh (calmStatus []) [] first sampleOrder) ::
    List.replicate 6 (.go 0 sampleChoice) ++
  times.zipIdx.flatMap fun e =>
    .begin (.receiveTrustedRefresh (calmStatus [failedItem]) [] e.1 sampleOrder) ::
      List.replicate 7 (.go (e.2 + 1) sampleChoice)

/-- The times of the calls. -/
def timesOf (ms : List CoordinatorMove) : List Nat :=
  ms.filterMap fun
    | .begin (.receiveTrustedRefresh _ _ now _) => some now
    | .begin (.receiveUnavailable now _) => some now
    | _ => none

/-- The event a move schedules. -/
def scheduledToken : Option NotificationEvent → Option String
  | some ⟨.schedule n, _⟩ => n.eventToken
  | _ => none

/-- The move saves a ledger that has seen the event. -/
def savesSeen (token : String) : Option NotificationEvent → Bool
  | some ⟨.save state, .saved⟩ => state.seenEventTokens.contains token
  | _ => false

theorem scheduledToken_eq_some {e : Option NotificationEvent} {token : String}
    (h : scheduledToken e = some token) :
    ∃ n r, e = some ⟨.schedule n, r⟩ ∧ n.eventToken = some token := by
  unfold scheduledToken at h
  split at h
  · exact ⟨_, _, rfl, h⟩
  · cases h

theorem savesSeen_eq_true {e : Option NotificationEvent} {token : String}
    (h : savesSeen token e = true) :
    ∃ state, e = some ⟨.save state, .saved⟩ ∧ state.seenEventTokens.contains token = true := by
  unfold savesSeen at h
  split at h
  · exact ⟨_, rfl, h⟩
  · cases h

/-- The move is no refresh without the event. -/
def shows (token : String) : CoordinatorMove → Bool
  | .begin (.receiveTrustedRefresh status history _ _) =>
      decide (token ∈ retainedTokens status history)
  | _ => true

/-- An event of attention was notified; it still needs attention when its
record is beyond the retention, and the user is told of it again. -/
theorem event_notified_again : ¬ ∀ (ledger : NotificationLedgerState) (mode : NotificationMode)
    (ms : List CoordinatorMove), (timesOf ms).Pairwise (· ≤ ·) →
    Transition.Along coordinator.move (fun s m => coordinator.May s m ∧ Actor.Serial s m)
      (NotificationCoordinator.start ledger mode) ms →
    NotifiesOnce (NotificationCoordinator.start ledger mode) ms := by
  intro hall
  have hmay : Transition.Along coordinator.move
      (fun s m => coordinator.May s m ∧ Actor.Serial s m)
      (NotificationCoordinator.start .fresh .attention)
      (refreshesAt 1 [2, retentionMillis + 3]) := by
    decide +kernel
  have honce := hall .fresh .attention _ (by decide) hmay
  obtain ⟨state, hsave, hseen⟩ := savesSeen_eq_true (show savesSeen "event" (coordinator.event
    (((refreshesAt 1 [2, retentionMillis + 3]).take 10).foldl coordinator.move
      (NotificationCoordinator.start .fresh .attention)) 1 sampleChoice) = true by decide +kernel)
  obtain ⟨n, r, hschedule, htoken⟩ := scheduledToken_eq_some (show scheduledToken (coordinator.event
    (((refreshesAt 1 [2, retentionMillis + 3]).take 20).foldl coordinator.move
      (NotificationCoordinator.start .fresh .attention)) 2 sampleChoice) = some "event" by
      decide +kernel)
  obtain ⟨status, history, now, order, hbegin, hgone⟩ := honce.events
    ((refreshesAt 1 [2, retentionMillis + 3]).take 10) 1 sampleChoice
    (((refreshesAt 1 [2, retentionMillis + 3]).drop 11).take 9) 2 sampleChoice
    ((refreshesAt 1 [2, retentionMillis + 3]).drop 21) state n r "event" rfl (by decide) hsave hseen
    hschedule htoken
  -- the one call made in between is a refresh that shows the event
  have hshown : ∀ m ∈ ((refreshesAt 1 [2, retentionMillis + 3]).drop 11).take 9,
      shows "event" m = true := by
    decide +kernel
  exact hgone (of_decide_eq_true (hshown _ hbegin))

/-- A call remembers where it prunes nothing. -/
theorem remembers_of_keys {s : NotificationCoordinator} {k : CoordinatorCall}
    (h : ∀ token ∈ (s.loadedState.getD s.ledger).seenEventTokens.keys,
      (k.pruned (s.loadedState.getD s.ledger)).seenEventTokens.contains token = true) :
    k.Remembers s := by
  intro state hreads token hseen
  have hstate : s.loadedState.getD s.ledger = state := by
    rcases hreads with hloaded | ⟨hnone, rfl⟩
    · rw [hloaded, Option.getD_some]
    · rw [hnone, Option.getD_none]
  rw [hstate] at h
  obtain ⟨at_, hat⟩ := Option.isSome_iff_exists.1 hseen
  exact Or.inl (h token (List.mem_map.2 ⟨_, OrdMap.lookup_eq_some.1 hat, rfl⟩))

/-- The call a move begins. -/
def begun : CoordinatorMove → Option CoordinatorCall
  | .begin k => some k
  | _ => none

/-- A refresh, and one a day later that shows the same. -/
def dayLater : List CoordinatorMove :=
  refreshesAt 1 [2] ++
    .begin (.receiveTrustedRefresh (calmStatus [failedItem]) [] 86400002 sampleOrder) ::
      List.replicate 4 (.go 2 sampleChoice)

/-- A day later the record is still there, and the run remembers. -/
theorem notifiesOnce_of_remembers_sample :
    RemembersAlong (NotificationCoordinator.start .fresh .attention) dayLater ∧
      NotifiesOnce (NotificationCoordinator.start .fresh .attention) dayLater := by
  have hkeys : Transition.Along coordinator.move
      (fun s m => coordinator.May s m ∧ Actor.Serial s m ∧
        ∀ k ∈ begun m,
          ∀ token ∈ (s.shared.loadedState.getD s.shared.ledger).seenEventTokens.keys,
            (CoordinatorCall.pruned k (s.shared.loadedState.getD
              s.shared.ledger)).seenEventTokens.contains token = true)
      (NotificationCoordinator.start .fresh .attention) dayLater := by
    decide +kernel
  have h : RemembersAlong (NotificationCoordinator.start .fresh .attention) dayLater := by
    refine hkeys.imp fun s m _ hm => ⟨hm.1, hm.2.1, fun k hk => ?_⟩
    subst hk
    exact remembers_of_keys (hm.2.2 k rfl)
  exact ⟨h, notifiesOnce_of_remembers .fresh .attention _ h⟩

end App

end Unlinger
