import Unlinger.App.Helpers.Phase

/-!
# What the methods of the App guarantee

Each part of a method leaves the task in the middle of nothing again, with
its own mutation where it was; only sending moves that on. What a part
needs to show before it gives a mutation up is in the answers it was given.
-/

namespace Unlinger

namespace App

open Interaction

/-! ## Single calls -/

/-- Calls that have no part in it. -/
def AppCall.quiet : AppCall → Bool
  | .load | .persist _ | .remove _ | .connect _ | .receive _ _ | .setPendingMutation _
  | .setMutationState _ | .setJournalLoaded | .detachPersist _ => false
  | _ => true

section Calls

variable {k : AppMethod} {stage : Stage} {t : AppTrace} {pending : PendingMutation} {α : Type}
  {Q : AppTrace → α → Prop}

/-- A quiet call leaves the task where it is. -/
theorem sat_quiet {c : AppCall} {f : c.Answer → AppProg α} (h : At k stage t)
    (hstage : stage.unsettled = none) (hc : c.quiet = true)
    (hf : ∀ r, Leaves k stage t (t ++ [⟨c, r⟩]) →
      Sat (Conforms k) (f r) (t ++ [⟨c, r⟩]) (OnOk Q)) :
    Sat (Conforms k) (Prog.ask c >>= f) t (OnOk Q) := by
  have hsettled := h.settled hstage
  refine Sat.ask ⟨?_, ?_⟩ fun r => hf r ⟨List.prefix_append _ _, h.append ?_ ?_⟩
  · cases c with
    | read => exact ⟨Or.inl hsettled.1, hsettled.2⟩
    | load => cases hc
    | persist p => cases hc
    | connect request => cases hc
    | setPendingMutation value => cases hc
    | setMutationState state => cases hc
    | detachPersist p => cases hc
    | _ => exact hsettled
  · cases c with
    | setMutationState state => cases hc
    | remove mutationID => cases hc
    | receive request connection => cases hc
    | _ => trivial
  · cases c with
    | persist p => cases hc
    | connect request => cases hc
    | setPendingMutation value => cases hc
    | _ => rfl
  · cases c with
    | load => cases hc
    | remove mutationID => cases hc
    | setPendingMutation value => cases hc
    | setJournalLoaded => cases hc
    | _ => rfl

/-- A state is shown; where it gives a mutation up, it is licensed. -/
theorem sat_show {state : MutationState} {f : Unit → AppProg α} (h : At k stage t)
    (hstage : ∀ p, stage ≠ .persisted p) (hlicensed : Licensed k t (.setMutationState state))
    (hf : Leaves k stage t (t ++ [⟨.setMutationState state, ()⟩]) →
      Sat (Conforms k) (f ()) (t ++ [⟨.setMutationState state, ()⟩]) (OnOk Q)) :
    Sat (Conforms k) (Prog.ask (.setMutationState state) >>= f) t (OnOk Q) := by
  have hnot : ∀ p, (phaseOf k t).stage ≠ .persisted p := by
    rw [h.stage]
    exact hstage
  exact Sat.ask ⟨⟨h.hand, hnot⟩, hlicensed⟩ fun _ => hf ⟨List.prefix_append _ _, h.append rfl rfl⟩

theorem Stage.not_persisted (h : stage.unsettled = none) : ∀ p, stage ≠ .persisted p := by
  rintro p rfl
  cases h

/-! ## The client -/

/-- A query about a mutation the task was told of. -/
theorem mutationStatus_sat (h : At k stage t) (hstage : stage.unsettled = none)
    (hheard : Heard k t pending) :
    Sat (Conforms k) (SocketClient.mutationStatus pending.context) t (OnOk fun t' r =>
      Leaves k stage t t' ∧ ∀ status, r = .ok status →
        ∃ j, (⟨.receive (.mutationStatus pending.context) j, some (.status status)⟩ : AppEvent) ∈ t')
    := by
  have hsettled := h.settled hstage
  have hrequest : Sat (Conforms k) (SocketClient.request (.mutationStatus pending.context)) t
      (OnOk fun t' r => Leaves k stage t t' ∧ ∀ status, r = .ok (.status status) →
        ∃ j, (⟨.receive (.mutationStatus pending.context) j, some (.status status)⟩ : AppEvent) ∈ t')
      := by
    refine Sat.ask ⟨⟨hsettled, _, hheard, rfl⟩, trivial⟩ fun r => ?_
    have hconnect : At k stage (t ++ [⟨.connect (.mutationStatus pending.context), r⟩]) :=
      h.append rfl rfl
    cases r with
    | error failure =>
        refine ⟨⟨List.prefix_append _ _, hconnect⟩, fun status heq => ?_⟩
        cases heq
    | ok j =>
        refine Sat.ask ⟨hconnect.settled hstage, List.mem_append_right _ (List.mem_singleton.2 rfl)⟩
          fun reply => ?_
        have hleaves : Leaves k stage t
            (t ++ [⟨.connect (.mutationStatus pending.context), .ok j⟩]
              ++ [⟨.receive (.mutationStatus pending.context) j, reply⟩]) :=
          ⟨(List.prefix_append _ _).trans (List.prefix_append _ _), hconnect.append rfl rfl⟩
        cases reply with
        | none =>
            refine ⟨hleaves, fun status heq => ?_⟩
            cases heq
        | some reply =>
            cases reply with
            | status found =>
                refine ⟨hleaves, fun status heq => ?_⟩
                obtain rfl := Reply.status.inj (Except.ok.inj heq)
                exact ⟨j, List.mem_append_right _ (List.mem_singleton.2 rfl)⟩
            | _ =>
                refine ⟨hleaves, fun status heq => ?_⟩
                cases heq
  refine hrequest.andThen fun t' r hr => ?_
  obtain ⟨hleaves, hstatus⟩ := hr
  cases r with
  | error e =>
      refine ⟨hleaves, fun status heq => ?_⟩
      cases heq
  | ok reply =>
      cases reply with
      | status found =>
          refine ⟨hleaves, fun status heq => ?_⟩
          obtain rfl := Except.ok.inj heq
          exact hstatus _ rfl
      | _ =>
          refine ⟨hleaves, fun status heq => ?_⟩
          cases heq

/-- What there is to show for an error of a mutation's own request. -/
def Fails (k : AppMethod) (t : AppTrace) (pending : PendingMutation) : ClientError → Prop
  | .deliveryUncertain | .protocolError _ => True
  | .serverError _ => ∃ e ∈ t, Acknowledges pending e
  | .unavailable | .failedBeforeSend _ | .incompatibleDaemon _ => Disproves k t pending

/-- The mutation's own request: it is sent, or it never is. -/
theorem request_sat (h : At k (.locked pending) t) :
    Sat (Conforms k) (SocketClient.request (.mutation pending)) t
      (OnOk fun t' r => t <+: t' ∧ (At k (.sent pending) t' ∨ At k (.unsent pending) t') ∧
        (∀ receipt, r = .ok (.receipt receipt) → ∃ j,
          (⟨.receive (.mutation pending) j, some (.receipt receipt)⟩ : AppEvent) ∈ t') ∧
        ∀ e, r = .error e → Fails k t' pending e) := by
  have hphase : ∀ r, At k (Stage.connectEnds pending r)
      (t ++ [⟨.connect (.mutation pending), r⟩]) := by
    intro r
    refine ⟨?_, ?_⟩
    · rw [hand_append, h.hand]
      rfl
    · rw [stage_append, h.stage]
      rfl
  refine Sat.ask ⟨⟨h.hand, h.stage⟩, trivial⟩ fun r => ?_
  have hconnect := hphase r
  cases r with
  | error failure =>
      -- nothing was connected, so nothing was sent
      have hunsent : Disproves k (t ++ [⟨.connect (.mutation pending), .error failure⟩]) pending :=
        Or.inr (Or.inl hconnect.stage)
      refine ⟨List.prefix_append _ _, Or.inr hconnect, fun receipt heq => ?_, fun e heq => ?_⟩
      · cases heq
      · obtain rfl := Except.error.inj heq
        cases failure <;> exact hunsent
  | ok j =>
      refine Sat.ask ⟨hconnect.settled rfl, List.mem_append_right _ (List.mem_singleton.2 rfl)⟩
        fun reply => ?_
      have hpast : t <+: t ++ [⟨.connect (.mutation pending), .ok j⟩]
          ++ [⟨.receive (.mutation pending) j, reply⟩] :=
        (List.prefix_append _ _).trans (List.prefix_append _ _)
      have hat : At k (.sent pending) (t ++ [⟨.connect (.mutation pending), .ok j⟩]
          ++ [⟨.receive (.mutation pending) j, reply⟩]) := hconnect.append rfl rfl
      have hlast : (⟨.receive (.mutation pending) j, reply⟩ : AppEvent) ∈
          t ++ [⟨.connect (.mutation pending), .ok j⟩]
            ++ [⟨.receive (.mutation pending) j, reply⟩] :=
        List.mem_append_right _ (List.mem_singleton.2 rfl)
      cases reply with
      | none =>
          refine ⟨hpast, Or.inl hat, fun receipt heq => ?_, fun e heq => ?_⟩
          · cases heq
          · obtain rfl := Except.error.inj heq
            trivial
      | some reply =>
          cases reply with
          | receipt receipt =>
              refine ⟨hpast, Or.inl hat, fun receipt' heq => ?_, fun e heq => ?_⟩
              · obtain rfl := Reply.receipt.inj (Except.ok.inj heq)
                exact ⟨j, hlast⟩
              · cases heq
          | status found =>
              refine ⟨hpast, Or.inl hat, fun receipt' heq => ?_, fun e heq => ?_⟩
              · cases heq
              · cases heq
          | error code =>
              refine ⟨hpast, Or.inl hat, fun receipt' heq => ?_, fun e heq => ?_⟩
              · cases heq
              · obtain rfl := Except.error.inj heq
                exact ⟨_, hlast, rfl⟩
          | incompatible reason =>
              refine ⟨hpast, Or.inl hat, fun receipt' heq => ?_, fun e heq => ?_⟩
              · cases heq
              · obtain rfl := Except.error.inj heq
                exact Or.inr (Or.inr ⟨j, reason, hlast⟩)

/-- And its reply is narrowed to a receipt. -/
theorem send_sat (h : At k (.locked pending) t) :
    Sat (Conforms k) (AppState.send pending) t (OnOk fun t' r => t <+: t' ∧
      (At k (.sent pending) t' ∨ At k (.unsent pending) t') ∧
      (∀ receipt, r = .ok receipt → ∃ j,
        (⟨.receive (.mutation pending) j, some (.receipt receipt)⟩ : AppEvent) ∈ t') ∧
      ∀ e, r = .error e → Fails k t' pending e) := by
  refine (request_sat h).andThen fun t' r hr => ?_
  obtain ⟨hpast, hat, hreceipt, herror⟩ := hr
  cases r with
  | error e =>
      refine ⟨hpast, hat, fun receipt heq => ?_, fun e' heq => ?_⟩
      · cases heq
      · obtain rfl := Except.error.inj heq
        exact herror _ rfl
  | ok reply =>
      cases reply with
      | receipt receipt =>
          refine ⟨hpast, hat, fun receipt' heq => ?_, fun e heq => ?_⟩
          · obtain rfl := Except.ok.inj heq
            exact hreceipt _ rfl
          · cases heq
      | _ =>
          refine ⟨hpast, hat, fun receipt' heq => ?_, fun e heq => ?_⟩
          · cases heq
          · obtain rfl := Except.error.inj heq
            trivial

/-! ## Resolution -/

/-- What there is to show for giving a mutation up. -/
def Gives (k : AppMethod) (t : AppTrace) (pending : PendingMutation) : Prop :=
  Disproves k t pending ∨ ∃ e ∈ t, Acknowledges pending e

/-- A mutation is removed from the journal, and then from the lock if it is
still the one in it. -/
theorem clearPending_sat (h : At k stage t) (hstage : stage.unsettled = none)
    (hheard : Heard k t pending) (hgives : Gives k t pending) :
    Sat (Conforms k) (AppState.clearPending pending) t (OnOk fun t' _ => Leaves k stage t t') := by
  refine Sat.ask ⟨h.settled hstage, pending, rfl, hheard, hgives⟩ fun r => ?_
  have hpast : t <+: t ++ [⟨.remove pending.mutationID, r⟩] := List.prefix_append _ _
  cases r with
  | error e =>
      have hat : At k stage (t ++ [⟨.remove pending.mutationID, .error e⟩]) := h.append rfl rfl
      refine sat_quiet hat hstage rfl fun _ hl => ?_
      refine sat_show hl.2 (Stage.not_persisted hstage) trivial fun hl' => ?_
      exact ⟨hpast.trans (hl.1.trans hl'.1), hl'.2⟩
  | ok u =>
      -- the lock may be of this mutation, and then goes too
      have hhand : (phaseOf k (t ++ [⟨.remove pending.mutationID, .ok ()⟩])).hand
          = .removed pending.mutationID := hand_append
      have hkept : (phaseOf k (t ++ [⟨.remove pending.mutationID, .ok ()⟩])).stage = stage :=
        stage_append.trans h.stage
      have hsaw : (phaseOf k (t ++ [⟨.remove pending.mutationID, .ok ()⟩])).saw = none := saw_append
      refine Sat.ask ⟨⟨Or.inr ⟨hsaw, _, hhand⟩, by rw [hkept]; exact hstage⟩, trivial⟩ fun s => ?_
      have hread : (phaseOf k (t ++ [⟨.remove pending.mutationID, .ok ()⟩] ++ [⟨.read, s⟩])).stage
          = stage := stage_append.trans hkept
      by_cases hlock : s.pendingMutation.map PendingMutation.mutationID = some pending.mutationID
      · obtain ⟨p, hp, hid⟩ := Option.map_eq_some_iff.1 hlock
        have hremoved : (phaseOf k (t ++ [⟨.remove pending.mutationID, .ok ()⟩]
            ++ [⟨.read, s⟩])).hand = .removed p.mutationID := by
          rw [hand_append, hhand, hid]
          exact if_pos hlock
        have hshown : (phaseOf k (t ++ [⟨.remove pending.mutationID, .ok ()⟩]
            ++ [⟨.read, s⟩])).saw = some (some p) := by
          rw [saw_append, ← hp]
          rfl
        simp only [if_pos hlock]
        refine Sat.ask ⟨Or.inr (Or.inr (Or.inl ⟨?_, rfl, p, hshown, hremoved⟩)), trivial⟩ fun v => ?_
        · rw [hread]
          exact hstage
        · have hat : At k stage (t ++ [⟨.remove pending.mutationID, .ok ()⟩] ++ [⟨.read, s⟩]
              ++ [⟨.setPendingMutation none, v⟩]) := by
            refine ⟨hand_append, ?_⟩
            rw [stage_append, hread]
            cases stage with
            | persisted q => cases hstage
            | _ => rfl
          refine sat_quiet hat hstage rfl fun _ hl => ?_
          refine ⟨?_, hl.2⟩
          exact (hpast.trans (List.prefix_append _ _)).trans ((List.prefix_append _ _).trans hl.1)
      · simp only [if_neg hlock]
        have hat : At k stage (t ++ [⟨.remove pending.mutationID, .ok ()⟩] ++ [⟨.read, s⟩]) := by
          refine ⟨?_, hread⟩
          rw [hand_append, hhand]
          exact if_neg hlock
        refine sat_quiet hat hstage rfl fun _ hl => ?_
        exact ⟨hpast.trans ((List.prefix_append _ _).trans hl.1), hl.2⟩

/-- The same, and the owner is shown what the removal licenses. -/
theorem clearAndShow_sat {state : MutationState} (h : At k stage t)
    (hstage : stage.unsettled = none) (hheard : Heard k t pending) (hgives : Gives k t pending)
    (hstate : ∀ t', t <+: t' → Licensed k t' (.setMutationState state)) :
    Sat (Conforms k) (AppState.clearAndShow pending state) t
      (OnOk fun t' _ => Leaves k stage t t') := by
  refine (clearPending_sat h hstage hheard hgives).andThen fun t' cleared hl => ?_
  cases cleared with
  | false => exact hl
  | true =>
      refine sat_show hl.2 (Stage.not_persisted hstage) (hstate t' hl.1) fun hl' => ?_
      exact hl.trans hl'

/-- The same, and the App refreshes. -/
theorem clearAndRefresh_sat {state : MutationState} (h : At k stage t)
    (hstage : stage.unsettled = none) (hheard : Heard k t pending) (hgives : Gives k t pending)
    (hstate : ∀ t', t <+: t' → Licensed k t' (.setMutationState state)) :
    Sat (Conforms k) (AppState.clearAndRefresh pending state) t
      (OnOk fun t' _ => Leaves k stage t t') := by
  refine (clearPending_sat h hstage hheard hgives).andThen fun t' cleared hl => ?_
  cases cleared with
  | false => exact hl
  | true =>
      refine sat_show hl.2 (Stage.not_persisted hstage) (hstate t' hl.1) fun hl' => ?_
      refine sat_quiet hl'.2 hstage rfl fun _ hl'' => ?_
      exact (hl.trans hl').trans hl''

/-- A receipt of the daemon resolves its mutation. -/
theorem resolve_sat {receipt : Receipt} (h : At k stage t) (hstage : stage.unsettled = none)
    (hheard : Heard k t pending) (hgives : Gives k t pending) :
    Sat (Conforms k) (AppState.resolve receipt pending) t
      (OnOk fun t' _ => Leaves k stage t t') := by
  unfold AppState.resolve
  cases receipt.outcome with
  | applied result => exact clearAndRefresh_sat h hstage hheard hgives fun _ _ => trivial
  | noChange reasonID => exact clearAndRefresh_sat h hstage hheard hgives fun _ _ => trivial
  | rejected reasonID => exact clearAndRefresh_sat h hstage hheard hgives fun _ _ => trivial
  | unknown wire => exact sat_show h (Stage.not_persisted hstage) trivial fun hl => hl

/-- The journal is loaded once, before anything of it is used. -/
theorem loadJournalIfNeeded_sat (h : At k stage t) (hstage : stage.unsettled = none) :
    Sat (Conforms k) AppState.loadJournalIfNeeded t (OnOk fun t' _ => Leaves k stage t t') := by
  refine sat_quiet h hstage rfl fun s hl => ?_
  by_cases hloaded : s.journalLoaded = false
  · simp only [if_pos hloaded]
    refine Sat.ask ⟨hl.2.settled hstage, trivial⟩ fun u => ?_
    have hhand := hand_append (k := k) (t := t ++ [⟨.read, s⟩]) (e := ⟨.setJournalLoaded, u⟩)
    have hkept : (phaseOf k (t ++ [⟨.read, s⟩] ++ [⟨.setJournalLoaded, u⟩])).stage = stage :=
      stage_append.trans hl.2.stage
    refine Sat.ask ⟨⟨hhand, by rw [hkept]; exact hstage⟩, trivial⟩ fun r => ?_
    have hpast : t <+: t ++ [⟨.read, s⟩] ++ [⟨.setJournalLoaded, u⟩] ++ [⟨.load, r⟩] :=
      hl.1.trans ((List.prefix_append _ _).trans (List.prefix_append _ _))
    have hstays : (phaseOf k (t ++ [⟨.read, s⟩] ++ [⟨.setJournalLoaded, u⟩]
        ++ [⟨.load, r⟩])).stage = stage := stage_append.trans hkept
    cases r with
    | error e =>
        have hat : At k stage (t ++ [⟨.read, s⟩] ++ [⟨.setJournalLoaded, u⟩]
            ++ [⟨.load, .error e⟩]) := ⟨hand_append, hstays⟩
        refine sat_quiet hat hstage rfl fun _ hl' => ?_
        exact ⟨hpast.trans hl'.1, hl'.2⟩
    | ok record =>
        have hfound : (phaseOf k (t ++ [⟨.read, s⟩] ++ [⟨.setJournalLoaded, u⟩]
            ++ [⟨.load, .ok record⟩])).hand = .loaded record := hand_append
        have htold : ∀ p ∈ record, Heard k (t ++ [⟨.read, s⟩] ++ [⟨.setJournalLoaded, u⟩]
            ++ [⟨.load, .ok record⟩]) p := fun p hp => heard_told (Option.mem_toList.2 hp)
        refine Sat.ask ⟨Or.inl ⟨hfound, by rw [hstays]; exact hstage, htold⟩, trivial⟩ fun v => ?_
        have hat : At k stage (t ++ [⟨.read, s⟩] ++ [⟨.setJournalLoaded, u⟩]
            ++ [⟨.load, .ok record⟩] ++ [⟨.setPendingMutation record, v⟩]) := by
          refine ⟨hand_append, ?_⟩
          rw [stage_append, hstays]
          cases stage with
          | persisted q => cases hstage
          | _ => rfl
        have hpast' := hpast.trans (List.prefix_append _ [⟨.setPendingMutation record, v⟩])
        cases record with
        | none => exact ⟨hpast', hat⟩
        | some p =>
            by_cases hdismissed : p.visualDismissed = false
            · simp only [if_pos hdismissed]
              refine sat_show hat (Stage.not_persisted hstage) trivial fun hl' => ?_
              exact ⟨hpast'.trans hl'.1, hl'.2⟩
            · simp only [if_neg hdismissed]
              exact ⟨hpast', hat⟩
  · simp only [if_neg hloaded]
    exact hl

/-- A refresh starts its loop or waits for the one that runs. -/
theorem refresh_sat (h : At k stage t) (hstage : stage.unsettled = none) :
    Sat (Conforms k) AppState.refresh t (OnOk fun t' _ => Leaves k stage t t') := by
  refine (loadJournalIfNeeded_sat h hstage).andThen fun t' _ hl => ?_
  refine sat_quiet hl.2 hstage rfl fun s hl' => ?_
  cases s.activeRefresh with
  | some id =>
      refine sat_quiet hl'.2 hstage rfl fun _ hl'' => ?_
      refine sat_quiet hl''.2 hstage rfl fun _ hl₃ => ?_
      exact ((hl.trans hl').trans hl'').trans hl₃
  | none =>
      refine sat_quiet hl'.2 hstage rfl fun _ hl'' => ?_
      refine sat_quiet hl''.2 hstage rfl fun _ hl₃ => ?_
      refine sat_quiet hl₃.2 hstage rfl fun _ hl₄ => ?_
      exact (((hl.trans hl').trans hl'').trans hl₃).trans hl₄

/-- What the daemon knows of the mutation decides what becomes of it. -/
theorem settle_sat {status : Lookup} {j : Nat} (h : At k stage t) (hstage : stage.unsettled = none)
    (hheard : Heard k t pending)
    (hstatus : (⟨.receive (.mutationStatus pending.context) j, some (.status status)⟩ : AppEvent)
      ∈ t) :
    Sat (Conforms k) (AppState.settle pending status) t
      (OnOk fun t' _ => Leaves k stage t t') := by
  cases status with
  | notFound context =>
      unfold AppState.settle
      by_cases hcontext : context = pending.context
      · simp only [PendingMutation.validateContext, if_pos hcontext]
        have hfound : Disproves k t pending := by
          rw [hcontext] at hstatus
          exact Or.inl ⟨_, j, hstatus⟩
        have hshown : ∀ t', t <+: t' →
            Licensed k t' (.setMutationState (.definitelyNotApplied pending)) :=
          fun t' hp => hfound.mono hp
        refine (clearAndShow_sat h hstage hheard (Or.inl hfound) hshown).andThen fun t' _ hl => ?_
        exact hl
      · simp only [PendingMutation.validateContext, if_neg hcontext]
        exact h.leaves
  | authorityLost context =>
      unfold AppState.settle
      by_cases hcontext : context = pending.context
      · simp only [PendingMutation.validateContext, if_pos hcontext]
        exact sat_show h (Stage.not_persisted hstage) trivial fun hl => hl
      · simp only [PendingMutation.validateContext, if_neg hcontext]
        exact h.leaves
  | committed receipt =>
      unfold AppState.settle
      cases hvalid : pending.validate receipt with
      | error e =>
          simp only [hvalid]
          exact h.leaves
      | ok u =>
          simp only [hvalid]
          have hack : Gives k t pending := Or.inr ⟨_, hstatus, hvalid⟩
          refine (resolve_sat h hstage hheard hack).andThen fun t' _ hl => ?_
          exact hl

/-- Where nothing was learned the mutation stays as it is. -/
theorem reconcileFailed_sat {error : ClientError} (h : At k stage t)
    (hstage : stage.unsettled = none) :
    Sat (Conforms k) (AppState.reconcileFailed pending error) t
      (OnOk fun t' _ => Leaves k stage t t') := by
  have hrest : ∀ t', Leaves k stage t t' →
      Sat (Conforms k) (do
        let s ← Prog.ask AppCall.read
        if s.pendingMutation.isSome then
          let () ← Prog.ask (AppCall.setMutationState (.unresolved pending)) : AppProg Unit) t'
        (OnOk fun t'' _ => Leaves k stage t t'') := by
    intro t' hl
    refine sat_quiet hl.2 hstage rfl fun s hl' => ?_
    by_cases hsome : s.pendingMutation.isSome = true
    · simp only [if_pos hsome]
      refine sat_show hl'.2 (Stage.not_persisted hstage) trivial fun hl'' => ?_
      exact (hl.trans hl').trans hl''
    · simp only [if_neg hsome]
      exact hl.trans hl'
  cases error with
  | incompatibleDaemon reason => exact sat_quiet h hstage rfl fun _ hl => hrest _ hl
  | unavailable => exact sat_quiet h hstage rfl fun _ hl => hrest _ hl
  | _ => exact hrest t h.leaves

theorem refreshAfterResolution_sat {requestRefresh : Bool} (h : At k stage t)
    (hstage : stage.unsettled = none) :
    Sat (Conforms k) (AppState.refreshAfterResolution requestRefresh) t
      (OnOk fun t' _ => Leaves k stage t t') := by
  refine sat_quiet h hstage rfl fun s hl => ?_
  by_cases hrefresh : requestRefresh = true ∧ s.pendingMutation = none
  · simp only [if_pos hrefresh]
    refine sat_quiet hl.2 hstage rfl fun _ hl' => ?_
    refine (refresh_sat hl'.2 hstage).imp fun t' v hv => ?_
    exact (hl.trans hl').trans hv
  · simp only [if_neg hrefresh]
    exact hl

/-- A reconciliation asks for the mutation's status and settles it, one at
a time. -/
theorem reconcile_sat {requestRefresh : Bool} (h : At k stage t) (hstage : stage.unsettled = none)
    (hheard : Heard k t pending) :
    Sat (Conforms k) (AppState.reconcile pending requestRefresh) t
      (OnOk fun t' _ => Leaves k stage t t') := by
  refine sat_quiet h hstage rfl fun s hl => ?_
  by_cases hsame : s.reconcilingMutationID = some pending.mutationID
  · simp only [if_pos hsame]
    exact hl
  simp only [if_neg hsame]
  refine sat_quiet hl.2 hstage rfl fun _ hl' => ?_
  have hheard' := hheard.mono (hl.1.trans hl'.1)
  refine (mutationStatus_sat hl'.2 hstage hheard').andThen fun t₁ r hr => ?_
  obtain ⟨hl₁, hstatus⟩ := hr
  have hpast := (hl.trans hl').trans hl₁
  have hlast : ∀ t₂, Leaves k stage t t₂ →
      Sat (Conforms k) (do
        let () ← Prog.ask (AppCall.setReconcilingMutationID none) : AppProg Unit) t₂
        (OnOk fun t₃ _ => Leaves k stage t t₃) := by
    intro t₂ hl₂
    refine sat_quiet hl₂.2 hstage rfl fun _ hl₃ => ?_
    exact hl₂.trans hl₃
  cases r with
  | error e =>
      refine (reconcileFailed_sat hl₁.2 hstage).andThen fun t₂ _ hl₂ => ?_
      exact hlast t₂ (hpast.trans hl₂)
  | ok status =>
      obtain ⟨j, hmem⟩ := hstatus status rfl
      refine (settle_sat hl₁.2 hstage (hheard.mono hpast.1) hmem).andThen fun t₂ r' hl₂ => ?_
      have hpast' := hpast.trans hl₂
      cases r' with
      | ok u =>
          refine (refreshAfterResolution_sat hl₂.2 hstage).andThen fun t₃ _ hl₃ => ?_
          exact hlast t₃ (hpast'.trans hl₃)
      | error e =>
          refine (reconcileFailed_sat hl₂.2 hstage).andThen fun t₃ _ hl₃ => ?_
          exact hlast t₃ (hpast'.trans hl₃)

/-- An error removes the mutation only where it proves that the daemon has
not taken it. -/
theorem handleMutationError_sat {error : ClientError} (h : At k stage t)
    (hstage : stage.unsettled = none) (hheard : Heard k t pending)
    (herror : Fails k t pending error) :
    Sat (Conforms k) (AppState.handleMutationError error pending) t
      (OnOk fun t' _ => Leaves k stage t t') := by
  have hfailed : ∀ {t'} reasonID, t <+: t' → Disproves k t pending →
      Licensed k t' (.setMutationState (.failedBeforeSend pending reasonID)) :=
    fun _ hp hdisproves => hdisproves.mono hp
  have huncertain : Sat (Conforms k) (do
      let () ← Prog.ask (AppCall.setMutationState (.unresolved pending))
      AppState.reconcile pending true : AppProg Unit) t (OnOk fun t' _ => Leaves k stage t t') := by
    refine sat_show h (Stage.not_persisted hstage) trivial fun hl => ?_
    refine (reconcile_sat hl.2 hstage (hheard.mono hl.1)).imp fun t' v hv => ?_
    exact hl.trans hv
  cases error with
  | deliveryUncertain => exact huncertain
  | protocolError reason => exact huncertain
  | serverError code =>
      unfold AppState.handleMutationError
      by_cases hlost : code = "authority_lost"
      · simp only [if_pos hlost]
        exact sat_show h (Stage.not_persisted hstage) trivial fun hl => hl
      · simp only [if_neg hlost]
        exact clearAndRefresh_sat h hstage hheard (Or.inr herror) fun _ _ => trivial
  | unavailable =>
      refine sat_quiet h hstage rfl fun _ hl => ?_
      refine (clearAndShow_sat hl.2 hstage (hheard.mono hl.1) (Or.inl (herror.mono hl.1))
        fun t' hp => hfailed _ (hl.1.trans hp) herror).imp fun t' v hv => ?_
      exact hl.trans hv
  | failedBeforeSend reasonID =>
      exact clearAndShow_sat h hstage hheard (Or.inl herror) fun t' hp => hfailed _ hp herror
  | incompatibleDaemon reason =>
      refine sat_quiet h hstage rfl fun _ hl => ?_
      refine (clearAndShow_sat hl.2 hstage (hheard.mono hl.1) (Or.inl (herror.mono hl.1))
        fun t' hp => hfailed _ (hl.1.trans hp) herror).imp fun t' v hv => ?_
      exact hl.trans hv

/-! ## The methods -/

/-- What a task owes at its end. -/
def Done (k : AppMethod) (t : AppTrace) : Prop := (phaseOf k t).Settled

theorem Leaves.done {t' : AppTrace} (h : Leaves k stage t t') (hstage : stage.unsettled = none) :
    Done k t' := h.2.settled hstage

/-- A mutation that was persisted is locked, sent, and settled by what comes
back. -/
theorem deliver_sat (h : At k (.persisted pending) t) (hheard : Heard k t pending) :
    Sat (Conforms k) (AppState.deliver pending) t (OnOk fun t' _ => Done k t') := by
  refine Sat.ask ⟨Or.inr (Or.inl ⟨h.hand, pending, h.stage, rfl⟩), trivial⟩ fun u => ?_
  have hlocked : At k (.locked pending) (t ++ [⟨.setPendingMutation (some pending), u⟩]) := by
    refine ⟨hand_append, ?_⟩
    rw [stage_append, h.stage]
    rfl
  refine sat_show hlocked (fun p hp => Stage.noConfusion hp) trivial fun hl => ?_
  have hpast : t <+: t ++ [⟨.setPendingMutation (some pending), u⟩]
      ++ [⟨.setMutationState (.inFlight pending), ()⟩] := (List.prefix_append _ _).trans hl.1
  refine (send_sat hl.2).andThen fun t' r hr => ?_
  obtain ⟨hp, hat, hreceipt, herror⟩ := hr
  have hheard' : Heard k t' pending := hheard.mono (hpast.trans hp)
  -- sent or failed before, the record waits for what the answer shows
  obtain ⟨stage', hstage', hat'⟩ : ∃ stage : Stage, stage.unsettled = none ∧ At k stage t' := by
    rcases hat with hat | hat
    · exact ⟨_, rfl, hat⟩
    · exact ⟨_, rfl, hat⟩
  have hends : ∀ {p : AppProg Unit}, Sat (Conforms k) p t' (OnOk fun t'' _ => Leaves k stage' t' t'') →
      Sat (Conforms k) p t' (OnOk fun t'' _ => Done k t'') := by
    intro p hp
    refine hp.imp fun t'' v hv => ?_
    exact hv.done hstage'
  cases r with
  | error e => exact hends (handleMutationError_sat hat' hstage' hheard' (herror e rfl))
  | ok receipt =>
      obtain ⟨j, hmem⟩ := hreceipt receipt rfl
      cases hvalid : pending.validate receipt with
      | ok v =>
          simp only [hvalid]
          exact hends (resolve_sat hat' hstage' hheard' (Or.inr ⟨_, hmem, hvalid⟩))
      | error e =>
          simp only [hvalid]
          -- a receipt that does not validate proves nothing: the record must stay
          have huncertain : Fails k t' pending e := by
            unfold PendingMutation.validate at hvalid
            split_ifs at hvalid with hmatches
            · cases houtcome : receipt.outcome with
              | applied result =>
                  simp only [houtcome] at hvalid
                  split_ifs at hvalid
                  obtain rfl := Except.error.inj hvalid
                  trivial
              | unknown wire =>
                  simp only [houtcome] at hvalid
                  obtain rfl := Except.error.inj hvalid
                  trivial
              | noChange reasonID =>
                  simp only [houtcome] at hvalid
                  cases hvalid
              | rejected reasonID =>
                  simp only [houtcome] at hvalid
                  cases hvalid
            · obtain rfl := Except.error.inj hvalid
              trivial
          exact hends (handleMutationError_sat hat' hstage' hheard' huncertain)

/-- `perform` persists before it locks and sends. -/
theorem perform_sat {mutation : Mutation} {mutationID : String} {createdAt : Nat}
    (hk : k = .perform mutation mutationID createdAt) :
    Sat (Conforms k) (AppState.perform mutation mutationID createdAt) []
      (OnOk fun t' _ => Done k t') := by
  refine (loadJournalIfNeeded_sat (k := k) at_start rfl).andThen fun t _ hl => ?_
  refine sat_quiet hl.2 rfl rfl fun s hl' => ?_
  have hat := hl'.2
  cases hpending : s.pendingMutation with
  | some pending =>
      refine sat_show hat (fun p hp => Stage.noConfusion hp) trivial fun hl'' => ?_
      exact hl''.done rfl
  | none =>
      cases hnamespace : s.namespaceToken with
      | none => exact hat.settled rfl
      | some token =>
          by_cases hready : s.mutationJournalAvailable = true ∧ s.connection = .live
          · simp only [if_pos hready]
            have hown : k.performs = some mutationID := by
              rw [hk]
              rfl
            refine Sat.ask ⟨⟨hat.settled rfl, Or.inr ⟨hat.stage, hown, rfl⟩⟩, trivial⟩ fun r => ?_
            have hphase : At k (Stage.persistEnds
                (.new ⟨token, mutationID⟩ mutation createdAt) r) (t ++ [⟨.read, s⟩]
                ++ [⟨.persist (.new ⟨token, mutationID⟩ mutation createdAt), r⟩]) := by
              refine ⟨?_, ?_⟩
              · rw [hand_append, hat.hand]
                rfl
              · rw [stage_append, hat.stage]
                exact if_pos ⟨rfl, hown⟩
            cases r with
            | ok u => exact deliver_sat hphase (heard_told (List.mem_singleton.2 rfl))
            | error e =>
                have hunsent : Disproves k (t ++ [⟨.read, s⟩]
                    ++ [⟨.persist (.new ⟨token, mutationID⟩ mutation createdAt), .error e⟩])
                    (.new ⟨token, mutationID⟩ mutation createdAt) := Or.inr (Or.inl hphase.stage)
                refine sat_quiet hphase rfl rfl fun _ hl₂ => ?_
                refine sat_show hl₂.2 (fun p hp => Stage.noConfusion hp) (hunsent.mono hl₂.1)
                  fun hl₃ => ?_
                exact hl₃.done rfl
          · simp only [if_neg hready]
            exact hat.settled rfl

/-- A dismissal marks the mutation in the lock, and leaves the writing to
another task. -/
theorem dismissMutationState_sat :
    Sat (Conforms k) AppState.dismissMutationState [] (OnOk fun t' _ => Done k t') := by
  refine sat_quiet (k := k) at_start rfl rfl fun s hl => ?_
  by_cases hidle : s.mutationState.isInFlight = false
  · simp only [if_pos hidle]
    refine sat_show hl.2 (fun p hp => Stage.noConfusion hp) trivial fun hl' => ?_
    cases hpending : s.pendingMutation with
    | none => exact hl'.done rfl
    | some pending =>
        have hsaw : (phaseOf k ([] ++ [⟨.read, s⟩] ++ [⟨.setMutationState .idle, ()⟩])).saw
            = some (some pending) := by
          rw [saw_append, saw_append, ← hpending]
          rfl
        have hheard : Heard k ([] ++ [⟨.read, s⟩]) pending :=
          heard_told (Option.mem_toList.2 hpending)
        refine Sat.ask ⟨Or.inr (Or.inr (Or.inr ⟨hl'.2.settled rfl, pending, hsaw, rfl⟩)), trivial⟩
          fun u => ?_
        have hat : At k .fresh ([] ++ [⟨.read, s⟩] ++ [⟨.setMutationState .idle, ()⟩]
            ++ [⟨.setPendingMutation (some { pending with visualDismissed := true }), u⟩]) := by
          refine ⟨hand_append, ?_⟩
          rw [stage_append, hl'.2.stage]
          rfl
        have hheard' := hheard.mono (hl'.1.trans (List.prefix_append _
          [⟨.setPendingMutation (some { pending with visualDismissed := true }), u⟩]))
        refine Sat.ask ⟨⟨hat.settled rfl, hheard'⟩, trivial⟩ fun v => ?_
        exact (hat.append (e := ⟨.detachPersist _, v⟩) rfl rfl).settled rfl
  · simp only [if_neg hidle]
    exact hl.done rfl

/-- That task writes the record and ends. -/
theorem persistDismissed_sat (hk : k = .persistDismissed pending) :
    Sat (Conforms k) (AppState.persistDismissed pending) [] (OnOk fun t' _ => Done k t') := by
  refine Sat.ask ⟨⟨at_start.settled rfl, Or.inl hk⟩, trivial⟩ fun r => ?_
  have hnot : ¬ (Stage.fresh = .fresh ∧ k.performs = some pending.mutationID) := by
    rw [hk]
    rintro ⟨-, hperforms⟩
    cases hperforms
  exact (at_start.append (e := ⟨.persist pending, r⟩) (if_neg hnot) rfl).settled rfl

/-- `checkAgain` reconciles the mutation in the lock. -/
theorem checkAgain_sat {mutationID : String} :
    Sat (Conforms k) (AppState.checkAgain mutationID) [] (OnOk fun t' _ => Done k t') := by
  refine (loadJournalIfNeeded_sat (k := k) at_start rfl).andThen fun t _ hl => ?_
  refine sat_quiet hl.2 rfl rfl fun s hl' => ?_
  cases hpending : s.pendingMutation with
  | none => exact hl'.done rfl
  | some pending =>
      by_cases hsame : pending.mutationID = mutationID
      · simp only [if_pos hsame]
        have hheard : Heard k (t ++ [⟨.read, s⟩]) pending :=
          heard_told (Option.mem_toList.2 hpending)
        refine sat_show hl'.2 (fun p hp => Stage.noConfusion hp) trivial fun hl'' => ?_
        refine (reconcile_sat hl''.2 rfl (hheard.mono hl''.1)).imp fun t' v hv => ?_
        exact hv.done rfl
      · simp only [if_neg hsame]
        exact hl'.done rfl

/-- A refresh that succeeds reconciles what is in the lock. -/
theorem takeOutcome_sat {outcome : RefreshOutcome} (h : At k .fresh t) :
    Sat (Conforms k) (AppState.takeOutcome outcome) t (OnOk fun t' _ => Leaves k .fresh t t') := by
  cases outcome with
  | success namespaceToken =>
      refine sat_quiet h rfl rfl fun _ hl₁ => ?_
      refine sat_quiet hl₁.2 rfl rfl fun _ hl₂ => ?_
      refine sat_quiet hl₂.2 rfl rfl fun _ hl₃ => ?_
      refine sat_quiet hl₃.2 rfl rfl fun s hl₄ => ?_
      have hl := ((hl₁.trans hl₂).trans hl₃).trans hl₄
      cases hpending : s.pendingMutation with
      | none => exact hl
      | some pending =>
          have hheard : ∀ t₁ : AppTrace, Heard k (t₁ ++ [⟨.read, s⟩]) pending :=
            fun _ => heard_told (Option.mem_toList.2 hpending)
          refine (reconcile_sat hl₄.2 rfl (hheard _)).imp fun t' v hv => ?_
          exact hl.trans hv
  | incompatibleDaemon reason => exact sat_quiet h rfl rfl fun _ hl => hl
  | unavailable =>
      refine sat_quiet h rfl rfl fun _ hl => ?_
      refine sat_quiet hl.2 rfl rfl fun _ hl' => ?_
      exact hl.trans hl'
  | failure => exact sat_quiet h rfl rfl fun _ hl => hl

/-- The loop takes an outcome as long as it is the current one. -/
theorem runRefreshLoop_sat {epoch : Nat} :
    Sat (Conforms k) (AppState.runRefreshLoop epoch) [] (OnOk fun t' _ => Done k t') := by
  refine sat_quiet (k := k) at_start rfl rfl fun _ hl₁ => ?_
  refine sat_quiet hl₁.2 rfl rfl fun outcome hl₂ => ?_
  refine sat_quiet hl₂.2 rfl rfl fun cancelled hl₃ => ?_
  refine sat_quiet hl₃.2 rfl rfl fun s hl₄ => ?_
  by_cases hgoes : cancelled = false ∧ epoch = s.refreshEpoch
  · simp only [if_pos hgoes]
    refine (takeOutcome_sat hl₄.2).andThen fun t' _ hl₅ => ?_
    refine sat_quiet hl₅.2 rfl rfl fun s' hl₆ => ?_
    refine sat_quiet hl₆.2 rfl rfl fun cancelled' hl₇ => ?_
    by_cases hagain : s'.refreshRequested = true ∧ cancelled' = false ∧ epoch = s'.refreshEpoch
    · simp only [if_pos hagain]
      exact sat_quiet hl₇.2 rfl rfl fun _ hl₈ => hl₈.done rfl
    · simp only [if_neg hagain]
      exact hl₇.done rfl
  · simp only [if_neg hgoes]
    exact hl₄.done rfl

/-- **Every method conforms.** -/
theorem program_conforms (k : AppMethod) :
    Sat (Conforms k) k.program [] fun t' _ => Done k t' := by
  have hok : Sat (Conforms k) k.program [] (OnOk fun t' _ => Done k t') := by
    cases k with
    | perform mutation mutationID createdAt => exact perform_sat rfl
    | dismissMutationState => exact dismissMutationState_sat
    | persistDismissed pending => exact persistDismissed_sat rfl
    | checkAgain mutationID => exact checkAgain_sat
    | refresh =>
        refine (refresh_sat at_start rfl).imp fun t' v hv => ?_
        exact hv.done rfl
    | runRefreshLoop epoch => exact runRefreshLoop_sat
    | stopPolling => exact sat_quiet (f := fun _ => pure ()) at_start rfl rfl fun _ hl => hl.done rfl
  refine hok.mono fun t' o ho => ?_
  cases o with
  | ok v => exact ho
  | error e => exact e.elim

end Calls

end App

end Unlinger
