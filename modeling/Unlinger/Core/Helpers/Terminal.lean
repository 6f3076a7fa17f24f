import Unlinger.Core.Helpers.Stages

/-!
# The terminal proof and the artifacts

The revival windows, the proof that the tree is gone, and the removal of
the artifacts with the proof repeated after it. Nothing here signals a
process, so a proof once made stands.
-/

namespace Unlinger

open Interaction

variable {plan : CleanupPlan} {policy : CleanupPolicy} {t t' es : CleanupTrace}
  {r : CleanupReceipt}

/-! ## Standing proofs -/

/-- None of the events is a signal. -/
def Unsignalling (es : CleanupTrace) : Prop := ∀ pid sig, ¬ Signalled es pid sig

theorem unsignalling_of_silent (h : ∀ e ∈ es, Silent e) : Unsignalling es := by
  rintro pid sig ⟨e, he, identity, hc, -⟩
  exact (h e he).2 (by rw [hc]; exact trivial)

theorem Observing.unsignalling (h : Observing es) : Unsignalling es :=
  unsignalling_of_silent fun e he => silent_of_neutral (h e he).1 (h e he).2

/-- An event that is no signal. -/
theorem unsignalling_singleton {e : CleanupEvent}
    (h : ∀ identity sig, e.call ≠ .signalExact identity sig) : Unsignalling [e] := by
  rintro pid sig ⟨e', he, identity, hc, -⟩
  rw [List.mem_singleton.1 he] at hc
  exact h identity sig hc

theorem Unsignalling.append {es' : CleanupTrace} (h : Unsignalling es) (h' : Unsignalling es') :
    Unsignalling (es ++ es') := by
  intro pid sig hs
  rcases signalled_append.1 hs with hs | hs
  · exact h pid sig hs
  · exact h' pid sig hs

theorem ProvedAbsent.extend (h : ProvedAbsent plan t) (hes : Unsignalling es) :
    ProvedAbsent plan (t ++ es) := by
  obtain ⟨s, u, v, rfl, hv, habs, reason, hgone⟩ := h
  refine ⟨s, u, v ++ es, by simp, Unsignalling.append hv hes,
    fun x hx => ⟨(habs x hx).1, List.mem_append_left es (habs x hx).2⟩, reason,
    List.mem_append_left es hgone⟩

theorem WaitedOut.extend {windows : List Nat} (h : WaitedOut plan windows t) :
    WaitedOut plan windows (t ++ es) := by
  obtain ⟨rounds, u, v, hr, rfl⟩ := h
  exact ⟨rounds, u, v ++ es, hr, by simp⟩

theorem ProvedRemoved.mono {candidate : RuntimeArtifactCandidate} (h : ProvedRemoved candidate t)
    (ht : t <+: t') : ProvedRemoved candidate t' := by
  obtain ⟨u, v, d, rfl, hact, hfreeze⟩ := h
  obtain ⟨es, rfl⟩ := ht
  exact ⟨u, v ++ es, d, by simp, hact, List.mem_append_left es hfreeze⟩

/-- The processes are proved gone, every window waited out. -/
structure Reclaimed (plan : CleanupPlan) (policy : CleanupPolicy) (t : CleanupTrace)
    (r : CleanupReceipt) : Prop where
  waited : WaitedOut plan policy.revivalWindows t
  absent : ProvedAbsent plan t
  checks : r.revivalChecksCompleted = policy.revivalWindows.length

theorem Reclaimed.extend {r' : CleanupReceipt} (h : Reclaimed plan policy t r)
    (hes : Unsignalling es) (hr : r'.revivalChecksCompleted = r.revivalChecksCompleted) :
    Reclaimed plan policy (t ++ es) r' :=
  ⟨h.waited.extend, h.absent.extend hes, hr.trans h.checks⟩

/-! ## Revival windows -/

/-- A receipt that ended in a revival. -/
theorem Going.endedRevived {reason : String} (h : Going t [] r) (hp : PlainReason t reason)
    (ha : r.artifactActions = []) :
    EndedUnclaimed t { r with state := .revived, reasonId := some reason } :=
  ⟨⟨h.journal, fun hs => absurd hs h.running⟩, ha, by simp, reason, rfl, hp⟩

/-- **The revival windows.** Each one is waited out and answered Gone, or
the cleanup ends there. -/
theorem revivalLoop_spec {windows : List Nat} {terminal : Option Snapshot} (h : Going t [] r)
    (hbare : r.artifactActions = []) :
    Sat (Permitted plan policy) (revivalLoop plan windows r terminal) t
      (FlowPost EndedUnclaimed fun t' a => Going t' [] a.1 ∧ a.1.artifactActions = [] ∧
        a.1.revivalChecksCompleted = r.revivalChecksCompleted + windows.length ∧
        ∃ rounds : List (Nat × Snapshot × String), rounds.map Prod.fst = windows ∧
          t' = t ++ rounds.flatMap (windowEvents plan) ∧
          a.2 = (rounds.getLast?.map fun w => w.2.1).or terminal) := by
  induction windows generalizing t r terminal with
  | nil => exact ⟨h, hbare, rfl, [], rfl, by simp, by simp⟩
  | cons w ws ih =>
      unfold revivalLoop
      refine Sat.bind (waitInterrupted_spec h) ?_ fun t' err herr => herr
      rintro t₁ (_ | _) hwait
      · obtain rfl : t₁ = _ := hwait
        have h₁ := h.extend (observing_waited w)
        refine Sat.bind (snapshotOrReceiptError_spec h₁) ?_ fun t' err herr => herr
        rintro t₂ s hsnap
        obtain rfl : t₂ = _ := hsnap
        have h₂ := h₁.neutral (e := ⟨.snapshot, .ok s⟩) trivial id
        refine Sat.ask trivial fun v => ?_
        have h₃ := h₂.neutral (e := ⟨.revalidate s plan .revivalCheck, v⟩) trivial id
        have hplain : PlainReason (t ++ [⟨.shouldStop, false⟩,
            ⟨.waitUntil w, .ok .deadlineReached⟩, ⟨.shouldStop, false⟩] ++ [⟨.snapshot, .ok s⟩] ++
            [⟨.revalidate s plan .revivalCheck, v⟩]) v.reasonId :=
          Or.inr ⟨s, plan, .revivalCheck, v, by simp, rfl⟩
        have hset : Going _ [] (setResourceAfter
            { r with revivalChecksCompleted := r.revivalChecksCompleted + 1 }
            (resourceSnapshot s plan)) := h₃.receipt rfl rfl
        obtain ⟨status, reason⟩ := v
        cases status with
        | gone =>
            refine Sat.mono (ih (h₃.receipt rfl rfl) hbare) ?_
            rintro t' (err | r' | ⟨r', terminal'⟩) ho
            · exact ho
            · exact ho
            · obtain ⟨hgo, hb, hn, rounds, hr, rfl, hlast⟩ := ho
              refine ⟨hgo, hb, ?_, (w, s, reason) :: rounds, by simp [hr],
                by simp [windowEvents], ?_⟩
              · rw [hn, List.length_cons]
                exact Nat.succ_add_eq_add_succ _ _
              · rw [hlast]
                cases rounds <;> simp [List.getLast?_cons]
        | revived => exact hset.endedRevived hplain hbare
        | eligible => exact hset.endedRevived hplain hbare
        | blocked => exact (hset.refused hplain).endedUnclaimed hbare
      · have hj : Journalled t₁ [] r := hwait
        exact hj.drained.endedUnclaimed hbare

/-! ## The proof -/

/-- The events prove that no target of the snapshot lives. -/
def GoneIn (plan : CleanupPlan) (s : Snapshot) (es : CleanupTrace) : Prop :=
  (∀ x ∈ plan.targets, s.byPid.lookup x.identity.pid = none ∧
    ⟨.lookupProcess x.identity.pid, .ok none⟩ ∈ es) ∧
  ∃ reason, ⟨.revalidate s plan .revivalCheck, ⟨.gone, reason⟩⟩ ∈ es

/-- With the snapshot before them and no signal in between, they are the
proof of the trace. -/
theorem GoneIn.provedAbsent {s : Snapshot} {v : CleanupTrace} (h : GoneIn plan s es)
    (hes : Unsignalling es) (hv : Unsignalling v) (u : CleanupTrace) :
    ProvedAbsent plan (u ++ ⟨.snapshot, .ok s⟩ :: v ++ es) := by
  obtain ⟨habs, reason, hgone⟩ := h
  exact ⟨s, u, v ++ es, by simp, hv.append hes,
    fun x hx => ⟨(habs x hx).1, List.mem_append_right v (habs x hx).2⟩, reason,
    List.mem_append_right v hgone⟩

/-- A receipt that ended short of the proof: its reason is plain, and the
rest of it is as it was. -/
structure EndedShort (t : CleanupTrace) (r r' : CleanupReceipt) : Prop where
  ended : Ended t r'
  state : r'.state ≠ .cleared
  plain : ∃ reason, r'.reasonId = some reason ∧ PlainReason t reason
  artifactActions : r'.artifactActions = r.artifactActions
  checks : r'.revivalChecksCompleted = r.revivalChecksCompleted

theorem Refused.endedShort {r' : CleanupReceipt} {reason : String} {pids : List Pid}
    (h : Refused t r' reason) (ha : r'.artifactActions = r.artifactActions)
    (hc : r'.revivalChecksCompleted = r.revivalChecksCompleted) :
    EndedShort t r (fail r' reason pids) :=
  ⟨h.ended, by simp [fail], ⟨reason, rfl, h.plain⟩, ha, hc⟩

/-- With no survivors at all, none of the targets is anywhere. -/
theorem Seen.absent {byPid : OrdMap Pid ProcessRecord} {ts : List ProcessTarget}
    {l₀ l : ExactTargetLiveness} (h : Seen byPid ts es l₀ l) (hemp : l.survivors.isEmpty = true) :
    ∀ x ∈ ts, byPid.lookup x.identity.pid = none ∧
      ⟨.lookupProcess x.identity.pid, .ok none⟩ ∈ es := by
  have hno : ∀ pid, l.survivors.contains pid = false := fun pid => by
    simp [OrdMap.contains, OrdMap.isEmpty_iff.1 hemp pid]
  intro x hx
  cases hp : byPid.lookup x.identity.pid with
  | some p =>
      have hsurv := (h.present x hx p hp).2
      rw [hno] at hsurv
      cases hsurv
  | none =>
      obtain ⟨a, ha⟩ := h.omitted x hx hp
      obtain ⟨pid, a', heq, hlive⟩ := h.calls _ ha
      cases heq
      refine ⟨rfl, ?_⟩
      cases a with
      | none => exact ha
      | some p =>
          have hsurv := (hlive (by simp)).2
          rw [hno] at hsurv
          cases hsurv

/-- **The proof that the tree is gone.** -/
theorem proveGone_spec {s : Snapshot} {notGone : String} (h : Going t [] r)
    (hreason : notGone ∉ artifactReasons) :
    Sat (Permitted plan policy) (proveGone plan s r notGone) t fun t' o =>
      ∃ es, t' = t ++ es ∧ Observing es ∧
        FlowPost (fun t' r' => EndedShort t' r r') (fun t' r' => Going t' [] r' ∧
          GoneIn plan s es ∧ r' = setResourceAfter r (resourceSnapshot s plan)) t' o := by
  refine Sat.bind observeTargets_spec ?_ fun t' err ho => ?_
  · rintro t₁ (reason | l) ⟨es, rfl, hes, ho⟩
    · have h₁ := h.extend (observing_lookups hes)
      refine ⟨es, rfl, observing_lookups hes, ?_⟩
      exact (h₁.refused (plainReason_of_observation ho)).endedShort rfl rfl
    have hseen : Seen s.byPid plan.targets es ⟨OrdMap.empty, []⟩ l := ho
    refine Sat.ask trivial fun v => ?_
    have hobs : Observing (es ++ [⟨.revalidate s plan .revivalCheck, v⟩]) :=
      (observing_lookups hes).snoc_revalidate
    have h₂ := h.extend hobs
    rw [← List.append_assoc] at h₂
    have hplain : PlainReason (t ++ es ++ [⟨.revalidate s plan .revivalCheck, v⟩]) v.reasonId :=
      Or.inr ⟨s, plan, .revivalCheck, v, by simp, rfl⟩
    have hset : Going _ [] (setResourceAfter r (resourceSnapshot s plan)) := h₂.receipt rfl rfl
    obtain ⟨status, reason⟩ := v
    cases status with
    | revived =>
        exact ⟨_, List.append_assoc _ _ _, hobs, ⟨h₂.journal, fun hs => absurd hs h₂.running⟩,
          by simp, ⟨reason, rfl, hplain⟩, rfl, rfl⟩
    | eligible =>
        exact ⟨_, List.append_assoc _ _ _, hobs, ⟨h₂.journal, fun hs => absurd hs h₂.running⟩,
          by simp, ⟨reason, rfl, hplain⟩, rfl, rfl⟩
    | blocked =>
        exact ⟨_, List.append_assoc _ _ _, hobs,
          (hset.refused hplain).endedShort rfl rfl⟩
    | gone =>
        cases hemp : l.survivors.isEmpty with
        | false =>
            simp only [Bool.not_false, if_true]
            exact ⟨_, List.append_assoc _ _ _, hobs,
              (hset.refused (Or.inl hreason)).endedShort rfl rfl⟩
        | true =>
            simp only [Bool.not_true, Bool.false_eq_true, if_false]
            refine ⟨_, List.append_assoc _ _ _, hobs, hset, ⟨fun x hx => ?_, reason, by simp⟩, rfl⟩
            obtain ⟨hnone, hlook⟩ := hseen.absent hemp x hx
            exact ⟨hnone, List.mem_append_left _ hlook⟩
  · obtain ⟨es, -, -, hfalse⟩ := ho
    exact hfalse.elim

/-- **The revival windows and the proof after them.** -/
theorem revivalStage_spec (h : Quiesced t r) :
    Sat (Permitted plan policy) (revivalStage plan policy r) t
      (FlowPost EndedUnclaimed fun t' r' => Going t' [] r' ∧ r'.artifactActions = [] ∧
        Reclaimed plan policy t' r') := by
  refine Sat.bind (revivalLoop_spec h.toGoing h.bare) ?_ fun t' err herr => herr
  rintro t₁ (r₁ | ⟨r₁, terminal⟩) h₁
  · exact h₁
  obtain ⟨hgo, hbare, hn, rounds, hr, rfl, hlast⟩ := h₁
  rw [h.unchecked, Nat.zero_add] at hn
  -- the proof is made at the last window's snapshot, or at one of its own
  have hprove : ∀ s u v w, t ++ rounds.flatMap (windowEvents plan) ++ w =
        u ++ ⟨.snapshot, .ok s⟩ :: v → Unsignalling v →
      Going (t ++ rounds.flatMap (windowEvents plan) ++ w) [] r₁ →
      Sat (Permitted plan policy) (proveGone plan s r₁ "cleanup.terminal_tree_not_gone")
        (t ++ rounds.flatMap (windowEvents plan) ++ w)
        (FlowPost EndedUnclaimed fun t' r' => Going t' [] r' ∧ r'.artifactActions = [] ∧
          Reclaimed plan policy t' r') := by
    intro s u v w htaken hv hgo₂
    refine Sat.mono (proveGone_spec hgo₂ (by decide)) ?_
    rintro t₃ (err | r₃ | r₃) ⟨es, rfl, hes, ho⟩
    · exact ho
    · have hs : EndedShort _ r₁ r₃ := ho
      exact ⟨hs.ended, hs.artifactActions.trans hbare, hs.state, hs.plain⟩
    · obtain ⟨hgo₃, hgone, rfl⟩ := ho
      refine ⟨hgo₃, hbare, ⟨rounds, t, w ++ es, hr, by simp⟩, ?_, hn⟩
      rw [htaken]
      exact hgone.provedAbsent hes.unsignalling hv u
  cases hlast? : rounds.getLast? with
  | none =>
      obtain rfl : terminal = none := by simpa [hlast?] using hlast
      refine sat_bind.2 (Sat.mono (snapshotOrReceiptError_spec hgo) ?_)
      rintro t₂ (err | s) hs
      · exact hs
      · obtain rfl : t₂ = _ := hs
        exact hprove s _ [] _ rfl (fun _ _ => by simp [Signalled]) (hgo.neutral trivial id)
  | some w =>
      obtain rfl : terminal = some w.2.1 := by simpa [hlast?] using hlast
      obtain ⟨before, rfl⟩ : ∃ before, rounds = before ++ [w] :=
        List.getLast?_eq_some_iff.1 hlast?
      have hfinal := hprove w.2.1 (t ++ before.flatMap (windowEvents plan) ++
        [⟨.shouldStop, false⟩, ⟨.waitUntil w.1, .ok .deadlineReached⟩, ⟨.shouldStop, false⟩])
        [⟨.revalidate w.2.1 plan .revivalCheck, ⟨.gone, w.2.2⟩⟩] [] (by simp [windowEvents])
        ?_ (by simpa using hgo)
      · rw [List.append_nil] at hfinal
        exact hfinal
      · rintro pid sig ⟨e, he, identity, hcall, -⟩
        rw [List.mem_singleton.1 he] at hcall
        cases hcall

/-! ## Artifacts -/

/-- Freezing asks about each candidate, in order. -/
theorem freezeArtifacts_spec {cs : List RuntimeArtifactCandidate} (h : Going t [] r) :
    Sat (Permitted plan policy) (freezeArtifacts r cs) t fun t' o =>
      match o with
      | .ok frozen => (∃ es, t' = t ++ es ∧ Observing es ∧
          ∀ a ∈ frozen, ⟨.freezeArtifact a.1, .ok a.2⟩ ∈ es) ∧ frozen.map Prod.fst = cs
      | .error err => Erred t' err := by
  induction cs generalizing t with
  | nil => exact ⟨⟨[], by simp, by simp [Observing], by simp⟩, rfl⟩
  | cons c cs ih =>
      refine Sat.ask trivial fun a => Sat.orThrow (fun freeze ha => ?_) fun f ha => ?_
      · subst ha
        refine Sat.bind (ih (h.neutral trivial id)) ?_ fun t' err herr => herr
        rintro t' frozen ⟨⟨es, rfl, hes, hmem⟩, hmap⟩
        refine ⟨⟨⟨.freezeArtifact c, .ok freeze⟩ :: es, by simp, fun e he => ?_, fun a ha => ?_⟩,
          by simp [hmap]⟩
        · rcases List.mem_cons.1 he with rfl | he
          · exact ⟨trivial, id⟩
          · exact hes e he
        · rcases List.mem_cons.1 ha with rfl | ha
          · simp
          · exact List.mem_cons_of_mem _ (hmem a ha)
      · exact h.fails (e := ⟨.freezeArtifact c, a⟩) trivial id rfl rfl

/-- Completing the open artifact action. -/
theorem completeArtifactPrepared_spec {intent : ArtifactActionIntent} {actionId : String}
    {d : ArtifactDisposition} (h : Journalled t [.artifact actionId intent] r) :
    Sat (Permitted plan policy) (completeArtifactPrepared r intent actionId d) t fun t' o =>
      match o with
      | .ok r' => Continues t t' ∧ Journalled t' [] r' ∧
          r' = { r with artifactActions := r.artifactActions ++ [intent.completed d] }
      | .error err => Erred t' err := by
  refine Sat.ask trivial fun c => Sat.orThrow (fun at_ hc => ?_) fun f hc => ?_
  · subst hc
    have h₁ := h.neutral (e := ⟨.clockSample, .ok at_⟩) trivial
    refine Sat.ask trivial fun a => Sat.orThrow (fun u ha => ?_) fun f ha => ?_
    · subst ha
      refine ⟨((Continues.refl t).snoc ⟨id, id⟩).snoc ⟨id, id⟩, ?_, rfl⟩
      rw [Journalled, journalView_snoc, h₁]
      simp [JournalView.step, JournalView.closeArtifactAction]
    · subst ha
      refine Erred.attemptOpen (a := .artifact actionId intent) ?_
        fun _ => ⟨_, _, rfl, f, rfl⟩
      rw [Journalled, journalView_snoc, h₁]
      rfl
  · subst hc
    exact Erred.attemptOpen (a := .artifact actionId intent) (h.neutral trivial)
      fun _ => ⟨_, _, rfl, f, rfl⟩

/-- How one artifact action ends: removed and proved absent, or with a
disposition that fails the cleanup. The processes are left alone. -/
def ArtifactPost (t : CleanupTrace) (r : CleanupReceipt) (candidate : RuntimeArtifactCandidate) :
    CleanupTrace → Except CleanupError (ArtifactDisposition × CleanupReceipt) → Prop
  | t', .ok (d, r') =>
      (∃ es, t' = t ++ es ∧ Unsignalling es) ∧
      r'.revivalChecksCompleted = r.revivalChecksCompleted ∧
      Journalled t' [] r' ∧
      (Stopped t' → d = .cancelledBeforeDelivery) ∧
      (d.completedCleanup = true → ProvedRemoved candidate t')
  | t', .error err => Erred t' err

theorem revalidateAbsent_spec {candidate : RuntimeArtifactCandidate} {frozen : ArtifactFreeze}
    (h : Going t [] r) :
    Sat (Permitted plan policy) (revalidateAbsent r candidate frozen) t fun t' o =>
      match o with
      | .ok _ => ∃ es, t' = t ++ es ∧ Observing es ∧ ((∃ a, frozen = .frozen a) → es = [])
      | .error err => Erred t' err := by
  cases frozen with
  | absent =>
      refine Sat.ask trivial fun a => Sat.orThrow (fun freeze ha => ?_) fun f ha => ?_
      · subst ha
        exact ⟨[⟨.freezeArtifact candidate, .ok freeze⟩], rfl, observing_singleton trivial id,
          by simp⟩
      · exact h.fails (e := ⟨.freezeArtifact candidate, a⟩) trivial id rfl rfl
  | frozen a => exact ⟨[], by simp, by simp [Observing], by simp⟩
  | unsafeArtifact => exact ⟨[], by simp, by simp [Observing], by simp⟩

/-- The effect of an artifact action leaves the journal and the processes
alone; a stop cancels it. -/
theorem deliverArtifact_spec {frozen : ArtifactFreeze} {absent : Option ArtifactFreeze}
    {opens : List OpenAction} (h : Going t opens r)
    (hperm : ∀ a, frozen = .frozen a →
      Permitted plan policy (t ++ [⟨.shouldStop, false⟩]) (.removeArtifactExact a)) :
    Sat (Permitted plan policy) (deliverArtifact frozen absent) t fun t' o =>
      match o with
      | .ok d => (∃ es, t' = t ++ es ∧ Unsignalling es) ∧ Journalled t' opens r ∧
          (Stopped t' → d = .cancelledBeforeDelivery)
      | .error _ => False := by
  have hpoll : ∀ b, Unsignalling [⟨.shouldStop, b⟩] := by
    intro b
    exact unsignalling_singleton (by simp)
  refine Sat.poll ⟨⟨_, rfl, hpoll true⟩, h.journal.neutral trivial, fun _ => rfl⟩ ?_
  have h₁ := h.neutral (e := ⟨.shouldStop, false⟩) trivial Bool.false_ne_true
  cases frozen with
  | frozen a =>
      refine ⟨hperm a rfl, fun d => ⟨⟨_, List.append_assoc _ _ _, ?_⟩, ?_, fun hs => ?_⟩⟩
      · exact (hpoll false).append (unsignalling_singleton (by simp))
      · rw [Journalled, journalView_snoc, h₁.journal]
        rfl
      · rcases stopped_append.1 hs with hs | ⟨e, he, hs⟩
        · exact absurd hs h₁.running
        · rw [List.mem_singleton.1 he] at hs
          exact hs.elim
  | absent =>
      cases absent with
      | none => exact ⟨⟨_, rfl, hpoll false⟩, h₁.journal, fun hs => absurd hs h₁.running⟩
      | some f => exact ⟨⟨_, rfl, hpoll false⟩, h₁.journal, fun hs => absurd hs h₁.running⟩
  | unsafeArtifact => exact ⟨⟨_, rfl, hpoll false⟩, h₁.journal, fun hs => absurd hs h₁.running⟩

/-- The confirmation looks once more, and only an absence confirms. -/
theorem confirmRemoved_spec {candidate : RuntimeArtifactCandidate} {d : ArtifactDisposition}
    (hj : Journalled t [] r) (hstop : Stopped t → d = .cancelledBeforeDelivery) :
    Sat (Permitted plan policy) (confirmRemoved r candidate d) t fun t' o =>
      match o with
      | .ok d' => (∃ es, t' = t ++ es ∧ Observing es ∧ (d'.completedCleanup = true →
            ⟨.freezeArtifact candidate, .ok .absent⟩ ∈ es)) ∧
          (Stopped t' → d' = .cancelledBeforeDelivery)
      | .error err => Erred t' err := by
  unfold confirmRemoved
  cases hd : d.completedCleanup with
  | false =>
      simp only [Bool.not_false, if_true]
      exact ⟨⟨[], by simp, by simp [Observing], fun hc => by rw [hd] at hc; cases hc⟩, hstop⟩
  | true =>
      simp only [Bool.not_true, Bool.false_eq_true, if_false]
      have hgo : Going t [] r := ⟨hj, fun hs => by rw [hstop hs] at hd; cases hd⟩
      refine Sat.ask trivial fun a => Sat.orThrow (fun freeze ha => ?_) fun f ha => ?_
      · subst ha
        have h₁ := hgo.neutral (e := ⟨.freezeArtifact candidate, .ok freeze⟩) trivial id
        have hobs : Observing [⟨.freezeArtifact candidate, .ok freeze⟩] :=
          observing_singleton trivial id
        cases freeze with
        | absent => exact ⟨⟨_, rfl, hobs, fun _ => by simp⟩, fun hs => absurd hs h₁.running⟩
        | frozen a =>
            exact ⟨⟨_, rfl, hobs, fun hc => by cases hc⟩, fun hs => absurd hs h₁.running⟩
        | unsafeArtifact =>
            exact ⟨⟨_, rfl, hobs, fun hc => by cases hc⟩, fun hs => absurd hs h₁.running⟩
      · exact hgo.fails (e := ⟨.freezeArtifact candidate, a⟩) trivial id rfl rfl

/-- **One artifact action.** -/
theorem executeArtifactAction_spec {candidate : RuntimeArtifactCandidate}
    {frozen : ArtifactFreeze} (h : Going t [] r) (hmem : candidate ∈ plan.artifacts)
    (hfrozen : ⟨.freezeArtifact candidate, .ok frozen⟩ ∈ t) :
    Sat (Permitted plan policy) (executeArtifactAction r candidate frozen) t
      (ArtifactPost t r candidate) := by
  refine Sat.poll ?_ ?_
  · exact ⟨⟨_, rfl, unsignalling_singleton (by simp)⟩, rfl, h.journal.neutral trivial,
      fun _ => rfl, fun hc => by cases hc⟩
  have h₁ := h.neutral (e := ⟨.shouldStop, false⟩) trivial Bool.false_ne_true
  refine Sat.bind (revalidateAbsent_spec h₁) ?_ fun t' err herr => herr
  rintro t₂ absent ⟨es, rfl, hes, hnil⟩
  have h₂ := h₁.extend hes
  refine Sat.ask trivial fun c => Sat.orThrow (fun at_ hc => ?_) fun f hc => ?_
  swap
  · exact h₂.fails (e := ⟨.clockSample, c⟩) trivial id rfl rfl
  subst hc
  have h₃ := h₂.neutral (e := ⟨.clockSample, .ok at_⟩) trivial id
  refine Sat.ask (by rw [Permitted, h₃.journal]) fun p =>
    Sat.orThrow (fun actionId hp => ?_) fun f hp => ?_
  swap
  · -- the row was not written, so nothing is open
    subst hp
    refine .runtime ?_ fun hs => absurd hs ?_
    · rw [Journalled, journalView_snoc, h₃.journal]
      rfl
    · rw [((Continues.refl _).snoc ⟨id, id⟩).stopped]
      exact h₃.running
  subst hp
  -- from here to the completion the artifact's row is the open one
  have h₄ : Going (t ++ [⟨.shouldStop, false⟩] ++ es ++ [⟨.clockSample, .ok at_⟩] ++
      [⟨.prepareArtifactAction candidate.intent at_.wallUnixMillis, .ok actionId⟩])
      [.artifact actionId candidate.intent] r := by
    refine ⟨?_, ?_⟩
    · rw [Journalled, journalView_snoc, h₃.journal]
      rfl
    · rw [((Continues.refl _).snoc ⟨id, id⟩).stopped]
      exact h₃.running
  have hquiet : Unsignalling ([⟨.shouldStop, false⟩] ++ es ++ [⟨.clockSample, .ok at_⟩] ++
      [⟨.prepareArtifactAction candidate.intent at_.wallUnixMillis, .ok actionId⟩]) := by
    have hsilent : ∀ e ∈ es, Silent e := fun e he => silent_of_neutral (hes e he).1 (hes e he).2
    refine unsignalling_of_silent fun e he => ?_
    simp only [List.append_assoc, List.cons_append, List.nil_append, List.mem_cons,
      List.mem_append, List.not_mem_nil, or_false] at he
    rcases he with rfl | he | rfl | rfl
    · exact ⟨Bool.false_ne_true, id⟩
    · exact hsilent e he
    · exact ⟨id, id⟩
    · exact ⟨id, id⟩
  refine Sat.bind (deliverArtifact_spec h₄ ?_) ?_ fun t' err hfalse => hfalse.elim
  · rintro a rfl
    rw [hnil ⟨a, rfl⟩]
    exact ⟨t, candidate, hmem, ⟨at_, actionId, by simp, hfrozen⟩, h.running,
      by rw [h.journal]⟩
  rintro t₅ d ⟨⟨es₅, rfl, hes₅⟩, hj₅, hstop₅⟩
  refine Sat.bind (completeArtifactPrepared_spec hj₅) ?_ fun t' err herr => herr
  rintro t₆ r₆ ⟨hc₆, hj₆, rfl⟩
  obtain ⟨es₆, rfl, hes₆⟩ := id hc₆
  refine Sat.bind (confirmRemoved_spec hj₆ fun hs => hstop₅ (hc₆.stopped.1 hs)) ?_
    fun t' err herr => herr
  rintro t₇ d' ⟨⟨es₇, rfl, hes₇, hconf⟩, hstop₇⟩
  refine ⟨⟨[⟨.shouldStop, false⟩] ++ es ++ [⟨.clockSample, .ok at_⟩] ++
      [⟨.prepareArtifactAction candidate.intent at_.wallUnixMillis, .ok actionId⟩] ++ es₅ ++ es₆ ++
      es₇, by simp, ((hquiet.append hes₅).append (unsignalling_of_silent hes₆)).append
        hes₇.unsignalling⟩, rfl, ?_, hstop₇, fun hd => ?_⟩
  · rw [Journalled, journalView_neutral fun e he => (hes₇ e he).1]
    exact hj₆
  · refine ⟨_, es₇, d, rfl, ?_, hconf hd⟩
    rw [hj₆]
    simp

/-- The reason a failing disposition gives is the drain exactly where the
disposition is the cancellation. -/
theorem artifactFailureReason_cancelled :
    artifactFailureReason .cancelledBeforeDelivery = drainRequested := rfl

/-- Where the cleanup is once the processes are proved gone. -/
structure Reconciling (plan : CleanupPlan) (policy : CleanupPolicy) (t : CleanupTrace)
    (r : CleanupReceipt) : Prop extends Going t [] r where
  reclaimed : Reclaimed plan policy t r

/-- A receipt that ended after the processes were proved gone, short of
everything else. -/
structure EndedReclaimed (plan : CleanupPlan) (policy : CleanupPolicy) (t : CleanupTrace)
    (r : CleanupReceipt) : Prop where
  ended : Ended t r
  reclaimed : Reclaimed plan policy t r
  state : r.state ≠ .cleared

/-- **The artifacts in order.** -/
theorem artifactLoop_spec {frozen : List (RuntimeArtifactCandidate × ArtifactFreeze)}
    (h : Reconciling plan policy t r)
    (hfrozen : ∀ a ∈ frozen, a.1 ∈ plan.artifacts ∧ ⟨.freezeArtifact a.1, .ok a.2⟩ ∈ t) :
    Sat (Permitted plan policy) (artifactLoop frozen r) t
      (FlowPost (EndedReclaimed plan policy) fun t' r' => Reconciling plan policy t' r' ∧
        ∀ a ∈ frozen, ProvedRemoved a.1 t') := by
  induction frozen generalizing t r with
  | nil => exact ⟨h, by simp⟩
  | cons a rest ih =>
      obtain ⟨candidate, freeze⟩ := a
      unfold artifactLoop
      obtain ⟨hmem, hev⟩ := hfrozen (candidate, freeze) (by simp)
      refine Sat.bind (executeArtifactAction_spec h.toGoing hmem hev) ?_ fun t' err herr => herr
      rintro t₁ ⟨d, r₁⟩ ⟨⟨es, rfl, hes⟩, hchecks, hj, hstop, hproved⟩
      have hrec : Reclaimed plan policy (t ++ es) r₁ := h.reclaimed.extend hes hchecks
      cases hd : d.completedCleanup with
      | false =>
          simp only [hd, Bool.not_false, if_true]
          refine ⟨⟨hj, fun hs => ⟨rfl, ?_⟩⟩, ⟨hrec.waited, hrec.absent, hrec.checks⟩, by simp [fail]⟩
          rw [hstop hs, artifactFailureReason_cancelled]
          rfl
      | true =>
          simp only [hd, Bool.not_true, Bool.false_eq_true, if_false]
          have hgo : Going (t ++ es) [] r₁ :=
            ⟨hj, fun hs => by rw [hstop hs] at hd; cases hd⟩
          refine Sat.mono (ih ⟨hgo, hrec⟩ fun a ha => ?_).grows ?_
          · obtain ⟨hm, he⟩ := hfrozen a (by simp [ha])
            exact ⟨hm, List.mem_append_left es he⟩
          · rintro t₂ (err | r₂ | r₂) ⟨hpre, ho⟩
            · exact ho
            · exact ho
            · refine ⟨ho.1, fun a ha => ?_⟩
              rcases List.mem_cons.1 ha with rfl | ha
              · exact (hproved hd).mono hpre
              · exact ho.2 a ha

/-- Every artifact is proved removed, and where there are any the tree is
proved gone once more after that. -/
def ProvedReconciled (plan : CleanupPlan) (t : CleanupTrace) : Prop :=
  (∀ c ∈ plan.artifacts, ProvedRemoved c t) ∧
    (plan.artifacts ≠ [] → ∃ u v, t = u ++ v ∧ (∀ c ∈ plan.artifacts, ProvedRemoved c u) ∧
      ProvedAbsent plan u ∧ ProvedAbsent plan v)

/-- **The artifact stage.** -/
theorem artifactStage_spec {frozen : List (RuntimeArtifactCandidate × ArtifactFreeze)}
    (h : Reconciling plan policy t r) (hmap : frozen.map Prod.fst = plan.artifacts)
    (hfrozen : ∀ a ∈ frozen, ⟨.freezeArtifact a.1, .ok a.2⟩ ∈ t) :
    Sat (Permitted plan policy) (artifactStage plan frozen r) t
      (FlowPost (EndedReclaimed plan policy) fun t' r' => Reconciling plan policy t' r' ∧
        ProvedReconciled plan t') := by
  refine Sat.bind (artifactLoop_spec h fun a ha => ⟨?_, hfrozen a ha⟩) ?_ fun t' err herr => herr
  · rw [← hmap]
    exact List.mem_map.2 ⟨a, ha, rfl⟩
  rintro t₁ (r₁ | r₁) h₁
  · exact h₁
  have hall : ∀ c ∈ plan.artifacts, ProvedRemoved c t₁ := by
    intro c hc
    rw [← hmap] at hc
    obtain ⟨a, ha, rfl⟩ := List.mem_map.1 hc
    exact h₁.2 a ha
  cases hemp : plan.artifacts.isEmpty with
  | true =>
      simp only [if_true]
      exact ⟨h₁.1, hall, fun hne => absurd (List.isEmpty_iff.1 hemp) hne⟩
  | false =>
      simp only [Bool.false_eq_true, if_false]
      refine Sat.bind (snapshotOrReceiptError_spec h₁.1.toGoing) ?_ fun t' err herr => herr
      rintro t₂ s hs
      obtain rfl : t₂ = _ := hs
      have h₂ := h₁.1.toGoing.neutral (e := ⟨.snapshot, .ok s⟩) trivial id
      refine Sat.mono (proveGone_spec h₂ (by decide)) ?_
      rintro t₃ o ⟨es, rfl, hes, ho⟩
      have hsnap : Unsignalling ([⟨.snapshot, .ok s⟩] ++ es) :=
        observing_snapshot.unsignalling.append hes.unsignalling
      have hrec : ∀ r', r'.revivalChecksCompleted = r₁.revivalChecksCompleted →
          Reclaimed plan policy (t₁ ++ [⟨.snapshot, .ok s⟩] ++ es) r' := by
        intro r' hr'
        rw [List.append_assoc]
        exact h₁.1.reclaimed.extend hsnap hr'
      rcases o with err | r₃ | r₃
      · exact ho
      · have hs : EndedShort _ r₁ r₃ := ho
        exact ⟨hs.ended, hrec r₃ hs.checks, hs.state⟩
      · obtain ⟨hgo₃, hgone, rfl⟩ := ho
        refine ⟨⟨hgo₃, hrec _ rfl⟩, fun c hc => (hall c hc).mono ?_,
          fun _ => ⟨t₁, [⟨.snapshot, .ok s⟩] ++ es, by simp, hall, h₁.1.reclaimed.absent, ?_⟩⟩
        · rw [List.append_assoc]
          exact List.prefix_append _ _
        · exact hgone.provedAbsent (v := []) hes.unsignalling (fun _ _ => by simp [Signalled]) []

end Unlinger
