import Unlinger.Core.Helpers.Invariant

/-!
# Observing and waiting

What the executor's calls outside an action establish: a snapshot, a
wait, an exact observation of the targets, and the validation that lets
the survivors be signalled. All of these are neutral.
-/

namespace Unlinger

open Interaction

variable {plan : CleanupPlan} {policy : CleanupPolicy} {t : CleanupTrace} {r : CleanupReceipt}

/-! ## Polls, snapshots and waits -/

/-- A poll of the stop callback splits what follows in two. -/
theorem Sat.poll {ε α : Type} {A B : Prog Answer ε α} {Q : CleanupTrace → Except ε α → Prop}
    (hstop : Sat (Permitted plan policy) A (t ++ [⟨.shouldStop, true⟩]) Q)
    (hgo : Sat (Permitted plan policy) B (t ++ [⟨.shouldStop, false⟩]) Q) :
    Sat (Permitted plan policy)
      (Prog.ask Call.shouldStop >>= fun stop => if stop = true then A else B) t Q := by
  refine Sat.ask trivial fun stop => ?_
  cases stop with
  | true => exact hstop
  | false => exact hgo

/-- A snapshot that fails ends the cleanup. -/
theorem snapshotOrReceiptError_spec (h : Going t [] r) :
    Sat (Permitted plan policy) (snapshotOrReceiptError r) t fun t' o =>
      match o with
      | .ok s => t' = t ++ [⟨.snapshot, .ok s⟩]
      | .error err => Erred t' err := by
  refine Sat.ask trivial fun a => ?_
  cases a with
  | ok s => exact rfl
  | error f => exact h.fails (e := ⟨.snapshot, .error f⟩) trivial id rfl rfl

/-- A wait is over at its deadline, or says stop. -/
theorem waitInterrupted_spec {duration : Nat} (h : Going t [] r) :
    Sat (Permitted plan policy) (waitInterrupted duration r) t fun t' o =>
      match o with
      | .ok false =>
          t' = t ++ [⟨.shouldStop, false⟩, ⟨.waitUntil duration, .ok .deadlineReached⟩,
            ⟨.shouldStop, false⟩]
      | .ok true => Journalled t' [] r
      | .error err => Erred t' err := by
  refine Sat.ask trivial fun stop => ?_
  cases stop with
  | true => exact h.journal.neutral trivial
  | false =>
      have h₁ : Going (t ++ [⟨.shouldStop, false⟩]) [] r := h.neutral trivial Bool.false_ne_true
      refine Sat.ask trivial fun a => ?_
      rcases a with f | (_ | _)
      · exact h₁.fails (e := ⟨.waitUntil duration, .error f⟩) trivial (by simp [Stops]) rfl rfl
      · have h₂ := h₁.neutral (e := ⟨.waitUntil duration, .ok .deadlineReached⟩) trivial
          (by simp [Stops])
        refine ⟨trivial, fun late => ?_⟩
        cases late with
        | true => exact h₂.journal.neutral trivial
        | false => simp
      · exact h₁.journal.neutral trivial

/-! ## Exact observations -/

/-- What walking the targets `ts` added to what was seen before. -/
structure Seen (byPid : OrdMap Pid ProcessRecord) (ts : List ProcessTarget) (es : CleanupTrace)
    (l₀ l : ExactTargetLiveness) : Prop where
  calls : ∀ e ∈ es, ∃ pid a, e = ⟨.lookupProcess pid, .ok a⟩ ∧
    (a ≠ none → pid ∈ l.missingLiveTargets ∧ l.survivors.contains pid = true)
  present : ∀ x ∈ ts, ∀ p, byPid.lookup x.identity.pid = some p →
    x.identity.exactMatch p.identity = true ∧ l.survivors.contains x.identity.pid = true
  omitted : ∀ x ∈ ts, byPid.lookup x.identity.pid = none →
    ∃ a, ⟨.lookupProcess x.identity.pid, .ok a⟩ ∈ es
  source : ∀ pid, l.survivors.contains pid = true → l₀.survivors.contains pid = true ∨
    pid ∈ l.missingLiveTargets ∨
      ∃ x ∈ ts, x.identity.pid = pid ∧ byPid.contains pid = true
  missing : ∀ pid ∈ l₀.missingLiveTargets, pid ∈ l.missingLiveTargets
  kept : ∀ pid, l₀.survivors.contains pid = true → l.survivors.contains pid = true

/-- A survivor map keeps its pids when one is added. -/
theorem contains_insert {m : Survivors} {pid pid' : Pid} {identity : ProcessIdentity} :
    (m.insert pid identity).contains pid' = true ↔ pid' = pid ∨ m.contains pid' = true := by
  by_cases h : pid' = pid <;> simp [OrdMap.contains, OrdMap.lookup_insert, h]

namespace Seen

variable {byPid : OrdMap Pid ProcessRecord} {x : ProcessTarget} {ts : List ProcessTarget}
  {es : CleanupTrace} {l₀ l : ExactTargetLiveness} {p : ProcessRecord}

theorem nil : Seen byPid [] [] l l :=
  ⟨by simp, by simp, by simp, fun _ h => Or.inl h, fun _ h => h, fun _ h => h⟩

/-- A target in the table. -/
theorem cons_present (hp : byPid.lookup x.identity.pid = some p)
    (hx : x.identity.exactMatch p.identity = true)
    (h : Seen byPid ts es
      ⟨l₀.survivors.insert x.identity.pid p.identity, l₀.missingLiveTargets⟩ l) :
    Seen byPid (x :: ts) es l₀ l := by
  refine ⟨h.calls, fun y hy q hq => ?_, fun y hy hq => ?_, fun pid hpid => ?_, h.missing,
    fun pid hpid => h.kept pid (contains_insert.2 (Or.inr hpid))⟩
  · rcases List.mem_cons.1 hy with rfl | hy
    · rw [hp] at hq
      obtain rfl := Option.some.inj hq
      exact ⟨hx, h.kept _ (contains_insert.2 (Or.inl rfl))⟩
    · exact h.present y hy q hq
  · rcases List.mem_cons.1 hy with rfl | hy
    · rw [hp] at hq
      cases hq
    · exact h.omitted y hy hq
  · rcases h.source pid hpid with hs | hm | ⟨y, hy, hpy⟩
    · rcases contains_insert.1 hs with rfl | hs
      · exact Or.inr (Or.inr ⟨x, by simp, rfl, by simp [OrdMap.contains, hp]⟩)
      · exact Or.inl hs
    · exact Or.inr (Or.inl hm)
    · exact Or.inr (Or.inr ⟨y, by simp [hy], hpy⟩)

/-- With a target the table omits, what is present is of the others. -/
theorem omits_present (hp : byPid.lookup x.identity.pid = none) (h : Seen byPid ts es l₀ l) :
    ∀ y ∈ x :: ts, ∀ q, byPid.lookup y.identity.pid = some q →
      y.identity.exactMatch q.identity = true ∧ l.survivors.contains y.identity.pid = true := by
  intro y hy q hq
  rcases List.mem_cons.1 hy with rfl | hy
  · rw [hp] at hq
    cases hq
  · exact h.present y hy q hq

/-- Once it is looked up, every omitted target is. -/
theorem lookedUp_omitted {found : Option ProcessRecord} (h : Seen byPid ts es l₀ l) :
    ∀ y ∈ x :: ts, byPid.lookup y.identity.pid = none → ∃ a,
      (⟨.lookupProcess y.identity.pid, .ok a⟩ : CleanupEvent) ∈
        (⟨.lookupProcess x.identity.pid, .ok found⟩ : CleanupEvent) :: es := by
  intro y hy hq
  rcases List.mem_cons.1 hy with rfl | hy
  · exact ⟨found, by simp⟩
  · obtain ⟨a, ha⟩ := h.omitted y hy hq
    exact ⟨a, List.mem_cons_of_mem _ ha⟩

/-- A target the table omits and the runtime does not find either. -/
theorem cons_absent (hp : byPid.lookup x.identity.pid = none) (h : Seen byPid ts es l₀ l) :
    Seen byPid (x :: ts) (⟨.lookupProcess x.identity.pid, .ok none⟩ :: es) l₀ l := by
  refine ⟨fun e he => ?_, h.omits_present hp, h.lookedUp_omitted, fun pid hpid => ?_, h.missing,
    h.kept⟩
  · rcases List.mem_cons.1 he with rfl | he
    · exact ⟨_, none, rfl, fun hne => absurd rfl hne⟩
    · exact h.calls e he
  · rcases h.source pid hpid with hs | hm | ⟨y, hy, hpy⟩
    · exact Or.inl hs
    · exact Or.inr (Or.inl hm)
    · exact Or.inr (Or.inr ⟨y, by simp [hy], hpy⟩)

/-- A target the table omits and the runtime finds alive. -/
theorem cons_missing (hp : byPid.lookup x.identity.pid = none)
    (h : Seen byPid ts es ⟨l₀.survivors.insert x.identity.pid p.identity,
      l₀.missingLiveTargets ++ [x.identity.pid]⟩ l) :
    Seen byPid (x :: ts) (⟨.lookupProcess x.identity.pid, .ok (some p)⟩ :: es) l₀ l := by
  have hm : x.identity.pid ∈ l.missingLiveTargets := h.missing _ (by simp)
  have hs : l.survivors.contains x.identity.pid = true :=
    h.kept _ (contains_insert.2 (Or.inl rfl))
  refine ⟨fun e he => ?_, h.omits_present hp, h.lookedUp_omitted, fun pid hpid => ?_,
    fun pid hpid => h.missing pid (by simp [hpid]),
    fun pid hpid => h.kept pid (contains_insert.2 (Or.inr hpid))⟩
  · rcases List.mem_cons.1 he with rfl | he
    · exact ⟨_, some p, rfl, fun _ => ⟨hm, hs⟩⟩
    · exact h.calls e he
  · rcases h.source pid hpid with hs | hm' | ⟨y, hy, hpy⟩
    · rcases contains_insert.1 hs with rfl | hs
      · exact Or.inr (Or.inl hm)
      · exact Or.inl hs
    · exact Or.inr (Or.inl hm')
    · exact Or.inr (Or.inr ⟨y, by simp [hy], hpy⟩)

end Seen

/-- The reasons an observation fails with. -/
def observationReasons : List String :=
  ["cleanup.target_lookup_incomplete", "cleanup.identity_changed"]

/-- They name no artifact. -/
theorem plainReason_of_observation {t : CleanupTrace} {reason : String}
    (h : reason ∈ observationReasons) : PlainReason t reason := by
  simp only [observationReasons, List.mem_cons, List.not_mem_nil, or_false] at h
  refine Or.inl ?_
  rcases h with rfl | rfl
  · decide
  · decide

/-- What an observation of targets ends with: lookups alone, and every
target seen or a reason why not. -/
def Observes (byPid : OrdMap Pid ProcessRecord) (ts : List ProcessTarget) (l₀ : ExactTargetLiveness)
    (t : CleanupTrace) (t' : CleanupTrace)
    (o : Except CleanupError (Except String ExactTargetLiveness)) : Prop :=
  ∃ es, t' = t ++ es ∧ (∀ e ∈ es, ∃ pid a, e = ⟨.lookupProcess pid, a⟩) ∧
    match o with
    | .ok (.ok l) => Seen byPid ts es l₀ l
    | .ok (.error reason) => reason ∈ observationReasons
    | .error _ => False

/-- An observation goes on behind the lookups of one target. -/
theorem Observes.cons {byPid : OrdMap Pid ProcessRecord} {x : ProcessTarget}
    {ts : List ProcessTarget} {l₀ l₁ : ExactTargetLiveness} {before t' : CleanupTrace}
    {o : Except CleanupError (Except String ExactTargetLiveness)}
    (hbefore : ∀ e ∈ before, ∃ pid a, e = ⟨.lookupProcess pid, a⟩)
    (hseen : ∀ es l, Seen byPid ts es l₁ l → Seen byPid (x :: ts) (before ++ es) l₀ l)
    (h : Observes byPid ts l₁ (t ++ before) t' o) : Observes byPid (x :: ts) l₀ t t' o := by
  obtain ⟨es, ht, hes, ho⟩ := h
  refine ⟨before ++ es, by rw [ht, List.append_assoc], fun e he => ?_, ?_⟩
  · rcases List.mem_append.1 he with he | he
    · exact hbefore e he
    · exact hes e he
  · rcases o with _ | _ | l
    · exact ho
    · exact ho
    · exact hseen es l ho

/-- An observation looks processes up and nothing else; one that
completes has seen every target. -/
theorem observeTargets_spec {byPid : OrdMap Pid ProcessRecord} {ts : List ProcessTarget}
    {l₀ : ExactTargetLiveness} :
    Sat (Permitted plan policy) (observeTargets byPid ts l₀) t (Observes byPid ts l₀ t) := by
  induction ts generalizing t l₀ with
  | nil => exact ⟨[], by simp, by simp, Seen.nil⟩
  | cons x ts ih =>
      unfold observeTargets
      cases hp : byPid.lookup x.identity.pid with
      | some p =>
          refine sat_bind.2 ?_
          simp only [sat_pure, thenSat_ok]
          by_cases hx : x.identity.exactMatch p.identity = true
          · simp only [hx, Bool.not_true, Bool.false_eq_true, if_false]
            -- nothing was looked up, so the events are those of the others
            refine ih.mono fun t' o ho => ?_
            rw [← List.append_nil t] at ho
            refine ho.cons (by simp) ?_
            intro es l hl
            exact Seen.cons_present hp hx hl
          · simp only [Bool.eq_false_iff.2 hx, Bool.not_false, if_true]
            exact ⟨[], by simp, by simp, by simp [observationReasons]⟩
      | none =>
          refine sat_bind.2 (Sat.ask trivial fun a => ?_)
          rcases a with f | _ | p
          · exact ⟨[⟨.lookupProcess x.identity.pid, .error f⟩], rfl, by simp,
              by simp [observationReasons]⟩
          · change Sat _ (observeTargets byPid ts l₀) _ _
            refine ih.mono fun t' o ho => Observes.cons (by simp) ?_ ho
            intro es l hl
            exact Seen.cons_absent hp hl
          · change Sat _ (if _ then _ else _) _ _
            by_cases hx : x.identity.exactMatch p.identity = true
            · simp only [hx, Bool.not_true, Bool.false_eq_true, if_false, if_true]
              refine ih.mono fun t' o ho => Observes.cons (by simp) ?_ ho
              intro es l hl
              exact Seen.cons_missing hp hl
            · simp only [Bool.eq_false_iff.2 hx, Bool.not_false, if_true]
              exact ⟨[⟨.lookupProcess x.identity.pid, .ok (some p)⟩], rfl, by simp,
                by simp [observationReasons]⟩

/-! ## Validation -/

/-- The events of an observation and of the question that follows it are
neutral, and none of them says stop. -/
def Observing (es : CleanupTrace) : Prop := ∀ e ∈ es, e.call.IsNeutral ∧ ¬ Stops e

theorem observing_singleton {e : CleanupEvent} (hneutral : e.call.IsNeutral) (hstops : ¬ Stops e) :
    Observing [e] := by
  intro e' he
  rw [List.mem_singleton.1 he]
  exact ⟨hneutral, hstops⟩

theorem Observing.append {es es' : CleanupTrace} (h : Observing es) (h' : Observing es') :
    Observing (es ++ es') := by
  intro e he
  rcases List.mem_append.1 he with he | he
  · exact h e he
  · exact h' e he

theorem observing_lookups {es : CleanupTrace} (h : ∀ e ∈ es, ∃ pid a, e = ⟨.lookupProcess pid, a⟩) :
    Observing es := by
  intro e he
  obtain ⟨pid, a, rfl⟩ := h e he
  exact ⟨trivial, id⟩

theorem Observing.snoc_revalidate {es : CleanupTrace} (h : Observing es) {s : Snapshot}
    {phase : RevalidationPhase} {v : Revalidation} :
    Observing (es ++ [⟨.revalidate s plan phase, v⟩]) :=
  h.append (observing_singleton trivial id)

/-- What validating a snapshot for signals hands on: the survivors are the
targets in it, and if there are any the revalidator agreed. -/
structure Validated (plan : CleanupPlan) (s : Snapshot) (vs : CleanupTrace) (m : Survivors) :
    Prop where
  fresh : Fresh plan s vs
  survivors : ∀ pid, m.contains pid = true ↔
    (∃ x ∈ plan.targets, x.identity.pid = pid) ∧ s.byPid.contains pid = true
  eligible : m.isEmpty = false →
    ∃ reason, ⟨.revalidate s plan .beforeSignal, ⟨.eligible, reason⟩⟩ ∈ vs

/-- With no live target missing from the table, the observation is a
validation up to the revalidator's word. -/
theorem Seen.validated {s : Snapshot} {es : CleanupTrace} {l : ExactTargetLiveness}
    (h : Seen s.byPid plan.targets es ⟨OrdMap.empty, []⟩ l) (hm : l.missingLiveTargets = []) :
    Fresh plan s es ∧ ∀ pid, l.survivors.contains pid = true ↔
      (∃ x ∈ plan.targets, x.identity.pid = pid) ∧ s.byPid.contains pid = true := by
  have hnone : ∀ pid a, (⟨.lookupProcess pid, .ok a⟩ : CleanupEvent) ∈ es → a = none := by
    intro pid a ha
    obtain ⟨pid', a', heq, hlive⟩ := h.calls _ ha
    cases heq
    by_contra hne
    have hpid := (hlive hne).1
    rw [hm] at hpid
    cases hpid
  refine ⟨⟨fun e he => ?_, fun x hx p hp => (h.present x hx p hp).1, fun x hx hp => ?_⟩,
    fun pid => ⟨fun hpid => ?_, ?_⟩⟩
  · obtain ⟨pid, a, rfl, -⟩ := h.calls e he
    exact Or.inl ⟨pid, by rw [hnone pid a he]⟩
  · obtain ⟨a, ha⟩ := h.omitted x hx hp
    rwa [hnone _ a ha] at ha
  · rcases h.source pid hpid with h₀ | h₀ | ⟨x, hx, rfl, hp⟩
    · simp [OrdMap.contains] at h₀
    · rw [hm] at h₀
      cases h₀
    · exact ⟨⟨x, hx, rfl⟩, hp⟩
  · rintro ⟨⟨x, hx, rfl⟩, hp⟩
    obtain ⟨p, hp⟩ := Option.isSome_iff_exists.1 hp
    exact (h.present x hx p hp).2

/-- **Validation.** It observes and asks, and either the survivors may be
signalled or there is a reason why not. -/
theorem validateStage_spec {s : Snapshot} :
    Sat (Permitted plan policy) (validateStage s plan) t fun t' o =>
      ∃ vs, t' = t ++ vs ∧ Observing vs ∧
        match o with
        | .ok (.ok m) => Validated plan s vs m
        | .ok (.error reason) => PlainReason t' reason
        | .error _ => False := by
  refine Sat.bind observeTargets_spec ?_ ?_
  · rintro t' (reason | l) ⟨es, rfl, hes, ho⟩
    · exact ⟨es, rfl, observing_lookups hes, plainReason_of_observation ho⟩
    · have hseen : Seen s.byPid plan.targets es ⟨OrdMap.empty, []⟩ l := ho
      by_cases hm : l.missingLiveTargets = []
      · obtain ⟨hfresh, hsurv⟩ := hseen.validated hm
        simp only [hm, List.isEmpty_nil, Bool.not_true, Bool.false_eq_true, if_false]
        cases hemp : l.survivors.isEmpty with
        | true =>
            exact ⟨es, rfl, observing_lookups hes, hfresh, hsurv, fun hne => absurd hne (by
              rw [hemp]; exact Bool.noConfusion)⟩
        | false =>
            simp only [Bool.false_eq_true, if_false]
            refine Sat.ask trivial fun v => ?_
            obtain ⟨status, reason⟩ := v
            have hobs : Observing (es ++
                [⟨.revalidate s plan .beforeSignal, ⟨status, reason⟩⟩]) :=
              (observing_lookups hes).snoc_revalidate
            have hasked : PlainReason (t ++ es ++
                [⟨.revalidate s plan .beforeSignal, ⟨status, reason⟩⟩]) reason :=
              Or.inr ⟨s, plan, .beforeSignal, ⟨status, reason⟩, by simp, rfl⟩
            cases status with
            | eligible =>
                refine ⟨_, List.append_assoc _ _ _, hobs, ⟨fun e he => ?_, hfresh.exact,
                  fun x hx hp => List.mem_append_left _ (hfresh.absent x hx hp)⟩, hsurv,
                  fun _ => ⟨reason, by simp⟩⟩
                rcases List.mem_append.1 he with he | he
                · exact hfresh.calls e he
                · exact Or.inr ⟨reason, List.mem_singleton.1 he⟩
            | gone => exact ⟨_, List.append_assoc _ _ _, hobs, Or.inl (by decide)⟩
            | blocked => exact ⟨_, List.append_assoc _ _ _, hobs, hasked⟩
            | revived => exact ⟨_, List.append_assoc _ _ _, hobs, hasked⟩
      · have hne : l.missingLiveTargets.isEmpty = false := by simpa using hm
        simp only [hne, Bool.not_false, if_true]
        exact ⟨es, rfl, observing_lookups hes, Or.inl (by decide)⟩
  · rintro t' err ⟨es, rfl, hes, ho⟩
    exact ho.elim

end Unlinger
