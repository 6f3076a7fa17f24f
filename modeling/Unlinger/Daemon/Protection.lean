import Unlinger.Common.Transition
import Unlinger.Core.Helpers.Execute
import Unlinger.Daemon.Helpers.Store

/-!
# Protection

A protection is of one incident and of the very processes it was last
observed with. The operator's command writes the row of the newest
observation over the row there was; the public one inserts a row where
there is none, and otherwise finds one. Whichever way a row of the newest
observation got there, it keeps protecting these processes until the owner
or a retirement takes it away, or the operator protects others of the same
incident.
-/

namespace Unlinger

namespace Store

/-- The protection is of the processes of the observation. -/
structure ProtectionOf (row : IncidentProtection) (observation : ObservationRecord) : Prop where
  root : row.rootIdentityFingerprint = observation.root.identityFingerprint
  member : row.memberFingerprint = observation.memberFingerprint

/-- The newest observation of an incident. -/
def Observed (s : Store) (incidentId : String) (observation : ObservationRecord) : Prop :=
  ∃ event, s.latestObservation incidentId = some event ∧ event.payload = .observation observation

/-- **A Protect that succeeded**: the operator's, the public one that was
newly applied, or the public one that found the protection of the newest
observation. -/
inductive Protecting (s : Store) (incidentId : String) (s' : Store) : Prop
  | operator {now summary} (h : s.protectIncident incidentId now = .ok (s', summary))
  | applied {context runtime at_ commit result}
      (h : s.commitPublicOrdinaryMutation context (.protectIncident incidentId) runtime at_
        = .ok (s', commit))
      (hnew : commit.newlyCommitted = true) (happlied : commit.receipt.outcome = .applied result)
  | already {context runtime at_ commit observation row}
      (h : s.commitPublicOrdinaryMutation context (.protectIncident incidentId) runtime at_
        = .ok (s', commit))
      (hnew : commit.newlyCommitted = true)
      (halready : commit.receipt.outcome = .noChange "action.already_protected")
      (hobserved : s.Observed incidentId observation)
      (hrow : s.protections.lookup incidentId = some row) (hof : ProtectionOf row observation)

/-- The operation takes the protection of an incident away: the owner does,
or a reconciliation retires it. -/
def liftsProtection (s : Store) (incidentId : String) : StoreOp → Bool
  | .unprotectIncident id => id == incidentId
  | .commitPublicOrdinaryMutation _ (.unprotectIncident id) _ _ => id == incidentId
  | .reconcileIncidentProtections view now retention =>
      (s.protections.lookup incidentId).any fun row =>
        !protectionObserved view row && view.absenceProven && row.presence.retires now retention
  | _ => false

/-- The operator protects other processes of the incident. -/
def movesProtection (s : Store) (incidentId : String) : StoreOp → Bool
  | .protectIncident id _ => id == incidentId
      && match (s.latestObservation incidentId).map EventRow.payload, s.protections.lookup incidentId with
        | some (.observation report), some row =>
            report.root.identityFingerprint != row.rootIdentityFingerprint
              || report.memberFingerprint != row.memberFingerprint
        | _, _ => false
  | _ => false

variable {s s' : Store} {incidentId : String} {observation : ObservationRecord} {op : StoreOp}

/-! ## Protected reports -/

/-- The incident is protected with the processes of an observation. -/
def Protected (s : Store) (incidentId : String) (observation : ObservationRecord) : Prop :=
  ∃ row, s.protections.lookup incidentId = some row ∧ ProtectionOf row observation

theorem Protected.isIncidentProtected_iff (h : s.Protected incidentId observation)
    {report : IncidentReport} (hid : report.incidentId = incidentId) :
    s.isIncidentProtected report = true ↔
      report.root.identityFingerprint = observation.root.identityFingerprint ∧
        report.memberFingerprint = observation.memberFingerprint := by
  obtain ⟨row, hrow, hof⟩ := h
  subst hid
  simp only [isIncidentProtected, hrow, Bool.and_eq_true, beq_iff_eq, hof.root, hof.member]
  constructor
  · rintro ⟨hroot, hmember⟩
    exact ⟨hroot.symm, hmember.symm⟩
  · rintro ⟨hroot, hmember⟩
    exact ⟨hroot.symm, hmember.symm⟩

/-- There is one newest observation. -/
theorem Observed.unique {other : ObservationRecord} (h : s.Observed incidentId observation)
    (h' : s.Observed incidentId other) : observation = other := by
  obtain ⟨event, hevent, hpayload⟩ := h
  obtain ⟨event', hevent', hpayload'⟩ := h'
  obtain rfl := Option.some.inj (hevent.symm.trans hevent')
  exact EventPayload.observation.inj (hpayload.symm.trans hpayload')

section Applied

variable {t : Nat} {mutation : OrdinaryMutation} {changed : Bool} {pause : Option Nat}
  {blocks : OrdMap String RetryBlock} {cooling : OrdMap String CoolingCandidate}
  {protections : OrdMap String IncidentProtection}

/-- A public Protect that was applied inserted the row of the newest
observation. -/
theorem Applies.protects
    (h : s.Applies t (.protectIncident incidentId) true pause blocks cooling protections) :
    ∃ report row, s.ProtectsObserved incidentId report row ∧
      protections = s.protections.insert incidentId row := by
  cases h with
  | isProtected hnone hp => exact ⟨_, _, hp, rfl⟩

/-- No mutation but an Unprotect touches the row of a protected
incident. -/
theorem Applies.keepsProtection {row : IncidentProtection}
    (h : s.Applies t mutation changed pause blocks cooling protections)
    (hnot : mutation ≠ .unprotectIncident incidentId)
    (hrow : s.protections.lookup incidentId = some row) :
    protections.lookup incidentId = some row := by
  cases h with
  | isProtected hnone hp =>
      rw [OrdMap.lookup_insert, if_neg]
      · exact hrow
      · rintro rfl
        rw [hnone] at hrow
        cases hrow
  | unprotected =>
      rw [OrdMap.lookup_erase, if_neg]
      · exact hrow
      · rintro rfl
        exact hnot rfl
  | _ => exact hrow

end Applied

/-- **Every Protect that succeeded protects the newest observation.** -/
theorem Protecting.covers (h : s.Protecting incidentId s')
    (hobserved : s.Observed incidentId observation) : s'.Protected incidentId observation := by
  have hrow : ∀ {report row}, s.ProtectsObserved incidentId report row →
      ProtectionOf row observation := by
    intro report row hp
    obtain rfl := hobserved.unique hp.observed
    exact ⟨hp.root, hp.member⟩
  cases h with
  | operator h =>
      rcases protectIncident_ok h with ⟨hnone, -⟩ | ⟨report, row, hp, rfl⟩
      · obtain ⟨event, hevent, -⟩ := hobserved
        rw [hnone] at hevent
        cases hevent
      · refine ⟨row, ?_, hrow hp⟩
        show (s.protections.insert incidentId row).lookup incidentId = some row
        rw [OrdMap.lookup_insert, if_pos rfl]
  | applied h hnew happlied =>
      rcases commitPublicOrdinaryMutation_cases h with ⟨row, -, -, -, rfl⟩ | ⟨m, hm, rfl, rfl⟩
      · cases hnew
      · have hchanged : m.commit.stateChanged = true := hm.changed_iff.2 ⟨_, happlied⟩
        have happlies := hm.applies
        rw [hchanged] at happlies
        obtain ⟨report, row, hp, hset⟩ := happlies.protects
        refine ⟨row, ?_, hrow hp⟩
        show m.protections.lookup incidentId = some row
        rw [hset, OrdMap.lookup_insert, if_pos rfl]
  | already h hnew halready hfound hlookup hof =>
      obtain rfl := hobserved.unique hfound
      rcases commitPublicOrdinaryMutation_cases h with ⟨row, -, -, -, rfl⟩ | ⟨m, hm, rfl, rfl⟩
      · cases hnew
      · have hunchanged : m.commit.stateChanged = false := by
          cases hc : m.commit.stateChanged with
          | false => rfl
          | true =>
              obtain ⟨result, hresult⟩ := hm.changed_iff.1 hc
              rw [halready] at hresult
              cases hresult
        refine ⟨_, ?_, hof⟩
        show m.protections.lookup incidentId = _
        rw [(hm.unchanged hunchanged).2.2.2]
        exact hlookup

/-! ## What later operations leave -/

/-- Only a retirement deletes a row. -/
theorem reconcile_none {p : Presence} {table : String} {observed absenceProven : Bool}
    {now retention : Nat} (h : p.reconcile table observed absenceProven now retention = .ok none) :
    observed = false ∧ absenceProven = true ∧ p.retires now retention = true := by
  unfold Presence.reconcile at h
  split_ifs at h with hobserved hle hunproven habsent hle' hretires
  · cases h
  · cases h
  · cases h
  · exact ⟨by simpa using hobserved, by simpa using hunproven, hretires⟩
  · cases h

/-- A reconciliation that does not retire a row keeps whom it protects. -/
theorem reconcile_keepsProtection {view : CycleView} {now retention : Nat} {counts : Reconciliation}
    {row : IncidentProtection}
    (h : s.reconcileIncidentProtections view now retention = .ok (s', counts))
    (hrow : s.protections.lookup incidentId = some row)
    (hnot : (!protectionObserved view row && view.absenceProven
      && row.presence.retires now retention) = false) :
    ∃ row', s'.protections.lookup incidentId = some row' ∧
      row'.rootIdentityFingerprint = row.rootIdentityFingerprint ∧
      row'.memberFingerprint = row.memberFingerprint := by
  simp only [reconcileIncidentProtections, bind_eq_ok, pure_eq_ok] at h
  obtain ⟨_, -, _, hnow, _, hretention, rows, hrows, heq⟩ := h
  obtain ⟨rfl, -⟩ := Prod.mk.inj heq
  obtain ⟨-, rfl⟩ := sqliteMillis_eq_ok.1 hnow
  obtain ⟨-, rfl⟩ := sqliteMillis_eq_ok.1 hretention
  obtain ⟨o, ho⟩ := OrdMap.rewrite_ok_iff.1 ⟨rows, hrows⟩ incidentId row hrow
  obtain ⟨p, hp, hmap⟩ := map_eq_ok.1 ho
  cases p with
  | none =>
      obtain ⟨hobserved, hproven, hretires⟩ := reconcile_none hp
      rw [hobserved, hproven, hretires] at hnot
      cases hnot
  | some presence =>
      subst hmap
      exact ⟨_, (OrdMap.lookup_rewrite hrows).2 ⟨row, hrow, ho⟩, rfl, rfl⟩

/-- **An operation that neither lifts nor moves a protection keeps it.** -/
theorem Effect.keepsProtection (h : s.Effect op s') (hp : s.Protected incidentId observation)
    (hlifts : s.liftsProtection incidentId op = false)
    (hmoves : s.movesProtection incidentId op = false) : s'.Protected incidentId observation := by
  obtain ⟨row, hrow, hof⟩ := hp
  cases h with
  | @isProtected id at_ report new hp =>
      by_cases hid : incidentId = id
      · subst hid
        obtain ⟨event, hevent, hpayload⟩ := hp.observed
        simp only [movesProtection, beq_self_eq_true, Bool.true_and, hevent, Option.map_some, hpayload,
          hrow, Bool.or_eq_false_iff, bne_eq_false_iff_eq] at hmoves
        refine ⟨new, ?_, ?_, ?_⟩
        · show (s.protections.insert incidentId new).lookup incidentId = some new
          rw [OrdMap.lookup_insert, if_pos rfl]
        · rw [hp.root, hmoves.1, hof.root]
        · rw [hp.member, hmoves.2, hof.member]
      · refine ⟨row, ?_, hof⟩
        show (s.protections.insert id new).lookup incidentId = some row
        rw [OrdMap.lookup_insert, if_neg hid]
        exact hrow
  | @unprotected id =>
      refine ⟨row, ?_, hof⟩
      show (s.protections.erase id).lookup incidentId = some row
      rw [OrdMap.lookup_erase, if_neg]
      · exact hrow
      · rintro rfl
        simp [liftsProtection] at hlifts
  | reconciledProtections hr =>
      simp only [liftsProtection, hrow, Option.any_some] at hlifts
      obtain ⟨row', hrow', hroot, hmember⟩ := reconcile_keepsProtection hr hrow hlifts
      exact ⟨row', hrow', hroot.trans hof.root, hmember.trans hof.member⟩
  | @mutated context mutation runtime at_ m hm =>
      refine ⟨row, hm.applies.keepsProtection ?_ hrow, hof⟩
      rintro rfl
      simp [liftsProtection] at hlifts
  | _ => exact ⟨row, hrow, hof⟩

theorem Protecting.reachable (h : s.Protecting incidentId s') (hs : s.Reachable) : s'.Reachable := by
  cases h with
  | @operator now summary h =>
      exact hs.perform (.protectIncident incidentId now) (map_eq_ok.2 ⟨_, h, rfl⟩)
  | @applied context runtime at_ commit result h hnew happlied =>
      exact hs.perform (.commitPublicOrdinaryMutation context (.protectIncident incidentId) runtime at_)
        (map_eq_ok.2 ⟨_, h, rfl⟩)
  | @already context runtime at_ commit found row h hnew halready hfound hlookup hof =>
      exact hs.perform (.commitPublicOrdinaryMutation context (.protectIncident incidentId) runtime at_)
        (map_eq_ok.2 ⟨_, h, rfl⟩)

/-- The operation neither lifts nor moves the protection. -/
def LeavesProtected (incidentId : String) (s : Store) (op : StoreOp) : Prop :=
  s.liftsProtection incidentId op = false ∧ s.movesProtection incidentId op = false

/-- What a Protect that succeeded is worth. -/
structure Protects (s' : Store) (incidentId : String) (observation : ObservationRecord) : Prop where
  /-- the protected reports are those of the newest observation -/
  exact_iff : ∀ report : IncidentReport, report.incidentId = incidentId →
    (s'.isIncidentProtected report = true ↔
      report.root.identityFingerprint = observation.root.identityFingerprint ∧
        report.memberFingerprint = observation.memberFingerprint)
  /-- and stay protected through every run that leaves the protection -/
  lasts : ∀ ops, Transition.Along committed (LeavesProtected incidentId) s' ops →
    ∀ report : IncidentReport, report.incidentId = incidentId →
    report.root.identityFingerprint = observation.root.identityFingerprint →
    report.memberFingerprint = observation.memberFingerprint →
    (ops.foldl committed s').isIncidentProtected report = true

/-- **A Protect that succeeded protects**, on either path, in every store
the operations lead to. -/
theorem protect_protects (hs : s.Reachable) (hobserved : s.Observed incidentId observation)
    (h : s.Protecting incidentId s') : s'.Protects incidentId observation := by
  have hprotected : s'.Protected incidentId observation := h.covers hobserved
  refine ⟨fun report hid => hprotected.isIncidentProtected_iff hid, ?_⟩
  intro ops hops report hid hroot hmember
  have hstart : s'.Reachable ∧ s'.Protected incidentId observation := ⟨h.reachable hs, hprotected⟩
  have hlasts : (ops.foldl committed s').Reachable ∧
      (ops.foldl committed s').Protected incidentId observation := by
    refine hops.invariant (P := fun x : Store => x.Reachable ∧ x.Protected incidentId observation)
      (fun x op hx hleaves => ?_) hstart
    rcases committed_cases x op with ⟨x', hok, heq⟩ | ⟨e, -, heq⟩
    · rw [heq]
      exact ⟨hx.1.perform op hok, (perform_effect hx.1.sound.oneOpen hok).keepsProtection hx.2
        hleaves.1 hleaves.2⟩
    · rw [heq]
      exact hx
  exact (hlasts.2.isIncidentProtected_iff hid).2 ⟨hroot, hmember⟩

/-- The sample incident was observed. -/
def observedOnce : Store := built [.recordObservation 5 sampleReport]

theorem observed_of_payload {observation : ObservationRecord}
    (h : (s.latestObservation incidentId).map EventRow.payload = some (.observation observation)) :
    s.Observed incidentId observation := by
  obtain ⟨event, hevent, hpayload⟩ := Option.map_eq_some_iff.1 h
  exact ⟨event, hevent, hpayload⟩

theorem protect_protects_sample : ∃ s', observedOnce.Protecting "incident" s' ∧
    s'.Protects "incident" (.of sampleReport) := by
  have hobserved : observedOnce.Observed "incident" (.of sampleReport) :=
    observed_of_payload (by decide +kernel)
  have hsome : (observedOnce.protectIncident "incident" 10).toOption.isSome = true := by
    decide +kernel
  cases hok : observedOnce.protectIncident "incident" 10 with
  | error e =>
      rw [hok] at hsome
      cases hsome
  | ok r =>
      have hprotecting : observedOnce.Protecting "incident" r.1 := .operator hok
      exact ⟨r.1, hprotecting, protect_protects built_reachable hobserved hprotecting⟩

/-- The same incident with other members. -/
def otherReport : IncidentReport := { sampleReport with memberFingerprint := "others" }

/-- The operator protects the incident once more after it was observed with
other members: the protection goes over to these. -/
theorem protection_moves : ¬ ∀ (s s' : Store) (incidentId : String) (observation : ObservationRecord)
    (now : Nat) (summary : Option ProtectionSummary), s.Reachable → s.Observed incidentId observation →
    s.protectIncident incidentId now = .ok (s', summary) → ∀ ops,
    Transition.Along committed (fun x op => x.liftsProtection incidentId op = false) s' ops →
    ∀ report : IncidentReport, report.incidentId = incidentId →
      report.root.identityFingerprint = observation.root.identityFingerprint →
      report.memberFingerprint = observation.memberFingerprint →
      (ops.foldl committed s').isIncidentProtected report = true := by
  intro hall
  have hobserved : observedOnce.Observed "incident" (.of sampleReport) :=
    observed_of_payload (by decide +kernel)
  have hsome : (observedOnce.protectIncident "incident" 10).toOption.map (fun r =>
      ([StoreOp.recordObservation 20 otherReport, .protectIncident "incident" 30].foldl committed
        r.1).isIncidentProtected sampleReport) = some false := by
    decide +kernel
  cases hok : observedOnce.protectIncident "incident" 10 with
  | error e =>
      rw [hok] at hsome
      cases hsome
  | ok r =>
      rw [hok] at hsome
      have hprotected := hall observedOnce r.1 "incident" (.of sampleReport) 10 r.2 built_reachable
        hobserved hok [.recordObservation 20 otherReport, .protectIncident "incident" 30]
        ⟨rfl, rfl, trivial⟩ sampleReport rfl rfl rfl
      have hboth : true = false := hprotected.symm.trans (Option.some.inj hsome)
      cases hboth

end Store

end Unlinger
