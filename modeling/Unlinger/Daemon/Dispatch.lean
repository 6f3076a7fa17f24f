import Unlinger.Daemon.Helpers.Cycle
import Unlinger.Daemon.Helpers.Effect
import Unlinger.Daemon.Helpers.Store

/-!
# What a cycle opens an attempt for

Every attempt a cycle opens is for a report that two observations of this
very cycle agree on and abandonment covers, that its owner had not
protected and no retry block held when the cycle looked, under the mode
and epoch and at the counter the cycle started with, and with no other
attempt open and no worker running. The cycle reads its authority at five
places, and other threads change it in between: what was read is said of
the answers in the trace.
-/

namespace Unlinger

open Interaction

/-! ## A cycle cut at its observations -/

/-- The trace of a cycle that observed twice, cut at its snapshots. -/
structure CycleCut where
  before : EngineTrace
  first : Snapshot
  between : EngineTrace
  second : Snapshot
  after : EngineTrace

namespace CycleCut

/-- The trace that was cut. -/
def trace (c : CycleCut) : EngineTrace :=
  c.before ++ ⟨.snapshot, .ok c.first⟩ :: (c.between ++ ⟨.snapshot, .ok c.second⟩ :: c.after)

/-- The cycle went on. -/
def extend (c : CycleCut) (es : EngineTrace) : CycleCut := { c with after := c.after ++ es }

@[simp] theorem extend_trace (c : CycleCut) (es : EngineTrace) :
    (c.extend es).trace = c.trace ++ es := by
  simp [trace, extend]

end CycleCut

/-- The tracking of a report found that it had cooled for the grace. -/
def TrackedAsLasting (t : EngineTrace) (report : IncidentReport) (clock : CoolingClock)
    (grace gap : Nat) : Prop :=
  ∃ s s', (⟨.store (.perform (.trackCooling report clock grace gap)), .ok s⟩ : EngineEvent) ∈ t ∧
    s.trackCooling report clock grace gap = .ok (s', true)

/-- What the two observations of a cycle reported. -/
structure TwoObservations where
  analyzer : Analyzer
  firstReports : List IncidentReport
  secondReports : List IncidentReport
  clock : CoolingClock
  confirmedKeys : List String

namespace TwoObservations

/-- The cycle really made these observations: with one analyzer, over the
registries it read between the snapshots, and a key is confirmed where the
tracking of a report of it, after the second snapshot, found that it had
lasted. -/
structure Of (o : TwoObservations) (e : ReconciliationEngine) (c : CycleCut) (epoch : String) :
    Prop where
  analyzer : ∃ g tasks owners, ProcessGraph.fromSnapshot c.first = .ok g ∧
    (⟨.tasks .bindings, .ok tasks⟩ : EngineEvent) ∈ c.between ∧
    (⟨.sessionOwners .bindings, .ok owners⟩ : EngineEvent) ∈ c.between ∧
    o.analyzer = e.analyzerOver g tasks owners
  first : o.analyzer.observe c.first = .ok o.firstReports
  second : o.analyzer.observe c.second = .ok o.secondReports
  clock : ∃ sample, (⟨.clockSample, .ok sample⟩ : EngineEvent) ∈ c.after ∧
    o.clock = coolingClock sample epoch
  confirmed : ∀ key ∈ o.confirmedKeys, ∃ report ∈ o.secondReports,
    report.state = .cooling ∧ report.trackingKey = key ∧
      TrackedAsLasting c.after report o.clock e.config.abandonmentGrace
        e.config.coolingContinuityGap

/-- The incidents the two observations agree on. -/
def incidents (o : TwoObservations) : List IncidentReport :=
  reconcileWithAbandonment o.firstReports o.secondReports o.confirmedKeys

/-- The report is what either observation saw cooling, the same processes
both times, and the tracking of the second found that it had lasted. The
tracking goes by key: `tracked` is the second report itself, unless two
roots share one key. -/
def AgreesOn (o : TwoObservations) (e : ReconciliationEngine) (c : CycleCut)
    (report : IncidentReport) : Prop :=
  ∃ previous ∈ o.firstReports, ∃ current ∈ o.secondReports, ∃ tracked ∈ o.secondReports,
    previous.state = .cooling ∧ current.state = .cooling ∧
    previous.trackingKey = current.trackingKey ∧
    previous.root.identityFingerprint = current.root.identityFingerprint ∧
    previous.memberFingerprint = current.memberFingerprint ∧
    report = reconcileReport previous current true ∧
    tracked.trackingKey = current.trackingKey ∧
    (tracked.root.pid = current.root.pid → tracked = current) ∧
    TrackedAsLasting c.after tracked o.clock e.config.abandonmentGrace e.config.coolingContinuityGap

end TwoObservations

/-- **What a cycle has seen of a report.** -/
structure Sighted (e : ReconciliationEngine) (c : CycleCut) (report : IncidentReport)
    (epoch : String) (revision : Nat) : Prop where
  /-- These are all the snapshots the cycle took. -/
  snapshots : c.trace.filterMap snapshotTaken = [c.first, c.second]
  /-- Before the first it read the status once, which enforced under this
  epoch, -/
  authority : ∃ lifecycle, c.before.filterMap statusRead = [lifecycle] ∧
    lifecycle.effectiveMode = .enforce ∧ lifecycle.enforcementEpoch = some epoch
  /-- and the policy revision, once. -/
  revision : c.before.filterMap revisionRead = [revision]
  observed : ∃ o : TwoObservations, o.Of e c epoch ∧ report ∈ o.incidents ∧
    (report.state = .confirmed → o.AgreesOn e c report)
  idle : liveWorker e.worker c.trace = none
  uninterrupted : Uninterrupted c.trace
  onlyOne : e.backgroundCleanup = true → Unopened c.trace

/-- The report is confirmed, and its owner had not protected it when the
cycle applied the protections. -/
structure Considered (e : ReconciliationEngine) (c : CycleCut) (report : IncidentReport)
    (epoch : String) (revision : Nat) : Prop extends Sighted e c report epoch revision where
  confirmed : report.state = .confirmed
  unprotected : ∃ s, (⟨.store (.isIncidentProtected report), .ok s⟩ : EngineEvent) ∈ c.after ∧
    s.isIncidentProtected report = false

/-- **What it takes to ask for an attempt.** -/
structure Justified (e : ReconciliationEngine) (c : CycleCut) (report : IncidentReport)
    (epoch : String) (revision : Nat) : Prop extends Considered e c report epoch revision where
  unblocked : ∃ s,
    (⟨.store (.cleanupBlocked report.incidentId), .ok s⟩ : EngineEvent) ∈ c.after ∧
      s.cleanupBlocked report.incidentId = false

/-- What the calls of a cycle are allowed at: an attempt is asked for where
it is justified, and the wait comes before any attempt. -/
def Dispatchable (e : ReconciliationEngine) (now : Nat) (t : EngineTrace) : EngineCall → Prop
  | .plane (.beginCleanupAttemptIfArmed at_ report epoch revision) =>
      at_ = now ∧ ∃ c : CycleCut, c.trace = t ∧ Justified e c report epoch revision
  | .waitUntil _ => Unopened t
  | _ => True

section Cycle

variable {e : ReconciliationEngine} {now : Nat} {t es : EngineTrace} {c : CycleCut}
  {report : IncidentReport} {epoch cycleToken : String} {revision : Nat}

theorem Dispatchable.quiet :
    ∀ (t : EngineTrace) (c : EngineCall), Quiet c → Dispatchable e now t c := by
  intro t c h
  cases c with
  | plane c =>
      cases c with
      | beginCleanupAttemptIfArmed at_ report epoch revision => exact h.elim
      | _ => exact trivial
  | waitUntil d => exact h.elim
  | _ => exact trivial

/-! ## Going on -/

theorem TrackedAsLasting.mono {clock : CoolingClock} {grace gap : Nat}
    (h : TrackedAsLasting t report clock grace gap) :
    TrackedAsLasting (t ++ es) report clock grace gap := by
  obtain ⟨s, s', hmem, hlast⟩ := h
  exact ⟨s, s', List.mem_append_left es hmem, hlast⟩

namespace TwoObservations

variable {o : TwoObservations}

theorem Of.extend (h : o.Of e c epoch) : o.Of e (c.extend es) epoch where
  analyzer := h.analyzer
  first := h.first
  second := h.second
  clock := by
    obtain ⟨sample, hmem, hclock⟩ := h.clock
    exact ⟨sample, List.mem_append_left es hmem, hclock⟩
  confirmed := by
    intro key hkey
    obtain ⟨report, hmem, hcool, hof, htracked⟩ := h.confirmed key hkey
    exact ⟨report, hmem, hcool, hof, htracked.mono⟩

theorem AgreesOn.extend (h : o.AgreesOn e c report) : o.AgreesOn e (c.extend es) report := by
  obtain ⟨previous, hprevious, current, hcurrent, tracked, htracked, h⟩ := h
  refine ⟨previous, hprevious, current, hcurrent, tracked, htracked, ?_⟩
  obtain ⟨h₁, h₂, h₃, h₄, h₅, h₆, h₇, h₈, hlast⟩ := h
  exact ⟨h₁, h₂, h₃, h₄, h₅, h₆, h₇, h₈, hlast.mono⟩

/-- Two observations agree on what they confirm. -/
theorem Of.agrees (h : o.Of e c epoch) (hmem : report ∈ o.incidents)
    (hstate : report.state = .confirmed) : o.AgreesOn e c report := by
  obtain ⟨previous, hprevious, current, hcurrent, hcool, hcool', hkey, hroot, hmembers, hconfirmed,
    heq⟩ := reconcile_agrees hmem hstate (observe_not_confirmed h.second)
  obtain ⟨tracked, htracked, -, hsame, hlast⟩ := h.confirmed _ hconfirmed
  exact ⟨previous, hprevious, current, hcurrent, tracked, htracked, hcool, hcool', hkey, hroot,
    hmembers, heq, hsame, report_unique h.second htracked hcurrent, hlast⟩

end TwoObservations

/-- What a cycle has seen stays, as long as it takes no snapshot, is not
interrupted, and leaves the worker and, where it has one, the attempts. -/
theorem Sighted.extend (h : Sighted e c report epoch revision) (hes : Still es)
    (hopen : e.backgroundCleanup = true → Unopened es) :
    Sighted e (c.extend es) report epoch revision where
  snapshots := by
    rw [CycleCut.extend_trace, List.filterMap_append, h.snapshots, hes.snapshots]
    rfl
  authority := h.authority
  revision := h.revision
  observed := by
    obtain ⟨o, hof, hmem, hagrees⟩ := h.observed
    exact ⟨o, hof.extend, hmem, fun hstate => (hagrees hstate).extend⟩
  idle := by rw [CycleCut.extend_trace, liveWorker_append, h.idle, hes.worker]
  uninterrupted := by
    rw [CycleCut.extend_trace]
    exact h.uninterrupted.append hes.uninterrupted
  onlyOne := by
    intro hbackground
    rw [CycleCut.extend_trace]
    exact (h.onlyOne hbackground).append (hopen hbackground)

theorem Considered.extend (h : Considered e c report epoch revision) (hes : Still es)
    (hopen : e.backgroundCleanup = true → Unopened es) :
    Considered e (c.extend es) report epoch revision where
  toSighted := h.toSighted.extend hes hopen
  confirmed := h.confirmed
  unprotected := by
    obtain ⟨s, hmem, hs⟩ := h.unprotected
    exact ⟨s, List.mem_append_left es hmem, hs⟩

/-- The confirmed reports of a list are sighted at a trace. -/
def SightedAll (e : ReconciliationEngine) (t : EngineTrace) (epoch : String) (revision : Nat)
    (reports : List IncidentReport) : Prop :=
  ∀ report ∈ reports, report.state = .confirmed →
    ∃ c : CycleCut, c.trace = t ∧ Sighted e c report epoch revision

/-- They may be cleaned up. -/
def ConsideredAll (e : ReconciliationEngine) (t : EngineTrace) (epoch : String) (revision : Nat)
    (reports : List IncidentReport) : Prop :=
  ∀ report ∈ reports, report.state = .confirmed →
    ∃ c : CycleCut, c.trace = t ∧ Considered e c report epoch revision

variable {reports : List IncidentReport}

theorem SightedAll.quiet (h : SightedAll e t epoch revision reports)
    (hes : ∀ ev ∈ es, Quiet ev.call) : SightedAll e (t ++ es) epoch revision reports := by
  intro report hmem hstate
  obtain ⟨c, rfl, hc⟩ := h report hmem hstate
  exact ⟨c.extend es, c.extend_trace es,
    hc.extend (Still.quiet hes) fun _ => Unopened.quiet hes⟩

theorem ConsideredAll.extend (h : ConsideredAll e t epoch revision reports) (hes : Still es)
    (hopen : e.backgroundCleanup = true → Unopened es) :
    ConsideredAll e (t ++ es) epoch revision reports := by
  intro report hmem hstate
  obtain ⟨c, rfl, hc⟩ := h report hmem hstate
  exact ⟨c.extend es, c.extend_trace es, hc.extend hes hopen⟩

theorem ConsideredAll.quiet (h : ConsideredAll e t epoch revision reports)
    (hes : ∀ ev ∈ es, Quiet ev.call) : ConsideredAll e (t ++ es) epoch revision reports :=
  h.extend (Still.quiet hes) fun _ => Unopened.quiet hes

/-! ## Observing -/

namespace ReconciliationEngine

/-- The keys of a pass are of reports that were found to have lasted. -/
theorem sat_trackCooling {clock : CoolingClock} {grace gap : Nat} :
    ∀ (reports : List IncidentReport) (t : EngineTrace),
      Sat (Dispatchable e now) (trackCooling clock grace gap reports) t (OnOk fun t' keys =>
        ∃ es, t' = t ++ es ∧ (∀ ev ∈ es, Quiet ev.call) ∧
          ∀ key ∈ keys, ∃ report ∈ reports, report.state = .cooling ∧ report.trackingKey = key ∧
            TrackedAsLasting es report clock grace gap) := by
  intro reports
  induction reports with
  | nil =>
      intro t
      exact ⟨[], (List.append_nil t).symm, by simp, by simp⟩
  | cons report reports ih =>
      intro t
      rw [trackCooling]
      by_cases hcool : report.state = .cooling
      · rw [if_pos hcool]
        refine sat_onStore trivial fun s => Sat.okThen fun tracked htracked => ?_
        obtain ⟨s', lasted⟩ := tracked
        refine Sat.andThen (ih _) ?_
        rintro t' keys ⟨es, rfl, hes, hkeys⟩
        set ev : EngineEvent := ⟨.store (.perform (.trackCooling report clock grace gap)), .ok s⟩
        refine ⟨ev :: es, by simp, ?_, ?_⟩
        · intro x hx
          rcases List.mem_cons.1 hx with rfl | hx
          · exact trivial
          · exact hes x hx
        · have hlater : ∀ key ∈ keys, ∃ r ∈ report :: reports, r.state = .cooling ∧
              r.trackingKey = key ∧ TrackedAsLasting (ev :: es) r clock grace gap := by
            intro key hkey
            obtain ⟨r, hr, hrcool, hrkey, u, u', hu, hlast⟩ := hkeys key hkey
            exact ⟨r, List.mem_cons_of_mem report hr, hrcool, hrkey, u, u',
              List.mem_cons_of_mem ev hu, hlast⟩
          intro key hkey
          cases lasted with
          | false => exact hlater key hkey
          | true =>
              rcases List.mem_cons.1 hkey with rfl | hkey
              · exact ⟨report, List.mem_cons_self .., hcool, rfl, s, s', List.mem_cons_self ..,
                  htracked⟩
              · exact hlater key hkey
      · rw [if_neg hcool]
        refine (ih t).mono ?_
        rintro t' (err | keys) h
        · exact trivial
        · obtain ⟨es, heq, hes, hkeys⟩ := h
          refine ⟨es, heq, hes, fun key hkey => ?_⟩
          obtain ⟨r, hr, hrest⟩ := hkeys key hkey
          exact ⟨r, List.mem_cons_of_mem report hr, hrest⟩

/-- The second observation, with all it rests on. -/
theorem sat_observeAgain {analyzer : Analyzer} {grace gap : Nat} {first : List IncidentReport} :
    Sat (Dispatchable e now) (observeAgain analyzer epoch grace gap first) t (OnOk fun t' o =>
      ∃ second after secondReports clock keys,
        t' = t ++ ⟨.snapshot, .ok second⟩ :: after ∧ (∀ ev ∈ after, Quiet ev.call) ∧
        analyzer.observe second = .ok secondReports ∧
        (∃ sample, (⟨.clockSample, .ok sample⟩ : EngineEvent) ∈ after ∧
          clock = coolingClock sample epoch) ∧
        (∀ key ∈ keys, ∃ report ∈ secondReports, report.state = .cooling ∧
          report.trackingKey = key ∧ TrackedAsLasting after report clock grace gap) ∧
        o.incidents = reconcileWithAbandonment first secondReports keys) := by
  refine sat_snapshot trivial fun second => sat_clockSample trivial fun sample => ?_
  refine Sat.okThen fun secondReports hsecond => ?_
  refine Sat.andThen (sat_trackCooling secondReports _) ?_
  rintro t' keys ⟨es, rfl, hes, hkeys⟩
  refine Sat.onlyThen only_perform Dispatchable.quiet fun fs _ hfs => ?_
  set ev : EngineEvent := ⟨.clockSample, .ok sample⟩
  refine ⟨second, ev :: (es ++ fs), secondReports, coolingClock sample epoch, keys, by simp, ?_,
    hsecond, ⟨sample, List.mem_cons_self .., rfl⟩, ?_, rfl⟩
  · intro x hx
    rcases List.mem_cons.1 hx with rfl | hx
    · exact trivial
    · rcases List.mem_append.1 hx with hx | hx
      · exact hes x hx
      · exact hfs x hx
  · intro key hkey
    obtain ⟨report, hmem, hcool, hof, s, s', hs, hlast⟩ := hkeys key hkey
    exact ⟨report, hmem, hcool, hof, s, s',
      List.mem_cons_of_mem ev (List.mem_append_left fs hs), hlast⟩

end ReconciliationEngine

/-- What a cycle has read before its first snapshot: the status and the
revision, once each. -/
structure Begun (e : ReconciliationEngine) (before : EngineTrace) (lifecycle : ServiceStatus)
    (revision : Nat) (worker : Option BackgroundCleanup) : Prop
    extends Tells before [lifecycle] [revision] where
  worker : liveWorker e.worker before = worker

/-- The authority a cycle may clean up under, as far as it has read it. -/
def Authorizes (lifecycle : ServiceStatus) (epoch : String) (worker : Option BackgroundCleanup) :
    Prop :=
  lifecycle.effectiveMode = .enforce ∧ lifecycle.enforcementEpoch = some epoch ∧ worker = none

/-- A cycle that observed twice sighted what it reconciled. -/
theorem Begun.sighted {lifecycle : ServiceStatus} {worker : Option BackgroundCleanup}
    (h : Begun e c.before lifecycle revision worker) (hauthorizes : Authorizes lifecycle epoch worker)
    (hbetween : Still c.between) (hopen : Unopened c.between)
    (hafter : ∀ ev ∈ c.after, Quiet ev.call) {o : TwoObservations} (ho : o.Of e c epoch)
    (hmem : report ∈ o.incidents) : Sighted e c report epoch revision where
  snapshots := by
    simp [CycleCut.trace, h.snapshots, hbetween.snapshots, (Still.quiet hafter).snapshots,
      snapshotTaken]
  authority := ⟨lifecycle, h.statuses, hauthorizes.1, hauthorizes.2.1⟩
  revision := h.revisions
  observed := ⟨o, ho, hmem, fun hstate => ho.agrees hmem hstate⟩
  idle := by
    have hsnap : ∀ s w es, liveWorker w (⟨.snapshot, .ok s⟩ :: es) = liveWorker w es :=
      fun s w es => rfl
    rw [CycleCut.trace, liveWorker_append, h.worker, hsnap, liveWorker_append, hbetween.worker,
      hsnap, (Still.quiet hafter).worker]
    exact hauthorizes.2.2
  uninterrupted := by
    refine h.uninterrupted.append (Uninterrupted.append (Uninterrupted.single rfl) ?_)
    refine hbetween.uninterrupted.append (Uninterrupted.append (Uninterrupted.single rfl) ?_)
    exact (Still.quiet hafter).uninterrupted
  onlyOne := by
    intro _
    refine h.unopened.append (Unopened.append (Unopened.single rfl) ?_)
    refine hopen.append (Unopened.append (Unopened.single rfl) ?_)
    exact Unopened.quiet hafter

theorem durationMillis_ok {d n : Nat} (h : durationMillis d = .ok n) : n = d := by
  unfold durationMillis at h
  split at h
  · exact (Except.ok.inj h).symm
  · cases h

/-- What one observation says confirms nothing. -/
theorem SightedAll.observed {analyzer : Analyzer} {s : Snapshot}
    (h : analyzer.observe s = .ok reports) : SightedAll e t epoch revision reports :=
  fun report hmem hstate => absurd hstate (observe_not_confirmed h report hmem)

namespace ReconciliationEngine

/-- **Observing**: an incident is confirmed only by a second observation
after a wait that was not interrupted. -/
theorem sat_observe {lifecycle : ServiceStatus} {worker : Option BackgroundCleanup}
    {before between : EngineTrace} {first : Snapshot} {analyzer : Analyzer} {clock : CoolingClock}
    (hbegun : Begun e before lifecycle revision worker) (hbetween : ∀ ev ∈ between, Quiet ev.call)
    (hanalyzer : ∃ g tasks owners, ProcessGraph.fromSnapshot first = .ok g ∧
      (⟨.tasks .bindings, .ok tasks⟩ : EngineEvent) ∈ between ∧
      (⟨.sessionOwners .bindings, .ok owners⟩ : EngineEvent) ∈ between ∧
      analyzer = e.analyzerOver g tasks owners) :
    Sat (Dispatchable e now) (e.observe analyzer epoch first clock)
      (before ++ ⟨.snapshot, .ok first⟩ :: between) (OnOk fun t' o =>
        Authorizes lifecycle epoch worker → SightedAll e t' epoch revision o.incidents) := by
  refine Sat.okThen fun firstReports hfirst => ?_
  refine Sat.okThen fun grace hgrace => Sat.okThen fun gap hgap => ?_
  obtain rfl := durationMillis_ok hgrace
  obtain rfl := durationMillis_ok hgap
  refine Sat.andThen (sat_trackCooling firstReports _) ?_
  rintro t' - ⟨es, rfl, hes, -⟩
  split
  · -- the wait comes before any attempt
    have hopen : Unopened (before ++ ⟨.snapshot, .ok first⟩ :: between ++ es) := by
      refine Unopened.append ?_ (Unopened.quiet hes)
      exact hbegun.unopened.append
        (Unopened.append (Unopened.single rfl) (Unopened.quiet hbetween))
    refine Sat.ask hopen fun waited => Sat.okThen fun outcome houtcome => ?_
    cases outcome with
    | interrupted => exact fun _ => SightedAll.observed hfirst
    | deadlineReached =>
        refine sat_observeAgain.mono ?_
        rintro t' (err | o) h
        · exact trivial
        · obtain ⟨second, after, secondReports, clock', keys, rfl, hafter, hsecond, hclock, hkeys,
            hincidents⟩ := h
          intro hauthorizes report hmem _
          set wait : EngineEvent := ⟨.waitUntil e.config.observationGap, waited⟩ with hwait
          set c : CycleCut := ⟨before, first, between ++ (es ++ [wait]), second, after⟩ with hc
          set o' : TwoObservations := ⟨analyzer, firstReports, secondReports, clock', keys⟩
          have ho : o'.Of e c epoch :=
            { analyzer := by
                obtain ⟨g, tasks, owners, hg, htasks, howners, rfl⟩ := hanalyzer
                exact ⟨g, tasks, owners, hg, List.mem_append_left _ htasks,
                  List.mem_append_left _ howners, rfl⟩
              first := hfirst
              second := hsecond
              clock := hclock
              confirmed := hkeys }
          have hstill : Still [wait] := by
            refine Still.single rfl ?_ fun _ => rfl
            rw [hwait, houtcome]
            rfl
          refine ⟨c, by simp [hc, CycleCut.trace], ?_⟩
          refine hbegun.sighted (c := c) hauthorizes ?_ ?_ hafter ho ?_
          · exact (Still.quiet hbetween).append ((Still.quiet hes).append hstill)
          · exact (Unopened.quiet hbetween).append
              ((Unopened.quiet hes).append (Unopened.single rfl))
          · rw [hincidents] at hmem
            exact hmem
  · refine Sat.onlyThen only_perform Dispatchable.quiet fun _ _ _ => ?_
    exact fun _ => SightedAll.observed hfirst

/-- What is left confirmed by the protections was found unprotected. -/
theorem sat_applyProtections : ∀ (reports : List IncidentReport) (t : EngineTrace),
    Sat (Dispatchable e now) (applyProtections reports) t (OnOk fun t' kept =>
      ∃ es, t' = t ++ es ∧ (∀ ev ∈ es, Quiet ev.call) ∧
        ∀ report ∈ kept, report.state = .confirmed → report ∈ reports ∧
          ∃ s, (⟨.store (.isIncidentProtected report), .ok s⟩ : EngineEvent) ∈ es ∧
            s.isIncidentProtected report = false) := by
  intro reports
  induction reports with
  | nil =>
      intro t
      exact ⟨[], (List.append_nil t).symm, by simp, by simp⟩
  | cons report reports ih =>
      intro t
      rw [applyProtections]
      refine sat_onStore trivial fun s => Sat.andThen (ih _) ?_
      rintro t' kept ⟨es, rfl, hes, hkept⟩
      set ev : EngineEvent := ⟨.store (.isIncidentProtected report), .ok s⟩
      refine ⟨ev :: es, by simp, ?_, ?_⟩
      · intro x hx
        rcases List.mem_cons.1 hx with rfl | hx
        · exact trivial
        · exact hes x hx
      · intro r hr hstate
        rcases List.mem_cons.1 hr with rfl | hr
        · by_cases hprotected : s.isIncidentProtected report = true
          · -- a report that was marked is protected, and not confirmed
            rw [if_pos hprotected] at hstate
            unfold applyOwnerProtection at hstate
            simp only at hstate
            split at hstate
            · cases hstate
            · cases hstate
          · rw [if_neg hprotected] at hstate ⊢
            exact ⟨List.mem_cons_self .., s, List.mem_cons_self .., by simpa using hprotected⟩
        · obtain ⟨hmem, u, hu, hfree⟩ := hkept r hr hstate
          exact ⟨List.mem_cons_of_mem report hmem, u, List.mem_cons_of_mem ev hu, hfree⟩

end ReconciliationEngine

/-! ## Dispatch -/

namespace ReconciliationEngine

/-- An attempt that was run here, and not on a worker, made quiet calls. -/
theorem sat_runAttempt {f : FrozenCleanup} :
    Sat (Dispatchable e now) (e.runAttempt now cycleToken f) t (OnOk fun t' receipt =>
      receipt.isSome = true → e.backgroundCleanup = false ∧
        ∃ es, t' = t ++ es ∧ ∀ ev ∈ es, Quiet ev.call) := by
  unfold runAttempt
  by_cases hbackground : e.backgroundCleanup = true
  · rw [if_pos hbackground]
    refine Sat.ask trivial fun r => ?_
    cases r with
    | ok u => exact fun h => by cases h
    | error message =>
        refine Sat.ask trivial fun _ => ?_
        refine Sat.onlyThen only_failClosed Dispatchable.quiet fun es result hes => ?_
        refine Sat.okThen fun _ _ => ?_
        exact Sat.onlyThen only_perform Dispatchable.quiet fun _ _ _ => trivial
  · rw [if_neg hbackground]
    refine Sat.onlyThen (only_executeCleanup f false).attempt Dispatchable.quiet
      fun es result hes => ?_
    refine Sat.ask trivial fun r => ?_
    refine Sat.okThen fun receipt _ => ?_
    intro _
    refine ⟨by simpa using hbackground, es ++ [⟨.plane (.dropProcessCleanupActivity cycleToken), r⟩],
      List.append_assoc .., ?_⟩
    intro ev hev
    rcases List.mem_append.1 hev with hev | hev
    · exact hes ev hev
    · obtain rfl := List.mem_singleton.1 hev
      exact trivial

/-- **Every attempt the loop asks for is justified.** By induction over the
reports: a cleanup that ran here leaves what was seen of the others. -/
theorem sat_dispatch {f : Frozen} : ∀ (reports : List IncidentReport) (t : EngineTrace)
    (receipts : List CleanupReceipt),
    ConsideredAll e t f.enforcementEpoch f.cleanupPolicyRevision reports →
    Sat (Dispatchable e now) (e.dispatch now cycleToken f reports receipts) t
      (OnOk fun _ _ => True) := by
  intro reports
  induction reports with
  | nil =>
      intro t receipts _
      exact trivial
  | cons report reports ih =>
      intro t receipts h
      have hrest : ConsideredAll e t f.enforcementEpoch f.cleanupPolicyRevision reports :=
        fun r hr => h r (List.mem_cons_of_mem report hr)
      rw [dispatch]
      by_cases hstate : report.state = .confirmed
      · rw [if_neg (not_not.2 hstate)]
        refine Sat.ask trivial fun stopped => ?_
        split
        · exact trivial
        · refine sat_onStore trivial fun s => ?_
          set ev₁ : EngineEvent := ⟨.shouldStop, stopped⟩
          set ev₂ : EngineEvent := ⟨.store (.cleanupBlocked report.incidentId), .ok s⟩
          have hquiet : ∀ ev ∈ [ev₁, ev₂], Quiet ev.call := by
            intro ev hev
            rcases List.mem_pair.1 hev with rfl | rfl
            · exact trivial
            · exact trivial
          rw [List.append_assoc, List.singleton_append]
          split
          · exact ih _ _ (hrest.quiet hquiet)
          · rename_i hblocked
            refine Sat.okThen fun plan hplan => ?_
            obtain ⟨c, rfl, hc⟩ := h report (List.mem_cons_self ..) hstate
            -- the store's answer is the last fact the opening needs
            have hjustified : Justified e (c.extend [ev₁, ev₂]) report f.enforcementEpoch
                f.cleanupPolicyRevision :=
              { hc.extend (Still.quiet hquiet) fun _ => Unopened.quiet hquiet with
                unblocked := ⟨s, by simp [CycleCut.extend, ev₂], by simpa using hblocked⟩ }
            refine sat_onPlane ⟨rfl, _, c.extend_trace _, hjustified⟩ fun found => ?_
            refine Sat.okThen fun attempt hattempt => ?_
            cases attempt with
            | none => exact trivial
            | some attempt =>
                refine sat_onPlane trivial fun activity => Sat.okThen fun _ _ => ?_
                refine Sat.andThen sat_runAttempt ?_
                intro t' receipt hrun
                cases receipt with
                | none => exact trivial
                | some receipt =>
                    obtain ⟨hsync, es, rfl, hes⟩ := hrun rfl
                    have hnever : e.backgroundCleanup = true → ∀ es : EngineTrace, Unopened es := by
                      intro hbackground
                      rw [hsync] at hbackground
                      cases hbackground
                    refine ih _ _ ?_
                    refine ((ConsideredAll.extend ?_ ?_ fun h => hnever h _).extend
                      ?_ fun h => hnever h _).quiet hes
                    · exact hrest.quiet hquiet
                    · exact Still.single rfl rfl fun _ => rfl
                    · exact Still.single rfl rfl fun _ => rfl
      · rw [if_pos hstate]
        exact ih t receipts hrest

end ReconciliationEngine

/-! ## The whole cycle -/

namespace ReconciliationEngine

/-- Collecting a worker reads no authority, and a worker that was
collected is held no more. -/
theorem sat_collectBackgroundCleanup {w : Option BackgroundCleanup} {wait : Bool} :
    Sat (Dispatchable e now) (collectBackgroundCleanup w wait) t (OnOk fun t' r =>
      ∃ es, t' = t ++ es ∧ Tells es [] [] ∧ liveWorker w es = r.2) := by
  unfold collectBackgroundCleanup
  cases w with
  | none => exact ⟨[], (List.append_nil t).symm, Tells.quiet (by simp), rfl⟩
  | some w =>
      have hended : (workerEnded wait).Only Quiet := by
        unfold workerEnded
        split
        · exact Prog.only_pure
        · exact ⟨trivial, fun _ => trivial⟩
      refine Sat.onlyThen hended Dispatchable.quiet fun es ended hes => ?_
      split
      · refine Sat.ask trivial fun joined => ?_
        extract_lets completion
        split
        · set ev : EngineEvent := ⟨.joinWorker, joined⟩
          refine ⟨es ++ [ev], List.append_assoc .., ?_, ?_⟩
          · have hev : Tells [ev] [] [] :=
              ⟨rfl, rfl, rfl, Unopened.single rfl, Uninterrupted.single rfl⟩
            exact (Tells.quiet hes).append hev
          · rw [liveWorker_append]
            rfl
        · refine Sat.onlyThen only_failClosed Dispatchable.quiet fun _ _ _ => ?_
          exact Sat.onlyThen only_perform Dispatchable.quiet fun _ _ _ => trivial
      · exact ⟨es, rfl, Tells.quiet hes, (Still.quiet hes).worker _⟩

/-- Reading the status tells it, and nothing else. -/
theorem sat_statusAt : Sat (Dispatchable e now) (statusAt now) t (OnOk fun t' status =>
    ∃ es, t' = t ++ es ∧ Tells es [status] [] ∧ ∀ w, liveWorker w es = w) := by
  refine sat_onPlane trivial fun found => Sat.okThen fun _ _ => ?_
  refine sat_onPlane trivial fun f => ?_
  set ev₁ : EngineEvent := ⟨.plane (.expirePause now), .ok found⟩
  set ev₂ : EngineEvent := ⟨.plane .status, .ok f⟩ with hev₂
  cases hstatus : f.statusOf with
  | error err => exact trivial
  | ok status =>
      refine ⟨[ev₁] ++ [ev₂], by simp, ?_, fun w => rfl⟩
      have hread : statusRead ev₂ = some status := by
        rw [hev₂, statusRead, hstatus]
        rfl
      have h₁ : Tells [ev₁] [] [] := ⟨rfl, rfl, rfl, Unopened.single rfl, Uninterrupted.single rfl⟩
      have h₂ : Tells [ev₂] [status] [] :=
        ⟨by rw [List.filterMap_cons_some hread, List.filterMap_nil], rfl, rfl, Unopened.single rfl,
          Uninterrupted.single rfl⟩
      exact h₁.append h₂

/-- The analyzer is over what the two registries answered. -/
theorem sat_analyzerFor {s : Snapshot} :
    Sat (Dispatchable e now) (e.analyzerFor s) t (OnOk fun t' analyzer =>
      ∃ es, t' = t ++ es ∧ (∀ ev ∈ es, Quiet ev.call) ∧
        ∃ g tasks owners, ProcessGraph.fromSnapshot s = .ok g ∧
          (⟨.tasks .bindings, .ok tasks⟩ : EngineEvent) ∈ es ∧
          (⟨.sessionOwners .bindings, .ok owners⟩ : EngineEvent) ∈ es ∧
          analyzer = e.analyzerOver g tasks owners) := by
  refine Sat.okThen fun g hg => sat_onTasks trivial fun tasks => ?_
  refine sat_onSessionOwners trivial fun owners => ?_
  refine ⟨[⟨.tasks .bindings, .ok tasks⟩, ⟨.sessionOwners .bindings, .ok owners⟩], by simp, ?_, g,
    tasks, owners, hg, by simp, by simp, rfl⟩
  intro ev hev
  rcases List.mem_pair.1 hev with rfl | rfl
  · exact trivial
  · exact trivial

/-- A cycle that is still authorized started under that authority. -/
theorem sat_stillAuthorized {lifecycle : ServiceStatus} :
    Sat (Dispatchable e now) (stillAuthorized lifecycle epoch revision now) t (OnOk fun t' b =>
      ∃ es, t' = t ++ es ∧ Still es ∧ Unopened es ∧
        (b = true → lifecycle.effectiveMode = .enforce ∧
          lifecycle.enforcementEpoch = some epoch)) := by
  refine Sat.andThen sat_statusAt ?_
  rintro t' status ⟨es, rfl, htells, hworker⟩
  have hstill : Still es := ⟨htells.snapshots, htells.uninterrupted, hworker⟩
  extract_lets paused
  split
  · rename_i hif
    refine Sat.ask trivial fun current => ?_
    refine ⟨es ++ [⟨.cleanupPolicyRevision, current⟩], List.append_assoc .., ?_, ?_,
      fun _ => ⟨hif.1, hif.2.1⟩⟩
    · exact hstill.append (Still.single rfl rfl fun _ => rfl)
    · exact htells.unopened.append (Unopened.single rfl)
  · exact ⟨es, rfl, hstill, htells.unopened, fun h => by cases h⟩

theorem sat_mayDispatch {authorized : Bool} {worker : Option BackgroundCleanup} :
    Sat (Dispatchable e now) (mayDispatch authorized worker) t (OnOk fun t' may =>
      ∃ es, t' = t ++ es ∧ (∀ ev ∈ es, Quiet ev.call) ∧
        (may = true → authorized = true ∧ worker = none)) := by
  unfold mayDispatch
  split
  · rename_i hauthorized
    refine Sat.ask trivial fun stopped => ?_
    refine ⟨[⟨.shouldStop, stopped⟩], rfl, by simp [Quiet], fun hmay => ⟨hauthorized, ?_⟩⟩
    simp only [Bool.and_eq_true, Option.isNone_iff_eq_none] at hmay
    exact hmay.2
  · exact ⟨[], (List.append_nil t).symm, by simp, fun h => by cases h⟩

theorem only_noteIncidents {incidents : List IncidentReport} {receipts : List CleanupReceipt} :
    (noteIncidents incidents receipts).Only Quiet :=
  Prog.Only.bind (only_onPlane trivial) fun _ => Prog.only_pure

theorem only_prune : (e.prune now).Only Quiet := by
  refine Prog.Only.ask trivial fun pruned => Prog.only_orThrow.bind fun r => ?_
  exact Prog.only_orThrow.bind fun _ => Prog.only_pure

theorem only_publish {o : Observation} {incidents : List IncidentReport} :
    (publish cycleToken o incidents).Only Quiet := by
  refine only_perform.bind fun _ => Prog.Only.bind (only_onPlane trivial) fun found => ?_
  exact Prog.only_orThrow

/-- **Every attempt a cycle asks for is justified.** The parts in their
order: what each has seen is what the next goes on with. -/
theorem sat_runCycleInner (h : Tells t [] []) (hworker : liveWorker e.worker t = e.worker) :
    Sat (Dispatchable e now) (e.runCycleInner now cycleToken) t (OnOk fun _ _ => True) := by
  refine Sat.andThen sat_collectBackgroundCleanup ?_
  rintro - ⟨collected, worker⟩ ⟨es₁, rfl, hes₁, hworker₁⟩
  refine Sat.andThen sat_statusAt ?_
  rintro - lifecycle ⟨es₂, rfl, hes₂, hworker₂⟩
  refine Sat.ask trivial fun revision => ?_
  -- everything asked before the first snapshot: the freshness of the sighting counts from here
  set before : EngineTrace := t ++ es₁ ++ es₂ ++ [⟨.cleanupPolicyRevision, revision⟩] with hbefore
  have hbegun : Begun e before lifecycle revision worker :=
    { ((h.append hes₁).append hes₂).append
        (⟨rfl, rfl, rfl, Unopened.single rfl, Uninterrupted.single rfl⟩ :
          Tells [⟨.cleanupPolicyRevision, revision⟩] [] [revision]) with
      worker := by
        rw [hbefore, liveWorker_append, liveWorker_append, liveWorker_append, hworker, hworker₁,
          hworker₂]
        rfl }
  extract_lets epoch
  refine sat_snapshot trivial fun first => ?_
  refine Sat.onlyThen only_refreshTaskOwnership Dispatchable.quiet fun es₃ _ hes₃ => ?_
  refine sat_clockSample trivial fun sample => ?_
  refine Sat.andThen sat_analyzerFor ?_
  rintro - analyzer ⟨es₄, rfl, hes₄, g, tasks, owners, hg, htasks, howners, rfl⟩
  set between : EngineTrace := es₃ ++ (⟨.clockSample, .ok sample⟩ :: es₄) with hbetween
  -- nothing between the snapshot and the look at it opens an attempt or reads the policy
  have hquiet : ∀ ev ∈ between, Quiet ev.call := by
    intro ev hev
    rcases List.mem_append.1 hev with hev | hev
    · exact hes₃ ev hev
    · rcases List.mem_cons.1 hev with rfl | hev
      · exact trivial
      · exact hes₄ ev hev
  have htrace : before ++ [⟨.snapshot, .ok first⟩] ++ es₃ ++ [⟨.clockSample, .ok sample⟩] ++ es₄
      = before ++ ⟨.snapshot, .ok first⟩ :: between := by
    simp [hbetween]
  rw [htrace]
  refine Sat.andThen (sat_observe hbegun hquiet ⟨g, tasks, owners, hg, ?_, ?_, rfl⟩) ?_
  · exact List.mem_append_right _ (List.mem_cons_of_mem _ htasks)
  · exact List.mem_append_right _ (List.mem_cons_of_mem _ howners)
  intro t₅ o hsighted
  refine Sat.onlyThen only_reconcileStore Dispatchable.quiet fun es₆ _ hes₆ => ?_
  refine Sat.andThen (sat_applyProtections o.incidents _) ?_
  rintro - incidents ⟨es₇, rfl, hes₇, hkept⟩
  refine Sat.onlyThen only_publish Dispatchable.quiet fun es₈ _ hes₈ => ?_
  refine Sat.andThen sat_stillAuthorized ?_
  rintro - authorized ⟨es₉, rfl, hstill, hopen, hauthorized⟩
  refine Sat.andThen sat_mayDispatch ?_
  rintro - may ⟨es₁₀, rfl, hes₁₀, hmay⟩
  -- with the permission answered no, nothing is dispatched and nothing is left to justify
  refine Sat.andThen (P := fun _ _ => True) ?_ ?_
  · unfold dispatchIf
    split
    · rename_i hgo
      obtain ⟨hyes, hidle⟩ := hmay hgo
      obtain ⟨hmode, hepoch⟩ := hauthorized hyes
      have hall := (hsighted ⟨hmode, hepoch, hidle⟩).quiet hes₆
      refine sat_dispatch incidents _ _ ?_
      refine (((ConsideredAll.quiet ?_ hes₈).extend hstill fun _ => hopen).quiet hes₁₀)
      intro report hmem hstate
      obtain ⟨hin, s, hs, hfree⟩ := hkept report hmem hstate
      obtain ⟨c, hc, hsight⟩ := hall report hin hstate
      refine ⟨c.extend es₇, by rw [c.extend_trace, hc], ?_⟩
      exact
        { hsight.extend (Still.quiet hes₇) fun _ => Unopened.quiet hes₇ with
          confirmed := hstate
          unprotected := ⟨s, List.mem_append_right _ hs, hfree⟩ }
    · exact trivial
  · intro t' receipts _
    refine Sat.onlyThen only_noteIncidents Dispatchable.quiet fun _ _ _ => ?_
    exact Sat.onlyThen only_prune Dispatchable.quiet fun _ _ _ => trivial

theorem sat_runCycleAtUntil {enforcementEpoch : String} :
    Sat (Dispatchable e now) (e.runCycleAtUntil now cycleToken enforcementEpoch) []
      (OnOk fun _ _ => True) := by
  refine sat_onPlane trivial fun found => ?_
  set ev : EngineEvent := ⟨.plane (.beginObservationCycle cycleToken now), .ok found⟩
  have hev : ∀ x ∈ [ev], Quiet x.call := by
    intro x hx
    obtain rfl := List.mem_singleton.1 hx
    exact trivial
  refine Sat.andThen (P := fun _ _ => True) ?_ ?_
  · refine sat_attempt.2 ((sat_runCycleInner ?_ ?_).mono fun _ _ _ => trivial)
    · exact Tells.quiet hev
    · exact (Still.quiet hev).worker _
  · rintro t (error | report) -
    · refine Sat.onlyThen only_terminalTimestamp Dispatchable.quiet fun _ failedAt _ => ?_
      refine Sat.ask trivial fun _ => ?_
      refine Sat.onlyThen only_failClosed Dispatchable.quiet fun _ _ _ => ?_
      exact Sat.ask trivial fun _ => trivial
    · refine Sat.onlyThen only_terminalTimestamp Dispatchable.quiet fun _ completedAt _ => ?_
      refine Sat.ask trivial fun _ => ?_
      refine sat_onPlane trivial fun _ => sat_onPlane trivial fun f => ?_
      exact Sat.okThen fun _ _ => trivial

end ReconciliationEngine

end Cycle

/-! ## An attempt that was opened -/

/-- What a call that opens an attempt found. -/
structure OpenedAt (f : FoundPlane) (report : IncidentReport) (epoch : String) (revision : Nat) :
    Prop where
  enforcing : f.service.status.effectiveMode = .enforce
  epoch : f.service.status.enforcementEpoch = some epoch
  revision : f.service.cleanupPolicyRevision = revision
  noneOpen : f.service.store.openAttempts = []
  unblocked : f.service.store.cleanupBlocked report.incidentId = false

theorem FoundPlane.openedAt {f : FoundPlane} {now revision : Nat} {report : IncidentReport}
    {epoch : String} {attempt : CleanupAttemptHandle}
    (h : f.beginCleanupAttemptIfArmed now report epoch revision = .ok (some attempt)) :
    OpenedAt f report epoch revision := by
  unfold FoundPlane.beginCleanupAttemptIfArmed at h
  split at h
  · split at h
    · cases h
    · cases h
  · obtain ⟨⟨p, opened⟩, hbegin, rfl⟩ := map_eq_ok.1 h
    unfold ControlPlane.beginCleanupAttemptIfArmed at hbegin
    split at hbegin
    · cases hbegin
    · rename_i hgate
      simp only [Bool.or_eq_true, Bool.not_eq_true', bne_iff_ne, not_or, not_not,
        Bool.not_eq_false] at hgate
      obtain ⟨harmed, hrevision⟩ := hgate
      unfold DaemonStatus.signalGateMatches at harmed
      split at harmed
      · cases harmed
      · rename_i hopen
        simp only [Bool.or_eq_true, bne_iff_ne, not_or, not_not] at hopen
        cases hstore : f.service.plane.store.beginCleanupAttempt now report epoch with
        | error err =>
            rw [hstore] at hbegin
            cases hbegin
        | ok r =>
            obtain ⟨s, handle⟩ := r
            obtain ⟨a, row, hbegins, -⟩ := Store.beginCleanupAttempt_ok hstore
            exact
              { enforcing := hopen.1.2
                epoch := hopen.2
                revision := hrevision
                noneOpen := hbegins.noneOpen
                unblocked := by
                  have hnone : f.service.store.retryBlocks.lookup report.incidentId = none :=
                    hbegins.unblocked
                  rw [Store.cleanupBlocked, OrdMap.contains, hnone]
                  rfl }

/-- An event that opened an attempt asked for it, and found the plane
armed. -/
theorem opened_eq_some {ev : EngineEvent} {attempt : CleanupAttemptHandle}
    (h : opened ev = some attempt) : ∃ now report epoch revision f,
      ev = ⟨.plane (.beginCleanupAttemptIfArmed now report epoch revision), .ok f⟩ ∧
        OpenedAt f report epoch revision := by
  obtain ⟨c, r⟩ := ev
  cases c with
  | plane c =>
      cases c with
      | beginCleanupAttemptIfArmed now report epoch revision =>
          cases r with
          | error err => cases h
          | ok f =>
              refine ⟨now, report, epoch, revision, f, rfl, ?_⟩
              have hjoin : (f.beginCleanupAttemptIfArmed now report epoch revision).toOption.join
                  = some attempt := h
              cases hbegin : f.beginCleanupAttemptIfArmed now report epoch revision with
              | error err =>
                  rw [hbegin] at hjoin
                  cases hjoin
              | ok opened =>
                  rw [hbegin] at hjoin
                  have hopened : opened = some attempt := hjoin
                  exact FoundPlane.openedAt (hopened ▸ hbegin)
      | _ => cases h
  | _ => cases h

/-- **Dispatch safety.** In every run of a cycle, whatever the runtime, the
stop callback, the worker and the store answer and whoever changes the
plane in between: an attempt is opened only where it is justified, by a
call that found the plane enforcing under the epoch and with the counter
read at the start, no attempt open and no retry block; with cleanups in
the background at most one is opened, and none where the wait between the
observations was interrupted. -/
theorem dispatch_safe {e : ReconciliationEngine} {now : Nat} {cycleToken enforcementEpoch : String}
    {t : EngineTrace} {o : Except EngineError CycleReport}
    (h : Runs (e.runCycleAtUntil now cycleToken enforcementEpoch) t o) :
    (∀ before ev after attempt, t = before ++ ev :: after → opened ev = some attempt →
      ∃ report epoch revision f,
        ev = ⟨.plane (.beginCleanupAttemptIfArmed now report epoch revision), .ok f⟩ ∧
          OpenedAt f report epoch revision ∧
          ∃ c : CycleCut, c.trace = before ∧ Justified e c report epoch revision) ∧
    (e.backgroundCleanup = true → (t.countP fun ev => (opened ev).isSome) ≤ 1) ∧
    ((∃ ev ∈ t, waitInterruptedBy ev = true) → Unopened t) := by
  have hguarded : Guarded (Dispatchable e now) [] t :=
    (ReconciliationEngine.sat_runCycleAtUntil.sound h).1
  have hjustified : ∀ before ev after attempt, t = before ++ ev :: after →
      opened ev = some attempt → ∃ report epoch revision f,
        ev = ⟨.plane (.beginCleanupAttemptIfArmed now report epoch revision), .ok f⟩ ∧
          OpenedAt f report epoch revision ∧
          ∃ c : CycleCut, c.trace = before ∧ Justified e c report epoch revision := by
    intro before ev after attempt ht hopened
    obtain ⟨at_, report, epoch, revision, f, rfl, hat⟩ := opened_eq_some hopened
    obtain ⟨rfl, c, hc, hj⟩ := hguarded before _ after ht
    exact ⟨report, epoch, revision, f, rfl, hat, c, hc, hj⟩
  refine ⟨hjustified, ?_, ?_⟩
  · intro hbackground
    refine countP_le_one fun before ev after ht hev x hx => ?_
    obtain ⟨attempt, hopened⟩ := Option.isSome_iff_exists.1 hev
    obtain ⟨report, epoch, revision, f, -, -, c, rfl, hj⟩ :=
      hjustified before ev after attempt ht hopened
    rw [hj.onlyOne hbackground x hx]
    rfl
  · rintro ⟨wait, hwait, hinterrupted⟩ ev hev
    by_contra hne
    obtain ⟨attempt, hopened⟩ := Option.ne_none_iff_exists'.1 hne
    obtain ⟨before, after, rfl⟩ := List.append_of_mem hev
    obtain ⟨report, epoch, revision, f, hcall, -, c, rfl, hj⟩ :=
      hjustified before ev after attempt rfl hopened
    rcases List.mem_append.1 hwait with hwait | hwait
    · -- a wait before the attempt was not interrupted
      rw [hj.uninterrupted wait hwait] at hinterrupted
      cases hinterrupted
    · rcases List.mem_cons.1 hwait with rfl | hwait
      · rw [hcall] at hinterrupted
        cases hinterrupted
      · -- and none comes after it
        obtain ⟨d, rfl⟩ := waitInterruptedBy_eq_true hinterrupted
        obtain ⟨middle, rest, rfl⟩ := List.append_of_mem hwait
        have hbefore : Unopened (c.trace ++ ev :: middle) :=
          hguarded (c.trace ++ ev :: middle) ⟨.waitUntil d, .ok .interrupted⟩ rest (by simp)
        rw [hbefore ev (by simp)] at hopened
        cases hopened

/-! ## Machines to run a cycle on -/

/-- An engine of the shipped rules. -/
def sampleEngine (backgroundCleanup : Bool) : ReconciliationEngine where
  rules := .embedded
  config := {}
  selfPid := none
  backgroundCleanup := backgroundCleanup
  worker := none

/-- A machine where nothing fails: its processes and its session owners. -/
structure SampleMachine where
  processes : List ProcessRecord
  owners : SessionOwnerTables

namespace SampleMachine

/-- The store of a cycle that began with an empty one. -/
def storeAfter (t : EngineTrace) : Store :=
  t.foldl (fun s ev =>
    match ev.call with
    | .store (.perform op) => s.committed op
    | .plane (.beginCleanupAttemptIfArmed now report epoch _) =>
        s.committed (.beginCleanupAttempt now report epoch)
    | _ => s) (.empty Store.sampleToken)

/-- The plane of an enforcing daemon that nobody manages. -/
def plane (t : EngineTrace) : Except ControlError FoundPlane :=
  let status : DaemonStatus :=
    { DaemonStatus.new .enforce "instance" with ready := true, startupState := .readyEnforce }
  .ok ⟨⟨storeAfter t, { ServiceStatus.new .enforce "instance" with
    toDaemonStatus := status, healthy := true }, 1, ⟨none, .scanInProgress, some "cycle"⟩⟩, none,
    none⟩

/-- A signal was sent. -/
def signalled (ev : EngineEvent) : Bool :=
  match ev.call with
  | .signalExact _ _ => true
  | _ => false

variable (m : SampleMachine)

/-- What the machine answers. It is so busy that the second observation
comes ninety seconds after the first, and the daemon is told to stop after
the first signal. -/
def answers (t : EngineTrace) : (c : EngineCall) → EngineAnswer c
  | .snapshot => .ok (sampleSnapshot m.processes)
  | .clockSample =>
      if (t.filterMap snapshotTaken).length ≤ 1 then .ok ⟨⟨110000⟩, 0, "boot"⟩
      else .ok ⟨⟨200000⟩, 90000, "boot"⟩
  | .waitUntil _ => .ok .deadlineReached
  | .cleanupPolicyRevision => 1
  | .plane _ => plane t
  | .store _ => .ok (storeAfter t)
  | .prune _ _ => .ok (storeAfter t, Store.sampleToken)
  | .tasks _ => .ok .empty
  | .sessionOwners _ => .ok m.owners
  | .joinWorker => none
  | .spawnWorker _ => .ok ()
  | .lookupProcess _ => .ok none
  | .shouldStop => t.any signalled
  | .workerFinished | .cancelled => false
  | .signalExact _ _ => ⟨plane t, false, .delivered⟩
  | .removeArtifactExact _ => ⟨plane t, false, .removed⟩
  | .cleanup .snapshot => .ok (sampleSnapshot m.processes)
  | .cleanup c => calmWorld (fun _ => m.processes) [] c

/-- A cycle on the machine. -/
def run (backgroundCleanup : Bool) : EngineTrace × Except EngineError CycleReport :=
  ((sampleEngine backgroundCleanup).runCycleAtUntil 200000 "cycle" "epoch").runWith m.answers []

theorem run_runs (backgroundCleanup : Bool) :
    Runs ((sampleEngine backgroundCleanup).runCycleAtUntil 200000 "cycle" "epoch")
      (m.run backgroundCleanup).1 (m.run backgroundCleanup).2 :=
  runs_of_runWith (Prod.mk.eta (p := m.run backgroundCleanup)).symm

end SampleMachine

/-- A machine with one browser left behind. -/
def strayMachine : SampleMachine := ⟨[strayBrowser], .empty⟩

end Unlinger
