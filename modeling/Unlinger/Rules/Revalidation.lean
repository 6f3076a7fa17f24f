import Unlinger.Rules.Helpers.Reports
import Unlinger.Core.Helpers.Execute

/-!
# What an eligible revalidation authorises

Eligible before a signal is what is left when every refusal was passed:
the frozen targets in the snapshot are exactly themselves and unprotected,
no other session holds any of them, and the plan's own session, where it
is still observed, is unprotected and has nobody new.
-/

namespace Unlinger

variable {a : Analyzer} {s : Snapshot} {plan : CleanupPlan} {reports : List IncidentReport}

/-! ## Frozen identities -/

theorem identityOf_isSome {pid : Pid} :
    (plan.identityOf pid).isSome = true ↔ ∃ x ∈ plan.targets, x.identity.pid = pid := by
  have h : _ ↔ ∃ v, (pid, v) ∈ plan.targets.map fun t => (t.identity.pid, t.identity) :=
    OrdMap.contains_ofList
  rw [OrdMap.contains] at h
  rw [CleanupPlan.identityOf, h]
  constructor
  · rintro ⟨v, hv⟩
    obtain ⟨x, hx, heq⟩ := List.mem_map.1 hv
    exact ⟨x, hx, congrArg Prod.fst heq⟩
  · rintro ⟨x, hx, rfl⟩
    exact ⟨x.identity, List.mem_map.2 ⟨x, hx, rfl⟩⟩

/-- An identity the plan holds exactly is some target's. -/
theorem holdsExactly_target {identity : ProcessIdentity} (h : plan.holdsExactly identity = true) :
    ∃ x ∈ plan.targets, x.identity.exactMatch identity = true := by
  unfold CleanupPlan.holdsExactly at h
  cases hf : plan.identityOf identity.pid with
  | none => simp [hf] at h
  | some frozen =>
      rw [hf] at h
      obtain ⟨x, hx, heq⟩ := List.mem_map.1 (OrdMap.lookup_ofList hf)
      have hx' : x.identity = frozen := congrArg Prod.snd heq
      exact ⟨x, hx, hx' ▸ h⟩

/-- With distinct pids it is the target of its pid. -/
theorem holdsExactly_all {identity : ProcessIdentity} (hd : plan.Distinct)
    (h : plan.holdsExactly identity = true) {x : ProcessTarget} (hx : x ∈ plan.targets)
    (hpid : x.identity.pid = identity.pid) : x.identity.exactMatch identity = true := by
  obtain ⟨y, hy, hmatch⟩ := holdsExactly_target h
  have hyid : y.identity = identity := (ProcessIdentity.exactMatch_iff.1 hmatch).1
  have hxy : x = y := List.inj_on_of_nodup_map hd hx hy (by rw [hpid, hyid])
  exact hxy ▸ hmatch

/-! ## The refusals passed -/

/-- What is left of `revalidateTargets` when it says Eligible. -/
theorem revalidateTargets_eligible
    (h : (a.revalidateTargets s plan reports).status = .eligible) :
    (∃ p ∈ s.processes, (plan.identityOf p.pid).isSome = true) ∧
    (∀ p ∈ s.processes, (plan.identityOf p.pid).isSome = true →
      plan.holdsExactly p.identity = true ∧ a.targetProtected s p = false) ∧
    (∀ r ∈ reports, (∃ t ∈ r.targets, plan.holdsExactly t.identity = true) →
      r.sessionFingerprint = plan.sessionFingerprint) ∧
    (∀ r ∈ reports, r.sessionFingerprint = plan.sessionFingerprint →
      r.stillEligible = true ∧ ∀ t ∈ r.targets, plan.holdsExactly t.identity = true) := by
  unfold Analyzer.revalidateTargets at h
  simp only at h
  split_ifs at h with hnone hchanged hprot hover hdown hnew
  simp only [List.isEmpty_iff, List.filter_eq_nil_iff, not_forall, not_not] at hnone
  simp only [List.any_eq_true, List.mem_filter, not_exists, not_and, and_imp,
    beq_iff_eq, bne_iff_ne, Bool.and_eq_true, Bool.not_eq_true'] at hchanged hprot hover hdown hnew
  obtain ⟨p, hp, hsome⟩ := hnone
  refine ⟨⟨p, hp, hsome⟩, fun p hp hpid => ⟨?_, ?_⟩, fun r hr ht => ?_,
    fun r hr hfp => ⟨?_, fun t ht => ?_⟩⟩
  · simpa using hchanged p hp hpid
  · simpa using hprot p hp hpid
  · obtain ⟨t, ht, hexact⟩ := ht
    by_contra hne
    exact hover r hr hne t ht hexact
  · simpa using hdown r hr hfp
  · simpa using hnew r hr hfp t ht

/-- **An eligible revalidation authorises only the frozen, still
unprotected session.** -/
theorem revalidate_eligible_sound
    (h : (a.revalidate s plan .beforeSignal).status = .eligible) :
    (∃ p ∈ s.processes, ∃ x ∈ plan.targets, x.identity.pid = p.pid) ∧
    (∀ p ∈ s.processes, (∃ x ∈ plan.targets, x.identity.pid = p.pid) →
      (∃ x ∈ plan.targets, x.identity.exactMatch p.identity = true) ∧
      (plan.Distinct → ∀ x ∈ plan.targets, x.identity.pid = p.pid →
        x.identity.exactMatch p.identity = true) ∧
      p.uid = s.currentUid ∧ s.currentUid ≠ 0 ∧ p.hasCompleteClassificationFacts = true ∧
      a.context.selfPid ≠ some p.pid ∧ p.pid ∉ a.context.ancestorPids) ∧
    ∃ reports, a.observe s = .ok reports ∧
      (∀ r ∈ reports,
        (∃ t ∈ r.targets, ∃ x ∈ plan.targets, x.identity.exactMatch t.identity = true) →
        r.sessionFingerprint = plan.sessionFingerprint) ∧
      ∀ r ∈ reports, r.sessionFingerprint = plan.sessionFingerprint →
        r.state = .cooling ∧ r.gates.sameUser = true ∧
        r.gates.strongAutomationProvenance = true ∧ r.gates.isolatedSession = true ∧
        r.gates.noProtectionRule = true ∧
        ∀ t ∈ r.targets, ∃ x ∈ plan.targets, x.identity.exactMatch t.identity = true := by
  unfold Analyzer.revalidate at h
  split_ifs at h with hfacts
  cases hobs : a.observe s with
  | error e => simp [hobs] at h
  | ok reports =>
      rw [hobs] at h
      obtain ⟨hsome, hcur, hover, hmatch⟩ := revalidateTargets_eligible h
      refine ⟨?_, fun p hp hpid => ?_, reports, rfl, fun r hr ht => ?_, fun r hr hfp => ?_⟩
      · obtain ⟨p, hp, hpid⟩ := hsome
        exact ⟨p, hp, identityOf_isSome.1 hpid⟩
      · obtain ⟨hexact, hprot⟩ := hcur p hp (identityOf_isSome.2 hpid)
        simp only [Analyzer.targetProtected, Bool.or_eq_false_iff, beq_eq_false_iff_ne,
          bne_eq_false_iff_eq, Bool.not_eq_false', List.contains_eq_mem, decide_eq_false_iff_not]
          at hprot
        obtain ⟨⟨⟨⟨huid, huser⟩, hcomplete⟩, hself⟩, hanc⟩ := hprot
        exact ⟨holdsExactly_target hexact, fun hd x hx hxp => holdsExactly_all hd hexact hx hxp,
          huser, huser ▸ huid, hcomplete, hself, hanc⟩
      · -- a target of a report is a process of the snapshot, and that one is exact
        obtain ⟨t, ht, x, hx, hxt⟩ := ht
        obtain ⟨p, hp, hpt⟩ := target_mem hobs hr ht
        have hid : x.identity = t.identity := (ProcessIdentity.exactMatch_iff.1 hxt).1
        have hpid : x.identity.pid = p.pid := by rw [hid, ← hpt]; rfl
        have hexact := (hcur p hp (identityOf_isSome.2 ⟨x, hx, hpid⟩)).1
        rw [hpt] at hexact
        exact hover r hr ⟨t, ht, hexact⟩
      · obtain ⟨hstill, htargets⟩ := hmatch r hr hfp
        simp only [IncidentReport.stillEligible, Bool.and_eq_true, beq_iff_eq] at hstill
        obtain ⟨⟨⟨⟨hstate, huser⟩, hprov⟩, hiso⟩, hprot⟩ := hstill
        exact ⟨hstate, huser, hprov, hiso, hprot, fun t ht => holdsExactly_target (htargets t ht)⟩

/-! ## A sample session -/

/-- A headless automation browser with a debugging pipe. -/
def sampleBrowser (pid parentPid : Pid) (profile : List String) : ProcessRecord where
  identity := sampleIdentity pid
  parentPid := parentPid
  processGroupId := pid
  uid := 501
  ttyDevice := none
  name := "Google Chrome for Testing"
  executablePath := some "/Applications/Google Chrome for Testing"
  executable := ⟨some 1, some pid⟩
  arguments := some (["--headless", "--remote-debugging-pipe"] ++ profile)
  residentMemoryBytes := 1024
  runtime :=
    { taskSessionFactsComplete := true
      debugTransportFactsComplete := true
      appBundle := some ⟨"com.google.chrome.for.testing", "151.0.7922.34"⟩ }

/-- A snapshot that left nobody out. -/
def sampleSnapshot (processes : List ProcessRecord) : Snapshot :=
  ⟨100000, 501, processes, ⟨processes.length, processes.length, 0, 0, 0⟩⟩

/-- A browser whose controller is gone. -/
def strayBrowser : ProcessRecord :=
  sampleBrowser 101 1 ["--user-data-dir=/tmp/playwright_chromiumdev_profile-a"]

/-- The rules as shipped, about nobody in particular. -/
def embeddedAnalyzer : Analyzer := ⟨RuleSet.embedded, {}⟩

/-- The plan to reclaim it. -/
def strayPlan : CleanupPlan where
  incidentId := "inc-c4ce8a4641239d75"
  trackingKey := "trk-e67bde5fb1ca7221"
  sessionFingerprint := "ses-97bb93609f50ae18"
  signaturePack := "playwright"
  signatureVersion := "0.6.0"
  rootIdentity := sampleIdentity 101
  memberFingerprint := "0e6278884a05ffd6"
  targets := [⟨sampleIdentity 101, 101, .browserRoot⟩]
  artifacts := []

/-- The stray browser may be signalled, for it is still its own session. -/
theorem revalidate_eligible_sound_stray :
    (embeddedAnalyzer.revalidate (sampleSnapshot [strayBrowser]) strayPlan .beforeSignal).status
        = .eligible ∧
      ∃ reports, embeddedAnalyzer.observe (sampleSnapshot [strayBrowser]) = .ok reports ∧
        ∀ r ∈ reports, r.sessionFingerprint = strayPlan.sessionFingerprint →
          r.state = .cooling := by
  have h : (embeddedAnalyzer.revalidate (sampleSnapshot [strayBrowser]) strayPlan
      .beforeSignal).status = .eligible := by decide +kernel
  obtain ⟨-, -, reports, hobs, -, hmatch⟩ := revalidate_eligible_sound h
  exact ⟨h, reports, hobs, fun r hr hfp => (hmatch r hr hfp).1⟩

end Unlinger
