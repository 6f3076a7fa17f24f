import Unlinger.Rules.Fingerprints
import Unlinger.Rules.Isolation

/-!
# When a revived profile is seen

The check after a cleanup asks whether the session is back, and a session
is recognised by one fingerprint over all the profiles of its browsers. A
profile that is back in a session with other profiles beside it, or
without those it had, has another fingerprint and is not seen. The check
sees what is back exactly when some session is on the very list of
profiles the planned one was on, or on a list that collides with it.
-/

namespace Unlinger

variable {a a' : Analyzer} {s₁ s₂ : Snapshot} {g₁ g₂ : ProcessGraph} {session : Session}
  {reports₁ reports₂ first : List IncidentReport} {r : IncidentReport} {keys : List String}
  {plan : CleanupPlan}

/-! ## The property and its condition -/

/-- A browser root of the report runs on the profile of that normalized
path. -/
def UsesProfile (s : Snapshot) (r : IncidentReport) (path : String) : Prop :=
  ∃ t ∈ r.targets, t.role = .browserRoot ∧ ∃ p ∈ s.processes, p.identity = t.identity ∧
    ∃ dir, userDataDir p = some dir ∧ normalize dir = path

/-- Some report of the second snapshot is on a profile of the first's. -/
def ProfileBack (s₁ : Snapshot) (r : IncidentReport) (s₂ : Snapshot)
    (reports₂ : List IncidentReport) : Prop :=
  ∃ r₂ ∈ reports₂, ∃ path, UsesProfile s₁ r path ∧ UsesProfile s₂ r₂ path

/-- A session is on the list of profiles another one was on, in any order.
One without a profile is on what its root is called in their place. -/
def SameProfiles (back session : Session) : Prop :=
  back.profileRows.Perm session.profileRows ∨
    back.profileRows = [] ∧ session.profileRows = [back.fallbackRow]

/-- The lists differ, and happen to have one hash. -/
def Collides (back session : Session) : Prop :=
  ¬ SameProfiles back session ∧ fnvHash back.rowStream = fnvHash session.rowStream

/-! ## Profiles -/

/-- The profiles of a session's report are those its browsers name. -/
theorem usesProfile_iff {a : Analyzer} {s : Snapshot} {g : ProcessGraph} {session : Session}
    (hs : session ∈ a.sessions g) (hg : ProcessGraph.fromSnapshot s = .ok g)
    (htargets : r.targets = session.targets) {path : String} :
    UsesProfile s r path ↔ path ∈ session.profileRows := by
  rw [Session.profileRows, Session.profilePaths, List.mem_map]
  constructor
  · rintro ⟨t, ht, hrole, p, hp, hid, dir, hdir, rfl⟩
    rw [htargets] at ht
    obtain ⟨m, hm, rfl⟩ := List.mem_map.1 ht
    obtain ⟨hmget, -⟩ := (mem_members hs hg).1 hm
    obtain rfl : p = m := eq_of_identity hg hp (get_mem hg hmget).1 hid
    have hbrowser : p ∈ session.browserRoots :=
      (mem_browserRoots hs hg).2 ⟨hmget, processRole_browserRoot hrole⟩
    exact ⟨dir, List.mem_filterMap.2 ⟨p, hbrowser, hdir⟩, rfl⟩
  · rintro ⟨dir, hdir, rfl⟩
    obtain ⟨p, hp, hpdir⟩ := List.mem_filterMap.1 hdir
    have hget := ((mem_browserRoots hs hg).1 hp).1
    exact ⟨_, htargets ▸ browserRoot_target hs hg hp, rfl, p, (get_mem hg hget).1, rfl, dir, hpdir,
      rfl⟩

/-- Where a session has profiles, one has its rows that is on the same. -/
theorem rows_eq_iff {back session : Session} (hnonempty : session.profileRows ≠ []) :
    back.rows = session.rows ↔ SameProfiles back session := by
  constructor
  · intro h
    rcases Session.profileRows_of_rows h with hperm | ⟨hnil, hspelled⟩ | ⟨hnil, -⟩
    · exact Or.inl hperm
    · exact Or.inr ⟨hnil, hspelled⟩
    · exact absurd hnil hnonempty
  · have hpaths : session.profilePaths ≠ [] := fun hnil => hnonempty (by
      rw [Session.profileRows, hnil]
      rfl)
    rw [Session.rows_eq, Session.rows_eq, if_neg hpaths]
    rintro (hperm | ⟨hnil, hspelled⟩)
    · have hback : back.profilePaths ≠ [] := by
        intro hnil
        rw [Session.profileRows, hnil, List.map_nil] at hperm
        exact hnonempty (List.nil_perm.1 hperm)
      rw [if_neg hback]
      exact insertionSort_eq_iff.2 hperm
    · rw [if_pos (List.map_eq_nil_iff.1 hnil), hspelled]
      rfl

/-- Two sessions have one fingerprint where the hashes of their rows are
one. -/
theorem fingerprint_eq_iff {back session : Session} :
    back.fingerprint = session.fingerprint
      ↔ fnvHash back.rowStream = fnvHash session.rowStream := by
  refine ⟨Session.fnvHash_of_fingerprint, fun h => ?_⟩
  rw [Session.fingerprint, Session.fingerprint, fingerprintParts_eq, fingerprintParts_eq]
  exact congrArg (fun hash : UInt64 => "ses-" ++ String.ofList (hexDigits 16 hash.toNat)) h

/-- So it is with the same profiles, and else by accident alone. -/
theorem fingerprint_eq_iff_profiles {back session : Session}
    (hnonempty : session.profileRows ≠ []) :
    back.fingerprint = session.fingerprint
      ↔ SameProfiles back session ∨ Collides back session := by
  rw [fingerprint_eq_iff]
  constructor
  · intro h
    by_cases hsame : SameProfiles back session
    · exact Or.inl hsame
    · exact Or.inr ⟨hsame, h⟩
  · rintro (hsame | ⟨-, h⟩)
    · rw [Session.rowStream, Session.rowStream, (rows_eq_iff hnonempty).2 hsame]
    · exact h

/-! ## The check -/

/-- With the pack of the plan at hand, a complete snapshot leaves out
nothing a revalidation rests on. -/
theorem revalidationFacts_complete (hcover : s₂.provesCompleteClassificationCoverage = true)
    {pack : SignaturePack} (hpack : pack ∈ a'.rules.packs) (hid : pack.id = plan.signaturePack)
    (hversion : pack.version = plan.signatureVersion) :
    revalidationFactsIncomplete a' s₂ plan = false := by
  simp only [Snapshot.provesCompleteClassificationCoverage,
    Snapshot.provesCompleteExactIdentityCoverage, Bool.and_eq_true, beq_iff_eq,
    List.all_eq_true] at hcover
  obtain ⟨⟨⟨⟨⟨⟨hlisted, hreadable⟩, -⟩, hlength⟩, -⟩, -⟩, hfacts⟩ := hcover
  have hfound : ∃ found, a'.rules.packs.find? (fun pack =>
      pack.id == plan.signaturePack && pack.version == plan.signatureVersion) = some found := by
    rw [← Option.isSome_iff_exists, List.find?_isSome]
    exact ⟨pack, hpack, by simp [hid, hversion]⟩
  obtain ⟨found, hfound⟩ := hfound
  unfold revalidationFactsIncomplete
  rw [if_neg (by simp [hlisted, hreadable, hlength])]
  simp only [hfound, List.any_eq_false, Bool.and_eq_true, Bool.not_eq_true', not_and]
  intro p hp hincomplete
  rw [hfacts p hp] at hincomplete
  cases hincomplete

/-- The check says Gone exactly when no report has the plan's
fingerprint. -/
theorem revivalCheck_gone_iff (hfacts : revalidationFactsIncomplete a' s₂ plan = false)
    (hobs : a'.observe s₂ = .ok reports₂) :
    (a'.revalidate s₂ plan .revivalCheck).status = .gone ↔
      ∀ x ∈ reports₂, x.sessionFingerprint ≠ plan.sessionFingerprint := by
  simp only [Analyzer.revalidate, hfacts, hobs, Bool.false_eq_true, if_false]
  split_ifs with hempty
  · simpa [List.isEmpty_iff, List.filter_eq_nil_iff] using hempty
  · have hsome : ∃ x ∈ reports₂, x.sessionFingerprint = plan.sessionFingerprint := by
      simpa [List.isEmpty_iff, List.filter_eq_nil_iff] using hempty
    obtain ⟨x, hx, heq⟩ := hsome
    constructor
    · intro h
      cases h
    · intro hall
      exact absurd heq (hall x hx)

/-- A plan is made for a session with profiles: it has its targets and its
fingerprint, and its pack is one of the rules. -/
theorem plan_session (hobs₁ : a.observe s₁ = .ok reports₁)
    (hg₁ : ProcessGraph.fromSnapshot s₁ = .ok g₁)
    (hr : r ∈ reconcileWithAbandonment first reports₁ keys)
    (hplan : CleanupPlan.fromConfirmed r = .ok plan)
    (hsession : session ∈ a.sessions g₁) (hroot : session.root.pid = r.root.pid) :
    r.targets = session.targets ∧ session.profileRows ≠ [] ∧
      plan.sessionFingerprint = session.fingerprint ∧
      ∃ pack ∈ a.rules.packs, pack.id = plan.signaturePack ∧
        pack.version = plan.signatureVersion := by
  obtain ⟨hstate, -, -, -, hfp, hpk, hver⟩ := CleanupPlan.fromConfirmed_ok hplan
  obtain ⟨x, hx, hcool, htargets, hxpack, hxver, hxroot, hxfp⟩ :=
    reconcile_confirmed hr hstate (observe_not_confirmed hobs₁)
  obtain ⟨g, hg, hiff₁⟩ := mem_observe hobs₁
  obtain rfl : g = g₁ := Except.ok.inj (hg.symm.trans hg₁)
  obtain ⟨own, hown, rfl⟩ := (hiff₁ x).1 hx
  -- the report's session is the one with its root
  have hpid : own.root.pid = session.root.pid := by
    rw [hroot, hxroot]
    rfl
  obtain rfl : own = session := session_unique hg₁ hown hsession hpid
  obtain ⟨pack, hmem, hid, hversion⟩ := session_pack hown
  refine ⟨htargets, ?_, ?_, pack, hmem, ?_, ?_⟩
  · obtain ⟨p, hp, hnames⟩ := isolated_names (cooling_isolated hcool)
    obtain ⟨dir, hdir⟩ := Option.isSome_iff_exists.1 hnames
    have hmem : normalize dir ∈ own.profileRows :=
      List.mem_map.2 ⟨dir, List.mem_filterMap.2 ⟨p, hp, hdir⟩, rfl⟩
    exact List.ne_nil_of_mem hmem
  · rw [hfp, hxfp]
    rfl
  · rw [hid, hpk, hxpack]
    rfl
  · rw [hversion, hver, hxver]
    rfl

/-- A report has a fingerprint exactly when some session has it. -/
theorem report_fingerprint_iff (hobs₂ : a'.observe s₂ = .ok reports₂)
    (hg₂ : ProcessGraph.fromSnapshot s₂ = .ok g₂) {fingerprint : String} :
    (∃ y ∈ reports₂, y.sessionFingerprint = fingerprint) ↔
      ∃ back ∈ a'.sessions g₂, back.fingerprint = fingerprint := by
  obtain ⟨g, hg, hiff⟩ := mem_observe hobs₂
  obtain rfl : g = g₂ := Except.ok.inj (hg.symm.trans hg₂)
  constructor
  · rintro ⟨y, hy, heq⟩
    obtain ⟨back, hback, rfl⟩ := (hiff y).1 hy
    exact ⟨back, hback, heq⟩
  · rintro ⟨back, hback, heq⟩
    exact ⟨_, (hiff _).2 ⟨back, hback, rfl⟩, heq⟩

/-- A profile is back where a later session shares one with the planned. -/
theorem profileBack_iff (hg₁ : ProcessGraph.fromSnapshot s₁ = .ok g₁)
    (hobs₂ : a'.observe s₂ = .ok reports₂) (hg₂ : ProcessGraph.fromSnapshot s₂ = .ok g₂)
    (hsession : session ∈ a.sessions g₁) (htargets : r.targets = session.targets) :
    ProfileBack s₁ r s₂ reports₂ ↔
      ∃ back ∈ a'.sessions g₂, ∃ path ∈ session.profileRows, path ∈ back.profileRows := by
  obtain ⟨g, hg, hiff⟩ := mem_observe hobs₂
  obtain rfl : g = g₂ := Except.ok.inj (hg.symm.trans hg₂)
  constructor
  · rintro ⟨y, hy, path, hpath, hpath₂⟩
    obtain ⟨back, hback, rfl⟩ := (hiff y).1 hy
    exact ⟨back, hback, path, (usesProfile_iff hsession hg₁ htargets).1 hpath,
      (usesProfile_iff hback hg₂ rfl).1 hpath₂⟩
  · rintro ⟨back, hback, path, hpath, hpath₂⟩
    exact ⟨_, (hiff _).2 ⟨back, hback, rfl⟩, path,
      (usesProfile_iff hsession hg₁ htargets).2 hpath, (usesProfile_iff hback hg₂ rfl).2 hpath₂⟩

/-- **A profile that is back keeps the check from saying Gone exactly when
the whole list of its session is back**: for every report an observation
led to confirm and a plan froze, and every later complete snapshot under
the same rules. A profile of the planned session is back where a later
one shares it; it is seen where some later session is on all of them and
on no other, or on a list that collides. -/
theorem revived_profile_seen_iff (hobs₁ : a.observe s₁ = .ok reports₁)
    (hg₁ : ProcessGraph.fromSnapshot s₁ = .ok g₁)
    (hr : r ∈ reconcileWithAbandonment first reports₁ keys)
    (hplan : CleanupPlan.fromConfirmed r = .ok plan) (hrules : a'.rules = a.rules)
    (hcover : s₂.provesCompleteClassificationCoverage = true)
    (hobs₂ : a'.observe s₂ = .ok reports₂) (hg₂ : ProcessGraph.fromSnapshot s₂ = .ok g₂)
    (hsession : session ∈ a.sessions g₁) (hroot : session.root.pid = r.root.pid) :
    (ProfileBack s₁ r s₂ reports₂ ↔
      ∃ back ∈ a'.sessions g₂, ∃ path ∈ session.profileRows, path ∈ back.profileRows) ∧
    ((ProfileBack s₁ r s₂ reports₂ → (a'.revalidate s₂ plan .revivalCheck).status ≠ .gone) ↔
      ((∃ back ∈ a'.sessions g₂, ∃ path ∈ session.profileRows, path ∈ back.profileRows) →
        ∃ back ∈ a'.sessions g₂, SameProfiles back session ∨ Collides back session)) := by
  obtain ⟨htargets, hnonempty, hplanfp, pack, hmem, hid, hversion⟩ :=
    plan_session hobs₁ hg₁ hr hplan hsession hroot
  have hmem' : pack ∈ a'.rules.packs := hrules ▸ hmem
  have hfacts : revalidationFactsIncomplete a' s₂ plan = false :=
    revalidationFacts_complete hcover hmem' hid hversion
  have hback := profileBack_iff hg₁ hobs₂ hg₂ hsession htargets
  have hgone : (a'.revalidate s₂ plan .revivalCheck).status ≠ .gone ↔
      ∃ back ∈ a'.sessions g₂, SameProfiles back session ∨ Collides back session := by
    rw [Ne, revivalCheck_gone_iff hfacts hobs₂]
    simp only [not_forall, not_not, exists_prop]
    rw [hplanfp, report_fingerprint_iff hobs₂ hg₂]
    simp only [fingerprint_eq_iff_profiles hnonempty]
  refine ⟨hback, ?_⟩
  rw [hback, hgone]

/-! ## A session of two profiles -/

/-- The released session on two profiles. -/
def pairSnapshot : Snapshot :=
  sampleSnapshot [releasedController, profiledBrowser 101 "a", profiledBrowser 102 "b"]

/-- A browser that came up on the first of them after the cleanup. -/
def revivedBrowser : ProcessRecord :=
  sampleBrowser 201 1 ["--user-data-dir=/tmp/playwright_chromiumdev_profile-a"]

/-- It alone, later. -/
def revivedSnapshot : Snapshot :=
  { sampleSnapshot [revivedBrowser] with observedAtUnixMillis := 200000 }

/-- Two agreeing observations lead to a plan that holds the process as a
browser root, and the plan passes the check. -/
def plansWith (a : Analyzer) (s : Snapshot) (p : ProcessRecord) (check : CleanupPlan → Bool) :
    Bool :=
  match a.observe s with
  | .ok reports =>
      let keys := reports.map IncidentReport.trackingKey
      (reconcileWithAbandonment reports reports keys).any fun r =>
        r.targets.contains ⟨p.identity, p.processGroupId, .browserRoot⟩
          && (match CleanupPlan.fromConfirmed r with
            | .ok plan => check plan
            | .error _ => false)
  | .error _ => false

theorem plansWith_plan {p : ProcessRecord} {check : CleanupPlan → Bool}
    (h : plansWith a s₁ p check = true) :
    ∃ reports, a.observe s₁ = .ok reports ∧
      ∃ r ∈ reconcileWithAbandonment reports reports (reports.map IncidentReport.trackingKey),
        ⟨p.identity, p.processGroupId, .browserRoot⟩ ∈ r.targets ∧
        ∃ plan, CleanupPlan.fromConfirmed r = .ok plan ∧ check plan = true := by
  unfold plansWith at h
  cases hobs : a.observe s₁ with
  | error e => simp [hobs] at h
  | ok reports =>
      simp only [hobs, List.any_eq_true, Bool.and_eq_true, List.contains_eq_mem,
        decide_eq_true_eq] at h
      obtain ⟨r, hr, ht, hcheck⟩ := h
      refine ⟨reports, rfl, r, hr, ht, ?_⟩
      cases hplan : CleanupPlan.fromConfirmed r with
      | error e => simp [hplan] at hcheck
      | ok plan =>
          rw [hplan] at hcheck
          exact ⟨plan, rfl, hcheck⟩

/-- **A revived profile is reported gone**: the session had two profiles
and came back on one of them. -/
theorem revived_profile_gone :
    ∃ reports r plan reports₂,
      releasedAnalyzer.observe pairSnapshot = .ok reports ∧
      r ∈ reconcileWithAbandonment reports reports (reports.map IncidentReport.trackingKey) ∧
      CleanupPlan.fromConfirmed r = .ok plan ∧
      revivedSnapshot.provesCompleteClassificationCoverage = true ∧
      releasedAnalyzer.observe revivedSnapshot = .ok reports₂ ∧
      ProfileBack pairSnapshot r revivedSnapshot reports₂ ∧
      (releasedAnalyzer.revalidate revivedSnapshot plan .revivalCheck).status = .gone := by
  have hplans : plansWith releasedAnalyzer pairSnapshot (profiledBrowser 101 "a") (fun plan =>
      (releasedAnalyzer.revalidate revivedSnapshot plan .revivalCheck).status == .gone) = true := by
    decide +kernel
  have hback : coolsWith releasedAnalyzer revivedSnapshot revivedBrowser = true := by
    decide +kernel
  obtain ⟨reports, hobs, r, hr, ht, plan, hplan, hgone⟩ := plansWith_plan hplans
  obtain ⟨reports₂, hobs₂, r₂, hr₂, -, ht₂⟩ := coolsWith_report hback
  refine ⟨reports, r, plan, reports₂, hobs, hr, hplan, by decide, hobs₂, ?_, beq_iff_eq.1 hgone⟩
  refine ⟨r₂, hr₂, normalize "/tmp/playwright_chromiumdev_profile-a", ?_, ?_⟩
  · exact ⟨_, ht, rfl, profiledBrowser 101 "a", by simp [pairSnapshot, sampleSnapshot], rfl, _,
      by decide +kernel, rfl⟩
  · exact ⟨_, ht₂, rfl, revivedBrowser, by simp [revivedSnapshot, sampleSnapshot], rfl, _,
      by decide +kernel, rfl⟩

/-- There are sessions in the snapshot, and each is on exactly these
profiles. -/
def sessionsOn (a : Analyzer) (s : Snapshot) (profiles : List String) : Bool :=
  (ProcessGraph.fromSnapshot s).toOption.any fun g =>
    !(a.sessions g).isEmpty && (a.sessions g).all fun session => session.profileRows == profiles

theorem sessionsOn_profileRows {profiles : List String} (h : sessionsOn a s₁ profiles = true)
    (hg₁ : ProcessGraph.fromSnapshot s₁ = .ok g₁) :
    (∃ session, session ∈ a.sessions g₁) ∧
      ∀ session ∈ a.sessions g₁, session.profileRows = profiles := by
  rw [sessionsOn, hg₁] at h
  simp only [Except.toOption, Option.any_some, Bool.and_eq_true, Bool.not_eq_true',
    List.isEmpty_eq_false_iff, List.all_eq_true, beq_iff_eq] at h
  exact ⟨List.exists_mem_of_ne_nil _ h.1, h.2⟩

/-- A session of one profile is seen when it is back on it. -/
theorem revived_profile_seen_iff_stray :
    ∃ reports r plan reports₂,
      embeddedAnalyzer.observe (sampleSnapshot [strayBrowser]) = .ok reports ∧
      CleanupPlan.fromConfirmed r = .ok plan ∧
      embeddedAnalyzer.observe revivedSnapshot = .ok reports₂ ∧
      ProfileBack (sampleSnapshot [strayBrowser]) r revivedSnapshot reports₂ ∧
      (embeddedAnalyzer.revalidate revivedSnapshot plan .revivalCheck).status ≠ .gone := by
  have hplans : plansWith embeddedAnalyzer (sampleSnapshot [strayBrowser]) strayBrowser
      (fun _ => true) = true := by decide +kernel
  have hback : coolsWith embeddedAnalyzer revivedSnapshot revivedBrowser = true := by
    decide +kernel
  have hon : sessionsOn embeddedAnalyzer (sampleSnapshot [strayBrowser])
      ["/tmp/playwright_chromiumdev_profile-a"] = true := by decide +kernel
  have hon₂ : sessionsOn embeddedAnalyzer revivedSnapshot
      ["/tmp/playwright_chromiumdev_profile-a"] = true := by decide +kernel
  obtain ⟨reports, hobs, r, hr, -, plan, hplan, -⟩ := plansWith_plan hplans
  obtain ⟨reports₂, hobs₂, -⟩ := coolsWith_report hback
  obtain ⟨g₁, hg₁, hiff⟩ := mem_observe hobs
  obtain ⟨g₂, hg₂, -⟩ := mem_observe hobs₂
  obtain ⟨x, hx, -, -, -, -, hroot, -⟩ :=
    reconcile_confirmed hr (CleanupPlan.fromConfirmed_ok hplan).1 (observe_not_confirmed hobs)
  obtain ⟨session, hs, rfl⟩ := (hiff x).1 hx
  have hpid : session.root.pid = r.root.pid := by
    rw [hroot]
    rfl
  obtain ⟨⟨back, hback⟩, hrows₂⟩ := sessionsOn_profileRows hon₂ hg₂
  have hrows := (sessionsOn_profileRows hon hg₁).2 session hs
  have hrowsBack := hrows₂ back hback
  obtain ⟨hshares, hseen⟩ :=
    revived_profile_seen_iff hobs hg₁ hr hplan rfl (by decide) hobs₂ hg₂ hs hpid
  have hprofileBack : ProfileBack (sampleSnapshot [strayBrowser]) r revivedSnapshot reports₂ := by
    refine hshares.2 ⟨back, hback, "/tmp/playwright_chromiumdev_profile-a", ?_, ?_⟩
    · simp [hrows]
    · simp [hrowsBack]
  have hsame : SameProfiles back session := Or.inl (by rw [hrows, hrowsBack])
  exact ⟨reports, r, plan, reports₂, hobs, hplan, hobs₂, hprofileBack,
    hseen.2 (fun _ => ⟨back, hback, Or.inl hsame⟩) hprofileBack⟩

end Unlinger
