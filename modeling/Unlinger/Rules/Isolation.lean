import Unlinger.Rules.Revalidation

/-!
# Which profiles a cleanup candidate runs on

A session is isolated when the profiles its browsers name are ephemeral
and nobody outside names one of them. A browser that names no profile runs
on its default one, and the profile facts are read off the browsers that
do name one: such a browser goes unseen beside a sibling that does. A
controller whose browsers all name a profile, or all name none, leaves no
room for that.
-/

namespace Unlinger

variable {a : Analyzer} {s : Snapshot} {g : ProcessGraph} {session : Session}
  {reports first : List IncidentReport} {r : IncidentReport} {keys : List String}
  {pack : SignaturePack}

/-! ## The property and its condition -/

/-- Every browser root of the report names an ephemeral profile of the
pack that is no ordinary browser's, and no process outside the report's
targets names it too. -/
def ProfilesIsolated (pack : SignaturePack) (s : Snapshot) (r : IncidentReport) : Prop :=
  ∀ t ∈ r.targets, t.role = .browserRoot → ∀ p ∈ s.processes, p.identity = t.identity →
    ∃ path, userDataDir p = some path ∧
      containsAny path pack.ephemeralProfileMarkers = true ∧ isEphemeralPath path = true ∧
      containsAny path standardProfileMarkers = false ∧
      ∀ q ∈ s.processes, (∀ x ∈ r.targets, x.identity.pid ≠ q.pid) →
        ∀ other, userDataDir q = some other → normalize other ≠ normalize path

/-- Of the browsers a controller owns, one names a profile and one names
none. -/
def MixedProfiles (g : ProcessGraph) (pack : SignaturePack) (controller : Pid) : Prop :=
  ∃ p q, g.get p.pid = some p ∧ g.get q.pid = some q ∧
    p.pid ∈ ownedBrowsers g pack controller ∧ q.pid ∈ ownedBrowsers g pack controller ∧
    (userDataDir p).isSome = true ∧ userDataDir q = none

/-! ## The browsers of a session -/

/-- A browser of a candidate with two browsers has a controller. -/
theorem packCandidates_browsers {c : Candidate} (h : c ∈ packCandidates g pack) :
    c.browserRootPids = ownedBrowsers g pack c.rootPid ∨
      c.browserRootPids = [c.rootPid] ∧ ownedBrowsers g pack c.rootPid = [] := by
  simp only [packCandidates, List.mem_append, List.mem_map, List.mem_filter] at h
  rcases h with (⟨pid, -, rfl⟩ | ⟨pid, ⟨-, hempty⟩, rfl⟩) | ⟨pid, ⟨hroot, -⟩, rfl⟩
  · exact Or.inl rfl
  · exact Or.inl (List.isEmpty_iff.1 hempty).symm
  · -- a browser root is no controller, so nobody's nearest controller is it
    refine Or.inr ⟨rfl, List.filter_eq_nil_iff.2 fun b _ hb => ?_⟩
    have hfound : nearestController g pack b = some pid := beq_iff_eq.1 hb
    have hctl := List.find?_some hfound
    simp only [List.contains_eq_mem, decide_eq_true_eq] at hctl
    obtain ⟨p, hp, hpid⟩ := List.mem_map.1 hctl
    have hno := (List.mem_filter.1 hp).2
    have hroot' : p.pid ∈ browserRootPids g pack := hpid ▸ hroot
    simp only [List.contains_eq_mem, hroot', decide_true, Bool.not_true, Bool.false_and,
      Bool.false_eq_true] at hno

/-- The browser roots of a session are processes of the graph, and of no
others is it said so among its targets. -/
theorem mem_browserRoots (hs : session ∈ a.sessions g) (hg : ProcessGraph.fromSnapshot s = .ok g)
    {p : ProcessRecord} :
    p ∈ session.browserRoots ↔
      g.get p.pid = some p ∧ p.pid ∈ session.candidate.browserRootPids := by
  obtain ⟨c, -, hof⟩ := List.mem_filterMap.1 hs
  obtain ⟨-, rfl, -, -, hroots⟩ := session_of hof
  rw [hroots, List.mem_filterMap]
  constructor
  · rintro ⟨pid, hpid, hget⟩
    obtain rfl := (get_mem hg hget).2
    exact ⟨hget, hpid⟩
  · exact fun ⟨hget, hpid⟩ => ⟨p.pid, hpid, hget⟩

/-- The members of a session, likewise. -/
theorem mem_members (hs : session ∈ a.sessions g) (hg : ProcessGraph.fromSnapshot s = .ok g)
    {p : ProcessRecord} :
    p ∈ session.members ↔ g.get p.pid = some p ∧ p.pid ∈ session.candidate.memberPids := by
  obtain ⟨c, -, hof⟩ := List.mem_filterMap.1 hs
  obtain ⟨-, rfl, -, hmembers, -⟩ := session_of hof
  rw [hmembers, List.mem_filterMap]
  constructor
  · rintro ⟨pid, hpid, hget⟩
    obtain rfl := (get_mem hg hget).2
    exact ⟨hget, hpid⟩
  · exact fun ⟨hget, hpid⟩ => ⟨p.pid, hpid, hget⟩

/-- A role is `browserRoot` for the browser roots alone. -/
theorem processRole_browserRoot {c : Candidate} {p : ProcessRecord}
    (h : processRole p c = .browserRoot) : p.pid ∈ c.browserRootPids := by
  unfold processRole at h
  split_ifs at h with hctl hroot
  · exact hroot
  · split at h
    · unfold helperRole at h
      split_ifs at h
    · cases h

/-- Every browser root of a session is a target under that role. -/
theorem browserRoot_target (hs : session ∈ a.sessions g)
    (hg : ProcessGraph.fromSnapshot s = .ok g) {p : ProcessRecord} (hp : p ∈ session.browserRoots) :
    ⟨p.identity, p.processGroupId, .browserRoot⟩ ∈ session.targets := by
  obtain ⟨c, hc, hof⟩ := List.mem_filterMap.1 hs
  obtain ⟨pack, -, hcand⟩ := candidate_pack hc
  obtain ⟨-, rfl, -, -, -⟩ := session_of hof
  have hsound := packCandidates_sound hcand
  obtain ⟨hget, hpid⟩ := (mem_browserRoots hs hg).1 hp
  have hmember : p ∈ session.members :=
    (mem_members hs hg).2 ⟨hget, hsound.browsers _ hpid p hget⟩
  refine List.mem_map.2 ⟨p, hmember, ?_⟩
  rw [processRole, if_neg (hsound.controller _ hpid), if_pos hpid]

/-- What a browser root with a profile keeps to in an isolated session. -/
theorem isolated_profile (hs : session ∈ a.sessions g) (hg : ProcessGraph.fromSnapshot s = .ok g)
    (hiso : session.isolated = true) {p : ProcessRecord} (hp : p ∈ session.browserRoots)
    {path : String} (hpath : userDataDir p = some path) :
    containsAny path session.pack.ephemeralProfileMarkers = true ∧ isEphemeralPath path = true ∧
      containsAny path standardProfileMarkers = false ∧
      ∀ q ∈ s.processes, (∀ x ∈ session.targets, x.identity.pid ≠ q.pid) →
        ∀ other, userDataDir q = some other → normalize other ≠ normalize path := by
  have hmem : path ∈ session.profilePaths := List.mem_filterMap.2 ⟨p, hp, hpath⟩
  simp only [Session.isolated, Session.ephemeralProfile, Session.sharedProfile,
    Session.standardProfile, Bool.and_eq_true, List.all_eq_true, Bool.not_eq_true',
    List.any_eq_false] at hiso
  obtain ⟨⟨⟨-, hephemeral⟩, hshared⟩, hstandard⟩ := hiso
  obtain ⟨hmarker, heph⟩ := hephemeral path hmem
  refine ⟨hmarker, heph, by simpa using hstandard path hmem, fun q hq hout other hother heq => ?_⟩
  have hgraph : session.graph = g := by
    obtain ⟨c, -, hof⟩ := List.mem_filterMap.1 hs
    exact (session_of hof).1
  have hget := get_of_mem hg hq
  have hqg : q ∈ session.graph.processes := hgraph ▸ (mem_processes hg).2 hget
  -- somebody who names the profile is a member, and a member is a target
  have hno : q.pid ∈ session.candidate.memberPids := by
    by_contra hnot
    refine hshared path hmem (List.any_eq_true.2 ⟨q, hqg, ?_⟩)
    simp [hother, heq, hnot]
  have hmember : q ∈ session.members := (mem_members hs hg).2 ⟨hget, hno⟩
  exact hout _ (List.mem_map.2 ⟨q, hmember, rfl⟩) rfl

/-- An isolated session has a browser that names a profile. -/
theorem isolated_names (hiso : session.isolated = true) :
    ∃ p ∈ session.browserRoots, (userDataDir p).isSome = true := by
  simp only [Session.isolated, Session.ephemeralProfile, Bool.and_eq_true, Bool.not_eq_true',
    List.isEmpty_eq_false_iff] at hiso
  obtain ⟨path, hpath⟩ := List.exists_mem_of_ne_nil _ hiso.1.1.1
  obtain ⟨p, hp, hdir⟩ := List.mem_filterMap.1 hpath
  exact ⟨p, hp, by simp [hdir]⟩

/-! ## Reports that may become plans -/

/-- A cooling report's session is isolated. -/
theorem cooling_isolated {t : Nat} (h : (a.report session t).state = .cooling) :
    session.isolated = true := by
  have hstate : a.state session (a.protections session t) = .cooling := h
  unfold Analyzer.state at hstate
  split_ifs at hstate with hprot hlive hcool
  simp only [Bool.and_eq_true] at hcool
  exact hcool.2

/-- A second observation changes the state, the gates and the evidence of
a report alone. -/
theorem reconcileReport_keeps {previous x : IncidentReport} {confirmed : Bool} :
    (reconcileReport previous x confirmed).targets = x.targets ∧
      (reconcileReport previous x confirmed).signaturePack = x.signaturePack ∧
      (reconcileReport previous x confirmed).signatureVersion = x.signatureVersion ∧
      (reconcileReport previous x confirmed).root = x.root ∧
      (reconcileReport previous x confirmed).sessionFingerprint = x.sessionFingerprint := by
  unfold reconcileReport
  dsimp only
  split_ifs <;> exact ⟨rfl, rfl, rfl, rfl, rfl⟩

/-- Reconciling leaves a report's session and targets as they are, and
confirms only what cooled. -/
theorem reconcile_confirmed (h : r ∈ reconcileWithAbandonment first reports keys)
    (hstate : r.state = .confirmed) (hnone : ∀ x ∈ reports, x.state ≠ .confirmed) :
    ∃ x ∈ reports, x.state = .cooling ∧ r.targets = x.targets ∧
      r.signaturePack = x.signaturePack ∧ r.signatureVersion = x.signatureVersion ∧
      r.root = x.root ∧ r.sessionFingerprint = x.sessionFingerprint := by
  obtain ⟨x, hx, rfl⟩ := List.mem_map.1 h
  split_ifs at hstate ⊢ with hcool
  · exact absurd hstate (hnone x hx)
  · refine ⟨x, hx, not_not.1 hcool, ?_⟩
    -- whatever the first observation says, only the state, gates and evidence change
    generalize first.reverse.find? (fun r => r.trackingKey == x.trackingKey) = previous
    cases previous with
    | none => exact ⟨rfl, rfl, rfl, rfl, rfl⟩
    | some previous =>
        simp only
        split_ifs
        · exact ⟨rfl, rfl, rfl, rfl, rfl⟩
        · exact reconcileReport_keeps

/-- An observation confirms nothing by itself. -/
theorem observe_not_confirmed (h : a.observe s = .ok reports) :
    ∀ x ∈ reports, x.state ≠ .confirmed := by
  intro x hx hstate
  obtain ⟨g, -, hiff⟩ := mem_observe h
  obtain ⟨session, -, rfl⟩ := (hiff x).1 hx
  have hstate' : a.state session (a.protections session s.observedAtUnixMillis) = .confirmed := hstate
  unfold Analyzer.state at hstate'
  split_ifs at hstate'

/-- In an isolated session every browser names a profile exactly when its
root does not own browsers of both kinds: one of them does name one. -/
theorem isolated_names_all (hs : session ∈ a.sessions g)
    (hg : ProcessGraph.fromSnapshot s = .ok g)
    (hcand : session.candidate ∈ packCandidates g pack) (hiso : session.isolated = true) :
    (∀ p ∈ session.browserRoots, ∃ path, userDataDir p = some path) ↔
      ¬ MixedProfiles g pack session.candidate.rootPid := by
  constructor
  · rintro hall ⟨p, q, hp, hq, hpo, hqo, hpd, hqd⟩
    have hqroots : q ∈ session.browserRoots := by
      rcases packCandidates_browsers hcand with heq | ⟨-, hnil⟩
      · exact (mem_browserRoots hs hg).2 ⟨hq, heq ▸ hqo⟩
      · rw [hnil] at hqo
        cases hqo
    obtain ⟨path, hpath⟩ := hall q hqroots
    rw [hqd] at hpath
    cases hpath
  · intro hmixed p hp
    obtain ⟨hpget, hppid⟩ := (mem_browserRoots hs hg).1 hp
    obtain ⟨b, hb, hbdir⟩ := isolated_names hiso
    obtain ⟨hbget, hbpid⟩ := (mem_browserRoots hs hg).1 hb
    rcases packCandidates_browsers hcand with heq | ⟨hsingle, -⟩
    · by_contra hnone
      refine hmixed ⟨b, p, hbget, hpget, heq ▸ hbpid, heq ▸ hppid, hbdir, ?_⟩
      exact Option.eq_none_iff_forall_ne_some.2 fun path hpath => hnone ⟨path, hpath⟩
    · -- an unowned browser is the only one of its session
      have hpb : p.pid = b.pid := by
        rw [hsingle, List.mem_singleton] at hppid hbpid
        exact hppid.trans hbpid.symm
      rw [hpb, hbget] at hpget
      obtain rfl := Option.some.inj hpget
      exact Option.isSome_iff_exists.1 hbdir

/-- The profiles of a report on an isolated session are isolated exactly
when every browser of the session names one. -/
theorem profilesIsolated_iff_names (hs : session ∈ a.sessions g)
    (hg : ProcessGraph.fromSnapshot s = .ok g) (hiso : session.isolated = true)
    (htargets : r.targets = session.targets) :
    ProfilesIsolated session.pack s r ↔
      ∀ p ∈ session.browserRoots, ∃ path, userDataDir p = some path := by
  constructor
  · intro hall p hp
    have hget := ((mem_browserRoots hs hg).1 hp).1
    have ht : (⟨p.identity, p.processGroupId, .browserRoot⟩ : ProcessTarget) ∈ r.targets :=
      htargets ▸ browserRoot_target hs hg hp
    obtain ⟨path, hpath, -⟩ := hall _ ht rfl p (get_mem hg hget).1 rfl
    exact ⟨path, hpath⟩
  · intro hnames t ht hrole p hp hid
    rw [htargets] at ht
    obtain ⟨m, hm, rfl⟩ := List.mem_map.1 ht
    obtain ⟨hmget, -⟩ := (mem_members hs hg).1 hm
    obtain rfl : p = m := eq_of_identity hg hp (get_mem hg hmget).1 hid
    have hbrowser : p ∈ session.browserRoots :=
      (mem_browserRoots hs hg).2 ⟨hmget, processRole_browserRoot hrole⟩
    obtain ⟨path, hpath⟩ := hnames p hbrowser
    obtain ⟨hmarker, hephemeral, hstandard, halone⟩ :=
      isolated_profile hs hg hiso hbrowser hpath
    refine ⟨path, hpath, hmarker, hephemeral, hstandard, fun q hq hno => ?_⟩
    exact halone q hq fun y hy => hno y (htargets ▸ hy)

/-- **The profiles of a cleanup candidate are isolated exactly when its
controller's browsers do not mix** browsers that name a profile with
browsers that name none: of a report that cooled, and of what a later
reconciliation confirmed. -/
theorem profilesIsolated_iff (h : a.observe s = .ok reports)
    (hg : ProcessGraph.fromSnapshot s = .ok g)
    (hr : r ∈ reports ∧ r.state = .cooling ∨
      r ∈ reconcileWithAbandonment first reports keys ∧ r.state = .confirmed) :
    ∃ pack ∈ a.rules.packs, pack.id = r.signaturePack ∧ pack.version = r.signatureVersion ∧
      (ProfilesIsolated pack s r ↔ ¬ MixedProfiles g pack r.root.pid) := by
  -- both kinds of report have the targets of a report that cooled
  have hcool : ∃ x ∈ reports, x.state = .cooling ∧ r.targets = x.targets ∧
      r.signaturePack = x.signaturePack ∧ r.signatureVersion = x.signatureVersion ∧
      r.root = x.root ∧ r.sessionFingerprint = x.sessionFingerprint := by
    rcases hr with ⟨hr, hstate⟩ | ⟨hr, hstate⟩
    · exact ⟨r, hr, hstate, rfl, rfl, rfl, rfl, rfl⟩
    · exact reconcile_confirmed hr hstate (observe_not_confirmed h)
  obtain ⟨x, hx, hstate, htargets, hpack, hversion, hroot, -⟩ := hcool
  obtain ⟨g', hg', hiff⟩ := mem_observe h
  obtain rfl : g' = g := Except.ok.inj (hg'.symm.trans hg)
  obtain ⟨session, hs, rfl⟩ := (hiff x).1 hx
  have hiso := cooling_isolated hstate
  obtain ⟨c, hc, hof⟩ := List.mem_filterMap.1 hs
  obtain ⟨pack, hmem, hcand⟩ := candidate_pack hc
  obtain ⟨-, rfl, hget, -, -⟩ := session_of hof
  have hpk : session.pack = pack := (packCandidates_sound hcand).pack
  have hrp : r.root.pid = session.candidate.rootPid := by
    rw [hroot]
    exact (get_mem hg hget).2
  refine ⟨pack, hmem, ?_, ?_, ?_⟩
  · rw [hpack, ← hpk]
    rfl
  · rw [hversion, ← hpk]
    rfl
  · rw [hrp, ← isolated_names_all hs hg hcand hiso, ← hpk]
    exact profilesIsolated_iff_names hs hg hiso htargets

/-! ## A session that mixes -/

/-- The controller of a session its host has released. -/
def releasedController : ProcessRecord where
  identity := sampleIdentity 100
  parentPid := 1
  processGroupId := 100
  uid := 501
  ttyDevice := none
  name := "node"
  executablePath := some "/usr/local/bin/node"
  executable := ⟨some 1, some 100⟩
  arguments := some ["node", "/opt/playwright/cli.js"]
  residentMemoryBytes := 1024
  runtime :=
    { descriptorFactsComplete := true
      taskSessionFactsComplete := true
      playwrightCli := some ⟨"work", "1.62.1", false, false, some "selector"⟩ }

/-- The rules as shipped, told of the release. -/
def releasedAnalyzer : Analyzer :=
  ⟨RuleSet.embedded,
    { sessionOwners := [⟨"lease", "selector", "work", "1.62.1", sampleIdentity 100, true⟩] }⟩

/-- A browser of that controller on an ephemeral profile. -/
def profiledBrowser (pid : Pid) (profile : String) : ProcessRecord :=
  sampleBrowser pid 100 ["--user-data-dir=/tmp/playwright_chromiumdev_profile-" ++ profile]

/-- A browser of that controller on its default profile. -/
def defaultBrowser (pid : Pid) : ProcessRecord := sampleBrowser pid 100 []

/-- The session with one browser of each kind. -/
def mixedSnapshot : Snapshot :=
  sampleSnapshot [releasedController, profiledBrowser 101 "a", defaultBrowser 102]

/-- A report of the observation cooled with the process among its browser
roots. -/
def coolsWith (a : Analyzer) (s : Snapshot) (p : ProcessRecord) : Bool :=
  match a.observe s with
  | .ok reports => reports.any fun r =>
      r.state == .cooling && r.targets.contains ⟨p.identity, p.processGroupId, .browserRoot⟩
  | .error _ => false

theorem coolsWith_report {p : ProcessRecord} (h : coolsWith a s p = true) :
    ∃ reports, a.observe s = .ok reports ∧ ∃ r ∈ reports, r.state = .cooling ∧
      ⟨p.identity, p.processGroupId, .browserRoot⟩ ∈ r.targets := by
  unfold coolsWith at h
  cases hobs : a.observe s with
  | error e => simp [hobs] at h
  | ok reports =>
      simp only [hobs, List.any_eq_true, Bool.and_eq_true, beq_iff_eq, List.contains_eq_mem,
        decide_eq_true_eq] at h
      exact ⟨reports, rfl, h⟩

/-- **A browser on its default profile is a target of a cooling report**,
beside a sibling that names an ephemeral one. -/
theorem default_profile_cools :
    ∃ reports, releasedAnalyzer.observe mixedSnapshot = .ok reports ∧
      ∃ r ∈ reports, r.state = .cooling ∧
        ⟨sampleIdentity 102, 102, .browserRoot⟩ ∈ r.targets ∧
        userDataDir (defaultBrowser 102) = none ∧
        ∀ pack, ¬ ProfilesIsolated pack mixedSnapshot r := by
  have hcools : coolsWith releasedAnalyzer mixedSnapshot (defaultBrowser 102) = true := by
    decide +kernel
  have hnone : userDataDir (defaultBrowser 102) = none := by decide +kernel
  obtain ⟨reports, hobs, r, hr, hstate, ht⟩ := coolsWith_report hcools
  refine ⟨reports, hobs, r, hr, hstate, ht, hnone, fun pack hiso => ?_⟩
  obtain ⟨path, hpath, -⟩ := hiso _ ht rfl (defaultBrowser 102) (by simp [mixedSnapshot,
    sampleSnapshot]) rfl
  rw [hnone] at hpath
  cases hpath

/-- The stray browser's own profile is isolated. -/
theorem profilesIsolated_iff_stray :
    ∃ reports g, embeddedAnalyzer.observe (sampleSnapshot [strayBrowser]) = .ok reports ∧
      ProcessGraph.fromSnapshot (sampleSnapshot [strayBrowser]) = .ok g ∧
      ∃ r ∈ reports, r.state = .cooling ∧ ∃ pack ∈ RuleSet.embedded.packs,
        pack.id = r.signaturePack ∧
        (ProfilesIsolated pack (sampleSnapshot [strayBrowser]) r ↔
          ¬ MixedProfiles g pack r.root.pid) := by
  have hcools : coolsWith embeddedAnalyzer (sampleSnapshot [strayBrowser]) strayBrowser = true := by
    decide +kernel
  obtain ⟨reports, hobs, r, hr, hstate, -⟩ := coolsWith_report hcools
  obtain ⟨g, hg, -⟩ := mem_observe hobs
  obtain ⟨pack, hmem, hid, -, hiff⟩ :=
    @profilesIsolated_iff _ _ _ _ [] _ [] hobs hg (Or.inl ⟨hr, hstate⟩)
  exact ⟨reports, g, hobs, hg, r, hr, hstate, pack, hmem, hid, hiff⟩

end Unlinger
