import Unlinger.Core.Helpers.Lineage
import Unlinger.Rules.Enumeration

/-!
# What a cooling report has passed

A report cools when no protection rule holds of its session and the
session shows strong provenance, isolation and a missing owner. Here each
rule is read back as a fact of the processes of the snapshot: of every
target, of every browser root, of the controller and of the root. What is
not among them is the lineage above the session: of an ancestor that is no
member nobody asks whether its own parent is listed.
-/

namespace Unlinger

variable {a : Analyzer} {s : Snapshot} {g : ProcessGraph} {session : Session}
  {reports : List IncidentReport} {r : IncidentReport} {pack : SignaturePack}

/-! ## The facts -/

/-- A target nothing protects. -/
structure TargetUnprotected (a : Analyzer) (s : Snapshot) (g : ProcessGraph) (p : ProcessRecord) :
    Prop where
  user : p.uid = s.currentUid ∧ s.currentUid ≠ 0
  system : p.pid ≠ 0 ∧ p.pid ≠ 1
  own : a.context.selfPid ≠ some p.pid ∧ p.pid ∉ a.context.ancestorPids
  facts : p.hasCompleteClassificationFacts = true
  acyclic : g.LineageEnds p.pid
  parent : p.parentPid ≤ 1 ∨ ∃ q ∈ s.processes, q.pid = p.parentPid

/-- The version policy of a pack accepts a bundle. -/
def SignaturePack.Accepts (pack : SignaturePack) (fact : AppBundleVersion) : Prop :=
  (evaluateBundle fact pack.versionPolicy).supported = true

/-- The owner of a controller has released it, and its session is not used
any more. -/
structure ControllerReleased (a : Analyzer) (s : Snapshot) (g : ProcessGraph)
    (pack : SignaturePack) (p : ProcessRecord) : Prop where
  owner : ∃ cli, p.runtime.playwrightCli = some cli ∧ cli.persistent = false ∧
    cli.attached = false ∧
    ((∃ binding ∈ a.context.taskControllers, binding.controller.exactMatch p.identity = true ∧
        taskIdFromSession cli.sessionName = some binding.taskId ∧
        pack.taskControllerVersion = some cli.version ∧ binding.released = true ∧
        a.sessionHasLiveWork g binding.taskId = false) ∨
      ∃ binding ∈ a.context.sessionOwners, binding.controller.exactMatch p.identity = true ∧
        taskIdFromSession cli.sessionName = none ∧
        cli.selectorFingerprint = some binding.selectorFingerprint ∧
        cli.sessionName = binding.sessionName ∧ cli.version = binding.controllerVersion ∧
        pack.sessionOwnerControllerVersion = some cli.version ∧ binding.released = true ∧
        ordinarySessionHasLiveWork g binding = false)
  unconnected : p.runtime.connectedNamedUnixSocketFingerprints = []
  visible : p.runtime.descriptorFactsComplete = true ∧
    ∀ q ∈ s.processes, q.runtime.taskSessionFactsComplete = true

/-! ## The rules that do not hold -/

theorem holding_eq_nil {table : List (Bool × String)} :
    holding table = [] ↔ ∀ row ∈ table, row.1 = false := by
  simp [holding, List.filterMap_eq_nil_iff]

/-- A cooling report has no protection, and shows what cools. -/
theorem report_cooling {t : Nat} (h : (a.report session t).state = .cooling) :
    a.protections session t = [] ∧ session.strongProvenance = true ∧
      a.ownerMissing session = true ∧ session.isolated = true := by
  have hstate : a.state session (a.protections session t) = .cooling := h
  unfold Analyzer.state at hstate
  split_ifs at hstate with hprotected hlive hcools
  simp only [Bool.and_eq_true] at hcools
  exact ⟨by simpa using hprotected, hcools.1.1, hcools.1.2, hcools.2⟩

theorem versionProtections_eq_nil {gate : Option BrowserVersionGate}
    (h : versionProtections gate = []) : ∀ x, gate = some x → x.supported = true := by
  rintro x rfl
  cases x with
  | exactSupported => rfl
  | rangeSupported => rfl
  | observational => cases h
  | missingFacts => cases h
  | mixedFacts => cases h
  | unsupportedProduct => cases h
  | unsupportedVersion => cases h

/-- Versions are supported when all browsers have one bundle and the
policy accepts it. -/
theorem evaluateBrowserVersions_supported {browserRoots : List ProcessRecord}
    (h : (evaluateBrowserVersions browserRoots pack.versionPolicy).supported = true) :
    ∃ fact, pack.Accepts fact ∧ ∀ p ∈ browserRoots, p.runtime.appBundle = some fact := by
  unfold evaluateBrowserVersions at h
  by_cases hlength : (bundleFacts browserRoots).length ≠ browserRoots.length
  · simp [hlength, BrowserVersionGate.supported] at h
  rw [if_neg hlength] at h
  cases hdedup : (bundleFacts browserRoots).dedup with
  | nil => simp [hdedup, BrowserVersionGate.supported] at h
  | cons fact rest =>
      cases rest with
      | cons other rest => simp [hdedup, BrowserVersionGate.supported] at h
      | nil =>
          simp only [hdedup] at h
          refine ⟨fact, h, fun p hp => ?_⟩
          -- as many facts as browsers: every browser has one
          have hsome : p.runtime.appBundle ≠ none := fun hnone => hlength
            (List.length_filterMap_lt_length_iff_exists.2 ⟨p, hp, hnone⟩).ne
          obtain ⟨other, hother⟩ := Option.ne_none_iff_exists'.1 hsome
          have hmem : other ∈ (bundleFacts browserRoots).dedup :=
            List.mem_dedup.2 (List.mem_filterMap.2 ⟨p, hp, hother⟩)
          rw [hdedup, List.mem_singleton] at hmem
          rw [hother, hmem]

/-- A candidate of the minimum age started that long before. -/
theorem ageProtections_eq_nil {observed started : Nat}
    (h : ageProtections (candidateAgeGate observed started) = []) :
    0 < started ∧ started + minimumCandidateAgeMicros ≤ observed * 1000 := by
  unfold candidateAgeGate at h
  split_ifs at h with hzero hlarge hfuture hyoung
  · cases h
  · cases h
  · cases h
  · cases h
  · exact ⟨by omega, by omega⟩

/-! ## Owners -/

/-- What an owner does not protect. -/
theorem ownerProtections_eq_nil {released liveWork : Bool} {active incomplete busy : String}
    (h : ownerProtections session released active incomplete busy liveWork = []) :
    released = true ∧
      (∀ cli, session.root.runtime.playwrightCli = some cli →
        cli.persistent = false ∧ cli.attached = false) ∧
      session.clientVisibilityIncomplete = false ∧
      session.root.runtime.connectedNamedUnixSocketFingerprints = [] ∧ liveWork = false := by
  simp only [ownerProtections, holding_eq_nil, List.forall_mem_cons, Bool.not_eq_false',
    Option.any_eq_false, Bool.or_eq_false_iff, List.isEmpty_iff] at h
  obtain ⟨hreleased, hpersistent, hattached, hvisible, ⟨hsockets, hwork⟩, -⟩ := h
  refine ⟨hreleased, fun cli hcli => ⟨?_, ?_⟩, hvisible, hsockets, hwork⟩
  · simpa using hpersistent cli hcli
  · simpa using hattached cli hcli

theorem ownedTask_eq_some {binding : TaskControllerBinding}
    (h : a.ownedTask session = some binding) :
    binding ∈ a.context.taskControllers ∧
      binding.controller.exactMatch session.root.identity = true ∧
      ∃ cli, session.root.runtime.playwrightCli = some cli ∧
        taskIdFromSession cli.sessionName = some binding.taskId ∧
        session.pack.taskControllerVersion = some cli.version := by
  unfold Analyzer.ownedTask at h
  split_ifs at h
  simp only [Analyzer.ownedTaskController, Option.bind_eq_bind, Option.bind_eq_some_iff] at h
  obtain ⟨cli, hcli, h⟩ := h
  split_ifs at h with hversion
  obtain ⟨taskId, htask, hfind⟩ := Option.bind_eq_some_iff.1 h
  have hfacts := List.find?_some hfind
  simp only [Bool.and_eq_true, beq_iff_eq] at hfacts
  exact ⟨List.mem_of_find?_eq_some hfind, hfacts.2, cli, hcli, by rw [htask, hfacts.1],
    not_not.1 hversion⟩

theorem sessionOwner_eq_some {binding : SessionOwnerBinding}
    (h : a.sessionOwner session = some binding) :
    binding ∈ a.context.sessionOwners ∧
      binding.controller.exactMatch session.root.identity = true ∧
      ∃ cli, session.root.runtime.playwrightCli = some cli ∧
        taskIdFromSession cli.sessionName = none ∧
        cli.selectorFingerprint = some binding.selectorFingerprint ∧
        cli.sessionName = binding.sessionName ∧ cli.version = binding.controllerVersion ∧
        session.pack.sessionOwnerControllerVersion = some cli.version := by
  unfold Analyzer.sessionOwner at h
  split_ifs at h
  unfold Analyzer.boundSessionOwner at h
  split_ifs at h
  simp only [Option.bind_eq_bind, Option.bind_eq_some_iff] at h
  obtain ⟨cli, hcli, h⟩ := h
  split_ifs at h with htask hversion
  obtain ⟨selector, hselector, hfind⟩ := Option.bind_eq_some_iff.1 h
  have hfacts := List.find?_some hfind
  simp only [Bool.and_eq_true, beq_iff_eq] at hfacts
  obtain ⟨⟨⟨hsel, hname⟩, hbound⟩, hexact⟩ := hfacts
  exact ⟨List.mem_of_find?_eq_some hfind, hexact, cli, hcli, by simpa using htask,
    by rw [hselector, hsel], hname.symm, hbound.symm, not_not.1 hversion⟩

/-- A controller whose owner protects nothing has been released. -/
theorem controllerProtections_eq_nil (hs : session ∈ a.sessions g)
    (hg : ProcessGraph.fromSnapshot s = .ok g) (h : a.controllerProtections session = [])
    (hcontroller : session.hasController = true) :
    ControllerReleased a s g session.pack session.root := by
  have hgraph : session.graph = g := by
    obtain ⟨c, -, hof⟩ := List.mem_filterMap.1 hs
    exact (session_of hof).1
  have hvisible : session.clientVisibilityIncomplete = false →
      session.root.runtime.descriptorFactsComplete = true ∧
        ∀ q ∈ s.processes, q.runtime.taskSessionFactsComplete = true := by
    intro hvis
    simp only [Session.clientVisibilityIncomplete, Bool.or_eq_false_iff, Bool.not_eq_false',
      List.any_eq_false, Bool.not_eq_true'] at hvis
    refine ⟨hvis.1, fun q hq => ?_⟩
    have hin : q ∈ session.graph.processes := hgraph ▸ (mem_processes hg).2 (get_of_mem hg hq)
    simpa using hvis.2 q hin
  unfold Analyzer.controllerProtections at h
  cases htask : a.ownedTask session with
  | some binding =>
      simp only [htask] at h
      obtain ⟨hreleased, hcli, hvis, hsockets, hwork⟩ := ownerProtections_eq_nil h
      obtain ⟨hmem, hexact, cli, hroot, hsession, hversion⟩ := ownedTask_eq_some htask
      refine ⟨⟨cli, hroot, (hcli cli hroot).1, (hcli cli hroot).2, Or.inl ⟨binding, hmem, hexact,
        hsession, hversion, hreleased, hgraph ▸ hwork⟩⟩, hsockets, hvisible hvis⟩
  | none =>
      simp only [htask, hcontroller, Bool.not_true, Bool.false_eq_true, if_false] at h
      cases howner : a.sessionOwner session with
      | some binding =>
          simp only [howner] at h
          obtain ⟨hreleased, hcli, hvis, hsockets, hwork⟩ := ownerProtections_eq_nil h
          obtain ⟨hmem, hexact, cli, hroot, hfacts⟩ := sessionOwner_eq_some howner
          obtain ⟨hordinary, hselector, hname, hbound, hversion⟩ := hfacts
          refine ⟨⟨cli, hroot, (hcli cli hroot).1, (hcli cli hroot).2, Or.inr ⟨binding, hmem, hexact,
            hordinary, hselector, hname, hbound, hversion, hreleased, hgraph ▸ hwork⟩⟩, hsockets,
            hvisible hvis⟩
      | none =>
          simp only [howner] at h
          split_ifs at h

/-! ## Members and browsers -/

/-- A member of a session no rule protects. -/
theorem member_unprotected {t : Nat} (hs : session ∈ a.sessions g)
    (hg : ProcessGraph.fromSnapshot s = .ok g) (h : a.protections session t = [])
    {p : ProcessRecord} (hp : p ∈ session.members) : TargetUnprotected a s g p := by
  obtain ⟨c, -, hof⟩ := List.mem_filterMap.1 hs
  obtain ⟨hgraph, -, -, -, -⟩ := session_of hof
  obtain ⟨hget, hpid⟩ := (mem_members hs hg).1 hp
  have huid := (fromSnapshot_ok hg).2
  simp only [Analyzer.protections, List.append_eq_nil_iff, holding_eq_nil, List.forall_mem_cons,
    hgraph] at h
  obtain ⟨⟨⟨⟨hrules, -⟩, -⟩, -⟩, -⟩ := h
  obtain ⟨huser, hsystem, hown, hlineage, hfacts, -⟩ := hrules
  simp only [Bool.not_eq_false', Session.sameUser, List.all_eq_true, Bool.and_eq_true, beq_iff_eq,
    bne_iff_ne, hgraph] at huser
  simp only [Bool.or_eq_false_iff, List.contains_eq_mem, decide_eq_false_iff_not] at hsystem
  simp only [Bool.or_eq_false_iff, Option.any_eq_false, List.any_eq_false, List.contains_eq_mem,
    decide_eq_true_eq] at hown
  simp only [List.any_eq_false, Bool.or_eq_true, not_or, Bool.not_eq_true] at hlineage
  simp only [List.any_eq_false, Bool.not_eq_true', Bool.not_eq_false] at hfacts
  obtain ⟨hcurrent, hroot⟩ := huser p hp
  obtain ⟨hcycle, hparent⟩ := hlineage p.pid hpid
  refine ⟨⟨by rw [hcurrent, huid], ?_⟩, ⟨?_, ?_⟩, ⟨?_, ?_⟩, hfacts p hp,
    ProcessGraph.lineageEnds hcycle, ?_⟩
  · rw [← huid, ← hcurrent]
    exact hroot
  · exact fun heq => hsystem.1 (heq ▸ hpid)
  · exact fun heq => hsystem.2 (heq ▸ hpid)
  · intro heq
    have hnot := hown.1 p.pid heq
    simp [hpid] at hnot
  · exact hown.2 p.pid hpid
  · rw [ProcessGraph.hasUnresolvedParent, hget] at hparent
    simp only [Bool.and_eq_false_iff, decide_eq_false_iff_not, not_lt, Option.isNone_eq_false_iff,
      Option.isSome_iff_exists] at hparent
    refine hparent.imp id fun ⟨q, hq⟩ => ?_
    exact ⟨q, get_mem hg hq⟩

/-- A browser root nobody uses and everybody recognizes. -/
structure BrowserUnprotected (fact : AppBundleVersion) (p : ProcessRecord) : Prop where
  headless : argsContainAny p headlessMarkers = true
  bundle : p.runtime.appBundle = some fact
  detached : p.runtime.attachedDebugTransport = false

/-- The browser roots of a session no rule protects. -/
theorem browserRoots_unprotected {t : Nat} (h : a.protections session t = [])
    (hroots : session.hasBrowserRoots = true) :
    ∃ fact, session.pack.Accepts fact ∧
      ∀ p ∈ session.browserRoots, BrowserUnprotected fact p := by
  simp only [Analyzer.protections, List.append_eq_nil_iff, holding_eq_nil,
    List.forall_mem_cons] at h
  obtain ⟨⟨⟨⟨hrules, -⟩, hversions⟩, -⟩, -⟩ := h
  obtain ⟨-, -, -, -, -, -, hheadless, -, -, -, hattached, -⟩ := hrules
  simp only [hroots, Bool.true_and, Bool.not_eq_false', Session.headless,
    List.all_eq_true] at hheadless
  simp only [List.any_eq_false, Bool.not_eq_true] at hattached
  have hgate : session.versionGate =
      some (evaluateBrowserVersions session.browserRoots session.pack.versionPolicy) := by
    rw [Session.versionGate, if_pos hroots]
  obtain ⟨fact, haccepts, hbundle⟩ :=
    evaluateBrowserVersions_supported (versionProtections_eq_nil hversions _ hgate)
  exact ⟨fact, haccepts, fun p hp => ⟨hheadless p hp, hbundle p hp, hattached p hp⟩⟩

/-- The controller of a candidate is its root, and a member. -/
theorem packCandidates_controller {c : Candidate} {pid : Pid} (h : c ∈ packCandidates g pack)
    (hpid : c.controllerPid = some pid) : c.rootPid = pid ∧ pid ∈ c.memberPids := by
  simp only [packCandidates, List.mem_append, List.mem_map, List.mem_filter] at h
  rcases h with (⟨controller, -, rfl⟩ | ⟨controller, -, rfl⟩) | ⟨browser, -, rfl⟩
  · obtain rfl : controller = pid := Option.some.inj hpid
    simp [ownedCandidate]
  · obtain rfl : controller = pid := Option.some.inj hpid
    simp [bareCandidate]
  · cases hpid

/-- The controller of a session is its root, and a target under that
role. -/
theorem controller_target (hs : session ∈ a.sessions g) (hg : ProcessGraph.fromSnapshot s = .ok g)
    (hcontroller : session.hasController = true) :
    ⟨session.root.identity, session.root.processGroupId, .controller⟩ ∈ session.targets := by
  obtain ⟨c, hc, hof⟩ := List.mem_filterMap.1 hs
  obtain ⟨pack, -, hcand⟩ := candidate_pack hc
  obtain ⟨-, rfl, hroot, -, -⟩ := session_of hof
  obtain ⟨pid, hpid⟩ := Option.isSome_iff_exists.1 hcontroller
  obtain ⟨rfl, hmember⟩ := packCandidates_controller hcand hpid
  have hrootPid := (get_mem hg hroot).2
  have hin : session.root ∈ session.members :=
    (mem_members hs hg).2 (by rw [hrootPid]; exact ⟨hroot, hmember⟩)
  refine List.mem_map.2 ⟨session.root, hin, ?_⟩
  rw [processRole, if_pos (by rw [hpid, hrootPid])]

/-! ## The report -/

/-- **A cooling report has passed every hard protection.** Its targets are
the user's, none of the system's and none of the daemon's own, known
completely, on a parent chain that ends and with their own parent listed.
It has browser roots, all headless, of one bundle the pack accepts, none
with a debugger attached; its root is of the minimum age; and if it has a
controller, the exact owner of that controller has released it and nobody
uses its session. -/
theorem cooling_passed_protections (h : a.observe s = .ok reports) (hr : r ∈ reports)
    (hcool : r.state = .cooling) :
    ∃ g session, ProcessGraph.fromSnapshot s = .ok g ∧ session ∈ a.sessions g ∧
      r = a.report session s.observedAtUnixMillis ∧ session.pack ∈ a.rules.packs ∧
      (∀ t ∈ r.targets, ∃ p ∈ s.processes, p.identity = t.identity ∧ TargetUnprotected a s g p) ∧
      (session.browserRoots ≠ [] ∧ ∃ fact, session.pack.Accepts fact ∧
        ∀ p ∈ session.browserRoots, p ∈ s.processes ∧ BrowserUnprotected fact p ∧
          ⟨p.identity, p.processGroupId, .browserRoot⟩ ∈ r.targets) ∧
      (session.root ∈ s.processes ∧ session.root.pid = r.root.pid ∧
        0 < session.root.identity.startedAtUnixMicros ∧
        session.root.identity.startedAtUnixMicros + minimumCandidateAgeMicros ≤
          s.observedAtUnixMillis * 1000) ∧
      (session.hasController = true →
        ⟨session.root.identity, session.root.processGroupId, .controller⟩ ∈ r.targets ∧
        ControllerReleased a s g session.pack session.root) := by
  obtain ⟨g, hg, hiff⟩ := mem_observe h
  obtain ⟨session, hs, rfl⟩ := (hiff r).1 hr
  obtain ⟨hnone, -, -, hisolated⟩ := report_cooling hcool
  obtain ⟨c, hc, hof⟩ := List.mem_filterMap.1 hs
  obtain ⟨pack, hpack, hcand⟩ := candidate_pack hc
  obtain ⟨hgraph, hcandidate, hroot, -, -⟩ := session_of hof
  obtain ⟨browser, hbrowser, -⟩ := isolated_names hisolated
  have hroots : session.hasBrowserRoots = true := by
    simpa [Session.hasBrowserRoots] using List.ne_nil_of_mem hbrowser
  obtain ⟨fact, haccepts, hbrowsers⟩ := browserRoots_unprotected hnone hroots
  refine ⟨g, session, hg, hs, rfl, ?_, fun t ht => ?_, ⟨List.ne_nil_of_mem hbrowser, fact, haccepts,
    fun p hp => ⟨?_, hbrowsers p hp, browserRoot_target hs hg hp⟩⟩, ⟨(get_mem hg hroot).1, rfl, ?_⟩,
    fun hcontroller => ⟨controller_target hs hg hcontroller, ?_⟩⟩
  · have hsame : session.pack = pack := by
      rw [Session.pack, hcandidate]
      exact (packCandidates_sound hcand).pack
    exact hsame ▸ hpack
  · have ht' : t ∈ session.targets := ht
    obtain ⟨p, hp, rfl⟩ := List.mem_map.1 ht'
    exact ⟨p, (get_mem hg ((mem_members hs hg).1 hp).1).1, rfl, member_unprotected hs hg hnone hp⟩
  · exact (get_mem hg ((mem_browserRoots hs hg).1 hp).1).1
  · simp only [Analyzer.protections, List.append_eq_nil_iff] at hnone
    exact ageProtections_eq_nil hnone.1.2
  · simp only [Analyzer.protections, List.append_eq_nil_iff] at hnone
    exact controllerProtections_eq_nil hs hg hnone.1.1.1.2 hcontroller

/-! ## The lineage above a session -/

/-- The shell a controller was started from, whose own parent is not
listed. -/
def adoptedShell : ProcessRecord :=
  { releasedController with
    identity := sampleIdentity 50
    parentPid := 40
    name := "zsh"
    executablePath := some "/bin/zsh"
    arguments := some ["zsh"]
    runtime := { taskSessionFactsComplete := true } }

/-- The released session below that shell. -/
def shellSnapshot : Snapshot :=
  sampleSnapshot [adoptedShell, { releasedController with parentPid := 50 }, profiledBrowser 101 "a"]

/-- The session has a controller, and that has been released. -/
theorem cooling_passed_protections_shell :
    ∃ reports, releasedAnalyzer.observe shellSnapshot = .ok reports ∧
      ∃ r ∈ reports, r.state = .cooling ∧ ∃ g, ∃ session : Session,
        ProcessGraph.fromSnapshot shellSnapshot = .ok g ∧ session.root.pid = r.root.pid ∧
        session.hasController = true ∧
        ControllerReleased releasedAnalyzer shellSnapshot g session.pack session.root := by
  have hcools : coolsWith releasedAnalyzer shellSnapshot (profiledBrowser 101 "a") = true := by
    decide +kernel
  have hcontrolled : (match ProcessGraph.fromSnapshot shellSnapshot with
      | .ok g => (releasedAnalyzer.sessions g).all Session.hasController
      | .error _ => false) = true := by decide +kernel
  obtain ⟨reports, hobs, r, hr, hstate, -⟩ := coolsWith_report hcools
  obtain ⟨g, session, hg, hs, -, -, -, -, ⟨-, hroot, -⟩, hreleased⟩ :=
    cooling_passed_protections hobs hr hstate
  rw [hg] at hcontrolled
  have hcontroller : session.hasController = true := List.all_eq_true.1 hcontrolled session hs
  exact ⟨reports, hobs, r, hr, hstate, g, session, hg, hroot, hcontroller,
    (hreleased hcontroller).2⟩

/-- An ancestor of a cooling report's target has a parent that is not
listed: of the processes above a session that is not asked. -/
theorem cooling_unresolved_ancestor :
    ¬ ∀ (a : Analyzer) (s : Snapshot) (reports : List IncidentReport) (g : ProcessGraph),
      a.observe s = .ok reports → ProcessGraph.fromSnapshot s = .ok g →
      ∀ r ∈ reports, r.state = .cooling → ∀ t ∈ r.targets,
        ∀ pid ∈ t.identity.pid :: g.ancestorPids t.identity.pid,
          g.hasUnresolvedParent pid = false := by
  intro h
  have hcools : coolsWith releasedAnalyzer shellSnapshot (profiledBrowser 101 "a") = true := by
    decide +kernel
  obtain ⟨reports, hobs, r, hr, hstate, ht⟩ := coolsWith_report hcools
  obtain ⟨g, hg⟩ := fromSnapshot_isSome.2
    (show (shellSnapshot.processes.map ProcessRecord.pid).Nodup by decide)
  have hgraph : (match ProcessGraph.fromSnapshot shellSnapshot with
      | .ok g => (g.ancestorPids 101).contains 50 && g.hasUnresolvedParent 50
      | .error _ => false) = true := by decide +kernel
  rw [hg] at hgraph
  simp only [Bool.and_eq_true, List.contains_eq_mem, decide_eq_true_eq] at hgraph
  have hresolved := h _ _ _ g hobs hg r hr hstate _ ht 50
    (List.mem_cons_of_mem _ hgraph.1)
  rw [hgraph.2] at hresolved
  cases hresolved

end Unlinger
