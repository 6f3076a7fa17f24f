import Mathlib.Algebra.GroupWithZero.Nat
import Unlinger.Rules.Model.Match
import Unlinger.Core.Model.Executor

/-!
# The analyzer

`Analyzer` of `unlinger-rules/src/lib.rs`: the candidates of a snapshot,
their classification into reports, the reconciliation of two
observations, and the revalidation of a frozen plan.

The source classifies a candidate in one function; here the facts it
derives on the way are functions of a `Session`, the candidate together
with the processes it names. Its protection rules are a table of
conditions and names. The source collects the names in an ordered set and
the evidence in a list that is sorted and freed of duplicates at the end,
so the order in which they are found does not matter.
-/

namespace Unlinger

/-- What the analyzer knows besides the rules. -/
structure AnalyzerContext where
  selfPid : Option Pid := none
  ancestorPids : List Pid := []
  taskControllers : List TaskControllerBinding := []
  sessionOwners : List SessionOwnerBinding := []
  deriving DecidableEq

/-- The rules with their context. -/
structure Analyzer where
  rules : RuleSet
  context : AnalyzerContext
  deriving DecidableEq

/-- Why a snapshot could not be observed. -/
inductive RuleError
  | invalidGraph (error : GraphError)
  deriving DecidableEq

/-! ## Candidates -/

/-- A candidate replaces the one of its root where it shows more of its
pack, or as much of a pack that comes first. -/
def selectCandidate (selected : OrdMap Pid Candidate) (c : Candidate) : OrdMap Pid Candidate :=
  match selected.lookup c.rootPid with
  | none => selected.insert c.rootPid c
  | some existing =>
      if existing.packAnchorCount < c.packAnchorCount
          ∨ c.packAnchorCount = existing.packAnchorCount ∧ c.pack.id < existing.pack.id then
        selected.insert c.rootPid c
      else selected

/-- The browser roots of a pack, in pid order. -/
def browserRootPids (g : ProcessGraph) (pack : SignaturePack) : List Pid :=
  (g.processes.filter fun p => isBrowserRoot p pack).map ProcessRecord.pid

/-- The controllers of a pack, in pid order. -/
def controllerPids (g : ProcessGraph) (pack : SignaturePack) : List Pid :=
  (g.processes.filter fun p =>
    !(browserRootPids g pack).contains p.pid && matchesController p pack).map ProcessRecord.pid

/-- The controller nearest above a browser. -/
def nearestController (g : ProcessGraph) (pack : SignaturePack) (browser : Pid) : Option Pid :=
  (g.ancestorPids browser).find? fun pid => (controllerPids g pack).contains pid

/-- The browsers of a controller. -/
def ownedBrowsers (g : ProcessGraph) (pack : SignaturePack) (controller : Pid) : List Pid :=
  (browserRootPids g pack).filter fun pid => nearestController g pack pid == some controller

/-- The anchors of the process of a pid. -/
def anchorsAt (g : ProcessGraph) (pack : SignaturePack) (pid : Pid) : Nat :=
  match g.get pid with
  | some p => packAnchorCount p pack
  | none => 0

/-- A controller with its browsers, everything below them, and the
recorders it joined. -/
def ownedCandidate (g : ProcessGraph) (pack : SignaturePack) (controller : Pid) : Candidate :=
  let browsers := ownedBrowsers g pack controller
  { pack := pack
    rootPid := controller
    controllerPid := some controller
    browserRootPids := browsers
    -- other children of the controller are no members
    memberPids := ((controller :: (browsers.flatMap g.descendantPids
      ++ joinedRecorderPids g controller browsers pack)).insertionSort (· ≤ ·)).dedup
    packAnchorCount := anchorsAt g pack controller }

/-- A controller without a browser. -/
def bareCandidate (g : ProcessGraph) (pack : SignaturePack) (controller : Pid) : Candidate where
  pack := pack
  rootPid := controller
  controllerPid := some controller
  browserRootPids := []
  memberPids := [controller]
  packAnchorCount := anchorsAt g pack controller

/-- A browser no controller owns. -/
def unownedCandidate (g : ProcessGraph) (pack : SignaturePack) (browser : Pid) : Candidate where
  pack := pack
  rootPid := browser
  controllerPid := none
  browserRootPids := [browser]
  memberPids := g.descendantPids browser
  packAnchorCount := anchorsAt g pack browser

/-- The candidates of one pack, in the order they are selected. -/
def packCandidates (g : ProcessGraph) (pack : SignaturePack) : List Candidate :=
  ((controllerPids g pack).filter fun c => !(ownedBrowsers g pack c).isEmpty).map
      (ownedCandidate g pack)
    ++ ((controllerPids g pack).filter fun c => (ownedBrowsers g pack c).isEmpty).map
      (bareCandidate g pack)
    -- a browser that shows no anchor of the pack is left to other packs
    ++ ((browserRootPids g pack).filter fun pid =>
        (nearestController g pack pid).isNone && decide (0 < anchorsAt g pack pid)).map
      (unownedCandidate g pack)

/-- The candidates of all packs, one for each root. -/
def Analyzer.candidates (a : Analyzer) (g : ProcessGraph) : List Candidate :=
  ((a.rules.packs.flatMap (packCandidates g)).foldl selectCandidate OrdMap.empty).values

/-! ## Sessions -/

/-- A candidate with the processes it names. -/
structure Session where
  graph : ProcessGraph
  candidate : Candidate
  root : ProcessRecord
  members : List ProcessRecord
  browserRoots : List ProcessRecord

/-- The session of a candidate whose root is there. -/
def Session.of (g : ProcessGraph) (c : Candidate) : Option Session :=
  (g.get c.rootPid).map fun root =>
    ⟨g, c, root, c.memberPids.filterMap g.get, c.browserRootPids.filterMap g.get⟩

namespace Session

variable (s : Session)

/-- The pack the session was found by. -/
def pack : SignaturePack := s.candidate.pack

/-- Some browser belongs to it. -/
def hasBrowserRoots : Bool := !s.browserRoots.isEmpty

/-- A controller belongs to it. -/
def hasController : Bool := s.candidate.controllerPid.isSome

/-- The process of its controller. -/
def controller : Option ProcessRecord := s.candidate.controllerPid.bind s.graph.get

/-- Every member is the user's, and nobody is root. -/
def sameUser : Bool := s.members.all fun p => p.uid == s.graph.currentUid && p.uid != 0

/-- The profiles its browsers name. -/
def profilePaths : List String := s.browserRoots.filterMap userDataDir

/-- One of them is an ordinary browser's. -/
def standardProfile : Bool := s.profilePaths.any fun path => containsAny path standardProfileMarkers

/-- There are some, and all are ephemeral. -/
def ephemeralProfile : Bool :=
  !s.profilePaths.isEmpty
    && s.profilePaths.all fun path =>
        containsAny path s.pack.ephemeralProfileMarkers && isEphemeralPath path

/-- There are some, and not all are ephemeral. -/
def persistentProfile : Bool := !s.profilePaths.isEmpty && !s.ephemeralProfile

/-- Somebody outside names one of them. -/
def sharedProfile : Bool :=
  s.profilePaths.any fun profile =>
    s.graph.processes.any fun p =>
      !s.candidate.memberPids.contains p.pid
        && (match userDataDir p with
          | some other => normalize other == normalize profile
          | none => false)

/-- Every browser runs without a window. -/
def headless : Bool :=
  s.hasBrowserRoots && s.browserRoots.all fun p => argsContainAny p headlessMarkers

/-- Some browser has a debugging transport. -/
def transport : Bool := s.browserRoots.any fun p => argsContainAny p transportMarkers

/-- Some browser has a private debugging pipe. -/
def debugPipe : Bool := s.browserRoots.any fun p => argsContain p "--remote-debugging-pipe"

/-- Some browser has a debugging port. -/
def hasDebugPort : Bool := s.browserRoots.any fun p => argsContain p "--remote-debugging-port"

/-- The framework shows in the controller or in a browser. -/
def frameworkArgument : Bool :=
  (s.controller.toList ++ s.browserRoots).any fun p => processContainsAny p s.pack.frameworkMarkers

/-- What the version policy says. -/
def versionGate : Option BrowserVersionGate :=
  if s.hasBrowserRoots then some (evaluateBrowserVersions s.browserRoots s.pack.versionPolicy)
  else none

/-- Every browser is the product the policy is about. -/
def recognizedBrowserProduct : Bool :=
  s.hasBrowserRoots
    && (match policyBundleId s.pack.versionPolicy with
      | some bundleId => s.browserRoots.all fun p =>
          match p.runtime.appBundle with
          | some fact => fact.bundleId == bundleId
          | none => false
      | none => false)

/-- A debugging port on a browser that is nobody's. -/
def manualCdp : Bool := !s.hasController && !s.ephemeralProfile && s.hasDebugPort

/-- A debugging port whose peers cannot be seen. -/
def controlPathIncomplete : Bool :=
  s.hasDebugPort && s.browserRoots.any fun p => !p.runtime.debugTransportFactsComplete

/-- Is the session isolated? -/
def isolated : Bool := s.ephemeralProfile && !s.sharedProfile && !s.standardProfile

end Session

/-! ## Owners -/

/-- Somebody outside the session carries its selector. Crash handlers of
its own browser do not count. -/
def anyExternalSessionWork (g : ProcessGraph) (sessionMembers : List Pid)
    (carriesSelector : ProcessRecord → Bool) : Bool :=
  g.processes.any fun p =>
    if sessionMembers.contains p.pid then false
    else if p.executableBasename == "chrome_crashpad_handler"
        && argsContain p "--monitor-self-annotation=ptype=crashpad-handler"
        && (match p.runtime.crashpadBundle with
          | some bundle =>
              bundle.bundleId == "com.google.chrome.for.testing"
                && g.processes.any fun browser =>
                    sessionMembers.contains browser.pid && browser.runtime.appBundle == some bundle
          | none => false) then false
    else carriesSelector p

/-- The exact process of an identity is in the graph. -/
def ProcessGraph.holdsExactly (g : ProcessGraph) (identity : ProcessIdentity) : Bool :=
  match g.get identity.pid with
  | some p => identity.exactMatch p.identity
  | none => false

/-- The processes of a bound controller, where it lives. -/
def boundMembers (g : ProcessGraph) (controller : ProcessIdentity) : List Pid :=
  if g.holdsExactly controller then controller.pid :: g.descendantPids controller.pid else []

/-- A process carries the selector of a task. -/
def carriesTask (taskId : String) (p : ProcessRecord) : Bool :=
  p.runtime.taskSessionName.bind taskIdFromSession == some taskId
    || ["--session", "-s"].any fun flag =>
        (flagValue p flag).bind taskIdFromSession == some taskId

/-- A process names an ordinary session. -/
def carriesSession (sessionName : String) (p : ProcessRecord) : Bool :=
  ["--session", "-s"].any fun flag => flagValue p flag == some sessionName

/-- Work of an ordinary session outside itself. -/
def ordinarySessionHasLiveWork (g : ProcessGraph) (binding : SessionOwnerBinding) : Bool :=
  anyExternalSessionWork g (boundMembers g binding.controller) (carriesSession binding.sessionName)

namespace Analyzer

variable (a : Analyzer)

/-- The binding of the task that owns a controller. -/
def ownedTaskController (p : ProcessRecord) (pack : SignaturePack) : Option TaskControllerBinding := do
  let cli ← p.runtime.playwrightCli
  if pack.taskControllerVersion ≠ some cli.version then none
  else
    let taskId ← taskIdFromSession cli.sessionName
    a.context.taskControllers.find? fun binding =>
      binding.taskId == taskId && binding.controller.exactMatch p.identity

/-- The binding of the host that owns the controller of an ordinary
session. -/
def boundSessionOwner (p : ProcessRecord) (pack : SignaturePack) : Option SessionOwnerBinding := do
  if pack.id ≠ "playwright" ∨ a.context.sessionOwners = [] then none
  else
    let cli ← p.runtime.playwrightCli
    -- a session a task may own is never an ordinary one
    if (taskIdFromSession cli.sessionName).isSome then none
    else if pack.sessionOwnerControllerVersion ≠ some cli.version then none
    else
      let selector ← cli.selectorFingerprint
      a.context.sessionOwners.find? fun binding =>
        binding.selectorFingerprint == selector && binding.sessionName == cli.sessionName
          && binding.controllerVersion == cli.version && binding.controller.exactMatch p.identity

/-- Work of a task outside its own session. -/
def sessionHasLiveWork (g : ProcessGraph) (sessionId : String) : Bool :=
  let members := a.context.taskControllers.flatMap fun binding =>
    if binding.taskId = sessionId then boundMembers g binding.controller else []
  anyExternalSessionWork g members (carriesTask sessionId)

/-- The task that owns a session. -/
def ownedTask (s : Session) : Option TaskControllerBinding :=
  if s.pack.id = "playwright" then a.ownedTaskController s.root s.pack else none

/-- The host that owns a session no task owns. -/
def sessionOwner (s : Session) : Option SessionOwnerBinding :=
  if s.pack.id = "playwright" ∧ (a.ownedTask s).isNone then a.boundSessionOwner s.root s.pack
  else none

/-- Whether the owner of a session released it, where it has one. -/
def verifiedOwnerRelease (s : Session) : Option Bool :=
  ((a.ownedTask s).map TaskControllerBinding.released).or
    ((a.sessionOwner s).map SessionOwnerBinding.released)

/-- The controller's parent still lives. -/
def controllerParentLive (s : Session) : Bool :=
  !(a.verifiedOwnerRelease s == some true)
    && (match s.controller with
      | some c => decide (1 < c.parentPid) && (s.graph.get c.parentPid).isSome
      | none => false)

/-- Nobody owns the session any more. -/
def ownerMissing (s : Session) : Bool :=
  match a.verifiedOwnerRelease s with
  | some released => released
  | none =>
      -- adopted by launchd, or gone altogether
      (match s.controller with
        | some c => c.parentPid == 1
        | none => false)
      || (!s.hasController && s.hasBrowserRoots
        && s.browserRoots.all fun b => b.parentPid == 1 || (s.graph.get b.parentPid).isNone)

end Analyzer

/-! ## Protections -/

/-- The names whose condition holds. -/
def holding (table : List (Bool × String)) : List String :=
  table.filterMap fun row => if row.1 then some row.2 else none

/-- The client facts of an owned session are incomplete. -/
def Session.clientVisibilityIncomplete (s : Session) : Bool :=
  !s.root.runtime.descriptorFactsComplete
    || s.graph.processes.any fun p => !p.runtime.taskSessionFactsComplete

/-- Protections shared by both kinds of owner. -/
def ownerProtections (s : Session) (released : Bool) (active incomplete busy : String)
    (liveWork : Bool) : List String :=
  let cli := s.root.runtime.playwrightCli
  holding
    [(!released, active),
      (cli.any fun c => c.persistent, "protection.persistent_or_unknown_profile"),
      (cli.any fun c => c.attached, "protection.attached_debug_peer"),
      (s.clientVisibilityIncomplete, incomplete),
      (!s.root.runtime.connectedNamedUnixSocketFingerprints.isEmpty || liveWork, busy)]

/-- What the owner, or its absence, protects. -/
def Analyzer.controllerProtections (a : Analyzer) (s : Session) : List String :=
  match a.ownedTask s with
  | some binding =>
      ownerProtections s binding.released "protection.task_owner_active"
        "protection.task_client_visibility_incomplete" "protection.task_client_active"
        (a.sessionHasLiveWork s.graph binding.taskId)
  | none =>
      if !s.hasController then []
      else
        match a.sessionOwner s with
        | some binding =>
            ownerProtections s binding.released "protection.session_owner_active"
              "protection.session_owner_visibility_incomplete"
              "protection.session_owner_client_active"
              (ordinarySessionHasLiveWork s.graph binding)
        | none =>
            if ordinaryCliSession s.root && ordinaryControllerVersionSupported s.pack s.root then
              ["protection.ordinary_session_owner_unverified"]
            else ["protection.controller_version_unverified"]

/-- What the browser versions protect. -/
def versionProtections : Option BrowserVersionGate → List String
  | some .exactSupported | some .rangeSupported | none => []
  | some .observational => ["protection.version_observational_only"]
  | some .missingFacts => ["protection.browser_version_missing"]
  | some .mixedFacts => ["protection.browser_version_mixed"]
  | some .unsupportedProduct => ["protection.browser_product_unsupported"]
  | some .unsupportedVersion => ["protection.browser_version_unsupported"]

/-- What the age protects. -/
def ageProtections : CandidateAgeGate → List String
  | .eligible => []
  | .tooYoung => ["protection.minimum_candidate_age_not_met"]
  | .unknown => ["protection.candidate_age_unknown"]

/-- Every protection rule that holds of a session. -/
def Analyzer.protections (a : Analyzer) (s : Session) (observedAtUnixMillis : Nat) : List String :=
  let pids := s.candidate.memberPids
  holding
    [(!s.sameUser, "protection.uid_or_root"),
      (pids.contains 0 || pids.contains 1, "protection.system_pid"),
      ((a.context.selfPid.any fun pid => pids.contains pid)
        || pids.any fun pid => a.context.ancestorPids.contains pid,
        "protection.unlinger_or_ancestor"),
      (pids.any fun pid => s.graph.lineageHasCycle pid || s.graph.hasUnresolvedParent pid,
        "protection.incomplete_or_cyclic_graph"),
      (s.members.any fun p => !p.hasCompleteClassificationFacts,
        "protection.incomplete_process_facts"),
      (s.standardProfile, "protection.standard_browser_profile"),
      (s.hasBrowserRoots && !s.headless, "protection.headed_or_human_control"),
      (s.persistentProfile, "protection.persistent_or_unknown_profile"),
      (s.manualCdp, "protection.manual_cdp"),
      (s.sharedProfile, "protection.profile_shared_outside_incident"),
      (s.browserRoots.any fun p => p.runtime.attachedDebugTransport,
        "protection.attached_debug_peer"),
      (s.controlPathIncomplete, "protection.debug_peer_visibility_incomplete")]
    ++ a.controllerProtections s
    ++ versionProtections s.versionGate
    ++ ageProtections (candidateAgeGate observedAtUnixMillis s.root.identity.startedAtUnixMicros)
    ++ holding
      [(s.hasBrowserRoots && hasPlausibleUnjoinedRecorder s.graph s.candidate s.browserRoots,
        "protection.unjoined_recorder_residue")]

/-! ## Evidence -/

/-- The position of a family in the order of evidence. -/
def EvidenceFamily.rank : EvidenceFamily → Nat
  | .automationProvenance => 0
  | .abandonment => 1
  | .isolation => 2
  | .protection => 3

/-- No pid comes before every pid. -/
def sourceLe : Option Pid → Option Pid → Bool
  | none, _ => true
  | some _, none => false
  | some p, some q => decide (p ≤ q)

/-- Evidence by family, name and source. -/
def evidenceLe (x y : EvidenceItem) : Bool :=
  decide (x.family.rank < y.family.rank)
    || (x.family == y.family
      && (decide (x.id < y.id) || (x.id == y.id && sourceLe x.sourcePid y.sourcePid)))

/-- In order, every item once. -/
def sortEvidence (evidence : List EvidenceItem) : List EvidenceItem :=
  (evidence.insertionSort fun x y => evidenceLe x y = true).dedup

/-- The items whose condition holds. -/
def holdingItems (table : List (Bool × EvidenceItem)) : List EvidenceItem :=
  table.filterMap fun row => if row.1 then some row.2 else none

/-- The six kinds of provenance a session may show. -/
def Session.provenance (s : Session) : List Bool :=
  [s.hasController, s.frameworkArgument, s.ephemeralProfile, s.transport, s.headless,
    s.recognizedBrowserProduct]

/-- Three kinds, one of them the framework's own. -/
def Session.strongProvenance (s : Session) : Bool :=
  (s.hasController || s.frameworkArgument || s.ephemeralProfile)
    && decide (3 ≤ s.provenance.countP id)

/-- The evidence of who left the session. -/
def Analyzer.abandonmentEvidence (a : Analyzer) (s : Session) : List EvidenceItem :=
  let item (id : String) (source : Option Pid) : List EvidenceItem := [⟨id, .abandonment, source⟩]
  if (a.ownedTask s).any TaskControllerBinding.released then
    item "abandonment.task_released" (some s.root.pid)
  else if (a.sessionOwner s).any SessionOwnerBinding.released then
    item "abandonment.session_owner_released" (some s.root.pid)
  else if a.controllerParentLive s then
    item "abandonment.live_controller_owner" s.candidate.controllerPid
  else if s.controller.any fun c => c.parentPid == 1 then
    item "abandonment.controller_reparented" s.candidate.controllerPid
  else if a.ownerMissing s then item "abandonment.controller_missing" (some s.root.pid)
  else []

/-- All the evidence of a session, protections included. -/
def Analyzer.evidence (a : Analyzer) (s : Session) (protections : List String) :
    List EvidenceItem :=
  let root := some s.root.pid
  let browser := s.candidate.browserRootPids.head?
  sortEvidence (holdingItems
      [((a.ownedTask s).isSome, ⟨"provenance.task_registered", .automationProvenance, root⟩),
        ((a.ownedTask s).isNone && s.hasController && (a.sessionOwner s).isSome,
          ⟨"provenance.session_owner_registered", .automationProvenance, root⟩),
        (s.versionGate.isNone,
          ⟨"ambiguity.browser_root_missing", .abandonment, s.candidate.controllerPid⟩),
        (s.hasController,
          ⟨"provenance.controller_lineage", .automationProvenance, s.candidate.controllerPid⟩),
        (s.frameworkArgument, ⟨"provenance.framework_marker", .automationProvenance, root⟩),
        (s.ephemeralProfile, ⟨"provenance.ephemeral_profile", .automationProvenance, browser⟩),
        (s.ephemeralProfile, ⟨"isolation.dedicated_ephemeral_profile", .isolation, browser⟩),
        (s.transport && s.debugPipe,
          ⟨"provenance.private_debug_pipe", .automationProvenance, browser⟩),
        (s.transport && !s.debugPipe, ⟨"provenance.debug_port", .automationProvenance, browser⟩),
        (s.headless, ⟨"provenance.headless_mode", .automationProvenance, browser⟩),
        (s.recognizedBrowserProduct,
          ⟨"provenance.automation_browser_binary", .automationProvenance, browser⟩),
        (s.versionGate == some .exactSupported,
          ⟨"version.browser_exact_allowlist", .automationProvenance, browser⟩),
        (s.versionGate == some .rangeSupported,
          ⟨"version.browser_bounded_range", .automationProvenance, browser⟩)]
    ++ a.abandonmentEvidence s
    ++ protections.map fun id => ⟨id, .protection, root⟩)

/-! ## Reports -/

/-- Every role, in order. -/
def ProcessRole.all : List ProcessRole :=
  [.controller, .browserRoot, .renderer, .gpu, .utility, .browserHelper, .crashHandler, .recorder,
    .incidentMember]

/-- The members as targets. -/
def Session.targets (s : Session) : List ProcessTarget :=
  s.members.map fun p => ⟨p.identity, p.processGroupId, processRole p s.candidate⟩

/-- How many targets of each role there are. -/
def roleCounts (targets : List ProcessTarget) : List ProcessRoleCount :=
  ProcessRole.all.filterMap fun role =>
    match targets.countP fun t => t.role == role with
    | 0 => none
    | n => some ⟨role, n⟩

/-- What a session is recognised by: its profiles, normalized and sorted,
or its root where no browser names one. -/
def Session.rows (s : Session) : List String :=
  match (s.profilePaths.map normalize).insertionSort (· ≤ ·) with
  | [] => [s.pack.id ++ ":" ++ fingerprintProcessIdentity s.root.identity]
  | rows => rows

/-- The fingerprint over all the rows at once. -/
def Session.fingerprint (s : Session) : String :=
  "ses-" ++ fingerprintParts (s.rows.map Text.bytes)

/-- The artifact of a session that may be cleaned, where its browsers
share one profile. -/
def Analyzer.runtimeArtifacts (a : Analyzer) (s : Session) (protections : List String) :
    List RuntimeArtifactCandidate :=
  if s.pack.devtoolsActivePort && s.versionGate.any BrowserVersionGate.supported
      && protections.isEmpty && s.strongProvenance && a.ownerMissing s && s.ephemeralProfile
      && !s.sharedProfile && !s.standardProfile
      && ((s.profilePaths.map normalize).dedup.length == 1) then
    match s.profilePaths with
    | [] => []
    | profile :: _ =>
        (RuntimeArtifactCandidate.devtoolsActivePort profile s.graph.currentUid
          s.fingerprint).toOption.toList
  else []

/-- Protected, active, cooling or ambiguous. -/
def Analyzer.state (a : Analyzer) (s : Session) (protections : List String) : IncidentState :=
  if !protections.isEmpty then .protectedState
  else if a.controllerParentLive s then .active
  else if s.strongProvenance && a.ownerMissing s && s.isolated then .cooling
  else .ambiguous

/-- The report of a session. -/
def Analyzer.report (a : Analyzer) (s : Session) (observedAtUnixMillis : Nat) : IncidentReport :=
  let protections := a.protections s observedAtUnixMillis
  let identity := fingerprintProcessIdentity s.root.identity
  let key := s.pack.id ++ ":" ++ Text.decimal s.root.pid
  { incidentId := "inc-" ++ fingerprintParts [Text.bytes (key ++ ":" ++ identity)]
    trackingKey := "trk-" ++ fingerprintParts [Text.bytes key]
    sessionFingerprint := s.fingerprint
    signaturePack := s.pack.id
    signatureVersion := s.pack.version
    state := a.state s protections
    root := ⟨s.root.pid, s.root.identity.startedAtUnixMicros, s.root.executableBasename, identity⟩
    memberCount := s.members.length
    residentMemoryBytes := (s.members.map ProcessRecord.residentMemoryBytes).sum % 2 ^ 64
    memberFingerprint := s.graph.processSetFingerprint s.candidate.memberPids
    roles := roleCounts s.targets
    evidence := a.evidence s protections
    gates :=
      { sameUser := s.sameUser
        strongAutomationProvenance := s.strongProvenance
        confirmedAbandonment := false
        isolatedSession := s.isolated
        stableAcrossTwoObservations := false
        processIdentityUnchanged := false
        noProtectionRule := protections.isEmpty }
    browserCompatibility := browserCompatibility s.browserRoots s.versionGate
      (unverifiedControllerReason s.hasController (a.ownedTask s).isSome (a.sessionOwner s).isSome
        s.root s.pack)
      s.controlPathIncomplete
    targets := s.targets
    runtimeArtifacts := a.runtimeArtifacts s protections }

/-- Classify a candidate; without its root there is nothing to report. -/
def Analyzer.classify (a : Analyzer) (g : ProcessGraph) (c : Candidate)
    (observedAtUnixMillis : Nat) : Option IncidentReport :=
  (Session.of g c).map fun s => a.report s observedAtUnixMillis

/-- Every session of a graph. -/
def Analyzer.sessions (a : Analyzer) (g : ProcessGraph) : List Session :=
  (a.candidates g).filterMap (Session.of g)

/-- **Observe a snapshot**: the reports of its candidates, by identifier. -/
def Analyzer.observe (a : Analyzer) (s : Snapshot) : Except RuleError (List IncidentReport) :=
  match ProcessGraph.fromSnapshot s with
  | .error e => .error (.invalidGraph e)
  | .ok g =>
      .ok (((a.candidates g).filterMap fun c => a.classify g c s.observedAtUnixMillis).insertionSort
        fun x y => x.incidentId ≤ y.incidentId)

/-! ## Two observations -/

/-- The report after a second observation that agrees with the first, or
does not. -/
def reconcileReport (previous report : IncidentReport) (confirmed : Bool) : IncidentReport :=
  let unchanged := previous.root.identityFingerprint == report.root.identityFingerprint
    && previous.memberFingerprint == report.memberFingerprint
  let gates := { report.gates with
    stableAcrossTwoObservations := unchanged
    processIdentityUnchanged := unchanged
    confirmedAbandonment := confirmed }
  let source := some report.root.pid
  if unchanged && gates.cleanupEligible then
    { report with
      gates := gates
      state := .confirmed
      evidence := sortEvidence (report.evidence ++
        [⟨"abandonment.grace_elapsed", .abandonment, source⟩,
          ⟨"observation.stable_twice", .abandonment, source⟩]) }
  else if !unchanged then
    { report with
      gates := { gates with noProtectionRule := false }
      state := .ambiguous
      evidence := sortEvidence (report.evidence ++
        [⟨"protection.identity_or_membership_changed", .protection, source⟩]) }
  else { report with gates := gates, evidence := sortEvidence report.evidence }

/-- Confirm what two observations agree on and abandonment covers. Of two
first reports under one key the later one counts. -/
def reconcileWithAbandonment (first second : List IncidentReport)
    (confirmedTrackingKeys : List String) : List IncidentReport :=
  second.map fun report =>
    if report.state ≠ .cooling then report
    else
      match first.reverse.find? fun r => r.trackingKey == report.trackingKey with
      | none => report
      | some previous =>
          if previous.state ≠ .cooling then report
          else
            reconcileReport previous report (confirmedTrackingKeys.contains report.trackingKey)

/-! ## Revalidation -/

/-- The frozen identity of a pid; of two targets of one pid the later one
counts. -/
def CleanupPlan.identityOf (plan : CleanupPlan) (pid : Pid) : Option ProcessIdentity :=
  (OrdMap.ofList (plan.targets.map fun t => (t.identity.pid, t.identity))).lookup pid

/-- The identity is exactly the one frozen for its pid. -/
def CleanupPlan.holdsExactly (plan : CleanupPlan) (identity : ProcessIdentity) : Bool :=
  match plan.identityOf identity.pid with
  | some frozen => frozen.exactMatch identity
  | none => false

/-- The snapshot leaves out something a decision about the plan rests
on. -/
def revalidationFactsIncomplete (a : Analyzer) (s : Snapshot) (plan : CleanupPlan) : Bool :=
  if s.coverage.unreadableProcesses ≠ 0
      ∨ s.coverage.listedProcesses ≠
        s.coverage.inspectedProcesses + s.coverage.unreadableProcesses
      ∨ s.processes.length ≠ s.coverage.inspectedProcesses then true
  else
    match a.rules.packs.find? fun pack =>
      pack.id == plan.signaturePack && pack.version == plan.signatureVersion with
    | none => true
    | some pack =>
        let groups := (plan.targets.map ProcessTarget.processGroupId).filter (· ≠ 0)
        let executables := plan.targets.filterMap fun t =>
          t.identity.executableDevice.bind fun d => t.identity.executableInode.map fun i => (d, i)
        s.processes.any fun p =>
          !p.hasCompleteClassificationFacts
            && ((plan.targets.map fun t => t.identity.pid).contains p.pid
              || (p.processGroupId != 0 && groups.contains p.processGroupId)
              || (match p.identity.executableDevice, p.identity.executableInode with
                | some d, some i => executables.contains (d, i)
                | _, _ => false)
              || matchesController p pack
              || isBrowserRoot p pack)

/-- A target that may not be signalled, whatever its session. -/
def Analyzer.targetProtected (a : Analyzer) (s : Snapshot) (p : ProcessRecord) : Bool :=
  p.uid == 0 || p.uid != s.currentUid || !p.hasCompleteClassificationFacts
    || a.context.selfPid == some p.pid || a.context.ancestorPids.contains p.pid

/-- The report is of a session that is still a candidate for cleanup. -/
def IncidentReport.stillEligible (r : IncidentReport) : Bool :=
  r.state == .cooling && r.gates.sameUser && r.gates.strongAutomationProvenance
    && r.gates.isolatedSession && r.gates.noProtectionRule

/-- The plan's session is still observed, or only some of its processes
are left. -/
def eligibleReason (matching : List IncidentReport) : String :=
  if matching.isEmpty then "revalidation.exact_frozen_subset"
  else "revalidation.incident_still_eligible"

/-- The checks before a signal, on the reports of the snapshot. -/
def Analyzer.revalidateTargets (a : Analyzer) (s : Snapshot) (plan : CleanupPlan)
    (reports : List IncidentReport) : Revalidation :=
  let matching := reports.filter fun r => r.sessionFingerprint == plan.sessionFingerprint
  let current := s.processes.filter fun p => (plan.identityOf p.pid).isSome
  if current.isEmpty then ⟨.gone, "revalidation.frozen_targets_absent"⟩
  else if current.any fun p => !plan.holdsExactly p.identity then
    ⟨.blocked, "revalidation.identity_changed"⟩
  else if current.any (a.targetProtected s) then
    ⟨.blocked, "revalidation.current_target_protected"⟩
  else if reports.any fun r => r.sessionFingerprint != plan.sessionFingerprint
      && r.targets.any fun t => plan.holdsExactly t.identity then
    ⟨.blocked, "revalidation.overlapping_session_changed"⟩
  else if matching.any fun r => !r.stillEligible then
    ⟨.blocked, "revalidation.confidence_downgraded"⟩
  else if matching.any fun r => r.targets.any fun t => !plan.holdsExactly t.identity then
    ⟨.blocked, "revalidation.new_or_changed_member"⟩
  else
    ⟨.eligible, eligibleReason matching⟩

/-- **Revalidate a frozen plan against a snapshot.** -/
def Analyzer.revalidate (a : Analyzer) (s : Snapshot) (plan : CleanupPlan)
    (phase : RevalidationPhase) : Revalidation :=
  if revalidationFactsIncomplete a s plan then
    ⟨.blocked, "revalidation.relevant_facts_incomplete"⟩
  else
    match a.observe s with
    | .error _ => ⟨.blocked, "revalidation.classifier_failed"⟩
    | .ok reports =>
        match phase with
        | .revivalCheck =>
            if (reports.filter fun r => r.sessionFingerprint == plan.sessionFingerprint).isEmpty then
              ⟨.gone, "revalidation.session_absent"⟩
            else ⟨.revived, "revalidation.session_reappeared"⟩
        | .beforeSignal => a.revalidateTargets s plan reports

end Unlinger
