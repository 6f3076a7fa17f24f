import Unlinger.Core.Model.Graph
import Unlinger.Core.Model.Session
import Unlinger.Rules.Model.Pack

/-!
# What the rules read off a process

The predicates of `unlinger-rules/src/lib.rs` on one process: which flags
and markers its command line and its executable show, and what that makes
it for a pack. Comparisons are on ASCII lower case with `/` for `\`.
-/

namespace Unlinger

/-- Profiles of ordinary browsers. -/
def standardProfileMarkers : List String :=
  ["/library/application support/google/chrome", "/library/application support/chromium",
    "/library/application support/microsoft edge"]

/-- Flags of a browser without a window. -/
def headlessMarkers : List String := ["--headless", "--headless=new", "--headless=old"]

/-- Flags of a debugging transport. -/
def transportMarkers : List String := ["--remote-debugging-pipe", "--remote-debugging-port"]

/-- A candidate must be this old, in microseconds. -/
def minimumCandidateAgeMicros : Nat := 60 * 1000000

/-- Lower case, with forward slashes. -/
def normalized (value : String) : List Char :=
  (Text.toAsciiLowercase value.toList).map fun c => if c = '\\' then '/' else c

/-- The same as text. -/
def normalize (value : String) : String := String.ofList (normalized value)

/-- Does the value contain one of the markers? -/
def containsAny (value : String) (markers : List String) : Bool :=
  markers.any fun marker => Text.isInfix (normalized marker) (normalized value)

/-- Where profiles that do not outlive their session are. -/
def isEphemeralPath (path : String) : Bool :=
  "/tmp/".toList.isPrefixOf (normalized path)
    || "/private/tmp/".toList.isPrefixOf (normalized path)
    || "/var/folders/".toList.isPrefixOf (normalized path)
    || Text.isInfix "playwright_chromiumdev_profile".toList (normalized path)
    || Text.isInfix "puppeteer_dev_chrome_profile".toList (normalized path)

/-- An argument in lower case. -/
def lowered (value : String) : List Char := Text.toAsciiLowercase value.toList

/-- The value of a flag, given in lower case, in an argument list: the
next argument, or what follows `=`. The first occurrence counts. -/
def flagValueIn (flag : List Char) : List String → Option String
  | [] => none
  | argument :: rest =>
      if lowered argument = flag then rest.head?
      else if (flag ++ ['=']).isPrefixOf (lowered argument) then
        some (String.ofList (argument.toList.drop (flag.length + 1)))
      else flagValueIn flag rest

/-- The value of a flag of a process. -/
def flagValue (p : ProcessRecord) (flag : String) : Option String :=
  p.arguments.bind (flagValueIn (lowered flag))

/-- The profile a process names. -/
def userDataDir (p : ProcessRecord) : Option String := flagValue p "--user-data-dir"

/-- The process has the flag, with a value or without. -/
def argsContain (p : ProcessRecord) (marker : String) : Bool :=
  (p.arguments.getD []).any fun argument =>
    lowered argument == lowered marker || (lowered marker ++ ['=']).isPrefixOf (lowered argument)

/-- The process has one of the flags. -/
def argsContainAny (p : ProcessRecord) (markers : List String) : Bool :=
  markers.any (argsContain p)

/-- One of the markers is in the name, the executable or an argument. -/
def processContainsAny (p : ProcessRecord) (markers : List String) : Bool :=
  (p.name :: (p.executablePath.toList ++ p.arguments.getD [])).any fun part =>
    containsAny part markers

/-- The executable's file name, in lower case. -/
def lowerBasename (p : ProcessRecord) : List Char := lowered p.executableBasename

/-- The process is a helper of a browser. -/
def hasTypeFlag (p : ProcessRecord) : Bool :=
  (p.arguments.getD []).any fun argument => "--type=".toList.isPrefixOf (lowered argument)

/-- The process records a session. -/
def matchesRecorder (p : ProcessRecord) (pack : SignaturePack) : Bool :=
  pack.recorderExecutableBasenames.any fun name => name.toList == lowerBasename p

/-- The process controls a session. -/
def matchesController (p : ProcessRecord) (pack : SignaturePack) : Bool :=
  if matchesRecorder p pack || Text.isInfix "crashpad".toList (lowerBasename p) || hasTypeFlag p then
    false
  else
    containsAny (p.executablePath.getD p.name) pack.controllerMarkers
      || (p.arguments.getD []).any fun argument =>
          !Text.startsWith argument "-" && containsAny argument pack.controllerMarkers

/-- The process is the root of a browser. -/
def isBrowserRoot (p : ProcessRecord) (pack : SignaturePack) : Bool :=
  containsAny p.executableBasename pack.browserExecutableMarkers && !hasTypeFlag p

/-- How many of the pack's own marks a process shows. -/
def packAnchorCount (p : ProcessRecord) (pack : SignaturePack) : Nat :=
  (if processContainsAny p pack.frameworkMarkers then 1 else 0)
    + (match userDataDir p with
      | some path => if containsAny path pack.ephemeralProfileMarkers then 1 else 0
      | none => 0)

/-! ## Controllers -/

/-- A recognised CLI controller on a session that was not issued to a
task. -/
def ordinaryCliSession (controller : ProcessRecord) : Bool :=
  match controller.runtime.playwrightCli with
  | some cli => (taskIdFromSession cli.sessionName).isNone
  | none => false

/-- Its version is the one the pack knows. -/
def ordinaryControllerVersionSupported (pack : SignaturePack) (controller : ProcessRecord) : Bool :=
  match controller.runtime.playwrightCli with
  | some cli => pack.sessionOwnerControllerVersion == some cli.version
  | none => false

/-- Why a session with a controller cannot be trusted, if it cannot. -/
def unverifiedControllerReason (hasController hasTaskBinding hasSessionOwner : Bool)
    (controller : ProcessRecord) (pack : SignaturePack) : Option String :=
  if !hasController || hasTaskBinding || hasSessionOwner then none
  else if ordinaryCliSession controller && ordinaryControllerVersionSupported pack controller then
    some "protection.ordinary_session_owner_unverified"
  else some "protection.controller_version_unverified"

/-! ## Age -/

/-- Is a candidate old enough? -/
inductive CandidateAgeGate
  | eligible
  | tooYoung
  | unknown
  deriving DecidableEq

/-- The age of a process at a snapshot; both products and differences
must exist in 64 bits. -/
def candidateAgeGate (observedAtUnixMillis startedAtUnixMicros : Nat) : CandidateAgeGate :=
  if startedAtUnixMicros = 0 then .unknown
  else if 2 ^ 64 ≤ observedAtUnixMillis * 1000 then .unknown
  else if observedAtUnixMillis * 1000 < startedAtUnixMicros then .unknown
  else if observedAtUnixMillis * 1000 - startedAtUnixMicros < minimumCandidateAgeMicros then .tooYoung
  else .eligible

/-! ## Candidates -/

/-- A possible incident: a controller with its browsers, or a browser on
its own. -/
structure Candidate where
  pack : SignaturePack
  rootPid : Pid
  controllerPid : Option Pid
  browserRootPids : List Pid
  memberPids : List Pid
  packAnchorCount : Nat

/-- The kind a helper process says it is. -/
def helperRole (kind : List Char) : ProcessRole :=
  if kind = "renderer".toList then .renderer
  else if kind = "gpu-process".toList then .gpu
  else if kind = "utility".toList then .utility
  else .browserHelper

/-- What a process is within a candidate. -/
def processRole (p : ProcessRecord) (c : Candidate) : ProcessRole :=
  if c.controllerPid = some p.pid then .controller
  else if p.pid ∈ c.browserRootPids then .browserRoot
  else if Text.isInfix "crashpad".toList (lowerBasename p)
      || Text.isInfix "crash handler".toList (lowerBasename p) then .crashHandler
  else if matchesRecorder p c.pack then .recorder
  else
    match (p.arguments.getD []).findSome? fun argument =>
      "--type=".toList.isPrefixOf? (lowered argument) with
    | some kind => helperRole kind
    | none => .incidentMember

/-- The recorders a controller started into its own process group, where
one of its browsers is. -/
def joinedRecorderPids (g : ProcessGraph) (controllerPid : Pid) (browserRootPids : List Pid)
    (pack : SignaturePack) : List Pid :=
  match g.get controllerPid with
  | none => []
  | some controller =>
      if controller.processGroupId = 0
          || !browserRootPids.any fun pid =>
            match g.get pid with
            | some browser =>
                browser.processGroupId != 0
                  && browser.processGroupId == controller.processGroupId
            | none => false then []
      else
        (g.processes.filter fun p =>
          p.parentPid == controllerPid && p.uid == controller.uid && p.ttyDevice.isNone
            && decide (controller.identity.startedAtUnixMicros ≤ p.identity.startedAtUnixMicros)
            && p.processGroupId == controller.processGroupId
            && matchesRecorder p pack).map ProcessRecord.pid

/-- A recorder that looks like the session's and is not among its
members. -/
def hasPlausibleUnjoinedRecorder (g : ProcessGraph) (c : Candidate)
    (browserRoots : List ProcessRecord) : Bool :=
  g.processes.any fun p =>
    !c.memberPids.contains p.pid && matchesRecorder p c.pack && p.uid == g.currentUid
      && p.ttyDevice.isNone
      && browserRoots.any fun browser =>
          decide (browser.identity.startedAtUnixMicros ≤ p.identity.startedAtUnixMicros)
            && p.processGroupId != 0 && p.processGroupId == browser.processGroupId

end Unlinger
