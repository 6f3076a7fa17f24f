import Unlinger.Core.Model.Process

/-!
# Incidents

The report types of `unlinger-core/src/evidence.rs`, the incident states
of `state.rs` and the runtime-artifact types of `artifact.rs`.
-/

namespace Unlinger

/-- The life of an incident. -/
inductive IncidentState
  | protectedState
  | active
  | cooling
  | confirmed
  | ambiguous
  | reclaiming
  | cleared
  | revived
  | failed
  deriving DecidableEq

/-- What kind of fact a piece of evidence is, in sort order. -/
inductive EvidenceFamily
  | automationProvenance
  | abandonment
  | isolation
  | protection
  deriving DecidableEq

/-- One named fact behind a classification. -/
structure EvidenceItem where
  id : String
  family : EvidenceFamily
  sourcePid : Option Pid
  deriving DecidableEq

/-- The seven gates of automatic cleanup. -/
structure GateLedger where
  sameUser : Bool
  strongAutomationProvenance : Bool
  confirmedAbandonment : Bool
  isolatedSession : Bool
  stableAcrossTwoObservations : Bool
  processIdentityUnchanged : Bool
  noProtectionRule : Bool
  deriving DecidableEq

/-- Every gate is open. -/
def GateLedger.cleanupEligible (g : GateLedger) : Bool :=
  g.sameUser && g.strongAutomationProvenance && g.confirmedAbandonment && g.isolatedSession
    && g.stableAcrossTwoObservations && g.processIdentityUnchanged && g.noProtectionRule

/-- The root process of an incident, redacted. -/
structure RootSummary where
  pid : Pid
  startedAtUnixMicros : Nat
  executableBasename : String
  identityFingerprint : String
  deriving DecidableEq

/-- What a process is within its incident, in sort order. -/
inductive ProcessRole
  | controller
  | browserRoot
  | renderer
  | gpu
  | utility
  | browserHelper
  | crashHandler
  | recorder
  | incidentMember
  deriving DecidableEq

/-- One process of an incident, frozen. -/
structure ProcessTarget where
  identity : ProcessIdentity
  processGroupId : Nat
  role : ProcessRole
  deriving DecidableEq

/-- How many processes of a role. -/
structure ProcessRoleCount where
  role : ProcessRole
  count : Nat
  deriving DecidableEq

/-- Browser products, as their bundle identifiers name them. -/
inductive BrowserProduct
  | chromeForTesting
  | chromium
  | googleChrome
  | other
  | unknown
  deriving DecidableEq

/-- What the version policy allows of a browser. -/
inductive BrowserCompatibilityDecision
  | automatic
  | observeOnly
  | protectedDecision
  | unknown
  deriving DecidableEq

/-- The typed browser coverage of a report. -/
structure BrowserCompatibility where
  product : BrowserProduct
  observedVersion : Option String
  decision : BrowserCompatibilityDecision
  reasonId : Option String
  deriving DecidableEq

/-! ## Runtime artifacts -/

/-- The one admitted kind of runtime artifact. -/
inductive RuntimeArtifactKind
  | devToolsActivePort
  deriving DecidableEq

/-- How an artifact action ended. -/
inductive ArtifactDisposition
  | removed
  | alreadyAbsent
  | identityMismatch
  | referenced
  | unsafeArtifact
  | rejected
  | cancelledBeforeDelivery
  | deliveryUnknown
  deriving DecidableEq

/-- The artifact is gone and the action knows it. -/
def ArtifactDisposition.completedCleanup : ArtifactDisposition → Bool
  | .removed | .alreadyAbsent => true
  | _ => false

/-- What an artifact action is about to do. -/
structure ArtifactActionIntent where
  kind : RuntimeArtifactKind
  artifactFingerprint : String
  deriving DecidableEq

/-- What an artifact action did. -/
structure ArtifactAction where
  kind : RuntimeArtifactKind
  artifactFingerprint : String
  disposition : ArtifactDisposition
  deriving DecidableEq

/-- A file the plan may remove once its session is gone. -/
structure RuntimeArtifactCandidate where
  kind : RuntimeArtifactKind
  profilePath : String
  artifactPath : String
  ownerUid : Nat
  sessionFingerprint : String
  artifactFingerprint : String
  deriving DecidableEq

/-- The journalled intent of a candidate. -/
def RuntimeArtifactCandidate.intent (c : RuntimeArtifactCandidate) : ArtifactActionIntent :=
  ⟨c.kind, c.artifactFingerprint⟩

/-- The file a candidate named when the plan was frozen. -/
structure RuntimeArtifactIdentity where
  device : Nat
  inode : Nat
  ownerUid : Nat
  mode : Nat
  linkCount : Nat
  parentDevice : Nat
  parentInode : Nat
  parentOwnerUid : Nat
  parentMode : Nat
  deriving DecidableEq

/-- A candidate with the file it named. -/
structure FrozenRuntimeArtifact where
  candidate : RuntimeArtifactCandidate
  identity : RuntimeArtifactIdentity
  deriving DecidableEq

/-- What freezing a candidate found. -/
inductive ArtifactFreeze
  | frozen (artifact : FrozenRuntimeArtifact)
  | absent
  | unsafeArtifact
  deriving DecidableEq

/-- One classified incident. -/
structure IncidentReport where
  incidentId : String
  trackingKey : String
  sessionFingerprint : String
  signaturePack : String
  signatureVersion : String
  state : IncidentState
  root : RootSummary
  memberCount : Nat
  residentMemoryBytes : Nat
  memberFingerprint : String
  roles : List ProcessRoleCount
  evidence : List EvidenceItem
  gates : GateLedger
  browserCompatibility : BrowserCompatibility
  targets : List ProcessTarget
  runtimeArtifacts : List RuntimeArtifactCandidate
  deriving DecidableEq

end Unlinger
