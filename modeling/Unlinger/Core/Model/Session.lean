import Unlinger.Core.Model.Incident
import Unlinger.Core.Model.Fingerprint

/-!
# Sessions, their owners and their artifact

From `unlinger-core/src/task.rs` the session names a task is issued and
the bindings a host declares, and from `artifact.rs` the one artifact
candidate of a session's profile.
-/

namespace Unlinger

/-- A task's claim on a controller. -/
structure TaskControllerBinding where
  taskId : String
  controller : ProcessIdentity
  released : Bool
  deriving DecidableEq

/-- A host's claim on the controller of an ordinary session. -/
structure SessionOwnerBinding where
  leaseId : String
  selectorFingerprint : String
  sessionName : String
  controllerVersion : String
  controller : ProcessIdentity
  released : Bool
  deriving DecidableEq

/-- Thirty-two lower-case hexadecimal digits. -/
def validTaskId (value : String) : Bool :=
  value.toList.length == 32
    && value.toList.all fun c =>
        (48 ≤ c.toNat && c.toNat ≤ 57) || (97 ≤ c.toNat && c.toNat ≤ 102)

/-- The task a session name was issued for. -/
def taskIdFromSession (value : String) : Option String :=
  (Text.stripPrefix value "unlinger-").filter validTaskId

/-- The name of a registry: sixteen lower-case hexadecimal digits. -/
def validRegistryNamespace (value : String) : Bool :=
  value.toList.length == 16
    && value.toList.all fun c =>
        (48 ≤ c.toNat && c.toNat ≤ 57) || (97 ≤ c.toNat && c.toNat ≤ 102)

/-- The selector of an ordinary session of a registry. -/
def ordinarySelectorFingerprint (registryNamespace sessionName : String) : String :=
  fingerprintParts [Text.bytes "pw-cli", Text.bytes registryNamespace, Text.bytes sessionName]

/-- The names an ordinary session may have. -/
def validOrdinarySessionName (value : String) : Bool :=
  value != "" && (Text.bytes value).length ≤ 64 && !Text.startsWith value "unlinger-"
    && value.toList.all fun c => c.isAlphanum || c == '-' || c == '_' || c == '.'

/-- Why a profile has no artifact candidate. -/
inductive ArtifactCandidateError
  | relativePath
  | unsafePathComponent
  | rootProfile
  | rootOwner
  | missingSessionFingerprint
  deriving DecidableEq

/-- An absolute path below the root, without a step to the parent. Empty
components and `.` do not count. -/
def validateProfilePath (path : String) : Except ArtifactCandidateError Unit :=
  if !Text.startsWith path "/" then .error .relativePath
  else
    let components := (Text.splitOn '/' path.toList).filter fun c => c != [] && c != ['.']
    if components.any fun c => c == ['.', '.'] then .error .unsafePathComponent
    else if components.isEmpty then .error .rootProfile
    else .ok ()

/-- A path with one more component. -/
def joinPath (path name : String) : String :=
  if path.toList.getLast? = some '/' then path ++ name else path ++ "/" ++ name

/-- The candidate for the debugging-port file of a profile. -/
def RuntimeArtifactCandidate.devtoolsActivePort (profilePath : String) (ownerUid : Nat)
    (sessionFingerprint : String) : Except ArtifactCandidateError RuntimeArtifactCandidate := do
  validateProfilePath profilePath
  if ownerUid = 0 then throw .rootOwner
  if Text.isBlank sessionFingerprint then throw .missingSessionFingerprint
  return {
    kind := .devToolsActivePort
    profilePath := profilePath
    artifactPath := joinPath profilePath "DevToolsActivePort"
    ownerUid := ownerUid
    sessionFingerprint := sessionFingerprint
    artifactFingerprint := "art-" ++ fingerprintParts
      [Text.bytes "unlinger.runtime-artifact.v1", Text.bytes "devtools_active_port",
        Text.bytes sessionFingerprint, Text.bytes profilePath] }

end Unlinger
