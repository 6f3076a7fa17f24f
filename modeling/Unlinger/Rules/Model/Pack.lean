import Unlinger.Core.Model.Incident
import Unlinger.Core.Model.Fingerprint

/-!
# Signature packs and browser versions

The packs of `unlinger-rules/src/lib.rs` as `rules/*.toml` fills them in,
and what their version policies say of the browsers of a session.
-/

namespace Unlinger

/-- Which browser versions a pack acts on. -/
inductive VersionPolicy
  | observational
  | exactAllowlist (bundleId : String) (versions : List String)
  | boundedRange (bundleId minimumInclusive maximumInclusive : String)
  deriving DecidableEq

/-- One pack of rules. -/
structure SignaturePack where
  id : String
  version : String
  taskControllerVersion : Option String := none
  sessionOwnerControllerVersion : Option String := none
  controllerMarkers : List String
  frameworkMarkers : List String
  ephemeralProfileMarkers : List String
  browserExecutableMarkers : List String
  recorderExecutableBasenames : List String
  versionPolicy : VersionPolicy
  devtoolsActivePort : Bool
  deriving DecidableEq

/-- The packs an analyzer works with; no two share an identifier. -/
structure RuleSet where
  packs : List SignaturePack
  distinct : (packs.map SignaturePack.id).Nodup
  deriving DecidableEq

/-- The version policy all three embedded packs share. -/
def chromeForTesting : VersionPolicy :=
  .exactAllowlist "com.google.chrome.for.testing" ["151.0.7922.34", "152.0.7977.42"]

/-- `rules/agent-browser.toml`. -/
def agentBrowserPack : SignaturePack where
  id := "agent-browser"
  version := "0.4.0"
  controllerMarkers := ["agent-browser", "@vercel/agent-browser"]
  frameworkMarkers := ["agent-browser", ".agent-browser"]
  ephemeralProfileMarkers := ["agent-browser", ".agent-browser"]
  browserExecutableMarkers := ["chrome for testing", "chromium", "google chrome"]
  recorderExecutableBasenames := ["ffmpeg"]
  versionPolicy := chromeForTesting
  devtoolsActivePort := false

/-- `rules/playwright.toml`. -/
def playwrightPack : SignaturePack where
  id := "playwright"
  version := "0.6.0"
  taskControllerVersion := some "1.63.0-alpha-2026-08-31"
  sessionOwnerControllerVersion := some "1.62.1"
  controllerMarkers := ["playwright", "@playwright/mcp", "playwright-mcp"]
  frameworkMarkers := ["playwright", "@playwright/mcp", "ms-playwright"]
  ephemeralProfileMarkers := ["playwright_chromiumdev_profile", "playwright-artifacts",
    "ms-playwright"]
  browserExecutableMarkers := ["chrome for testing", "chromium", "google chrome"]
  recorderExecutableBasenames := ["ffmpeg"]
  versionPolicy := chromeForTesting
  devtoolsActivePort := false

/-- `rules/puppeteer.toml`. -/
def puppeteerPack : SignaturePack where
  id := "puppeteer"
  version := "0.4.0"
  controllerMarkers := ["puppeteer", "@puppeteer/browsers"]
  frameworkMarkers := ["puppeteer", "@puppeteer/browsers", "chrome-headless-shell"]
  ephemeralProfileMarkers := ["puppeteer_dev_chrome_profile", "puppeteer"]
  browserExecutableMarkers := ["chrome-headless-shell", "chrome for testing", "chromium",
    "google chrome"]
  recorderExecutableBasenames := ["ffmpeg"]
  versionPolicy := chromeForTesting
  devtoolsActivePort := false

/-- The packs shipped with the daemon, by id. -/
def RuleSet.embedded : RuleSet := ⟨[agentBrowserPack, playwrightPack, puppeteerPack], by decide⟩

/-! ## Versions -/

/-- A component of a version: decimal digits that fit 64 bits. -/
def parseVersionComponent (component : List Char) : Option Nat :=
  if !component.isEmpty && component.all Char.isDigit then
    let n := component.foldl (fun n c => n * 10 + (c.toNat - 48)) 0
    if n < 2 ^ 64 then some n else none
  else none

/-- Drop zeros from the end, keeping one component. The list is given
from its end. -/
def dropTrailingZeros : List Nat → List Nat
  | 0 :: n :: ns => dropTrailingZeros (n :: ns)
  | ns => ns

/-- A dotted version as its numbers, without trailing zeros. -/
def parseDottedVersion (value : String) : Option (List Nat) :=
  if value = "" ∨ 64 < (Text.bytes value).length then none
  else
    let components := Text.splitOn '.' value.toList
    if components.isEmpty || 8 < components.length then none
    else
      (components.mapM parseVersionComponent).map fun parsed =>
        (dropTrailingZeros parsed.reverse).reverse

/-- What a version policy says of a session's browsers. -/
inductive BrowserVersionGate
  | exactSupported
  | rangeSupported
  | observational
  | missingFacts
  | mixedFacts
  | unsupportedProduct
  | unsupportedVersion
  deriving DecidableEq

/-- The policy lets the session be acted on. -/
def BrowserVersionGate.supported : BrowserVersionGate → Bool
  | .exactSupported | .rangeSupported => true
  | _ => false

/-- One bundle against a policy. -/
def evaluateBundle (fact : AppBundleVersion) : VersionPolicy → BrowserVersionGate
  | .observational => .observational
  | .exactAllowlist bundleId versions =>
      if fact.bundleId ≠ bundleId then .unsupportedProduct
      else if versions.contains fact.shortVersion then .exactSupported
      else .unsupportedVersion
  | .boundedRange bundleId minimumInclusive maximumInclusive =>
      if fact.bundleId ≠ bundleId then .unsupportedProduct
      else
        match parseDottedVersion fact.shortVersion, parseDottedVersion minimumInclusive,
            parseDottedVersion maximumInclusive with
        | some version, some minimum, some maximum =>
            if minimum ≤ version ∧ version ≤ maximum then .rangeSupported
            else .unsupportedVersion
        | _, _, _ => .unsupportedVersion

/-- The bundles of a session's browser roots, as far as they are known. -/
def bundleFacts (browserRoots : List ProcessRecord) : List AppBundleVersion :=
  browserRoots.filterMap fun p => p.runtime.appBundle

/-- Every browser root has its bundle known, and they agree. -/
def evaluateBrowserVersions (browserRoots : List ProcessRecord) (policy : VersionPolicy) :
    BrowserVersionGate :=
  let facts := bundleFacts browserRoots
  if facts.length ≠ browserRoots.length then .missingFacts
  else
    match facts.dedup with
    | [fact] => evaluateBundle fact policy
    | _ => .mixedFacts

/-- The product a bundle identifier names. -/
def browserProduct (bundleId : String) : BrowserProduct :=
  let id := Text.toAsciiLowercase bundleId.toList
  if id = "com.google.chrome.for.testing".toList then .chromeForTesting
  else if id = "org.chromium.chromium".toList then .chromium
  else if id = "com.google.chrome".toList then .googleChrome
  else .other

/-- The bundle a policy is about. -/
def policyBundleId : VersionPolicy → Option String
  | .observational => none
  | .exactAllowlist bundleId _ => some bundleId
  | .boundedRange bundleId _ _ => some bundleId

/-- The typed browser coverage of a session. -/
def browserCompatibility (browserRoots : List ProcessRecord)
    (versionGate : Option BrowserVersionGate) (unverifiedControllerReason : Option String)
    (controlPathIncomplete : Bool) : BrowserCompatibility :=
  let facts := bundleFacts browserRoots
  let complete := facts.length == browserRoots.length
  let product :=
    match (facts.map AppBundleVersion.bundleId).dedup with
    | [bundleId] => if complete then browserProduct bundleId else .unknown
    | _ => .unknown
  let observedVersion :=
    match (facts.map AppBundleVersion.shortVersion).dedup with
    | [version] => if complete then some version else none
    | _ => none
  let (decision, reasonId) : BrowserCompatibilityDecision × Option String :=
    match versionGate with
    | some .mixedFacts => (.protectedDecision, some "protection.browser_version_mixed")
    | some .unsupportedProduct =>
        (.protectedDecision, some "protection.browser_product_unsupported")
    | some .unsupportedVersion =>
        (.protectedDecision, some "protection.browser_version_unsupported")
    | some .missingFacts => (.unknown, some "protection.browser_version_missing")
    | some .observational => (.observeOnly, some "protection.version_observational_only")
    | some .exactSupported | some .rangeSupported =>
        if unverifiedControllerReason.isSome then (.protectedDecision, unverifiedControllerReason)
        else if controlPathIncomplete then
          (.protectedDecision, some "protection.debug_peer_visibility_incomplete")
        else (.automatic, none)
    | none => (.unknown, some "ambiguity.browser_root_missing")
  ⟨product, observedVersion, decision, reasonId⟩

end Unlinger
