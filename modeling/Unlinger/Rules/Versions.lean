import Mathlib.Data.List.Dedup
import Unlinger.Common.Padding
import Unlinger.Rules.Model.Pack

/-!
# Version ranges

A dotted version is read as its numbers without the zeros at its end,
and ranges compare these lists of different lengths. The order is the
numeric one: component by component, as if all versions were written with
the same number of components.
-/

namespace Unlinger

open Padding

/-- The components of a version's text. -/
def versionComponents (value : String) : List (List Char) := Text.splitOn '.' value.toList

/-- The numbers a version's text spells. -/
def versionNumbers (value : String) : List Nat :=
  (versionComponents value).map fun component => Nat.ofDigitChars 10 component 0

/-- They are filled up with zeros to `n` components. -/
def paddedVersion (n : Nat) (value : String) : List Nat := (versionNumbers value).rightpad n 0

/-- A component that is not a number of 64 bits. -/
def badComponent (component : List Char) : Prop :=
  component = [] ∨ (∃ c ∈ component, c.isDigit = false) ∨ 2 ^ 64 ≤ Nat.ofDigitChars 10 component 0

/-- A text that is not a version. -/
def badVersion (value : String) : Prop :=
  value = "" ∨ 64 < (Text.bytes value).length ∨ 8 < (versionComponents value).length
    ∨ ∃ component ∈ versionComponents value, badComponent component

/-! ## Components -/

theorem splitOn_ne_nil (sep : Char) (cs : List Char) : Text.splitOn sep cs ≠ [] := by
  cases cs with
  | nil => simp [Text.splitOn]
  | cons c cs =>
    unfold Text.splitOn
    split
    · simp
    · split <;> simp

theorem versionNumbers_ne_nil (value : String) : versionNumbers value ≠ [] := by
  intro h
  exact splitOn_ne_nil '.' value.toList (List.map_eq_nil_iff.mp h)

theorem digits_fold (component : List Char) (n : Nat) :
    component.foldl (fun n c => n * 10 + (c.toNat - 48)) n = Nat.ofDigitChars 10 component n := by
  induction component generalizing n with
  | nil => rfl
  | cons c component ih =>
    rw [List.foldl_cons, ih, Nat.ofDigitChars_cons, Nat.mul_comm]
    rfl

theorem parseVersionComponent_eq {component : List Char} (h : ¬ badComponent component) :
    parseVersionComponent component = some (Nat.ofDigitChars 10 component 0) := by
  unfold badComponent at h
  push Not at h
  obtain ⟨hne, hdigits, hlt⟩ := h
  have hall : component.all Char.isDigit = true := by
    rw [List.all_eq_true]
    intro c hc
    simpa using hdigits c hc
  unfold parseVersionComponent
  rw [if_pos (by simp [hne, hall])]
  simp only [digits_fold]
  rw [if_pos hlt]

theorem parseVersionComponent_eq_none {component : List Char} (h : badComponent component) :
    parseVersionComponent component = none := by
  unfold parseVersionComponent
  split
  · rename_i hgood
    simp only [digits_fold]
    rcases h with hnil | ⟨c, hc, hdigit⟩ | hlarge
    · simp [hnil] at hgood
    · simp only [Bool.and_eq_true, List.all_eq_true] at hgood
      simp [hgood.2 c hc] at hdigit
    · rw [if_neg (by omega)]
  · rfl

/-- All components are numbers, or the whole is none. -/
theorem mapM_parseVersionComponent {components : List (List Char)}
    (h : ∀ component ∈ components, ¬ badComponent component) :
    components.mapM parseVersionComponent
      = some (components.map fun component => Nat.ofDigitChars 10 component 0) := by
  induction components with
  | nil => rfl
  | cons component components ih =>
    have hhead := parseVersionComponent_eq (h component (by simp))
    have htail := ih fun c hc => h c (by simp [hc])
    simp [List.mapM_cons, hhead, htail]

theorem mapM_parseVersionComponent_eq_none {components : List (List Char)} {component : List Char}
    (hmem : component ∈ components) (h : badComponent component) :
    components.mapM parseVersionComponent = none := by
  induction components with
  | nil => simp at hmem
  | cons c components ih =>
    rcases List.mem_cons.mp hmem with rfl | htail
    · simp [List.mapM_cons, parseVersionComponent_eq_none h]
    · simp [List.mapM_cons, ih htail]

/-! ## The zeros at the end -/

/-- The source's loop, seen from the end of the list. -/
theorem dropTrailingZeros_eq (ns : List Nat) :
    dropTrailingZeros ns
      = if ns.dropWhile (· == 0) = [] then ns.drop (ns.length - 1) else ns.dropWhile (· == 0) := by
  induction ns with
  | nil => rfl
  | cons n ns ih =>
    by_cases hn : n = 0
    · subst hn
      cases ns with
      | nil => rfl
      | cons m ns => simpa [dropTrailingZeros] using ih
    · simp [dropTrailingZeros, hn]

theorem dropTrailingZeros_reverse (ns : List Nat) :
    (dropTrailingZeros ns.reverse).reverse = trimEnd 0 ns := by
  rw [dropTrailingZeros_eq, trimEnd]
  by_cases hnil : ns.reverse.dropWhile (· == 0) = []
  · rw [if_pos hnil, if_pos (by simp [List.rdropWhile, hnil]), List.drop_reverse]
    cases ns <;> simp
  · rw [if_neg hnil, if_neg (by simpa [List.rdropWhile] using hnil)]
    rfl

/-! ## What is accepted -/

/-- **The parser**: the numbers of a good text, trimmed. -/
theorem parseDottedVersion_eq {value : String} (h : ¬ badVersion value) :
    parseDottedVersion value = some (trimEnd 0 (versionNumbers value)) := by
  unfold badVersion at h
  push Not at h
  obtain ⟨hne, hlen, hcount, hgood⟩ := h
  unfold parseDottedVersion
  rw [if_neg (by simp [hne]; omega)]
  rw [if_neg (by simpa [splitOn_ne_nil, versionComponents] using hcount)]
  have hmap := mapM_parseVersionComponent hgood
  rw [show Text.splitOn '.' value.toList = versionComponents value from rfl, hmap]
  simp only [Option.map_some, dropTrailingZeros_reverse]
  rfl

theorem parseDottedVersion_eq_none {value : String} (h : badVersion value) :
    parseDottedVersion value = none := by
  unfold parseDottedVersion
  by_cases hsize : value = "" ∨ 64 < (Text.bytes value).length
  · rw [if_pos hsize]
  · rw [if_neg hsize]
    by_cases hcount : 8 < (versionComponents value).length
    · exact if_pos (by simpa [versionComponents] using Or.inr hcount)
    · have hbad : ∃ component ∈ versionComponents value, badComponent component := by
        unfold badVersion at h
        tauto
      obtain ⟨component, hmem, hcomponent⟩ := hbad
      have hnone := mapM_parseVersionComponent_eq_none hmem hcomponent
      rw [if_neg (by simpa [splitOn_ne_nil, versionComponents] using hcount)]
      rw [show Text.splitOn '.' value.toList = versionComponents value from rfl, hnone]
      rfl

theorem parseDottedVersion_eq_none_iff {value : String} :
    parseDottedVersion value = none ↔ badVersion value := by
  refine ⟨fun h => ?_, parseDottedVersion_eq_none⟩
  by_contra hgood
  rw [parseDottedVersion_eq hgood] at h
  cases h

theorem parseDottedVersion_of_isSome {value : String}
    (h : (parseDottedVersion value).isSome = true) :
    parseDottedVersion value = some (trimEnd 0 (versionNumbers value)) := by
  apply parseDottedVersion_eq
  intro hbad
  rw [parseDottedVersion_eq_none hbad] at h
  cases h

/-! ## Ranges -/

/-- Browsers that all are one bundle are judged as that bundle. -/
theorem evaluateBrowserVersions_of_forall {browserRoots : List ProcessRecord}
    {fact : AppBundleVersion} (policy : VersionPolicy) (hne : browserRoots ≠ [])
    (hall : ∀ p ∈ browserRoots, p.runtime.appBundle = some fact) :
    evaluateBrowserVersions browserRoots policy = evaluateBundle fact policy := by
  have hfacts : bundleFacts browserRoots = List.replicate browserRoots.length fact := by
    clear hne
    induction browserRoots with
    | nil => rfl
    | cons p browserRoots ih =>
      have hp := hall p (by simp)
      have htail := ih fun q hq => hall q (by simp [hq])
      unfold bundleFacts at htail ⊢
      rw [List.filterMap_cons, hp, htail]
      rfl
  have hpos : browserRoots.length ≠ 0 := by simpa using hne
  have hdedup : (List.replicate browserRoots.length fact).dedup = [fact] :=
    List.replicate_dedup hpos
  unfold evaluateBrowserVersions
  simp only [hfacts, List.length_replicate, ne_eq, not_true_eq_false, if_false, hdedup]

/-- A bundle within a range of versions. -/
theorem evaluateBundle_boundedRange {fact : AppBundleVersion} {minimum maximum : String}
    {lower version upper : List Nat} (hversion : parseDottedVersion fact.shortVersion = some version)
    (hlower : parseDottedVersion minimum = some lower)
    (hupper : parseDottedVersion maximum = some upper) :
    evaluateBundle fact (.boundedRange fact.bundleId minimum maximum) = .rangeSupported
      ↔ lower ≤ version ∧ version ≤ upper := by
  simp only [evaluateBundle, ne_eq, not_true_eq_false, if_false, hversion, hlower, hupper]
  by_cases hrange : lower ≤ version ∧ version ≤ upper
  · simp [hrange]
  · simp [hrange]

/-- **Version ranges follow numeric order.** Browsers of one version are
within a range where that version, padded with zeros, lies between the
bounds padded likewise; two texts are the same version where they are
equal when padded; and what is no version is told by its text. -/
theorem dottedVersions_numeric :
    (∀ (browserRoots : List ProcessRecord) (fact : AppBundleVersion) (minimum maximum : String)
        (n : Nat), browserRoots ≠ [] → (∀ p ∈ browserRoots, p.runtime.appBundle = some fact) →
      (parseDottedVersion fact.shortVersion).isSome → (parseDottedVersion minimum).isSome →
      (parseDottedVersion maximum).isSome → (versionNumbers fact.shortVersion).length ≤ n →
      (versionNumbers minimum).length ≤ n → (versionNumbers maximum).length ≤ n →
      (evaluateBrowserVersions browserRoots (.boundedRange fact.bundleId minimum maximum)
          = .rangeSupported
        ↔ paddedVersion n minimum ≤ paddedVersion n fact.shortVersion
          ∧ paddedVersion n fact.shortVersion ≤ paddedVersion n maximum)) ∧
    (∀ (a b : String) (n : Nat), (parseDottedVersion a).isSome → (parseDottedVersion b).isSome →
      (versionNumbers a).length ≤ n → (versionNumbers b).length ≤ n →
      (parseDottedVersion a = parseDottedVersion b ↔ paddedVersion n a = paddedVersion n b)) ∧
    ∀ value, parseDottedVersion value = none ↔ badVersion value := by
  refine ⟨?_, ?_, fun value => parseDottedVersion_eq_none_iff⟩
  · intro browserRoots fact minimum maximum n hne hall hversion hlower hupper hv hl hu
    have hv0 := versionNumbers_ne_nil fact.shortVersion
    have hl0 := versionNumbers_ne_nil minimum
    have hu0 := versionNumbers_ne_nil maximum
    rw [evaluateBrowserVersions_of_forall _ hne hall,
      evaluateBundle_boundedRange (parseDottedVersion_of_isSome hversion)
        (parseDottedVersion_of_isSome hlower) (parseDottedVersion_of_isSome hupper)]
    exact and_congr (trimEnd_le_iff Nat.zero_le hl0 hv0 hl hv)
      (trimEnd_le_iff Nat.zero_le hv0 hu0 hv hu)
  · intro a b n ha hb han hbn
    rw [parseDottedVersion_of_isSome ha, parseDottedVersion_of_isSome hb, Option.some_inj]
    exact trimEnd_eq_iff (versionNumbers_ne_nil a) (versionNumbers_ne_nil b) han hbn

/-- A browser whose bundle has this version. -/
def versionedBrowser (version : String) : ProcessRecord where
  identity := ⟨400, 7, some 1, some 9⟩
  parentPid := 1
  processGroupId := 400
  uid := 501
  ttyDevice := none
  name := "Chromium"
  executablePath := some "/Applications/Chromium.app/Contents/MacOS/Chromium"
  executable := ⟨some 1, some 9⟩
  arguments := some []
  residentMemoryBytes := 4096
  runtime := { appBundle := some ⟨"org.chromium.chromium", version⟩ }

/-- A version with a zero at its end, at the upper bound written without. -/
theorem dottedVersions_numeric_upper :
    (evaluateBrowserVersions [versionedBrowser "152.0"]
        (.boundedRange "org.chromium.chromium" "151.9.7" "152") = .rangeSupported
      ↔ paddedVersion 3 "151.9.7" ≤ paddedVersion 3 "152.0"
        ∧ paddedVersion 3 "152.0" ≤ paddedVersion 3 "152") ∧
    (parseDottedVersion "152.0" = parseDottedVersion "152"
      ↔ paddedVersion 3 "152.0" = paddedVersion 3 "152") :=
  ⟨dottedVersions_numeric.1 [versionedBrowser "152.0"] ⟨"org.chromium.chromium", "152.0"⟩ "151.9.7"
      "152" 3 (by simp) (by simp [versionedBrowser]) (by decide) (by decide) (by decide) (by decide)
      (by decide) (by decide),
    dottedVersions_numeric.2.1 "152.0" "152" 3 (by decide) (by decide) (by decide) (by decide)⟩

end Unlinger
