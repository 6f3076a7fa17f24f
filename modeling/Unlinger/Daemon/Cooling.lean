import Mathlib.Data.List.Chain
import Mathlib.Data.List.Sublists
import Unlinger.Core.Helpers.Execute
import Unlinger.Daemon.Helpers.Store

/-!
# Abandonment grace

A candidate row keeps the first and the last sample of an incident that
cools, and nothing of those between. Beside the store stands every sample
since the row was last deleted: the grace has passed only where some of the
latest of them, each within the gap its own call allowed of the one before,
span it.
-/

namespace Unlinger

/-- A call that sampled a cooling incident. -/
structure CoolingSample where
  report : IncidentReport
  clock : CoolingClock
  gap : Nat
  deriving DecidableEq

/-- The sample `b` goes on where `a` left off: the same processes under the
same boot, epoch and signature, both clocks went on, and alike, within
`gap`. -/
def CoolingSample.Follows (gap : Nat) (a b : CoolingSample) : Prop :=
  (a.report.root.identityFingerprint = b.report.root.identityFingerprint
    ∧ a.report.memberFingerprint = b.report.memberFingerprint
    ∧ a.clock.bootSessionFingerprint = b.clock.bootSessionFingerprint
    ∧ a.clock.enforcementEpoch = b.clock.enforcementEpoch
    ∧ a.report.signaturePack = b.report.signaturePack
    ∧ a.report.signatureVersion = b.report.signatureVersion)
  ∧ a.clock.continuousMillis ≤ b.clock.continuousMillis
  ∧ a.clock.wallUnixMillis ≤ b.clock.wallUnixMillis
  ∧ b.clock.continuousMillis - a.clock.continuousMillis ≤ gap
  ∧ (b.clock.wallUnixMillis - a.clock.wallUnixMillis)
      - (b.clock.continuousMillis - a.clock.continuousMillis) ≤ gap
  ∧ (b.clock.continuousMillis - a.clock.continuousMillis)
      - (b.clock.wallUnixMillis - a.clock.wallUnixMillis) ≤ gap

instance CoolingSample.Follows.decidable {gap : Nat} {a b : CoolingSample} :
    Decidable (Follows gap a b) := inferInstanceAs (Decidable (_ ∧ _))

/-- Within the gap the later of the two calls allowed. -/
def CoolingSample.Links (a b : CoolingSample) : Prop := Follows b.gap a b

/-- The sample an operation took. -/
def Store.sampled (s : Store) : StoreOp → Option CoolingSample
  | .trackCooling report clock grace gap =>
      match s.trackCooling report clock grace gap with
      | .ok _ => some ⟨report, clock, gap⟩
      | .error _ => none
  | _ => none

/-- A store with the samples of every candidate since its row was last
deleted. -/
structure CoolingLog where
  store : Store
  samples : String → List CoolingSample

namespace CoolingLog

/-- The log after an operation. -/
def step (l : CoolingLog) (op : StoreOp) : CoolingLog where
  store := l.store.committed op
  samples := fun key =>
    if ((l.store.committed op).coolingCandidates.lookup key).isNone then []
    else l.samples key
      ++ ((l.store.sampled op).filter fun sample => sample.report.trackingKey == key).toList

/-- The log of a run from the empty store. -/
def ran (token : NamespaceToken) (ops : List StoreOp) : CoolingLog :=
  ops.foldl step ⟨Store.empty token, fun _ => []⟩

/-- What a call that sampled `sample` and returned `elapsed` tells. -/
structure Tells (samples : List CoolingSample) (sample : CoolingSample) (grace : Nat) (elapsed : Bool)
    (store : Store) : Prop where
  /-- the grace was observed from one sample to the next -/
  observed : elapsed = true → ∃ first rest, first :: rest <:+ samples ++ [sample] ∧
    (first :: rest).IsChain CoolingSample.Links ∧
    grace ≤ sample.clock.continuousMillis - first.clock.continuousMillis
  /-- and begins again with a sample that does not go on -/
  restarts : (∀ last ∈ samples.getLast?, ¬ last.Links sample) →
    elapsed = decide (grace = 0) ∧ ∃ row,
      store.coolingCandidates.lookup sample.report.trackingKey = some row ∧
      row.firstContinuous = sample.clock.continuousMillis

end CoolingLog

namespace Store

variable {s s' : Store} {op : StoreOp} {c : CoolingCandidate}

/-! ## Rows and samples -/

/-- The row ends with the sample. -/
structure EndsWith (c : CoolingCandidate) (sample : CoolingSample) : Prop where
  continuous : c.lastContinuous = sample.clock.continuousMillis
  wall : c.lastWall = sample.clock.wallUnixMillis
  root : c.rootIdentityFingerprint = sample.report.root.identityFingerprint
  member : c.memberFingerprint = sample.report.memberFingerprint
  boot : c.bootSessionFingerprint = sample.clock.bootSessionFingerprint
  epoch : c.enforcementEpoch = sample.clock.enforcementEpoch
  pack : c.signaturePack = sample.report.signaturePack
  version : c.signatureVersion = sample.report.signatureVersion

/-- The ten comparisons of the source are those of the last sample. -/
theorem EndsWith.continues_iff {last sample : CoolingSample} (h : EndsWith c last) :
    c.continues sample.report sample.clock sample.gap = true ↔ last.Links sample := by
  simp only [CoolingCandidate.continues, wallContinuityIsPlausible, CoolingSample.Links,
    CoolingSample.Follows, Bool.and_eq_true, beq_iff_eq, decide_eq_true_eq, h.continuous, h.wall,
    h.root, h.member, h.boot, h.epoch, h.pack, h.version]
  tauto

theorem Cools.endsWith {sample : CoolingSample}
    (h : s.Cools sample.report sample.clock sample.gap c) : EndsWith c sample :=
  ⟨h.lastContinuous, h.lastWall, h.root, h.member, h.boot, h.epoch, h.pack, h.version⟩

section Kept

variable {key : String}

theorem lookup_of_filter {candidates : OrdMap String CoolingCandidate}
    {p : String → CoolingCandidate → Bool} (h : (candidates.filter p).lookup key = some c) :
    candidates.lookup key = some c := by
  rw [OrdMap.lookup_filter, Option.filter_eq_some_iff] at h
  exact h.1

theorem lookup_of_erase {candidates : OrdMap String CoolingCandidate} {k : String}
    (h : (candidates.erase k).lookup key = some c) : candidates.lookup key = some c := by
  rw [OrdMap.lookup_erase] at h
  split_ifs at h
  exact h

theorem Applies.cooling {t : Nat} {mutation : OrdinaryMutation} {changed : Bool} {pause : Option Nat}
    {blocks : OrdMap String RetryBlock} {cooling : OrdMap String CoolingCandidate}
    {protections : OrdMap String IncidentProtection}
    (h : s.Applies t mutation changed pause blocks cooling protections)
    (hc : cooling.lookup key = some c) : s.coolingCandidates.lookup key = some c := by
  cases h with
  | retried hblock => exact lookup_of_erase hc
  | _ => exact hc

/-- No other operation adds or changes a candidate. -/
theorem Effect.cooling (h : s.Effect op s') (hop : ∀ report clock grace gap,
    op ≠ .trackCooling report clock grace gap)
    (hc : s'.coolingCandidates.lookup key = some c) : s.coolingCandidates.lookup key = some c := by
  cases h with
  | cooled h => exact absurd rfl (hop _ _ _ _)
  | retried h => exact lookup_of_erase hc
  | retained => exact lookup_of_filter hc
  | @pruned now policy fresh p result hok h =>
      have hkept : p.cooling.lookup key = some c := hc
      rw [h.cooling] at hkept
      exact lookup_of_filter hkept
  | mutated h => exact h.applies.cooling hc
  | managed hmoves hstored hcooling =>
      rcases hcooling with rfl | rfl
      · exact hc
      · cases hc
  | _ => exact hc

end Kept

end Store

/-! ## The invariant -/

namespace CoolingLog

variable {l : CoolingLog} {key : String}

/-- The row of a candidate stands for the latest samples that go on from
one to the next: it begins with the first of them and ends with the
last. -/
structure Spans (samples : List CoolingSample) (c : CoolingCandidate) (first : CoolingSample)
    (rest : List CoolingSample) (last : CoolingSample) : Prop where
  suffix : first :: rest <:+ samples
  chain : (first :: rest).IsChain CoolingSample.Links
  begins : c.firstContinuous = first.clock.continuousMillis
  isLast : samples.getLast? = some last
  ends : Store.EndsWith c last

/-- **What a store has of its samples.** -/
structure Kept (l : CoolingLog) : Prop where
  reachable : l.store.Reachable
  cleared : ∀ key, l.store.coolingCandidates.lookup key = none → l.samples key = []
  spans : ∀ key c, l.store.coolingCandidates.lookup key = some c →
    ∃ first rest last, Spans (l.samples key) c first rest last

/-- One more sample goes on, or begins again. -/
theorem Kept.sampled (h : l.Kept) (sample : CoolingSample) {row : CoolingCandidate}
    (hcools : l.store.Cools sample.report sample.clock sample.gap row) :
    ∃ first rest, Spans (l.samples sample.report.trackingKey ++ [sample]) row first rest sample ∧
      ((∀ last ∈ (l.samples sample.report.trackingKey).getLast?, ¬ last.Links sample) →
        row.firstContinuous = sample.clock.continuousMillis) := by
  set samples := l.samples sample.report.trackingKey with hsamples
  have hlast : (samples ++ [sample]).getLast? = some sample := by simp
  have hbegins : row.firstContinuous = sample.clock.continuousMillis →
      Spans (samples ++ [sample]) row sample [] sample := by
    intro hfirst
    exact ⟨List.suffix_append samples [sample], List.isChain_singleton sample, hfirst, hlast,
      hcools.endsWith⟩
  cases hold : l.store.coolingCandidates.lookup sample.report.trackingKey with
  | none =>
      have hfirst : row.firstContinuous = sample.clock.continuousMillis :=
        hcools.restarts fun c hc => by rw [hold] at hc; cases hc
      exact ⟨sample, [], hbegins hfirst, fun _ => hfirst⟩
  | some c =>
      obtain ⟨first, rest, last, hspans⟩ := h.spans _ c hold
      cases hgoes : c.continues sample.report sample.clock sample.gap with
      | false =>
          have hfirst : row.firstContinuous = sample.clock.continuousMillis := by
            refine hcools.restarts fun c' hc' => ?_
            obtain rfl := Option.some.inj (hold.symm.trans hc')
            exact hgoes
          exact ⟨sample, [], hbegins hfirst, fun _ => hfirst⟩
      | true =>
          have hlinks : last.Links sample := hspans.ends.continues_iff.1 hgoes
          -- the chain grows by this sample
          have hchain : ((first :: rest) ++ [sample]).IsChain CoolingSample.Links := by
            refine hspans.chain.append (List.isChain_singleton sample) fun x hx y hy => ?_
            obtain ⟨before, hbefore⟩ := hspans.suffix
            have hsame : (first :: rest).getLast? = some last := by
              rw [← hspans.isLast, ← hbefore, List.getLast?_append_of_ne_nil _ (by simp)]
            rw [hsame] at hx
            obtain rfl := Option.some.inj hx
            obtain rfl := Option.some.inj hy
            exact hlinks
          refine ⟨first, rest ++ [sample], ⟨?_, hchain, ?_, hlast, hcools.endsWith⟩, fun hnot => ?_⟩
          · obtain ⟨before, hbefore⟩ := hspans.suffix
            exact ⟨before, by rw [hsamples, ← hbefore]; simp⟩
          · rw [hcools.goesOn c hold hgoes, hspans.begins]
          · exact absurd hlinks (hnot last hspans.isLast)

theorem start_kept (token : NamespaceToken) :
    (⟨Store.empty token, fun _ => []⟩ : CoolingLog).Kept := by
  refine ⟨Store.Reachable.empty token, fun _ _ => rfl, fun key c hc => ?_⟩
  cases hc

/-- The samples of a candidate that is there after an operation. -/
theorem step_samples {op : StoreOp} {c : CoolingCandidate}
    (hc : (l.store.committed op).coolingCandidates.lookup key = some c) :
    (l.step op).samples key = l.samples key
      ++ ((l.store.sampled op).filter fun sample => sample.report.trackingKey == key).toList := by
  simp only [step, hc, Option.isNone_some, Bool.false_eq_true, if_false]

/-- A candidate no sample was taken of is as it was. -/
theorem Kept.unsampled {op : StoreOp} {c : CoolingCandidate} (h : l.Kept)
    (hc : (l.store.committed op).coolingCandidates.lookup key = some c)
    (hold : l.store.coolingCandidates.lookup key = some c)
    (hnone : (l.store.sampled op).filter (fun sample => sample.report.trackingKey == key) = none) :
    ∃ first rest last, Spans ((l.step op).samples key) c first rest last := by
  rw [step_samples hc, hnone, Option.toList_none, List.append_nil]
  exact h.spans key c hold

/-- **One more operation.** -/
theorem Kept.step (h : l.Kept) (op : StoreOp) : (l.step op).Kept := by
  have hcleared : ∀ key, (l.step op).store.coolingCandidates.lookup key = none →
      (l.step op).samples key = [] := by
    intro key hnone
    have hgone : ((l.store.committed op).coolingCandidates.lookup key).isNone = true := by
      rw [Option.isNone_iff_eq_none]
      exact hnone
    simp only [CoolingLog.step, hgone, if_true]
  rcases Store.committed_cases l.store op with ⟨s', hok, heq⟩ | ⟨e, herr, heq⟩
  · have heffect := Store.perform_effect h.reachable.sound.oneOpen hok
    refine ⟨?_, hcleared, fun key c hc => ?_⟩
    · show (l.store.committed op).Reachable
      rw [heq]
      exact h.reachable.perform op hok
    have hc' : s'.coolingCandidates.lookup key = some c := heq ▸ hc
    -- only `track_cooling` samples, and only its own key
    by_cases hop : ∃ report clock grace gap, op = .trackCooling report clock grace gap
    · obtain ⟨report, clock, grace, gap, rfl⟩ := hop
      obtain ⟨⟨store, elapsed⟩, htrack, rfl⟩ := map_eq_ok.1 hok
      obtain ⟨row, hcools, -, rfl⟩ := Store.trackCooling_ok htrack
      have hsampled : l.store.sampled (.trackCooling report clock grace gap)
          = some ⟨report, clock, gap⟩ := by
        simp only [Store.sampled, htrack]
      by_cases hkey : key = report.trackingKey
      · subst hkey
        have hrow : row = c := by
          have hget : (l.store.coolingCandidates.insert report.trackingKey row).lookup
            report.trackingKey = some c := hc'
          rw [OrdMap.lookup_insert, if_pos rfl] at hget
          exact Option.some.inj hget
        subst hrow
        obtain ⟨first, rest, hspans, -⟩ := h.sampled ⟨report, clock, gap⟩ hcools
        rw [step_samples hc, hsampled, Option.filter_some, if_pos (beq_self_eq_true _)]
        exact ⟨first, rest, _, hspans⟩
      · have hold : l.store.coolingCandidates.lookup key = some c := by
          have hget : (l.store.coolingCandidates.insert report.trackingKey row).lookup key
            = some c := hc'
          rw [OrdMap.lookup_insert, if_neg hkey] at hget
          exact hget
        refine h.unsampled hc hold ?_
        rw [hsampled, Option.filter_some, if_neg]
        simpa using Ne.symm hkey
    · have hother : ∀ report clock grace gap, op ≠ .trackCooling report clock grace gap :=
        fun report clock grace gap heq => hop ⟨report, clock, grace, gap, heq⟩
      have hnone : l.store.sampled op = none := by
        cases op with
        | trackCooling report clock grace gap => exact absurd rfl (hother report clock grace gap)
        | _ => rfl
      exact h.unsampled hc (heffect.cooling hother hc') (by rw [hnone]; rfl)
  · have hnone : l.store.sampled op = none := by
      cases op with
      | trackCooling report clock grace gap =>
          cases htrack : l.store.trackCooling report clock grace gap with
          | error e => simp only [Store.sampled, htrack]
          | ok r => simp [Store.perform, htrack, Except.map] at herr
      | _ => rfl
    refine ⟨?_, hcleared, fun key c hc => ?_⟩
    · show (l.store.committed op).Reachable
      rw [heq]
      exact h.reachable
    · exact h.unsampled hc (heq ▸ hc) (by rw [hnone]; rfl)

theorem ran_kept (token : NamespaceToken) (ops : List StoreOp) : (ran token ops).Kept := by
  induction ops using List.reverseRecOn with
  | nil => exact start_kept token
  | append_singleton ops op ih =>
      have hlast : ran token (ops ++ [op]) = (ran token ops).step op := by
        unfold ran
        rw [List.foldl_append, List.foldl_cons, List.foldl_nil]
      rw [hlast]
      exact ih.step op

/-! ## Every run -/

/-- **The grace is observed**: after every run, a call that says it has
passed ends a chain of samples that spans it, and a sample that does not go
on begins again. -/
theorem grace_observed (token : NamespaceToken) (ops : List StoreOp) (report : IncidentReport)
    (clock : CoolingClock) (grace gap : Nat) (store : Store) (elapsed : Bool)
    (h : (ran token ops).store.trackCooling report clock grace gap = .ok (store, elapsed)) :
    Tells ((ran token ops).samples report.trackingKey) ⟨report, clock, gap⟩ grace elapsed store := by
  obtain ⟨row, hcools, rfl, rfl⟩ := Store.trackCooling_ok h
  obtain ⟨first, rest, hspans, hrestarts⟩ :=
    (ran_kept token ops).sampled ⟨report, clock, gap⟩ hcools
  refine ⟨fun helapsed => ⟨first, rest, hspans.suffix, hspans.chain, ?_⟩,
    fun hbreak => ⟨?_, row, ?_, ?_⟩⟩
  · rw [decide_eq_true_eq, hspans.begins] at helapsed
    exact helapsed
  · rw [hrestarts hbreak]
    simp
  · show (OrdMap.insert _ _ _).lookup _ = _
    rw [OrdMap.lookup_insert, if_pos rfl]
  · exact hrestarts hbreak

/-- An incident that cools. -/
def coolingReport : IncidentReport := { sampleReport with state := .cooling }

/-- Both clocks at one time. -/
def clockAt (millis : Nat) : CoolingClock := ⟨millis, millis, "boot", "epoch"⟩

/-- Two samples, half a second apart. -/
def sampledRun : List StoreOp :=
  [.trackCooling coolingReport (clockAt 0) 550 1000, .trackCooling coolingReport (clockAt 500) 550 1000]

/-- A third within the same gap ends the grace. -/
theorem grace_observed_sample : ∃ r,
    (ran Store.sampleToken sampledRun).store.trackCooling coolingReport (clockAt 550) 550 1000 = .ok r ∧
    r.2 = true ∧ Tells ((ran Store.sampleToken sampledRun).samples "tracking")
      ⟨coolingReport, clockAt 550, 1000⟩ 550 r.2 r.1 := by
  have hsome : ((ran Store.sampleToken sampledRun).store.trackCooling coolingReport (clockAt 550) 550
      1000).toOption.map Prod.snd = some true := by
    decide +kernel
  cases hok : (ran Store.sampleToken sampledRun).store.trackCooling coolingReport (clockAt 550) 550
      1000 with
  | error e =>
      rw [hok] at hsome
      cases hsome
  | ok r =>
      rw [hok] at hsome
      exact ⟨r, rfl, Option.some.inj hsome, grace_observed _ _ _ _ _ _ r.1 r.2 hok⟩

/-- Where the last call allows a shorter gap than the calls before it, the
samples need not be within that gap of each other. -/
theorem grace_other_gap : ¬ ∀ (token : NamespaceToken) (ops : List StoreOp) (report : IncidentReport)
    (clock : CoolingClock) (grace gap : Nat) (store : Store),
    (ran token ops).store.trackCooling report clock grace gap = .ok (store, true) →
    ∃ chain : List CoolingSample,
      chain.Sublist ((ran token ops).samples report.trackingKey ++ [⟨report, clock, gap⟩]) ∧
      chain.getLast? = some ⟨report, clock, gap⟩ ∧ chain.IsChain (CoolingSample.Follows gap) ∧
      ∃ first ∈ chain.head?, grace ≤ clock.continuousMillis - first.clock.continuousMillis := by
  intro hall
  have hsome : ((ran Store.sampleToken sampledRun).store.trackCooling coolingReport (clockAt 550) 550
      100).toOption.map Prod.snd = some true := by
    decide +kernel
  cases hok : (ran Store.sampleToken sampledRun).store.trackCooling coolingReport (clockAt 550) 550
      100 with
  | error e =>
      rw [hok] at hsome
      cases hsome
  | ok r =>
      rw [hok] at hsome
      have hr : r = (r.1, true) := Prod.ext rfl (Option.some.inj hsome)
      obtain ⟨chain, hsub, hlast, hchain, hspans⟩ := hall Store.sampleToken sampledRun coolingReport
        (clockAt 550) 550 100 r.1 (by rw [hok, hr])
      -- no selection of the three samples spans the grace in steps of the shorter gap
      have hnone : ∀ chain ∈ List.sublists' ((ran Store.sampleToken sampledRun).samples "tracking"
          ++ [(⟨coolingReport, clockAt 550, 100⟩ : CoolingSample)]),
          chain.getLast? = some ⟨coolingReport, clockAt 550, 100⟩ →
          chain.IsChain (CoolingSample.Follows 100) →
          ¬ ∃ first ∈ chain.head?, 550 ≤ 550 - first.clock.continuousMillis := by
        decide +kernel
      exact hnone chain (List.mem_sublists'.2 hsub) hlast hchain hspans

end CoolingLog

end Unlinger
