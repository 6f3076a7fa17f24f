import Mathlib.Data.List.Dedup
import Unlinger.App.Model.Notifications

/-!
# What a refresh makes of the ledger

What pruning keeps, and what each step of `refreshed` and `unavailable`
does: which tokens are noted, which claims are made, and which
notifications are left to schedule.
-/

namespace Unlinger

namespace App

open Interaction NotificationLedgerState

variable {mode : NotificationMode} {status : PublicStatus} {history : List HistoryEvent}
  {now : Nat} {order : Order} {state : NotificationLedgerState} {c : Composed} {token : String}

/-! ## Maps -/

theorem contains_insert {ν : Type} {m : OrdMap String ν} {k k' : String} {v : ν} :
    (m.insert k v).contains k' = true ↔ k' = k ∨ m.contains k' = true := by
  unfold OrdMap.contains
  rw [OrdMap.lookup_insert]
  by_cases hk : k' = k
  · simp [hk]
  · simp [hk]

theorem contains_foldl_insert {tokens : List String} {seen : OrdMap String Nat} :
    (tokens.foldl (fun seen token => seen.insert token now) seen).contains token = true ↔
      token ∈ tokens ∨ seen.contains token = true := by
  induction tokens generalizing seen with
  | nil => simp
  | cons u tokens ih =>
      rw [List.foldl_cons, ih, contains_insert, List.mem_cons]
      tauto

/-- What the ledger keeps it had. -/
theorem lookup_bounded {ν : Type} {rank : String → Nat} {timestamp : ν → Nat}
    {values : OrdMap String ν} {k : String} {v : ν}
    (h : (bounded rank timestamp values).lookup k = some v) : values.lookup k = some v := by
  have hmem := List.mem_of_mem_take (OrdMap.lookup_ofList h)
  rw [List.mem_insertionSort] at hmem
  exact OrdMap.lookup_eq_some.2 hmem

theorem lookup_prune_claims {key : String} {claim : NotificationClaim}
    (h : (state.prune now order).claims.lookup key = some claim) :
    state.claims.lookup key = some claim := by
  have hkept := lookup_bounded h
  rw [OrdMap.lookup_filter, Option.filter_eq_some_iff] at hkept
  exact hkept.1

/-! ## Keys -/

theorem eventClaimKey_inj {token token' : String} :
    eventClaimKey token = eventClaimKey token' ↔ token = token' := by
  unfold eventClaimKey
  exact String.append_right_inj _

/-- An event is claimed apart from the episodes. -/
theorem eventClaimKey_ne (token type : String) (at_ : Nat) :
    eventClaimKey token ≠ episodeClaimKey type at_ := by
  intro h
  unfold eventClaimKey episodeClaimKey at h
  have hlist := congrArg String.toList h
  simp [String.toList_append] at hlist

/-! ## Candidates -/

theorem lookup_putCandidates {candidates : List NotificationCandidate}
    {found : OrdMap String NotificationCandidate} {candidate : NotificationCandidate}
    (hfound : ∀ token candidate, found.lookup token = some candidate → candidate.eventToken = token)
    (h : (candidates.foldl putCandidate found).lookup token = some candidate) :
    candidate.eventToken = token := by
  induction candidates generalizing found with
  | nil => exact hfound token candidate h
  | cons x candidates ih =>
      refine ih (fun u y hy => ?_) h
      unfold putCandidate at hy
      rw [OrdMap.lookup_insert] at hy
      split_ifs at hy with hu
      · rw [← Option.some.inj hy, hu]
      · exact hfound u y hy

/-- A candidate stands under its own token. -/
theorem lookup_eventCandidates {candidate : NotificationCandidate}
    (h : (eventCandidates status history).lookup token = some candidate) :
    candidate.eventToken = token := by
  have hempty : ∀ token candidate,
      (OrdMap.empty : OrdMap String NotificationCandidate).lookup token = some candidate →
        candidate.eventToken = token := by
    intro u y hy
    cases hy
  unfold eventCandidates at h
  cases hreclaim : status.mostRecentReclaim with
  | none =>
      rw [hreclaim] at h
      exact lookup_putCandidates hempty h
  | some reclaim =>
      rw [hreclaim] at h
      dsimp only at h
      split_ifs at h with hknown
      · exact lookup_putCandidates hempty h
      · have hlast : ([reclaim.candidate].foldl putCandidate _).lookup token = some candidate := h
        exact lookup_putCandidates (fun u y hy => lookup_putCandidates hempty hy) hlast

/-! ## One token -/

section Tokens

variable {candidates : OrdMap String NotificationCandidate}

/-- What noting a token does. -/
theorem noteToken_cases (mode : NotificationMode)
    (candidates : OrdMap String NotificationCandidate) (now : Nat) (c : Composed)
    (token : String) :
    (c.1.seenEventTokens.contains token = true ∧ noteToken mode candidates now c token = c) ∨
    c.1.seenEventTokens.contains token = false ∧
      ((candidates.lookup token = none ∧ noteToken mode candidates now c token
          = ({ c.1 with seenEventTokens := c.1.seenEventTokens.insert token now }, c.2)) ∨
        ∃ candidate eligible, candidates.lookup token = some candidate ∧
          noteToken mode candidates now c token
            = ({ c.1 with
                  seenEventTokens := c.1.seenEventTokens.insert token now
                  claims := c.1.claims.insert (eventClaimKey token) (claimed now eligible) },
                if eligible then c.2 ++ [candidate.notification] else c.2)) := by
  unfold noteToken
  by_cases hseen : c.1.seenEventTokens.contains token = true
  · exact Or.inl ⟨hseen, if_pos hseen⟩
  · rw [if_neg hseen]
    refine Or.inr ⟨Bool.not_eq_true _ ▸ hseen, ?_⟩
    cases hcandidate : candidates.lookup token with
    | none => exact Or.inl ⟨rfl, rfl⟩
    | some candidate => exact Or.inr ⟨candidate, _, rfl, rfl⟩

/-- Some of the tokens were noted: what is left to schedule is of events
noted and claimed, each once, and no other claim changed. -/
structure Noted (candidates : OrdMap String NotificationCandidate) (tokens : List String)
    (before : NotificationLedgerState) (c : Composed) : Prop where
  seen : ∀ token, before.seenEventTokens.contains token = true →
    c.1.seenEventTokens.contains token = true
  claims : ∀ key, before.claims.contains key = true → c.1.claims.contains key = true
  events : ∀ n ∈ c.2, ∃ token, n.eventToken = some token ∧
    before.seenEventTokens.contains token = false ∧
    c.1.seenEventTokens.contains token = true ∧ c.1.claims.contains (eventClaimKey token) = true
  distinct : c.2.Pairwise fun a b => a.eventToken ≠ b.eventToken
  owned : ∀ n ∈ c.2, ∃ token at_, n.eventToken = some token ∧
    c.1.claims.lookup (eventClaimKey token) = some ⟨at_, .claimed⟩
  anew : ∀ key, c.1.claims.lookup key = before.claims.lookup key ∨ ∃ token ∈ tokens,
    before.seenEventTokens.contains token = false ∧ candidates.contains token = true ∧
      key = eventClaimKey token
  activeEpisodes : c.1.activeEpisodes = before.activeEpisodes
  unavailableEpisode : c.1.unavailableEpisode = before.unavailableEpisode
  baselineComplete : c.1.baselineComplete = before.baselineComplete
  promptAttempted : c.1.promptAttempted = before.promptAttempted

theorem noted_nothing {tokens : List String} : Noted candidates tokens state (state, []) :=
  ⟨fun _ h => h, fun _ h => h, fun _ hn => absurd hn List.not_mem_nil, List.Pairwise.nil,
    fun _ hn => absurd hn List.not_mem_nil, fun _ => Or.inl rfl, rfl, rfl, rfl, rfl⟩

/-- What was noted before was seen, so a new token is none of it. -/
theorem Noted.fresh {tokens : List String} (h : Noted candidates tokens state c)
    (hnew : c.1.seenEventTokens.contains token = false) :
    state.seenEventTokens.contains token = false ∧ ∀ n ∈ c.2, n.eventToken ≠ some token := by
  refine ⟨?_, fun n hn htoken => ?_⟩
  · by_contra hold
    rw [Bool.not_eq_false] at hold
    rw [h.seen token hold] at hnew
    cases hnew
  · obtain ⟨u, hu, -, hseen, -⟩ := h.events n hn
    obtain rfl := Option.some.inj (hu.symm.trans htoken)
    rw [hnew] at hseen
    cases hseen

/-- One more token is seen. -/
theorem Noted.see {tokens : List String} (h : Noted candidates tokens state c) :
    Noted candidates tokens state
      ({ c.1 with seenEventTokens := c.1.seenEventTokens.insert token now }, c.2) := by
  refine ⟨fun u hu => contains_insert.2 (Or.inr (h.seen u hu)), h.claims, fun n hn => ?_,
    h.distinct, h.owned, h.anew, h.activeEpisodes, h.unavailableEpisode, h.baselineComplete,
    h.promptAttempted⟩
  obtain ⟨u, hu, hold, hseen, hclaim⟩ := h.events n hn
  exact ⟨u, hu, hold, contains_insert.2 (Or.inr hseen), hclaim⟩

/-- And claimed, where it was new and there is something to show for it. -/
theorem Noted.claim {tokens : List String} {claim : NotificationClaim}
    (h : Noted candidates tokens state c) (htoken : token ∈ tokens)
    (hcandidate : candidates.contains token = true)
    (hnot : state.seenEventTokens.contains token = false)
    (hother : ∀ n ∈ c.2, n.eventToken ≠ some token) :
    Noted candidates tokens state
      ({ c.1 with claims := c.1.claims.insert (eventClaimKey token) claim }, c.2) := by
  refine ⟨h.seen, fun key hkey => contains_insert.2 (Or.inr (h.claims key hkey)), fun n hn => ?_,
    h.distinct, fun n hn => ?_, fun key => ?_, h.activeEpisodes, h.unavailableEpisode,
    h.baselineComplete, h.promptAttempted⟩
  · obtain ⟨u, hu, hold, hseen, hclaim⟩ := h.events n hn
    exact ⟨u, hu, hold, hseen, contains_insert.2 (Or.inr hclaim)⟩
  · obtain ⟨u, at_, hu, hclaim⟩ := h.owned n hn
    have hne : eventClaimKey u ≠ eventClaimKey token := by
      intro hkey
      rw [eventClaimKey_inj.1 hkey] at hu
      exact hother n hn hu
    refine ⟨u, at_, hu, ?_⟩
    rw [OrdMap.lookup_insert, if_neg hne]
    exact hclaim
  · rw [OrdMap.lookup_insert]
    by_cases hkey : key = eventClaimKey token
    · exact Or.inr ⟨token, htoken, hnot, hcandidate, hkey⟩
    · rw [if_neg hkey]
      exact h.anew key

/-- And scheduled, once it is seen and claimed. -/
theorem Noted.schedule {tokens : List String} {n : LocalNotification} {at_ : Nat}
    (h : Noted candidates tokens state c) (hown : n.eventToken = some token)
    (hnot : state.seenEventTokens.contains token = false)
    (hother : ∀ m ∈ c.2, m.eventToken ≠ some token)
    (hseen : c.1.seenEventTokens.contains token = true)
    (hclaim : c.1.claims.lookup (eventClaimKey token) = some ⟨at_, .claimed⟩) :
    Noted candidates tokens state (c.1, c.2 ++ [n]) := by
  refine ⟨h.seen, h.claims, fun m hm => ?_, ?_, fun m hm => ?_, h.anew, h.activeEpisodes,
    h.unavailableEpisode, h.baselineComplete, h.promptAttempted⟩
  · rcases List.mem_append.1 hm with hm | hm
    · exact h.events m hm
    · obtain rfl := List.mem_singleton.1 hm
      refine ⟨token, hown, hnot, hseen, ?_⟩
      unfold OrdMap.contains
      rw [hclaim]
      rfl
  · rw [List.pairwise_append]
    refine ⟨h.distinct, List.pairwise_singleton _ _, fun m hm m' hm' heq => ?_⟩
    obtain rfl := List.mem_singleton.1 hm'
    exact hother m hm (heq.trans hown)
  · rcases List.mem_append.1 hm with hm | hm
    · exact h.owned m hm
    · obtain rfl := List.mem_singleton.1 hm
      exact ⟨token, at_, hown, hclaim⟩

/-- One more token. -/
theorem Noted.noteToken {tokens : List String} (h : Noted candidates tokens state c)
    (hcandidates : ∀ token candidate, candidates.lookup token = some candidate →
      candidate.eventToken = token) (htoken : token ∈ tokens) :
    Noted candidates tokens state (noteToken mode candidates now c token) := by
  rcases noteToken_cases mode candidates now c token with
    ⟨-, heq⟩ | ⟨hnew, ⟨-, heq⟩ | ⟨candidate, eligible, hcandidate, heq⟩⟩
  · rw [heq]
    exact h
  · rw [heq]
    exact h.see
  · obtain ⟨hnot, hother⟩ := h.fresh hnew
    have hcontains : candidates.contains token = true := by
      unfold OrdMap.contains
      rw [hcandidate]
      rfl
    have hclaimed : Noted candidates tokens state
        ({ c.1 with
            seenEventTokens := c.1.seenEventTokens.insert token now
            claims := c.1.claims.insert (eventClaimKey token) (claimed now eligible) }, c.2) :=
      h.see.claim htoken hcontains hnot hother
    rw [heq]
    cases eligible with
    | false => exact hclaimed
    | true =>
        have hlookup : (c.1.claims.insert (eventClaimKey token) (claimed now true)).lookup
            (eventClaimKey token) = some ⟨now, .claimed⟩ := OrdMap.lookup_insert.trans (if_pos rfl)
        exact hclaimed.schedule (congrArg some (hcandidates token candidate hcandidate)) hnot hother
          (contains_insert.2 (Or.inl rfl)) hlookup

theorem noted_foldl {tokens more : List String} (h : Noted candidates tokens state c)
    (hcandidates : ∀ token candidate, candidates.lookup token = some candidate →
      candidate.eventToken = token) (hmore : ∀ token ∈ more, token ∈ tokens) :
    Noted candidates tokens state (more.foldl (noteToken mode candidates now) c) := by
  induction more generalizing c with
  | nil => exact h
  | cons u more ih =>
      rw [List.foldl_cons]
      refine ih (h.noteToken hcandidates (hmore u List.mem_cons_self)) fun v hv => ?_
      exact hmore v (List.mem_cons_of_mem u hv)

end Tokens

/-! ## Episodes -/

/-- One type of episodes began, went on or ended. -/
structure Transitions (type bodyKey : String) (active : Bool) (now : Nat) (c c' : Composed) :
    Prop where
  isOpen : (c'.1.activeEpisodes.lookup type).isSome = active
  others : ∀ type', type' ≠ type →
    c'.1.activeEpisodes.lookup type' = c.1.activeEpisodes.lookup type'
  pending : c'.2 = c.2 ∨ c.1.activeEpisodes.lookup type = none ∧ active = true ∧
    c'.2 = c.2 ++ [episodeNotification (episodeClaimKey type now) bodyKey]
  claims : ∀ key, c.1.claims.contains key = true → c'.1.claims.contains key = true
  anew : ∀ key, c'.1.claims.lookup key = c.1.claims.lookup key ∨
    c.1.activeEpisodes.lookup type = none ∧ active = true ∧ key = episodeClaimKey type now
  owned : c'.2 = c.2 ∨
    c'.1.claims.lookup (episodeClaimKey type now) = some ⟨now, .claimed⟩
  seen : c'.1.seenEventTokens = c.1.seenEventTokens
  unavailableEpisode : c'.1.unavailableEpisode = c.1.unavailableEpisode
  baselineComplete : c'.1.baselineComplete = c.1.baselineComplete
  promptAttempted : c'.1.promptAttempted = c.1.promptAttempted

theorem transitionEpisode_transitions (mode : NotificationMode) (type bodyKey : String)
    (active : Bool) (now : Nat) (c : Composed) :
    Transitions type bodyKey active now c (transitionEpisode mode type active bodyKey now c) := by
  unfold transitionEpisode
  by_cases hactive : active = false
  · rw [if_pos hactive]
    refine ⟨?_, fun type' hne => ?_, Or.inl rfl, fun _ h => h, fun _ => Or.inl rfl, Or.inl rfl, rfl,
      rfl, rfl, rfl⟩
    · rw [OrdMap.lookup_erase, if_pos rfl, hactive]
      rfl
    · rw [OrdMap.lookup_erase, if_neg hne]
  · rw [if_neg hactive]
    rw [Bool.not_eq_false] at hactive
    by_cases hopen : (c.1.activeEpisodes.lookup type).isSome = true
    · rw [if_pos hopen]
      exact ⟨hopen.trans hactive.symm, fun _ _ => rfl, Or.inl rfl, fun _ h => h,
        fun _ => Or.inl rfl, Or.inl rfl, rfl, rfl, rfl, rfl⟩
    · rw [if_neg hopen]
      rw [Bool.not_eq_true, Option.isSome_eq_false_iff, Option.isNone_iff_eq_none] at hopen
      refine ⟨?_, fun type' hne => ?_, ?_, fun key hkey => contains_insert.2 (Or.inr hkey),
        fun key => ?_, ?_, rfl, rfl, rfl, rfl⟩
      · rw [OrdMap.lookup_insert, if_pos rfl, hactive]
        rfl
      · rw [OrdMap.lookup_insert, if_neg hne]
      · by_cases heligible : (mode != .off) = true
        · exact Or.inr ⟨hopen, hactive, if_pos heligible⟩
        · exact Or.inl (if_neg heligible)
      · by_cases hkey : key = episodeClaimKey type now
        · exact Or.inr ⟨hopen, hactive, hkey⟩
        · left
          rw [OrdMap.lookup_insert, if_neg hkey]
      · by_cases heligible : (mode != .off) = true
        · right
          rw [OrdMap.lookup_insert, if_pos rfl, heligible]
          rfl
        · exact Or.inl (if_neg heligible)

/-! ## A refresh -/

theorem mem_tokensInOrder : token ∈ tokensInOrder status history order ↔
    token ∈ retainedTokens status history := by
  unfold tokensInOrder
  rw [List.mem_insertionSort, List.mem_dedup]

/-- What a trusted refresh composes: it prunes, notes its tokens or takes
them for the baseline, and then turns to the episodes. -/
structure Refreshes (status : PublicStatus) (history : List HistoryEvent) (now : Nat)
    (order : Order) (state : NotificationLedgerState) (noted mid c : Composed) : Prop where
  tokens : state.baselineComplete = true ∧ Noted (eventCandidates status history)
      (tokensInOrder status history order)
      ({ state with unavailableEpisode := none }.prune now order) noted ∨
    state.baselineComplete = false ∧ noted =
      ({ { state with unavailableEpisode := none }.prune now order with
          seenEventTokens := (tokensInOrder status history order).foldl
            (fun seen token => seen.insert token now)
            ({ state with unavailableEpisode := none }.prune now order).seenEventTokens
          baselineComplete := true }, [])
  daemonFailed : Transitions "daemon_failed" "notification.daemon_failed"
    (!status.healthy || status.readiness == .failed) now noted mid
  eventSourceDegraded : Transitions "event_source_degraded" "notification.event_source_degraded"
    (!status.eventSourceHealthy) now mid c

theorem refreshed_refreshes (status : PublicStatus) (history : List HistoryEvent) (now : Nat)
    (order : Order) (mode : NotificationMode) (state : NotificationLedgerState) :
    ∃ noted mid, Refreshes status history now order state noted mid
      (refreshed status history now order mode state) := by
  unfold refreshed transitionHealthEpisodes
  refine ⟨_, _, ?_, transitionEpisode_transitions _ _ _ _ _ _,
    transitionEpisode_transitions _ _ _ _ _ _⟩
  by_cases hbaseline : state.baselineComplete = true
  · refine Or.inl ⟨hbaseline, ?_⟩
    have hpruned : ({ state with unavailableEpisode := none }.prune now order).baselineComplete
        = true := hbaseline
    rw [if_pos hpruned]
    exact noted_foldl noted_nothing (fun _ _ => lookup_eventCandidates) fun _ h => h
  · have hpruned : ¬ ({ state with unavailableEpisode := none }.prune now order).baselineComplete
        = true := hbaseline
    rw [if_neg hpruned]
    exact Or.inr ⟨Bool.not_eq_true _ ▸ hbaseline, rfl⟩

namespace Refreshes

variable {noted mid : Composed}

theorem activeEpisodes (h : Refreshes status history now order state noted mid c) :
    noted.1.activeEpisodes = state.activeEpisodes := by
  rcases h.tokens with ⟨-, hnoted⟩ | ⟨-, rfl⟩
  · exact hnoted.activeEpisodes
  · rfl

theorem daemonFailed_open (h : Refreshes status history now order state noted mid c) :
    (c.1.activeEpisodes.lookup "daemon_failed").isSome
      = (!status.healthy || status.readiness == .failed) := by
  rw [h.eventSourceDegraded.others "daemon_failed" (by decide)]
  exact h.daemonFailed.isOpen

/-- The notifications of a refresh: those of events, and of the episodes
that begin. -/
theorem pending (h : Refreshes status history now order state noted mid c) :
    ∃ l l', c.2 = noted.2 ++ l ++ l' ∧
      (l = [] ∨ state.activeEpisodes.lookup "daemon_failed" = none ∧
        (!status.healthy || status.readiness == .failed) = true ∧
        l = [episodeNotification (episodeClaimKey "daemon_failed" now)
          "notification.daemon_failed"]) ∧
      (l' = [] ∨ state.activeEpisodes.lookup "event_source_degraded" = none ∧
        (!status.eventSourceHealthy) = true ∧
        l' = [episodeNotification (episodeClaimKey "event_source_degraded" now)
          "notification.event_source_degraded"]) := by
  have hactive := h.activeEpisodes
  have hmid : mid.1.activeEpisodes.lookup "event_source_degraded"
      = state.activeEpisodes.lookup "event_source_degraded" := by
    rw [h.daemonFailed.others "event_source_degraded" (by decide), hactive]
  rcases h.daemonFailed.pending with h₁ | ⟨hnone₁, hon₁, h₁⟩ <;>
    rcases h.eventSourceDegraded.pending with h₂ | ⟨hnone₂, hon₂, h₂⟩
  · exact ⟨[], [], by rw [h₂, h₁]; simp, Or.inl rfl, Or.inl rfl⟩
  · exact ⟨[], _, by rw [h₂, h₁, List.append_nil], Or.inl rfl,
      Or.inr ⟨hmid ▸ hnone₂, hon₂, rfl⟩⟩
  · exact ⟨_, [], by rw [h₂, h₁, List.append_nil], Or.inr ⟨hactive ▸ hnone₁, hon₁, rfl⟩,
      Or.inl rfl⟩
  · exact ⟨_, _, by rw [h₂, h₁], Or.inr ⟨hactive ▸ hnone₁, hon₁, rfl⟩,
      Or.inr ⟨hmid ▸ hnone₂, hon₂, rfl⟩⟩

/-- An event's notification is of a token that was not seen, and claimed. -/
theorem noted_event (h : Refreshes status history now order state noted mid c) :
    ∀ n ∈ noted.2, ∃ token, n.eventToken = some token ∧
      (state.prune now order).seenEventTokens.contains token = false ∧
      noted.1.claims.contains (eventClaimKey token) = true := by
  intro n hn
  rcases h.tokens with ⟨-, hnoted⟩ | ⟨-, rfl⟩
  · obtain ⟨token, ht, hold, -, hclaim⟩ := hnoted.events n hn
    exact ⟨token, ht, hold, hclaim⟩
  · exact absurd hn List.not_mem_nil

theorem noted_distinct (h : Refreshes status history now order state noted mid c) :
    noted.2.Pairwise fun a b => a.eventToken ≠ b.eventToken := by
  rcases h.tokens with ⟨-, hnoted⟩ | ⟨-, rfl⟩
  · exact hnoted.distinct
  · exact List.Pairwise.nil

/-- What was seen is seen. -/
theorem seen (h : Refreshes status history now order state noted mid c)
    (hseen : (state.prune now order).seenEventTokens.contains token = true) :
    c.1.seenEventTokens.contains token = true := by
  rw [h.eventSourceDegraded.seen, h.daemonFailed.seen]
  rcases h.tokens with ⟨-, hnoted⟩ | ⟨-, rfl⟩
  · exact hnoted.seen token hseen
  · exact contains_foldl_insert.2 (Or.inr hseen)

/-- A refresh notifies of an event only where it claimed it. -/
theorem event (h : Refreshes status history now order state noted mid c)
    {n : LocalNotification} (hn : n ∈ c.2) (ht : n.eventToken = some token) :
    (state.prune now order).seenEventTokens.contains token = false ∧
      c.1.claims.contains (eventClaimKey token) = true := by
  obtain ⟨l, l', hpending, hl, hl'⟩ := h.pending
  rw [hpending, List.mem_append, List.mem_append] at hn
  rcases hn with (hn | hn) | hn
  · obtain ⟨u, hu, hold, hclaim⟩ := h.noted_event n hn
    rw [ht, Option.some.injEq] at hu
    subst hu
    exact ⟨hold, h.eventSourceDegraded.claims _ (h.daemonFailed.claims _ hclaim)⟩
  · rcases hl with rfl | ⟨-, -, rfl⟩
    · cases hn
    · rw [List.mem_singleton.1 hn] at ht
      cases ht
  · rcases hl' with rfl | ⟨-, -, rfl⟩
    · cases hn
    · rw [List.mem_singleton.1 hn] at ht
      cases ht

end Refreshes

/-! ## A refresh that failed -/

/-- What a failed refresh composes. -/
theorem unavailable_cases (now : Nat) (order : Order) (mode : NotificationMode)
    (state : NotificationLedgerState) :
    ((failedAgain now state.unavailableEpisode).due now = true ∧ ∃ eligible,
      unavailable now order mode state =
        ({ state.prune now order with
            unavailableEpisode := some { failedAgain now state.unavailableEpisode with
              handled := true
              claimKey := some (episodeClaimKey "daemon_unavailable"
                (failedAgain now state.unavailableEpisode).firstFailureAtUnixMillis) }
            claims := (state.prune now order).claims.insert (episodeClaimKey "daemon_unavailable"
              (failedAgain now state.unavailableEpisode).firstFailureAtUnixMillis)
              (claimed now eligible) },
          if eligible then [episodeNotification (episodeClaimKey "daemon_unavailable"
            (failedAgain now state.unavailableEpisode).firstFailureAtUnixMillis)
            "notification.daemon_unavailable"] else [])) ∨
    (failedAgain now state.unavailableEpisode).due now = false ∧
      unavailable now order mode state =
        ({ state.prune now order with
            unavailableEpisode := some (failedAgain now state.unavailableEpisode) }, []) := by
  by_cases hdue : (failedAgain now state.unavailableEpisode).due now = true
  · exact Or.inl ⟨hdue, _, if_pos hdue⟩
  · exact Or.inr ⟨Bool.not_eq_true _ ▸ hdue, if_neg hdue⟩

end App

end Unlinger
