import Unlinger.App.Helpers.Coordinator

/-!
# How the ledger advances

A ledger advances where nothing it records is taken back: what was seen
and claimed stays so, and a claim is at most disposed of. What a call
composes advances what it left of its copy, unless it claims a key anew
whose claim is still there; and disposing of what was just claimed
advances it further.
-/

namespace Unlinger

namespace App

open Interaction NotificationLedgerState

variable {state state' state'' : NotificationLedgerState}

/-! ## The order -/

/-- A claim goes on: it stays as it is, or it is disposed of. -/
structure NotificationClaim.Advances (claim claim' : NotificationClaim) : Prop where
  claimedAt : claim'.claimedAtUnixMillis = claim.claimedAtUnixMillis
  disposition : claim'.disposition = claim.disposition ∨ claim.disposition = .claimed ∧
    (claim'.disposition = .scheduled ∨ claim'.disposition = .failedToSchedule)

/-- A ledger goes on: nothing it records is taken back. -/
structure NotificationLedgerState.Advances (state state' : NotificationLedgerState) : Prop where
  baselineComplete : state.baselineComplete = true → state'.baselineComplete = true
  promptAttempted : state.promptAttempted = true → state'.promptAttempted = true
  seen : ∀ token, state.seenEventTokens.contains token = true →
    state'.seenEventTokens.contains token = true
  claims : ∀ key claim, state.claims.lookup key = some claim →
    ∃ claim', state'.claims.lookup key = some claim' ∧ claim.Advances claim'

theorem NotificationClaim.Advances.refl (claim : NotificationClaim) : claim.Advances claim :=
  ⟨rfl, Or.inl rfl⟩

theorem NotificationClaim.Advances.trans {claim claim' claim'' : NotificationClaim}
    (h : claim.Advances claim') (h' : claim'.Advances claim'') : claim.Advances claim'' := by
  refine ⟨h'.claimedAt.trans h.claimedAt, ?_⟩
  rcases h'.disposition with hsame | ⟨hclaimed, hmoved⟩
  · rw [hsame]
    exact h.disposition
  · rcases h.disposition with hsame | ⟨-, hdisposed⟩
    · exact Or.inr ⟨hsame ▸ hclaimed, hmoved⟩
    · rw [hclaimed] at hdisposed
      rcases hdisposed with hdisposed | hdisposed <;> cases hdisposed

namespace NotificationLedgerState.Advances

theorem refl (state : NotificationLedgerState) : state.Advances state :=
  ⟨id, id, fun _ h => h, fun _ claim h => ⟨claim, h, .refl claim⟩⟩

theorem trans (h : state.Advances state') (h' : state'.Advances state'') :
    state.Advances state'' := by
  refine ⟨fun hb => h'.baselineComplete (h.baselineComplete hb),
    fun hp => h'.promptAttempted (h.promptAttempted hp),
    fun token ht => h'.seen token (h.seen token ht), fun key claim hclaim => ?_⟩
  obtain ⟨claim', hclaim', hadvances⟩ := h.claims key claim hclaim
  obtain ⟨claim'', hclaim'', hadvances'⟩ := h'.claims key claim' hclaim'
  exact ⟨claim'', hclaim'', hadvances.trans hadvances'⟩

end NotificationLedgerState.Advances

/-! ## What a call claims -/

namespace CoordinatorCall

/-- The type of an episode that begins with a refresh, if it does. -/
def episodeKey (state : NotificationLedgerState) (type : String) (active : Bool) (now : Nat) :
    List String :=
  if state.activeEpisodes.lookup type = none ∧ active = true then [episodeClaimKey type now] else []

/-- The keys a call claims in a ledger. -/
def claimKeys (k : CoordinatorCall) (state : NotificationLedgerState) : List String :=
  match k with
  | .receiveTrustedRefresh status history now order =>
      (if state.baselineComplete then
        ((retainedTokens status history).filter fun token =>
          !(state.prune now order).seenEventTokens.contains token
            && (eventCandidates status history).contains token).map eventClaimKey
      else [])
      ++ episodeKey state "daemon_failed" (!status.healthy || status.readiness == .failed) now
      ++ episodeKey state "event_source_degraded" (!status.eventSourceHealthy) now
  | .receiveUnavailable now _ =>
      let episode := failedAgain now state.unavailableEpisode
      if episode.due now then
        [episodeClaimKey "daemon_unavailable" episode.firstFailureAtUnixMillis]
      else []
  | _ => []

/-- The call claims no key whose claim it left in the ledger. -/
def ClaimsAnew (k : CoordinatorCall) (state : NotificationLedgerState) : Prop :=
  ∀ key ∈ k.claimKeys state, (k.pruned state).claims.contains key = false

instance ClaimsAnew.decidable (k : CoordinatorCall) (state : NotificationLedgerState) :
    Decidable (k.ClaimsAnew state) := by
  unfold ClaimsAnew
  infer_instance

variable {k : CoordinatorCall} {mode : NotificationMode} {now : Nat} {order : Order}

theorem prune_advances (state : NotificationLedgerState) (now : Nat) (order : Order) :
    (state.prune now order).Advances state := by
  refine ⟨id, id, fun token htoken => ?_, fun key claim hclaim => ?_⟩
  · obtain ⟨at_, hat⟩ := Option.isSome_iff_exists.1 htoken
    have hkept := lookup_bounded hat
    rw [OrdMap.lookup_filter, Option.filter_eq_some_iff] at hkept
    exact Option.isSome_iff_exists.2 ⟨at_, hkept.1⟩
  · exact ⟨claim, lookup_prune_claims hclaim, .refl claim⟩

/-- What is left of a ledger is no more than it was. -/
theorem pruned_advances (k : CoordinatorCall) (state : NotificationLedgerState) :
    (k.pruned state).Advances state := by
  cases k with
  | receiveTrustedRefresh status history now order => exact prune_advances state now order
  | receiveUnavailable now order => exact prune_advances state now order
  | setMode mode => exact .refl state
  | prepareAuthorization => exact .refl state

theorem pruned_baselineComplete (k : CoordinatorCall) (state : NotificationLedgerState) :
    (k.pruned state).baselineComplete = state.baselineComplete := by
  cases k with
  | receiveTrustedRefresh status history now order => rfl
  | receiveUnavailable now order => rfl
  | setMode mode => rfl
  | prepareAuthorization => rfl

end CoordinatorCall

open CoordinatorCall NotificationCoordinator

/-! ## What a call composes -/

section Composed

variable {k : CoordinatorCall} {mode : NotificationMode} {now : Nat} {order : Order}
  {status : PublicStatus} {history : List HistoryEvent} {noted mid c : Composed}
  {pending : List LocalNotification}

/-- Each notification is of a claim of its own that is not disposed of. -/
structure Pending (state : NotificationLedgerState) (pending : List LocalNotification) : Prop where
  claimed : ∀ n ∈ pending, ∃ claim, state.claims.lookup (claimKeyOf n) = some claim ∧
    claim.disposition = .claimed
  distinct : pending.Pairwise fun a b => claimKeyOf a ≠ claimKeyOf b

theorem claimKeyOf_event {n : LocalNotification} {token : String}
    (h : n.eventToken = some token) : claimKeyOf n = eventClaimKey token := by
  unfold claimKeyOf
  rw [h]

theorem claimKeyOf_episode (claimKey bodyKey : String) :
    claimKeyOf (episodeNotification claimKey bodyKey) = claimKey := by
  unfold claimKeyOf episodeNotification
  have hprefix : "unlinger.".length = "unlinger.".toList.length := rfl
  dsimp only
  rw [String.toList_append, hprefix, List.drop_left, String.ofList_toList]

theorem mem_episodeKey {type : String} {active : Bool}
    (hnone : state.activeEpisodes.lookup type = none) (hactive : active = true) :
    episodeClaimKey type now ∈ episodeKey state type active now := by
  unfold episodeKey
  rw [if_pos ⟨hnone, hactive⟩]
  exact List.mem_singleton.2 rfl

namespace Refreshes

theorem mid_episode (h : Refreshes status history now order state noted mid c) :
    mid.1.activeEpisodes.lookup "event_source_degraded"
      = state.activeEpisodes.lookup "event_source_degraded" := by
  rw [h.daemonFailed.others "event_source_degraded" (by decide), h.activeEpisodes]

/-- A key that the refresh does not claim keeps its claim. -/
theorem claims_lookup (h : Refreshes status history now order state noted mid c) {key : String}
    (hkey : key ∉ (CoordinatorCall.receiveTrustedRefresh status history now order).claimKeys state) :
    c.1.claims.lookup key = (state.prune now order).claims.lookup key := by
  unfold claimKeys at hkey
  rw [List.mem_append, List.mem_append, not_or, not_or] at hkey
  obtain ⟨⟨hevent, hdaemon⟩, hsource⟩ := hkey
  have hlast : c.1.claims.lookup key = mid.1.claims.lookup key := by
    rcases h.eventSourceDegraded.anew key with hsame | ⟨hnone, hactive, rfl⟩
    · exact hsame
    · exact absurd (mem_episodeKey (h.mid_episode ▸ hnone) hactive) hsource
  have hmid : mid.1.claims.lookup key = noted.1.claims.lookup key := by
    rcases h.daemonFailed.anew key with hsame | ⟨hnone, hactive, rfl⟩
    · exact hsame
    · exact absurd (mem_episodeKey (h.activeEpisodes ▸ hnone) hactive) hdaemon
  rw [hlast, hmid]
  rcases h.tokens with ⟨hbaseline, hnoted⟩ | ⟨-, rfl⟩
  · rcases hnoted.anew key with hsame | ⟨token, htoken, hnew, hcandidate, rfl⟩
    · exact hsame
    · rw [if_pos hbaseline] at hevent
      refine absurd (List.mem_map.2 ⟨token, List.mem_filter.2 ⟨mem_tokensInOrder.1 htoken, ?_⟩, rfl⟩)
        hevent
      have hnew' : (state.prune now order).seenEventTokens.contains token = false := hnew
      rw [hnew', hcandidate]
      rfl
  · rfl

/-- What a refresh composes goes on from what it left. -/
theorem advances (h : Refreshes status history now order state noted mid c)
    (hanew : (CoordinatorCall.receiveTrustedRefresh status history now order).ClaimsAnew state) :
    (state.prune now order).Advances c.1 := by
  refine ⟨fun hbaseline => ?_, fun hprompt => ?_, fun token => h.seen, fun key claim hclaim => ?_⟩
  · rw [h.eventSourceDegraded.baselineComplete, h.daemonFailed.baselineComplete]
    rcases h.tokens with ⟨-, hnoted⟩ | ⟨-, rfl⟩
    · rw [hnoted.baselineComplete]
      exact hbaseline
    · rfl
  · rw [h.eventSourceDegraded.promptAttempted, h.daemonFailed.promptAttempted]
    rcases h.tokens with ⟨-, hnoted⟩ | ⟨-, rfl⟩
    · rw [hnoted.promptAttempted]
      exact hprompt
    · exact hprompt
  · refine ⟨claim, ?_, .refl claim⟩
    rw [h.claims_lookup fun hkey => ?_, hclaim]
    have hgone := hanew key hkey
    have hthere : (state.prune now order).claims.contains key = true :=
      Option.isSome_iff_exists.2 ⟨claim, hclaim⟩
    exact absurd hthere (Bool.not_eq_true _ ▸ hgone)

/-- The notifications of events are of claims of their own. -/
theorem noted_pending (h : Refreshes status history now order state noted mid c) :
    (∀ n ∈ noted.2, ∃ token, claimKeyOf n = eventClaimKey token) ∧ Pending noted.1 noted.2 := by
  rcases h.tokens with ⟨-, hnoted⟩ | ⟨-, rfl⟩
  · refine ⟨fun n hn => ?_, fun n hn => ?_, ?_⟩
    · obtain ⟨token, -, htoken, -⟩ := hnoted.owned n hn
      exact ⟨token, claimKeyOf_event htoken⟩
    · obtain ⟨token, at_, htoken, hclaim⟩ := hnoted.owned n hn
      rw [claimKeyOf_event htoken]
      exact ⟨_, hclaim, rfl⟩
    · refine hnoted.distinct.imp_of_mem fun {a b} ha hb hne hkey => hne ?_
      obtain ⟨token, -, htoken, -⟩ := hnoted.owned a ha
      obtain ⟨token', -, htoken', -⟩ := hnoted.owned b hb
      rw [claimKeyOf_event htoken, claimKeyOf_event htoken', eventClaimKey_inj] at hkey
      rw [htoken, htoken', hkey]
  · exact ⟨nofun, nofun, List.Pairwise.nil⟩

end Refreshes

/-- An episode that begins adds a notification of a claim of its own. -/
theorem Transitions.pending_append {type bodyKey : String} {active : Bool} {c c' : Composed}
    (h : Transitions type bodyKey active now c c') (hpending : Pending c.1 c.2)
    (hother : ∀ n ∈ c.2, claimKeyOf n ≠ episodeClaimKey type now) : Pending c'.1 c'.2 := by
  have hkept : ∀ n ∈ c.2, ∃ claim, c'.1.claims.lookup (claimKeyOf n) = some claim ∧
      claim.disposition = .claimed := by
    intro n hn
    obtain ⟨claim, hclaim, hdisposition⟩ := hpending.claimed n hn
    rcases h.anew (claimKeyOf n) with hsame | ⟨-, -, hkey⟩
    · exact ⟨claim, hsame.trans hclaim, hdisposition⟩
    · exact absurd hkey (hother n hn)
  rcases h.pending with hsame | ⟨-, -, hadded⟩
  · rw [hsame]
    exact ⟨hkept, hpending.distinct⟩
  · rw [hadded]
    refine ⟨fun n hn => ?_, List.pairwise_append.2 ⟨hpending.distinct, List.pairwise_singleton _ _,
      fun n hn n' hn' hkey => ?_⟩⟩
    · rcases List.mem_append.1 hn with hn | hn
      · exact hkept n hn
      · obtain rfl := List.mem_singleton.1 hn
        rw [claimKeyOf_episode]
        rcases h.owned with hsame | hclaim
        · rw [hadded] at hsame
          have hlength := congrArg List.length hsame
          rw [List.length_append, List.length_singleton] at hlength
          omega
        · exact ⟨_, hclaim, rfl⟩
    · obtain rfl := List.mem_singleton.1 hn'
      rw [claimKeyOf_episode] at hkey
      exact hother n hn hkey

/-- The notifications of a refresh are of claims of their own. -/
theorem Refreshes.pending_claimed (h : Refreshes status history now order state noted mid c) :
    Pending c.1 c.2 := by
  obtain ⟨hevents, hnoted⟩ := h.noted_pending
  have hother : ∀ n ∈ noted.2, ∀ type, claimKeyOf n ≠ episodeClaimKey type now := by
    intro n hn type
    obtain ⟨token, htoken⟩ := hevents n hn
    rw [htoken]
    exact eventClaimKey_ne token type now
  refine h.eventSourceDegraded.pending_append
    (h.daemonFailed.pending_append hnoted fun n hn => hother n hn _) fun n hn => ?_
  rcases h.daemonFailed.pending with hsame | ⟨-, -, hadded⟩
  · exact hother n (hsame ▸ hn) _
  · rw [hadded] at hn
    rcases List.mem_append.1 hn with hn | hn
    · exact hother n hn _
    · rw [List.mem_singleton.1 hn, claimKeyOf_episode]
      intro heq
      unfold episodeClaimKey at heq
      have hlist := congrArg String.toList heq
      simp [String.toList_append] at hlist

/-- **What a call composes** goes on from what it left, where it claims
anew, and what it leaves to schedule is claimed. -/
theorem compose_advances {compose : NotificationMode → NotificationLedgerState → Composed}
    (hk : k.compose = some compose) (mode : NotificationMode) (state : NotificationLedgerState) :
    (k.ClaimsAnew state → (k.pruned state).Advances (compose mode state).1) ∧
      Pending (compose mode state).1 (compose mode state).2 := by
  cases k with
  | setMode mode => cases hk
  | prepareAuthorization => cases hk
  | receiveTrustedRefresh status history now order =>
      obtain rfl := Option.some.inj hk
      obtain ⟨noted, mid, h⟩ := refreshed_refreshes status history now order mode state
      exact ⟨h.advances, h.pending_claimed⟩
  | receiveUnavailable now order =>
      obtain rfl := Option.some.inj hk
      rcases unavailable_cases now order mode state with ⟨hdue, eligible, heq⟩ | ⟨hdue, heq⟩
      · rw [heq]
        refine ⟨fun hanew => ⟨id, id, fun _ h => h, fun key claim hclaim => ?_⟩, fun n hn => ?_, ?_⟩
        · refine ⟨claim, ?_, .refl claim⟩
          rw [OrdMap.lookup_insert, if_neg]
          · exact hclaim
          · rintro rfl
            have hgone := hanew _ (by
              unfold claimKeys
              dsimp only
              rw [if_pos hdue]
              exact List.mem_singleton.2 rfl)
            have hthere : ((CoordinatorCall.receiveUnavailable now order).pruned
                state).claims.contains _ = true := Option.isSome_iff_exists.2 ⟨claim, hclaim⟩
            exact absurd hthere (Bool.not_eq_true _ ▸ hgone)
        · by_cases heligible : eligible = true
          · rw [if_pos heligible] at hn
            rw [List.mem_singleton.1 hn, claimKeyOf_episode, heligible]
            refine ⟨claimed now true, ?_, rfl⟩
            rw [OrdMap.lookup_insert, if_pos rfl]
          · rw [if_neg heligible] at hn
            cases hn
        · by_cases heligible : eligible = true
          · rw [if_pos heligible]
            exact List.pairwise_singleton _ _
          · rw [if_neg heligible]
            exact List.Pairwise.nil
      · rw [heq]
        exact ⟨fun _ => ⟨id, id, fun _ h => h, fun key claim hclaim => ⟨claim, hclaim, .refl claim⟩⟩,
          nofun, List.Pairwise.nil⟩

/-! ## What scheduling disposes of -/

theorem disposed_advances {n : LocalNotification} {pending : List LocalNotification}
    (h : Pending state (n :: pending)) {disposition : NotificationClaimDisposition}
    (hd : disposition = .scheduled ∨ disposition = .failedToSchedule) :
    state.Advances (disposed state n disposition) ∧
      Pending (disposed state n disposition) pending := by
  obtain ⟨claim, hclaim, hclaimed⟩ := h.claimed n List.mem_cons_self
  obtain ⟨hfirst, hrest⟩ := List.pairwise_cons.1 h.distinct
  unfold disposed
  rw [hclaim]
  refine ⟨⟨id, id, fun _ h => h, fun key claim' hclaim' => ?_⟩, fun m hm => ?_, hrest⟩
  · dsimp only
    rw [OrdMap.lookup_insert]
    by_cases hkey : key = claimKeyOf n
    · rw [if_pos hkey]
      rw [hkey, hclaim] at hclaim'
      obtain rfl := Option.some.inj hclaim'
      exact ⟨_, rfl, rfl, Or.inr ⟨hclaimed, hd⟩⟩
    · rw [if_neg hkey]
      exact ⟨claim', hclaim', .refl claim'⟩
  · obtain ⟨claim', hclaim', hclaimed'⟩ := h.claimed m (List.mem_cons_of_mem n hm)
    refine ⟨claim', ?_, hclaimed'⟩
    dsimp only
    rw [OrdMap.lookup_insert, if_neg (hfirst m hm).symm]
    exact hclaim'

end Composed

end App

end Unlinger
