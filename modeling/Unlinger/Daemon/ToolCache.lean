import Unlinger.Daemon.Helpers.Journal
import Unlinger.Daemon.Helpers.Store
import Unlinger.Daemon.Model.ToolCache

/-!
# Uncertain maintenance stays uncertain

Over every run of the two cache ledgers: an attempt is open exactly while
its outcome is running, the one test of openness being as good as the
other; a handle settles the attempt it was given for and no other; and
what was recovered as unknown stays so until the next attempt begins.
-/

namespace Unlinger

open Interaction

/-- The token of an open attempt. -/
def openToken (row : Option CacheRow) : Option NamespaceToken := row.bind CacheRow.attemptToken

/-- The attempt on record. -/
def lastAttempt (row : Option CacheRow) : Option CacheAttempt := row.bind CacheRow.attempt

/-! ## What the calls do -/

theorem recordObservation_ok {label : String} {row : Option CacheRow} {now : Nat}
    {availability : ToolCacheAvailability} {row' : CacheRow} :
    recordObservation label row now availability = .ok row' ↔
      now < 2 ^ 63 ∧ row' = ⟨now, availability, openToken row, lastAttempt row⟩ := by
  simp only [recordObservation, bind_eq_ok, sqliteMillis_eq_ok]
  cases row with
  | none =>
      simp only [pure_eq_ok, openToken, lastAttempt, Option.bind_none]
      constructor
      · rintro ⟨observed, ⟨hlt, rfl⟩, rfl⟩
        exact ⟨hlt, rfl⟩
      · rintro ⟨hlt, rfl⟩
        exact ⟨now, ⟨hlt, rfl⟩, rfl⟩
  | some row =>
      simp only [pure_eq_ok, openToken, lastAttempt, Option.bind_some]
      constructor
      · rintro ⟨observed, ⟨hlt, rfl⟩, rfl⟩
        exact ⟨hlt, rfl⟩
      · rintro ⟨hlt, rfl⟩
        exact ⟨now, ⟨hlt, rfl⟩, rfl⟩

/-- What a result says does not contradict itself or its attempt. -/
structure CacheAttempt.Settles (result : CacheAttempt) (kind : ToolCacheKind)
    (prepared : PreparedToolCacheAttempt) (completed : Nat) : Prop where
  kind : prepared.kind = kind
  ended : result.outcome ≠ .running ∧ result.outcome ≠ .noOp
  preparedAt : result.preparedAtUnixMillis = prepared.preparedAtUnixMillis
  completedAt : prepared.preparedAtUnixMillis ≤ completed
  counted : result.removedEntryCount.isSome = true ∨ result.removedLogicalBytes.isSome = true →
    result.outcome = .completed

theorem settleAttempt_ok {label refusal : String} {row : Option CacheRow}
    {prepared : PreparedToolCacheAttempt} {result : CacheAttempt} {completed : Nat}
    {availability : ToolCacheAvailability} {row' : CacheRow} :
    settleAttempt label refusal row prepared result completed availability = .ok row' ↔
      openToken row = some prepared.token ∧ completed < 2 ^ 63 ∧
        row' = ⟨completed, availability, none, some result⟩ := by
  simp only [settleAttempt, bind_eq_ok, found_eq_ok, require_eq_ok, recordObservation_ok, openToken,
    lastAttempt, Option.bind_some]
  constructor
  · rintro ⟨old, rfl, -, htoken, hlt, rfl⟩
    exact ⟨htoken, hlt, rfl⟩
  · rintro ⟨htoken, hlt, rfl⟩
    obtain ⟨old, rfl, hold⟩ := Option.bind_eq_some_iff.1 htoken
    exact ⟨old, rfl, (), hold, hlt, rfl⟩

namespace CacheSystem

variable {s s' : CacheSystem} {kind : ToolCacheKind} {a : CacheStep} {steps : List CacheStep}
  {now : Nat} {fresh : NamespaceToken} {row' : CacheRow} {prepared : PreparedToolCacheAttempt}
  {result : CacheAttempt} {availability : ToolCacheAvailability}

theorem observe_ok : s.observe kind now availability = .ok row' ↔
    now < 2 ^ 63 ∧ row' = ⟨now, availability, openToken (s.row kind), lastAttempt (s.row kind)⟩ := by
  cases kind with
  | uvCache => exact recordObservation_ok
  | nodeCompileCache => exact recordObservation_ok

/-- A completion settles the attempt of its handle's token. -/
theorem complete_ok (h : s.complete kind prepared result availability = .ok row') :
    ∃ completed, result.completedAtUnixMillis = some completed ∧
      result.Settles kind prepared completed ∧ openToken (s.row kind) = some prepared.token ∧
      completed < 2 ^ 63 ∧ row' = ⟨completed, availability, none, some result⟩ := by
  cases kind with
  | uvCache =>
      simp only [complete, completeToolCacheAttempt, bind_eq_ok, found_eq_ok, require_eq_ok,
        settleAttempt_ok] at h
      obtain ⟨completed, hcompleted, -, hconsistent, hrest⟩ := h
      simp only [toolCacheResultInconsistent, not_or, not_not, not_and, not_lt] at hconsistent
      obtain ⟨hkind, hrunning, hnoOp, hprepared, htime, hcounted, -⟩ := hconsistent
      refine ⟨completed, hcompleted, ⟨hkind, ⟨hrunning, hnoOp⟩, hprepared, htime, fun hsome => ?_⟩,
        hrest⟩
      by_contra hnot
      have hnone := hcounted ⟨hnot, hnoOp⟩
      rcases hsome with hsome | hsome
      · exact hnone.1 hsome
      · exact hnone.2 hsome
  | nodeCompileCache =>
      simp only [complete, completeNodeCompileCacheAttempt, bind_eq_ok, found_eq_ok, require_eq_ok,
        settleAttempt_ok] at h
      obtain ⟨completed, hcompleted, -, hconsistent, hrest⟩ := h
      simp only [nodeCompileCacheResultInconsistent, not_or, not_not, not_and, not_lt] at hconsistent
      obtain ⟨hkind, hrunning, hnoOp, hprepared, htime, hcounted, -⟩ := hconsistent
      refine ⟨completed, hcompleted, ⟨hkind, ⟨hrunning, hnoOp⟩, hprepared, htime, fun hsome => ?_⟩,
        hrest⟩
      by_contra hnot
      have hnone := hcounted hnot
      rcases hsome with hsome | hsome
      · exact hnone.1 hsome
      · exact hnone.2 hsome

/-! ## The invariant -/

/-- A row is open exactly while its attempt is running, the token of an
open one is a handle's, and only a completed attempt has counters. -/
structure Sound (s : CacheSystem) : Prop where
  openRunning : ∀ kind row, s.row kind = some row →
    (row.attemptToken.isSome = true ↔ row.running = true)
  handled : ∀ kind token, openToken (s.row kind) = some token →
    ∃ prepared ∈ s.issued, prepared.token = token ∧ prepared.kind = kind
  counted : ∀ kind attempt, lastAttempt (s.row kind) = some attempt →
    attempt.removedEntryCount.isSome = true ∨ attempt.removedLogicalBytes.isSome = true →
    attempt.outcome = .completed

/-- Both tests of openness say that there is a token. -/
theorem Sound.begin_open (h : s.Sound) :
    s.begin kind now fresh = beginAttempt kind
      (match kind with
        | .uvCache => "cache observation"
        | .nodeCompileCache => "node cache observation")
      (match kind with
        | .uvCache => "cache maintenance already prepared"
        | .nodeCompileCache => "node cache maintenance already prepared")
      (openToken (s.row kind)).isSome (s.row kind) now fresh := by
  cases kind with
  | nodeCompileCache =>
      cases hrow : s.row .nodeCompileCache <;>
        simp [begin, beginNodeCompileCacheAttempt, hrow, openToken]
  | uvCache =>
      cases hrow : s.row .uvCache with
      | none => simp [begin, beginToolCacheAttempt, hrow, openToken]
      | some row =>
          have hopen := h.openRunning .uvCache row hrow
          have htest : row.running = row.attemptToken.isSome := by
            cases hrunning : row.running <;> simp_all
          simp [begin, beginToolCacheAttempt, hrow, openToken, htest]

/-- An attempt begins where none is open. -/
theorem Sound.begin_ok (h : s.Sound) :
    s.begin kind now fresh = .ok (row', prepared) ↔
      openToken (s.row kind) = none ∧ now < 2 ^ 63 ∧ prepared = ⟨fresh, now, kind⟩ ∧
        row' = ⟨now, .available, some fresh, some ⟨.running, now, none, none, none⟩⟩ := by
  rw [h.begin_open]
  simp only [beginAttempt, bind_eq_ok, require_eq_ok, recordObservation_ok, pure_eq_ok,
    Prod.mk.injEq, Option.isSome_eq_false_iff, Option.isNone_iff_eq_none]
  constructor
  · rintro ⟨-, hopen, mid, ⟨hlt, rfl⟩, rfl, rfl⟩
    exact ⟨hopen, hlt, rfl, rfl⟩
  · rintro ⟨hopen, hlt, rfl, rfl⟩
    exact ⟨(), hopen, _, ⟨hlt, rfl⟩, rfl, rfl⟩

/-- A recovery ends what was open, as unknown. -/
theorem recover_ok {now : Nat} : s.recover kind now = .ok (some row') ↔
    ∃ row attempt, s.row kind = some row ∧ row.attemptToken.isSome = true ∧
      row.attempt = some attempt ∧ row' = { row with
        attemptToken := none
        attempt := some ⟨.deliveryUnknown, attempt.preparedAtUnixMillis,
          some (max now attempt.preparedAtUnixMillis), none, none⟩ } := by
  unfold recover recoverAttempt
  cases hrow : s.row kind with
  | none => simp
  | some row =>
      simp only [Option.some.injEq, exists_and_left, exists_eq_left']
      by_cases htoken : row.attemptToken = none
      · simp [htoken]
      · rw [if_neg htoken]
        simp only [bind_eq_ok, found_eq_ok, pure_eq_ok, Option.some.injEq,
          Option.isSome_iff_ne_none.2 htoken, true_and]
        exact exists_congr fun attempt => and_congr_right fun _ => eq_comm

/-- What a call did. -/
inductive Change (s : CacheSystem) : CacheStep → CacheSystem → Prop
  | same {a : CacheStep} : Change s a s
  | observe {kind : ToolCacheKind} {now : Nat} {availability : ToolCacheAvailability} :
      Change s (.observe kind now availability)
        (s.put kind ⟨now, availability, openToken (s.row kind), lastAttempt (s.row kind)⟩)
  | begin {kind : ToolCacheKind} {now : Nat} {fresh : NamespaceToken}
      (hclosed : openToken (s.row kind) = none) :
      Change s (.begin kind now fresh)
        { s.put kind ⟨now, .available, some fresh, some ⟨.running, now, none, none, none⟩⟩ with
          issued := ⟨fresh, now, kind⟩ :: s.issued }
  | complete {kind : ToolCacheKind} {prepared : PreparedToolCacheAttempt} {result : CacheAttempt}
      {availability : ToolCacheAvailability} {completed : Nat}
      (hsettles : result.Settles kind prepared completed)
      (hcurrent : openToken (s.row kind) = some prepared.token) :
      Change s (.complete kind prepared result availability)
        (s.put kind ⟨completed, availability, none, some result⟩)
  | recover {kind : ToolCacheKind} {now : Nat} {row : CacheRow} {attempt : CacheAttempt}
      (hopen : openToken (s.row kind) ≠ none) :
      Change s (.recover kind now)
        (s.put kind { row with
          attemptToken := none
          attempt := some ⟨.deliveryUnknown, attempt.preparedAtUnixMillis,
            some (max now attempt.preparedAtUnixMillis), none, none⟩ })

/-- **What a call may do to the ledgers.** -/
theorem Sound.step_change (h : s.Sound) (a : CacheStep) : Change s a (s.step a) := by
  cases a with
  | observe kind now availability =>
      simp only [step]
      split
      · rename_i row hrow
        obtain ⟨-, rfl⟩ := observe_ok.1 hrow
        exact .observe
      · exact .same
  | begin kind now fresh =>
      simp only [step]
      split
      · rename_i row prepared hbegin
        obtain ⟨hclosed, -, rfl, rfl⟩ := h.begin_ok.1 hbegin
        exact .begin hclosed
      · exact .same
  | complete kind prepared result availability =>
      simp only [step]
      split
      · rename_i row hcomplete
        obtain ⟨completed, -, hsettles, hcurrent, -, rfl⟩ := complete_ok hcomplete
        exact .complete hsettles hcurrent
      · exact .same
  | recover kind now =>
      simp only [step]
      split
      · rename_i row hrecover
        obtain ⟨old, attempt, hrow, htoken, -, rfl⟩ := recover_ok.1 hrecover
        refine .recover ?_
        rw [openToken, hrow]
        exact Option.isSome_iff_ne_none.1 htoken
      · exact .same
      · exact .same
  | reopen => exact .same

theorem row_put (s : CacheSystem) (kind other : ToolCacheKind) (row : CacheRow) :
    (s.put kind row).row other = if other = kind then some row else s.row other := rfl

/-- A row is written that is open exactly while it is running. -/
theorem Sound.put (h : s.Sound) {row : CacheRow}
    (hopen : row.attemptToken.isSome = true ↔ row.running = true)
    (hhandled : ∀ token, row.attemptToken = some token →
      ∃ prepared ∈ s.issued, prepared.token = token ∧ prepared.kind = kind)
    (hcounted : ∀ attempt, row.attempt = some attempt →
      attempt.removedEntryCount.isSome = true ∨ attempt.removedLogicalBytes.isSome = true →
      attempt.outcome = .completed) : (s.put kind row).Sound where
  openRunning other row' hrow' := by
    rw [row_put] at hrow'
    split_ifs at hrow' with heq
    · obtain rfl := Option.some.inj hrow'
      exact hopen
    · exact h.openRunning other row' hrow'
  handled other token htoken := by
    rw [row_put] at htoken
    split_ifs at htoken with heq
    · subst heq
      exact hhandled token htoken
    · exact h.handled other token htoken
  counted other attempt hattempt := by
    rw [row_put] at hattempt
    split_ifs at hattempt with heq
    · exact hcounted attempt hattempt
    · exact h.counted other attempt hattempt

/-- What one call keeps. -/
theorem Sound.step (h : s.Sound) (a : CacheStep) : (s.step a).Sound := by
  have hchange := h.step_change a
  generalize s.step a = s' at hchange
  cases hchange with
  | same => exact h
  | @observe kind now availability =>
      refine h.put ?_ ?_ ?_
      · cases hrow : s.row kind with
        | none => simp [openToken, lastAttempt, CacheRow.running]
        | some row => exact h.openRunning kind row hrow
      · exact fun token htoken => h.handled kind token htoken
      · exact fun attempt hattempt => h.counted kind attempt hattempt
  | @begin kind now fresh hclosed =>
      have hlater : (CacheSystem.mk s.row (⟨fresh, now, kind⟩ :: s.issued)).Sound := by
        refine ⟨h.openRunning, fun other token htoken => ?_, h.counted⟩
        obtain ⟨prepared, hmem, hprepared⟩ := h.handled other token htoken
        exact ⟨prepared, List.mem_cons_of_mem _ hmem, hprepared⟩
      refine hlater.put ?_ ?_ ?_
      · simp [CacheRow.running]
      · rintro token htoken
        obtain rfl := Option.some.inj htoken
        exact ⟨⟨fresh, now, kind⟩, by simp, rfl, rfl⟩
      · rintro attempt hattempt hsome
        obtain rfl := Option.some.inj hattempt
        simp at hsome
  | complete hsettles =>
      refine h.put ?_ ?_ ?_
      · simp [CacheRow.running, hsettles.ended.1]
      · rintro token htoken
        cases htoken
      · rintro attempt hattempt hsome
        obtain rfl := Option.some.inj hattempt
        exact hsettles.counted hsome
  | recover =>
      refine h.put ?_ ?_ ?_
      · simp [CacheRow.running]
      · rintro token htoken
        cases htoken
      · rintro attempt hattempt hsome
        obtain rfl := Option.some.inj hattempt
        simp at hsome

theorem start_sound : start.Sound where
  openRunning kind row hrow := by cases hrow
  handled kind token htoken := by cases htoken
  counted kind attempt hattempt := by cases hattempt

theorem Reachable.sound (h : s.Reachable) : s.Sound := by
  obtain ⟨steps, halong, rfl⟩ := h
  exact halong.invariant (fun s a hs _ => hs.step a) start_sound

/-! ## Closed handles -/

/-- The attempt of a handle is not the open one. -/
def Closed (s : CacheSystem) (prepared : PreparedToolCacheAttempt) : Prop :=
  prepared ∈ s.issued ∧ openToken (s.row prepared.kind) ≠ some prepared.token

/-- A handle that is closed stays so: a token is never drawn twice. -/
theorem Closed.step (hs : s.Sound) (h : s.Closed prepared) (hallowed : s.Allowed a) :
    (s.step a).Closed prepared := by
  have hchange := hs.step_change a
  generalize s.step a = s' at hchange
  -- a row with no token, or another's, leaves the handle closed
  have hput : ∀ {kind : ToolCacheKind} {row : CacheRow},
      (prepared.kind = kind → row.attemptToken ≠ some prepared.token) →
      openToken ((s.put kind row).row prepared.kind) ≠ some prepared.token := by
    intro kind row hrow
    rw [row_put]
    split_ifs with heq
    · exact hrow heq
    · exact h.2
  cases hchange with
  | same => exact h
  | observe => exact ⟨h.1, hput fun heq => heq ▸ h.2⟩
  | begin hclosed =>
      refine ⟨List.mem_cons_of_mem _ h.1, hput fun _ heq => ?_⟩
      exact hallowed prepared h.1 (Option.some.inj heq).symm
  | complete => exact ⟨h.1, hput fun _ => by simp⟩
  | recover => exact ⟨h.1, hput fun _ => by simp⟩

/-- A closed handle settles nothing. -/
theorem Closed.refused (h : s.Closed prepared) :
    ∃ e, s.complete kind prepared result availability = .error e := by
  cases hcomplete : s.complete kind prepared result availability with
  | error e => exact ⟨e, rfl⟩
  | ok row =>
      obtain ⟨completed, -, hsettles, htoken, -⟩ := complete_ok hcomplete
      exact absurd (hsettles.kind ▸ htoken) h.2

/-- A row with nothing open keeps its attempt until the next one begins. -/
theorem Sound.settled_step (hs : s.Sound) (hclosed : openToken (s.row kind) = none)
    (hno : ∀ now fresh, a ≠ .begin kind now fresh) :
    openToken ((s.step a).row kind) = none ∧
      lastAttempt ((s.step a).row kind) = lastAttempt (s.row kind) := by
  have hchange := hs.step_change a
  generalize s.step a = s' at hchange
  cases hchange with
  | same => exact ⟨hclosed, rfl⟩
  | @observe other now availability =>
      rw [row_put]
      split_ifs with heq
      · subst heq
        exact ⟨hclosed, rfl⟩
      · exact ⟨hclosed, rfl⟩
  | @begin other now fresh =>
      have hother : kind ≠ other := fun heq => hno now fresh (by rw [heq])
      simp only [row_put, if_neg hother]
      exact ⟨hclosed, trivial⟩
  | @complete other prepared result availability completed hsettles hcurrent =>
      have hother : kind ≠ other := fun heq => by
        rw [← heq, hclosed] at hcurrent
        cases hcurrent
      rw [row_put, if_neg hother]
      exact ⟨hclosed, rfl⟩
  | @recover other now row attempt hopen =>
      have hother : kind ≠ other := fun heq => hopen (heq ▸ hclosed)
      rw [row_put, if_neg hother]
      exact ⟨hclosed, rfl⟩

theorem Sound.settled_run (hs : s.Sound) (hclosed : openToken (s.row kind) = none)
    (hno : ∀ now fresh, .begin kind now fresh ∉ steps) :
    lastAttempt ((steps.foldl CacheSystem.step s).row kind) = lastAttempt (s.row kind) := by
  induction steps generalizing s with
  | nil => rfl
  | cons a steps ih =>
      obtain ⟨hnext, hsame⟩ := hs.settled_step (a := a) hclosed fun now fresh heq =>
        hno now fresh (by simp [heq])
      rw [List.foldl_cons, ih (hs.step a) hnext fun now fresh hmem =>
        hno now fresh (List.mem_cons_of_mem a hmem), hsame]

end CacheSystem

/-! ## What the native side returns -/

/-- A native result that a ledger takes. -/
structure NativeCacheResult.Acceptable (kind : ToolCacheKind) (r : NativeCacheResult) : Prop where
  ended : r.outcome ≠ .running ∧ r.outcome ≠ .noOp
  uncounted : r.outcome ≠ .completed → r.removedEntryCount = none ∧ r.removedLogicalBytes = none
  counted : kind = .nodeCompileCache → r.outcome = .completed →
    r.removedEntryCount ≠ none ∧ r.removedLogicalBytes ≠ none

theorem unsuccessful_acceptable {kind : ToolCacheKind} {outcome : ToolCacheOutcome}
    (h : outcome = .busy ∨ outcome = .failed ∨ outcome = .deliveryUnknown) :
    (NativeCacheResult.unsuccessful outcome).Acceptable kind := by
  rcases h with rfl | rfl | rfl <;>
    exact ⟨by simp [NativeCacheResult.unsuccessful], fun _ => ⟨rfl, rfl⟩,
      fun _ h => by simp [NativeCacheResult.unsuccessful] at h⟩

theorem parseSupervisorResult_acceptable {fromSlice : List UInt8 → Option SupervisorResult}
    {bytes : List UInt8} {r : NativeCacheResult}
    (h : parseSupervisorResult fromSlice bytes = some r) : r.Acceptable .uvCache := by
  unfold parseSupervisorResult at h
  split_ifs at h
  simp only [Option.bind_eq_bind, Option.bind_eq_some_iff] at h
  obtain ⟨parsed, -, h⟩ := h
  split_ifs at h with hcompleted hbusy hfailed
  · split at h
    · obtain rfl := Option.some.inj h
      exact ⟨by simp, by simp, by simp⟩
    · obtain rfl := Option.some.inj h
      exact ⟨by simp, by simp, by simp⟩
    · cases h
  · exact Option.some.inj h ▸ unsuccessful_acceptable (Or.inl rfl)
  · exact Option.some.inj h ▸ unsuccessful_acceptable (Or.inr (Or.inl rfl))

/-- Whatever the child writes and however it ends. -/
theorem waitUvMaintenance_acceptable {fromSlice : List UInt8 → Option SupervisorResult}
    {readable : Bool} {polls : List UvPoll} {output : List UInt8} {r : NativeCacheResult}
    (h : waitUvMaintenance fromSlice readable polls output = some r) : r.Acceptable .uvCache := by
  have hunknown : (NativeCacheResult.unsuccessful .deliveryUnknown).Acceptable .uvCache :=
    unsuccessful_acceptable (Or.inr (Or.inr rfl))
  induction polls generalizing output with
  | nil => cases h
  | cons poll polls ih =>
      unfold waitUvMaintenance at h
      split at h
      · exact Option.some.inj h ▸ hunknown
      · split at h
        · exact Option.some.inj h ▸ hunknown
        · split at h
          · split at h
            · exact Option.some.inj h ▸ hunknown
            · rename_i drained hdrained
              split at h
              · obtain rfl := Option.some.inj h
                cases hparse : parseSupervisorResult fromSlice drained with
                | none => exact hunknown
                | some parsed => exact parseSupervisorResult_acceptable hparse
              · exact Option.some.inj h ▸ hunknown
          · exact Option.some.inj h ▸ hunknown
          · split at h
            · exact Option.some.inj h ▸ hunknown
            · exact ih h

/-- The outcomes of a program are acceptable, whatever it asks. -/
abbrev AcceptableOutcome (_ : Trace NodeAnswer) : Except Empty NativeCacheResult → Prop
  | .ok r => r.Acceptable .nodeCompileCache
  | .error _ => True

/-- A program that stops early with an acceptable result. -/
theorem sat_stop {p : Prop} {_ : Decidable p} {r : NativeCacheResult}
    {rest : Prog NodeAnswer Empty NativeCacheResult} {t : Trace NodeAnswer}
    (hr : r.Acceptable .nodeCompileCache)
    (h : Sat (fun _ _ => True) rest t AcceptableOutcome) :
    Sat (fun _ _ => True) (if p then pure r else rest) t AcceptableOutcome := by
  split_ifs
  · exact hr
  · exact h

theorem removeEach_sat {entries : List CacheEntry} {count bytes : Nat} {t : Trace NodeAnswer} :
    Sat (fun _ _ => True) (removeEach entries count bytes) t AcceptableOutcome := by
  have hfailed : (NativeCacheResult.unsuccessful .failed).Acceptable .nodeCompileCache :=
    unsuccessful_acceptable (Or.inr (Or.inl rfl))
  have hunknown : (NativeCacheResult.unsuccessful .deliveryUnknown).Acceptable .nodeCompileCache :=
    unsuccessful_acceptable (Or.inr (Or.inr rfl))
  induction entries generalizing count bytes t with
  | nil => exact ⟨by simp, by simp, by simp⟩
  | cons entry entries ih =>
      unfold removeEach
      refine Sat.ask trivial fun cancelled => sat_stop hfailed ?_
      refine Sat.ask trivial fun expired => sat_stop hfailed ?_
      refine Sat.ask trivial fun current => sat_stop hfailed ?_
      refine Sat.ask trivial fun opened => sat_stop hfailed ?_
      refine Sat.ask trivial fun held => sat_stop hfailed ?_
      refine Sat.ask trivial fun linked => sat_stop hfailed ?_
      refine Sat.ask trivial fun cancelled => sat_stop hfailed ?_
      exact Sat.ask trivial fun unlinked => sat_stop hunknown ih

/-- Whatever the file system answers. -/
theorem removeFiles_acceptable {entries : List CacheEntry} {es : Trace NodeAnswer}
    {r : NativeCacheResult} (h : Runs (removeFiles entries) es (.ok r)) :
    r.Acceptable .nodeCompileCache := by
  have hbusy : (NativeCacheResult.unsuccessful .busy).Acceptable .nodeCompileCache :=
    unsuccessful_acceptable (Or.inl rfl)
  have hfailed : (NativeCacheResult.unsuccessful .failed).Acceptable .nodeCompileCache :=
    unsuccessful_acceptable (Or.inr (Or.inl rfl))
  have hsat : Sat (fun _ _ => True) (removeFiles entries) [] AcceptableOutcome := by
    unfold removeFiles
    refine Sat.ask trivial fun cancelled => sat_stop hfailed ?_
    refine Sat.ask trivial fun current => sat_stop hfailed ?_
    refine Sat.ask trivial fun scanned => ?_
    cases scanned with
    | error e =>
        cases e with
        | busy => exact hbusy
        | unsafeShape => exact hfailed
        | io => exact hfailed
    | ok listed => exact sat_stop hbusy removeEach_sat
  exact (hsat.sound h).2

namespace CacheSystem

variable {s : CacheSystem} {kind : ToolCacheKind} {prepared : PreparedToolCacheAttempt}
  {availability : ToolCacheAvailability}

/-- The completion of an open attempt with an acceptable result. -/
theorem complete_accepts {r : NativeCacheResult} {completed : Nat} (hr : r.Acceptable kind)
    (hkind : prepared.kind = kind) (hopen : openToken (s.row kind) = some prepared.token)
    (hcompleted : prepared.preparedAtUnixMillis ≤ completed) (hrange : completed < 2 ^ 63) :
    ∃ row', s.complete kind prepared (r.settles prepared.preparedAtUnixMillis completed)
      availability = .ok row' := by
  have huncounted : ¬ r.outcome = .completed → ¬ r.removedEntryCount.isSome = true ∧
      ¬ r.removedLogicalBytes.isSome = true := by
    intro hnot
    obtain ⟨hcount, hbytes⟩ := hr.uncounted hnot
    simp [hcount, hbytes]
  refine ⟨⟨completed, availability, none,
    some (r.settles prepared.preparedAtUnixMillis completed)⟩, ?_⟩
  cases kind with
  | uvCache =>
      simp only [complete, completeToolCacheAttempt, bind_eq_ok, found_eq_ok, require_eq_ok,
        settleAttempt_ok]
      refine ⟨completed, rfl, (), ?_, hopen, hrange, rfl⟩
      simp only [toolCacheResultInconsistent, NativeCacheResult.settles, not_or, not_not, not_and,
        not_lt]
      exact ⟨hkind, hr.ended.1, hr.ended.2, trivial, hcompleted, fun hnot => huncounted hnot.1,
        fun hnoOp => absurd hnoOp hr.ended.2⟩
  | nodeCompileCache =>
      simp only [complete, completeNodeCompileCacheAttempt, bind_eq_ok, found_eq_ok, require_eq_ok,
        settleAttempt_ok]
      refine ⟨completed, rfl, (), ?_, hopen, hrange, rfl⟩
      simp only [nodeCompileCacheResultInconsistent, NativeCacheResult.settles, not_or, not_not,
        not_and, not_lt]
      exact ⟨hkind, hr.ended.1, hr.ended.2, trivial, hcompleted, huncounted,
        fun hdone => hr.counted rfl hdone⟩

/-! ## The whole run -/

/-- **Uncertainty never becomes success.** In every run of a ledger, the
tokens drawn being distinct: its attempt is open exactly while its outcome
is running, and no other begins meanwhile; only a completed attempt has
counters; an observation leaves the attempt alone. A completion is taken
for the open attempt's own handle only and writes the result with its
observation; once a recovery or a newer attempt has closed a handle, no
completion with it is taken ever after. A recovered attempt is of unknown
delivery without counters, and stays so until the next one begins. What
the native side returns is taken at every time from the preparation on
that the database can hold. -/
theorem cache_ledgers_honest (h : s.Reachable) (kind : ToolCacheKind) :
    (∀ row, s.row kind = some row → (row.attemptToken.isSome = true ↔ row.running = true)) ∧
    (∀ row, s.row kind = some row → row.running = true → ∀ now fresh,
      (∃ e, s.begin kind now fresh = .error e) ∧ s.step (.begin kind now fresh) = s) ∧
    (∀ attempt, lastAttempt (s.row kind) = some attempt →
      attempt.removedEntryCount.isSome = true ∨ attempt.removedLogicalBytes.isSome = true →
      attempt.outcome = .completed) ∧
    (∀ now availability, openToken ((s.step (.observe kind now availability)).row kind) =
        openToken (s.row kind) ∧
      lastAttempt ((s.step (.observe kind now availability)).row kind) = lastAttempt (s.row kind)) ∧
    (∀ prepared result availability,
      s.step (.complete kind prepared result availability) = s ∨
        prepared.kind = kind ∧ openToken (s.row kind) = some prepared.token ∧
        ∃ completed, result.completedAtUnixMillis = some completed ∧
          s.step (.complete kind prepared result availability) =
            s.put kind ⟨completed, availability, none, some result⟩) ∧
    (∀ prepared ∈ s.issued, prepared.kind = kind →
      (∀ now row', s.recover kind now = .ok (some row') →
        (s.step (.recover kind now)).Closed prepared) ∧
      (∀ now fresh row' other, s.Allowed (.begin kind now fresh) →
        s.begin kind now fresh = .ok (row', other) →
        (s.step (.begin kind now fresh)).Closed prepared) ∧
      (s.Closed prepared → ∀ steps, Transition.Along step Allowed s steps →
        ∀ result availability, ∃ e,
          (steps.foldl step s).complete kind prepared result availability = .error e)) ∧
    (∀ now row', s.recover kind now = .ok (some row') → ∃ attempt,
      lastAttempt (s.row kind) = some attempt ∧ row'.attempt = some ⟨.deliveryUnknown,
        attempt.preparedAtUnixMillis, some (max now attempt.preparedAtUnixMillis), none, none⟩ ∧
      ∀ steps : List CacheStep, (∀ now fresh, .begin kind now fresh ∉ steps) →
        lastAttempt ((steps.foldl step (s.step (.recover kind now))).row kind) = row'.attempt) ∧
    ∀ prepared, prepared.kind = kind → openToken (s.row kind) = some prepared.token →
      ∀ completed availability, prepared.preparedAtUnixMillis ≤ completed → completed < 2 ^ 63 →
        ∀ r : NativeCacheResult,
          (kind = .uvCache ∧ (∃ fromSlice readable polls output,
              waitUvMaintenance fromSlice readable polls output = some r) ∨
            kind = .nodeCompileCache ∧ ∃ entries es, Runs (removeFiles entries) es (.ok r)) →
          ∃ row', s.complete kind prepared (r.settles prepared.preparedAtUnixMillis completed)
            availability = .ok row' := by
  have hs := h.sound
  refine ⟨hs.openRunning kind, ?_, hs.counted kind, ?_, ?_, ?_, ?_, ?_⟩
  · -- while an attempt runs its token is set, and a token that is set begins no other
    intro row hrow hrunning now fresh
    have hopen : openToken (s.row kind) ≠ none := by
      rw [openToken, hrow]
      exact Option.isSome_iff_ne_none.1 ((hs.openRunning kind row hrow).2 hrunning)
    cases hbegin : s.begin kind now fresh with
    | error e => exact ⟨⟨e, rfl⟩, by simp only [step, hbegin]⟩
    | ok begun => exact absurd (hs.begin_ok.1 hbegin).1 hopen
  · intro now availability
    simp only [step]
    split
    · rename_i row hrow
      obtain ⟨-, rfl⟩ := observe_ok.1 hrow
      rw [row_put, if_pos rfl]
      exact ⟨rfl, rfl⟩
    · exact ⟨rfl, rfl⟩
  · intro prepared result availability
    simp only [step]
    split
    · rename_i row hcomplete
      obtain ⟨completed, htime, hsettles, hcurrent, -, rfl⟩ := complete_ok hcomplete
      exact Or.inr ⟨hsettles.kind, hcurrent, completed, htime, rfl⟩
    · exact Or.inl rfl
  · -- a handle is closed by a recovery, by the next attempt, and by nothing reopened
    intro prepared hissued hkind
    subst hkind
    refine ⟨fun now row' hrecover => ⟨?_, ?_⟩, fun now fresh row' other hallowed hbegin => ⟨?_, ?_⟩,
      fun hclosed steps halong result availability => ?_⟩
    · simp only [step, hrecover]
      exact hissued
    · obtain ⟨row, attempt, -, -, -, rfl⟩ := recover_ok.1 hrecover
      simp only [step, hrecover, row_put, if_true]
      simp [openToken]
    · simp only [step, hbegin]
      exact List.mem_cons_of_mem _ hissued
    · obtain ⟨-, -, -, rfl⟩ := hs.begin_ok.1 hbegin
      simp only [step, hbegin, row_put, if_true]
      intro heq
      exact hallowed prepared hissued (Option.some.inj heq).symm
    · -- closed handles stay closed: the invariant goes along the later steps
      have hlater : (steps.foldl step s).Sound ∧ (steps.foldl step s).Closed prepared :=
        halong.invariant (P := fun s => s.Sound ∧ s.Closed prepared)
          (fun s a hboth hallowed => ⟨hboth.1.step a, hboth.2.step hboth.1 hallowed⟩) ⟨hs, hclosed⟩
      exact hlater.2.refused
  · intro now row' hrecover
    obtain ⟨row, attempt, hrow, htoken, hattempt, rfl⟩ := recover_ok.1 hrecover
    refine ⟨attempt, by rw [lastAttempt, hrow]; exact hattempt, rfl, fun steps hno => ?_⟩
    have hrowAfter : (s.step (.recover kind now)).row kind = some { row with
        attemptToken := none
        attempt := some ⟨.deliveryUnknown, attempt.preparedAtUnixMillis,
          some (max now attempt.preparedAtUnixMillis), none, none⟩ } := by
      simp only [step, hrecover, row_put, if_true]
    rw [(hs.step (.recover kind now)).settled_run (by rw [hrowAfter]; rfl) hno, hrowAfter]
    rfl
  · intro prepared hkind hopen completed availability hcompleted hrange r hr
    refine complete_accepts ?_ hkind hopen hcompleted hrange
    rcases hr with ⟨rfl, fromSlice, readable, polls, output, hwait⟩ | ⟨rfl, entries, es, hruns⟩
    · exact waitUvMaintenance_acceptable hwait
    · exact removeFiles_acceptable hruns

/-- The handle of an attempt on the uv cache. -/
def sampleHandle : PreparedToolCacheAttempt := ⟨Store.sampleToken, 5, .uvCache⟩

/-- One attempt on the uv cache is open. -/
def begun : CacheSystem := start.step (.begin .uvCache 5 Store.sampleToken)

theorem begun_reachable : begun.Reachable :=
  ⟨[.begin .uvCache 5 Store.sampleToken], ⟨fun prepared hmem => (by cases hmem), trivial⟩, rfl⟩

/-- The attempt is recovered, and its caller comes too late. -/
theorem cache_ledgers_honest_late :
    openToken (begun.row .uvCache) = some sampleHandle.token ∧
    (∃ row', begun.recover .uvCache 9 = .ok (some row') ∧
      row'.attempt = some ⟨.deliveryUnknown, 5, some 9, none, none⟩) ∧
    ∀ result availability, ∃ e, (begun.step (.recover .uvCache 9)).complete .uvCache sampleHandle
      result availability = .error e := by
  have hrecover : begun.recover .uvCache 9 = .ok (some ⟨5, .available, none,
      some ⟨.deliveryUnknown, 5, some 9, none, none⟩⟩) := by decide
  have hreachable : (begun.step (.recover .uvCache 9)).Reachable :=
    ⟨[.begin .uvCache 5 Store.sampleToken, .recover .uvCache 9],
      ⟨fun prepared hmem => (by cases hmem), trivial, trivial⟩, rfl⟩
  have hissued : sampleHandle ∈ begun.issued := by decide
  refine ⟨by decide, ⟨_, hrecover, rfl⟩, fun result availability => ?_⟩
  have hclosed := ((cache_ledgers_honest begun_reachable .uvCache).2.2.2.2.2.1 sampleHandle hissued
    rfl).1 9 _ hrecover
  exact ((cache_ledgers_honest hreachable .uvCache).2.2.2.2.2.1 sampleHandle hclosed.1 rfl).2.2
    hclosed [] trivial result availability

/-- A completion at a time the database cannot hold is refused, though it
is later than the preparation. -/
theorem completion_past_database_refused :
    ¬ ∀ s : CacheSystem, s.Reachable → ∀ kind prepared, prepared.kind = kind →
      openToken (s.row kind) = some prepared.token →
      ∀ completed availability, prepared.preparedAtUnixMillis ≤ completed → completed < 2 ^ 64 →
        ∀ r : NativeCacheResult,
          (kind = .uvCache ∧ (∃ fromSlice readable polls output,
              waitUvMaintenance fromSlice readable polls output = some r) ∨
            kind = .nodeCompileCache ∧ ∃ entries es, Runs (removeFiles entries) es (.ok r)) →
          ∃ row', s.complete kind prepared (r.settles prepared.preparedAtUnixMillis completed)
            availability = .ok row' := by
  intro h
  -- the supervisor's pipe is gone, and the clock stands beyond `i64`
  have hwait : waitUvMaintenance (fun _ => none) false [⟨[], .running, [], false⟩] [] =
      some (.unsuccessful .deliveryUnknown) := rfl
  obtain ⟨row', hcomplete⟩ := h begun begun_reachable .uvCache sampleHandle rfl (by decide) (2 ^ 63)
    .available (by decide) (by decide) (.unsuccessful .deliveryUnknown)
    (Or.inl ⟨rfl, _, _, _, _, hwait⟩)
  obtain ⟨completed, htime, -, -, hlt, -⟩ := complete_ok hcomplete
  obtain rfl := Option.some.inj htime
  exact absurd hlt (by decide)

end CacheSystem

end Unlinger
