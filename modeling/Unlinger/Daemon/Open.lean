import Unlinger.Daemon.Helpers.Open

/-!
# Opening a corrupt store

A corrupt database is moved away before the recovery is recorded, and
nothing but the record says that it happened. An open that stops between
the two leaves files another open refuses, or a fresh database that tells
nothing; an open that stops before, or gets through, does no harm. What
was found is never lost but for an index, which SQLite may write anew
when the open looks.
-/

namespace Unlinger

namespace DatabaseDirectory

open Transition

variable {κ : Type} {sqlite : SqliteReader κ} {d d₀ : DatabaseDirectory κ} {clock : Nat}

/-! ## The property and its condition -/

/-- **Recovery converges and tells**: the open after the crashes succeeds,
everything that was found is in quarantine and was never lost on the way,
and the store reports a recovery. -/
structure Converges (sqlite : SqliteReader κ) (d₀ : DatabaseDirectory κ) (attempts : List Attempt)
    (clock : Nat) : Prop where
  succeeds : ((attempts.foldl (interrupted sqlite) d₀).openSteps sqlite clock).2 = .ok ()
  quarantined : ∀ c file, d₀.files c = some file → ∃ name files, d₀.quarantines name = none ∧
    ((attempts.foldl (interrupted sqlite) d₀).opened sqlite clock).quarantines name = some files ∧
      files c = some file
  kept : ∀ steps, ∀ x ∈ durable sqlite d₀ (attempts ++ [⟨clock, steps⟩]), Kept d₀ x
  reported : ((attempts.foldl (interrupted sqlite) d₀).opened sqlite
    clock).latestStorageRecovery.isSome = true

/-- An index that is there is not written anew when SQLite looks. -/
def SparesIndex (sqlite : SqliteReader κ) (d : DatabaseDirectory κ) : Prop :=
  ∀ file, d.files .shm = some file → (d.looked sqlite).files .shm = some file

/-- An open that looks spares it. -/
def Sparing (sqlite : SqliteReader κ) (d : DatabaseDirectory κ) (a : Attempt) : Prop :=
  0 < a.steps → d.SparesIndex sqlite

/-- An open does not stop between moving the database away and recording
the recovery: where it starts to move it, it is cut before, or gets
through. The sidecars that move are those that are there after the
look. -/
def Uncut (sqlite : SqliteReader κ) (d : DatabaseDirectory κ) (a : Attempt) : Prop :=
  d.Corrupt sqlite → a.clock < 2 ^ 64 → (d.freeSequence a.clock).isSome = true →
    a.steps < 3 ∨
      a.clock < 2 ^ 63 ∧ 5 + (presentSidecars (d.looked sqlite).files).length ≤ a.steps

/-- An open that does no harm: it spares the index, and it is not cut in
between. -/
def Harmless (sqlite : SqliteReader κ) (d : DatabaseDirectory κ) (a : Attempt) : Prop :=
  d.Sparing sqlite a ∧ d.Uncut sqlite a

/-- The last open does no harm and can get through: where it has to replace
the database, its stamp fits and one of its quarantine names is free. -/
def Replaceable (sqlite : SqliteReader κ) (d : DatabaseDirectory κ) (clock : Nat) : Prop :=
  d.SparesIndex sqlite ∧
    (d.Corrupt sqlite → clock < 2 ^ 63 ∧ (d.freeSequence clock).isSome = true)

/-! ## Runs of opens -/

/-- Where a run can stand: nothing has moved, the recovery is recorded, or
it is lost. -/
def Stands (d₀ d : DatabaseDirectory κ) : Prop := Unmoved d₀ d ∨ d.Recovered ∨ d.Lost

/-- **One open of the corrupt files**: it leaves or replaces them where it
is not cut in between, and else loses the recovery. -/
theorem interrupted_corrupt (hreads : Reads sqlite) (h : d.Corrupt sqlite) (a : Attempt) :
    (d.Uncut sqlite a → Unmoved d (d.interrupted sqlite a) ∨ (d.interrupted sqlite a).Recovered) ∧
    (¬ d.Uncut sqlite a → (d.interrupted sqlite a).Lost) := by
  obtain ⟨clock, steps⟩ := a
  cases steps with
  | zero =>
      rw [interrupted_zero]
      refine ⟨fun _ => Or.inl (Unmoved.refl d), fun hcut => absurd (fun _ _ _ => Or.inl ?_) hcut⟩
      exact Nat.succ_pos 2
  | succ steps =>
      have hlooked : Unmoved d (d.looked sqlite) := Unmoved.looked hreads d
      have hdb : (d.looked sqlite).files .database ≠ none := by
        rw [hlooked.files.database]
        exact h.database
      have hcorrupt := h
      obtain ⟨e, he, hrecoverable⟩ := h
      rw [interrupted_succ, he, stepsAfter_corrupt hrecoverable]
      by_cases hstarts : clock < 2 ^ 64 ∧ (d.freeSequence clock).isSome = true
      · obtain ⟨hclock, hsome⟩ := hstarts
        obtain ⟨sequence, hfree⟩ := Option.isSome_iff_exists.1 hsome
        have hfree' : (d.looked sqlite).freeSequence clock = some sequence := by
          unfold freeSequence at hfree ⊢
          exact hfree
        constructor
        · intro huncut
          rcases huncut hcorrupt hclock hsome with hearly | ⟨hfits, hthrough⟩
          · have hsteps : steps < 2 := Nat.lt_of_succ_lt_succ hearly
            exact Or.inl (hlooked.trans (unmoved_replace hsteps hclock hfree'))
          · refine Or.inr (recovered_replace hdb hfits hfree' ?_)
            simp only at hthrough
            omega
        · intro hcut
          have hlate : 2 ≤ steps := by
            by_contra hearly
            exact hcut fun _ _ _ => Or.inl (by simp only; omega)
          refine lost_replace hdb hclock hfree' hlate fun ⟨hfits, hthrough⟩ => ?_
          exact hcut fun _ _ _ => Or.inr ⟨hfits, by simp only; omega⟩
      · -- the replacement does not start
        have hidle : ¬ (clock < 2 ^ 64 ∧ ((d.looked sqlite).freeSequence clock).isSome = true) := by
          unfold freeSequence at hstarts ⊢
          exact hstarts
        rw [replaceDatabase_idle hidle, List.take_nil, List.foldl_nil]
        constructor
        · exact fun _ => Or.inl hlooked
        · exact fun hcut => absurd (fun _ hclock hsome => absurd ⟨hclock, hsome⟩ hstarts) hcut

theorem Stands.interrupted (hreads : Reads sqlite) (hcreates : Creates sqlite)
    (hcorrupt : d₀.Corrupt sqlite) (h : Stands d₀ d) (a : Attempt) :
    Stands d₀ (d.interrupted sqlite a) := by
  rcases h with hunmoved | hrecovered | hlost
  · obtain ⟨huncut, hcut⟩ := interrupted_corrupt hreads (hcorrupt.touched hreads hunmoved.files) a
    by_cases hu : d.Uncut sqlite a
    · rcases huncut hu with hsame | hrecovered
      · exact Or.inl (hunmoved.trans hsame)
      · exact Or.inr (Or.inl hrecovered)
    · exact Or.inr (Or.inr (hcut hu))
  · exact Or.inr (Or.inl (hrecovered.interrupted hreads hcreates a))
  · exact Or.inr (Or.inr (hlost.interrupted hreads hcreates a))

/-- Wherever a run stands, the steps of the next open lose nothing, if it
spares the index. -/
theorem Stands.legal (hreads : Reads sqlite) (hcreates : Creates sqlite)
    (hcorrupt : d₀.Corrupt sqlite) (h : Stands d₀ d) (hkept : Kept d₀ d)
    (hfound : ∀ c file, d₀.files c = some file → ∃ content, file = .found content)
    (hspares : d.SparesIndex sqlite) (clock : Nat) :
    Along apply (Legal d₀) d (d.openSteps sqlite clock).1 := by
  have hlook : Legal d₀ d (.look (d.looked sqlite).files) := ⟨touched_looked hreads d, hspares⟩
  rcases h with hunmoved | ⟨recoveries, -, hcreated⟩ | hlost
  · have hc := hcorrupt.touched hreads hunmoved.files
    have hdb : (d.looked sqlite).files .database ≠ none := by
      rw [(touched_looked hreads d).database]
      exact hc.database
    obtain ⟨e, he, hrecoverable⟩ := hc
    have hafter : (d.openSteps sqlite clock).1
        = .look (d.looked sqlite).files :: ((d.looked sqlite).replaceDatabase e clock).1 := by
      unfold openSteps
      dsimp only
      rw [he, stepsAfter_corrupt hrecoverable]
      rfl
    rw [hafter]
    exact ⟨hlook, along_replaceDatabase (hkept.step hfound hlook) hdb⟩
  · rw [openSteps_created hreads hcreates hcreated]
    exact ⟨hlook, trivial⟩
  · cases hlost with
    | stranded hdb hleft =>
        obtain ⟨e, he⟩ := openSteps_stranded sqlite clock hdb hleft
        rw [he]
        exact ⟨⟨Touched.refl _, fun _ => id⟩, trivial⟩
    | empty hnone =>
        rw [openSteps_empty hnone]
        exact ⟨⟨Touched.refl _, fun _ => id⟩, hnone, trivial⟩
    | silent hcreated =>
        rw [openSteps_created hreads hcreates hcreated]
        exact ⟨hlook, trivial⟩

/-- Every run stands somewhere. -/
theorem Stands.run (hreads : Reads sqlite) (hcreates : Creates sqlite)
    (hcorrupt : d₀.Corrupt sqlite) (h : Stands d₀ d) (attempts : List Attempt) :
    Stands d₀ (attempts.foldl (DatabaseDirectory.interrupted sqlite) d) := by
  induction attempts generalizing d with
  | nil => exact h
  | cons a attempts ih => exact ih (h.interrupted hreads hcreates hcorrupt a)

/-- **What was found is kept in every run that spares the index.** -/
theorem kept_run (hreads : Reads sqlite) (hcreates : Creates sqlite) (hcorrupt : d₀.Corrupt sqlite)
    (hfound : ∀ c file, d₀.files c = some file → ∃ content, file = .found content)
    {attempts : List Attempt} (h : Stands d₀ d) (hkept : Kept d₀ d)
    (hsparing : Along (interrupted sqlite) (Sparing sqlite) d attempts) :
    Kept d₀ (attempts.foldl (interrupted sqlite) d) := by
  induction attempts generalizing d with
  | nil => exact hkept
  | cons a attempts ih =>
      refine ih (h.interrupted hreads hcreates hcorrupt a) ?_ hsparing.2
      obtain ⟨clock, steps⟩ := a
      cases steps with
      | zero => exact hkept
      | succ steps =>
          have hspares := hsparing.1 (Nat.succ_pos steps)
          have hlegal := h.legal hreads hcreates hcorrupt hkept hfound hspares clock
          exact (hlegal.take (steps + 1)).invariant (fun _ _ hd hstep => hd.step hfound hstep) hkept

/-- Every directory on the way is where some run leads, that looks no more
often. -/
theorem durable_run {attempts : List Attempt} {x : DatabaseDirectory κ}
    (hsparing : Along (interrupted sqlite) (Sparing sqlite) d attempts)
    (hx : x ∈ durable sqlite d attempts) :
    ∃ attempts' : List Attempt, x = attempts'.foldl (interrupted sqlite) d ∧
      Along (interrupted sqlite) (Sparing sqlite) d attempts' := by
  induction attempts generalizing d with
  | nil =>
      obtain rfl := List.mem_singleton.1 hx
      exact ⟨[], rfl, trivial⟩
  | cons a attempts ih =>
      rcases List.mem_append.1 hx with hx | hx
      · obtain ⟨k, hk, rfl⟩ := List.mem_map.1 hx
        have hle : k ≤ a.steps := Nat.le_of_lt_succ (List.mem_range.1 hk)
        exact ⟨[⟨a.clock, k⟩], rfl, fun hpos => hsparing.1 (lt_of_lt_of_le hpos hle), trivial⟩
      · obtain ⟨attempts', rfl, hsparing'⟩ := ih hsparing.2 hx
        exact ⟨a :: attempts', rfl, hsparing.1, hsparing'⟩

/-- **An index written anew is lost**: it is nowhere as it was found. -/
theorem sparesIndex_of_kept (hreads : Reads sqlite) (h : Stands d₀ d)
    (hkept : Kept d₀ (d.looked sqlite)) : d.SparesIndex sqlite := by
  have htouched := touched_looked hreads d
  have hcreated : ∀ {recoveries}, d.Created recoveries → d.SparesIndex sqlite := by
    intro recoveries hcreated file hfile
    rcases hcreated.2 .shm nofun with hnone | hown
    · rw [hnone] at hfile
      cases hfile
    · rw [hown] at hfile
      obtain rfl := Option.some.inj hfile
      rcases htouched .shm with heq | ⟨-, hown'⟩
      · rw [heq, hown]
      · exact hown'
  rcases h with hunmoved | ⟨recoveries, -, hrecovered⟩ | hlost
  · intro file hfile
    rcases htouched .shm with heq | ⟨-, hown⟩
    · rw [heq, hfile]
    · rcases hunmoved.files .shm with horiginal | ⟨-, hold⟩
      · rcases hkept.originals .shm file (horiginal.symm.trans hfile) with hplace | hmoved
        · exact hplace
        · -- the directories there are by now are old, or empty
          obtain ⟨name, files, hnew, hfiles, hin⟩ := hmoved
          rcases hunmoved.quarantines name with hsame | ⟨-, hempty⟩
          · have hthere : d.quarantines name = some files := hfiles
            rw [hsame, hnew] at hthere
            cases hthere
          · obtain rfl := Option.some.inj (hempty.symm.trans hfiles)
            cases hin
      · rw [hold] at hfile
        rw [hown, hfile]
  · exact hcreated hrecovered
  · cases hlost with
    | stranded hdb _ =>
        intro file hfile
        rw [looked_of_none hdb]
        exact hfile
    | empty hnone =>
        intro file hfile
        rw [hnone .shm] at hfile
        cases hfile
    | silent hsilent => exact hcreated hsilent

/-- Where everything is kept on the way, every look spares the index. -/
theorem along_sparing (hreads : Reads sqlite) (hcreates : Creates sqlite)
    (hcorrupt : d₀.Corrupt sqlite) {attempts : List Attempt} (h : Stands d₀ d)
    (hkept : ∀ x ∈ durable sqlite d attempts, Kept d₀ x) :
    Along (interrupted sqlite) (Sparing sqlite) d attempts := by
  induction attempts generalizing d with
  | nil => trivial
  | cons a attempts ih =>
      refine ⟨fun hpos => ?_, ih (h.interrupted hreads hcreates hcorrupt a) fun x hx => ?_⟩
      · refine sparesIndex_of_kept hreads h (hkept _ (List.mem_append_left _ ?_))
        exact List.mem_map.2 ⟨1, List.mem_range.2 (Nat.succ_lt_succ hpos), rfl⟩
      · exact hkept x (List.mem_append_right _ hx)

theorem Lost.run (hreads : Reads sqlite) (hcreates : Creates sqlite) (h : d.Lost)
    (attempts : List Attempt) : (attempts.foldl (DatabaseDirectory.interrupted sqlite) d).Lost := by
  induction attempts generalizing d with
  | nil => exact h
  | cons a attempts ih => exact ih (h.interrupted hreads hcreates a)

/-- Opens that are not cut in between leave the files where they are, or
lead to a recorded recovery; else the recovery is lost. -/
theorem run_outcome (hreads : Reads sqlite) (hcreates : Creates sqlite)
    (hcorrupt : d₀.Corrupt sqlite) (attempts : List Attempt) (h : Unmoved d₀ d ∨ d.Recovered) :
    (Along (interrupted sqlite) (Uncut sqlite) d attempts →
      Unmoved d₀ (attempts.foldl (interrupted sqlite) d) ∨
        (attempts.foldl (interrupted sqlite) d).Recovered) ∧
    (¬ Along (interrupted sqlite) (Uncut sqlite) d attempts →
      (attempts.foldl (interrupted sqlite) d).Lost) := by
  induction attempts generalizing d with
  | nil => exact ⟨fun _ => h, fun hno => absurd trivial hno⟩
  | cons a attempts ih =>
      by_cases hu : d.Uncut sqlite a
      · have hnext : Unmoved d₀ (d.interrupted sqlite a) ∨ (d.interrupted sqlite a).Recovered := by
          rcases h with hunmoved | hrecovered
          · have hc := hcorrupt.touched hreads hunmoved.files
            exact ((interrupted_corrupt hreads hc a).1 hu).imp hunmoved.trans id
          · exact Or.inr (hrecovered.interrupted hreads hcreates a)
        obtain ⟨hgood, hbad⟩ := ih hnext
        exact ⟨fun halong => hgood halong.2, fun hno => hbad fun hrest => hno ⟨hu, hrest⟩⟩
      · refine ⟨fun halong => absurd halong.1 hu, fun _ => Lost.run hreads hcreates ?_ attempts⟩
        rcases h with hunmoved | hrecovered
        · exact (interrupted_corrupt hreads (hcorrupt.touched hreads hunmoved.files) a).2 hu
        · exact absurd (fun hc _ _ => absurd hc (hrecovered.not_corrupt hcreates)) hu

/-! ## The open after the crashes -/

/-- Some recovery of several is the last. -/
theorem latestStorageRecovery_created {recoveries : List StorageRecoveryOccurrence}
    (h : d.Created recoveries) : d.latestStorageRecovery.isSome = true ↔ recoveries ≠ [] := by
  unfold latestStorageRecovery
  rw [h.1]
  induction recoveries using List.reverseRecOn with
  | nil => simp
  | append_singleton recoveries o _ =>
      simp only [List.foldl_append, List.foldl_cons, List.foldl_nil, ne_eq, List.append_eq_nil_iff,
        List.cons_ne_self, and_false, not_false_eq_true, iff_true]
      split
      · rfl
      · split_ifs <;> rfl

/-- An open that nothing cuts and that can get through leaves a recorded
recovery. -/
theorem opened_recovered (hreads : Reads sqlite) (hcreates : Creates sqlite)
    (hcorrupt : d₀.Corrupt sqlite) (h : Unmoved d₀ d ∨ d.Recovered)
    (hthrough : d.Corrupt sqlite → clock < 2 ^ 63 ∧ (d.freeSequence clock).isSome = true) :
    (d.openSteps sqlite clock).2 = .ok () ∧ (d.opened sqlite clock).Recovered := by
  rcases h with hunmoved | hrecovered
  · have hc := hcorrupt.touched hreads hunmoved.files
    obtain ⟨hclock, hsome⟩ := hthrough hc
    obtain ⟨sequence, hfree⟩ := Option.isSome_iff_exists.1 hsome
    have hfree' : (d.looked sqlite).freeSequence clock = some sequence := by
      unfold freeSequence at hfree ⊢
      exact hfree
    have hdb : (d.looked sqlite).files .database ≠ none := by
      rw [(touched_looked hreads d).database]
      exact hc.database
    obtain ⟨e, he, hrecoverable⟩ := hc
    have hsteps : d.openSteps sqlite clock =
        (.look (d.looked sqlite).files :: ((d.looked sqlite).replaceDatabase e clock).1,
          ((d.looked sqlite).replaceDatabase e clock).2) := by
      unfold openSteps
      dsimp only
      rw [he, stepsAfter_corrupt hrecoverable]
      rfl
    rw [opened, hsteps]
    refine ⟨(replaceDatabase_ok (by omega) hfree').2 hclock, ?_⟩
    have hrecovered := recovered_replace (e := e) hdb hclock hfree' (Nat.le_add_left
      (4 + (presentSidecars (d.looked sqlite).files).length)
      ((d.looked sqlite).replaceDatabase e clock).1.length)
    rwa [List.take_of_length_le (Nat.le_add_right _ _)] at hrecovered
  · obtain ⟨recoveries, hne, hcreated⟩ := hrecovered
    rw [opened, openSteps_created hreads hcreates hcreated]
    exact ⟨rfl, recoveries, hne, hcreated.looked hreads⟩

/-- An open of what is lost fails, or tells nothing. -/
theorem opened_lost (hreads : Reads sqlite) (hcreates : Creates sqlite) (h : d.Lost)
    (hok : (d.openSteps sqlite clock).2 = .ok ()) :
    (d.opened sqlite clock).latestStorageRecovery.isSome = false := by
  have hsilent : ∀ x : DatabaseDirectory κ, x.Created [] →
      x.latestStorageRecovery.isSome = false := by
    intro x hx
    rw [← Bool.not_eq_true, latestStorageRecovery_created hx]
    simp
  cases h with
  | stranded hdb hleft =>
      obtain ⟨e, he⟩ := openSteps_stranded sqlite clock hdb hleft
      rw [he] at hok
      cases hok
  | empty hnone =>
      rw [opened, openSteps_empty hnone]
      exact hsilent _ (created_afterInitialize (d := d) hnone)
  | silent hcreated =>
      rw [opened, openSteps_created hreads hcreates hcreated]
      exact hsilent _ (hcreated.looked hreads)

/-- An open of a corrupt database that succeeds had a name free and a stamp
that fits. -/
theorem replaceable_of_ok (hc : d.Corrupt sqlite) (hok : (d.openSteps sqlite clock).2 = .ok ()) :
    clock < 2 ^ 63 ∧ (d.freeSequence clock).isSome = true := by
  obtain ⟨e, he, hrecoverable⟩ := hc
  have hreplaced : ((d.looked sqlite).replaceDatabase e clock).2 = .ok () := by
    unfold openSteps at hok
    dsimp only at hok
    rwa [he, stepsAfter_corrupt hrecoverable] at hok
  have hsame : (d.looked sqlite).freeSequence clock = d.freeSequence clock := by
    unfold freeSequence
    rfl
  by_cases hclock : clock < 2 ^ 64
  · cases hfree : d.freeSequence clock with
    | none =>
        unfold replaceDatabase at hreplaced
        rw [if_pos hclock, hsame, hfree] at hreplaced
        cases hreplaced
    | some sequence => exact ⟨(replaceDatabase_ok hclock (hsame.trans hfree)).1 hreplaced, rfl⟩
  · unfold replaceDatabase at hreplaced
    rw [if_neg hclock] at hreplaced
    cases hreplaced

/-- **Recovery converges and tells exactly when no open is cut between
moving the database and recording that it did**, no look writes an index
anew that was found, and the last open finds a free name and a stamp that
fits where it still has to replace the database. -/
theorem converges_iff {files : Component → Option κ}
    {quarantines : QuarantineName → Option (Files κ)} {attempts : List Attempt}
    (hreads : Reads sqlite) (hcreates : Creates sqlite)
    (hcorrupt : (start files quarantines).Corrupt sqlite) :
    Converges sqlite (start files quarantines) attempts clock ↔
      Along (interrupted sqlite) (Harmless sqlite) (start files quarantines) attempts ∧
        (attempts.foldl (interrupted sqlite) (start files quarantines)).Replaceable sqlite
          clock := by
  have hfound : ∀ c file, (start files quarantines).files c = some file →
      ∃ content, file = .found content := by
    intro c file hc
    obtain ⟨content, -, rfl⟩ := Option.map_eq_some_iff.1 hc
    exact ⟨content, rfl⟩
  have hstart : Stands (start files quarantines) (start files quarantines) :=
    Or.inl (Unmoved.refl _)
  have hkeptStart : Kept (start files quarantines) (start files quarantines) := by
    refine ⟨fun c file hc => Or.inl hc, fun _ _ hn => hn, fun recoveries hcreated => ?_⟩
    obtain ⟨content, heq⟩ := hfound _ _ hcreated
    cases heq
  obtain ⟨hgood, hbad⟩ := run_outcome (d := start files quarantines) hreads hcreates hcorrupt
    attempts (Or.inl (Unmoved.refl _))
  rw [show Harmless sqlite = fun d a => Sparing sqlite d a ∧ Uncut sqlite d a from rfl, along_and]
  constructor
  · intro h
    have hsparing := along_sparing hreads hcreates hcorrupt hstart (h.kept 1)
    obtain ⟨hrun, hlast, -⟩ := along_append.1 hsparing
    refine ⟨⟨hrun, ?_⟩, hlast Nat.one_pos, fun hc => replaceable_of_ok hc h.succeeds⟩
    -- once an open was cut after a move, what follows opens a database that tells nothing
    by_contra hno
    have hsilent := opened_lost hreads hcreates (hbad hno) h.succeeds
    rw [h.reported] at hsilent
    cases hsilent
  · rintro ⟨⟨hrun, huncut⟩, hlast, hthrough⟩
    obtain ⟨hok, hrecovered⟩ := opened_recovered hreads hcreates hcorrupt (hgood huncut) hthrough
    have hstands := hstart.run hreads hcreates hcorrupt attempts
    have hkept := kept_run hreads hcreates hcorrupt hfound hstart hkeptStart hrun
    have hopened : Kept (start files quarantines)
        ((attempts.foldl (interrupted sqlite) (start files quarantines)).opened sqlite clock) :=
      (hstands.legal hreads hcreates hcorrupt hkept hfound hlast clock).invariant
        (fun _ _ hd hstep => hd.step hfound hstep) hkept
    have hsparing : ∀ steps, Along (interrupted sqlite) (Sparing sqlite) (start files quarantines)
        (attempts ++ [⟨clock, steps⟩]) :=
      fun steps => along_append.2 ⟨hrun, fun _ => hlast, trivial⟩
    refine ⟨hok, fun c file hc => ?_, fun steps x hx => ?_, ?_⟩
    · obtain ⟨recoveries, -, hcreated⟩ := hrecovered
      -- a file still in its place would be a found one, and recovery left only created ones there
      rcases hopened.originals c file hc with hplace | hmoved
      · obtain ⟨content, rfl⟩ := hfound c file hc
        exact absurd hplace (hcreated.not_found c content)
      · exact hmoved
    · obtain ⟨attempts', rfl, hsparing'⟩ := durable_run (hsparing steps) hx
      exact kept_run hreads hcreates hcorrupt hfound hstart hkeptStart hsparing'
    · obtain ⟨recoveries, hne, hcreated⟩ := hrecovered
      exact (latestStorageRecovery_created hcreated).2 hne

/-! ## A sample -/

/-- A SQLite to which every file that was found is no database. It makes an
index, or makes it anew, where there is a log. -/
def sampleReader : SqliteReader Unit where
  inspect files :=
    (match files .database with
      | some (.created _) => .ok ()
      | _ => .error (.sqlite .notADatabase),
      fun c => if c = .shm ∧ (files .wal).isSome then some .own else files c)
  versioned _ := true

/-- A database with its log, and no quarantine directory. -/
def sampleFound : DatabaseDirectory Unit :=
  start (fun c => if c = .database ∨ c = .wal then some () else none) fun _ => none

theorem sampleReader_reads : Reads sampleReader where
  touches := by
    intro files c
    by_cases hc : c = .shm ∧ (files .wal).isSome
    · exact Or.inr ⟨Or.inl hc.1, if_pos hc⟩
    · exact Or.inl (if_neg hc)
  verdict := by
    intro files left htouched
    simp only [sampleReader, htouched.database]

theorem sampleReader_creates : Creates sampleReader := by
  intro files recoveries hcreated _
  simp [sampleReader, hcreated]

theorem sampleFound_corrupt : sampleFound.Corrupt sampleReader := ⟨.sqlite .notADatabase, rfl, rfl⟩

theorem freeSequence_isSome (h : d.quarantines = fun _ => none) :
    (d.freeSequence clock).isSome = true := by
  unfold freeSequence
  rw [List.find?_isSome]
  exact ⟨0, by simp, by rw [h]; rfl⟩

/-- The database was renamed, the log was not, and the daemon crashed: no
later open succeeds. -/
theorem crash_strands_log : ¬ ∀ (sqlite : SqliteReader Unit) (files : Component → Option Unit)
    (quarantines : QuarantineName → Option (Files Unit)) (attempts : List Attempt) (clock : Nat),
    Reads sqlite → Creates sqlite → (start files quarantines).Corrupt sqlite →
      Converges sqlite (start files quarantines) attempts clock := by
  intro hall
  have hconverges : Converges sampleReader sampleFound [⟨1, 3⟩] 2 :=
    hall sampleReader _ _ [⟨1, 3⟩] 2 sampleReader_reads sampleReader_creates sampleFound_corrupt
  have hcut : ¬ sampleFound.Uncut sampleReader ⟨1, 3⟩ := by
    intro huncut
    have hfree : (sampleFound.freeSequence 1).isSome = true := freeSequence_isSome rfl
    rcases huncut sampleFound_corrupt (by decide) hfree with hearly | ⟨-, hthrough⟩
    · exact absurd hearly (by decide)
    · exact absurd hthrough (by decide)
  have hlost := (interrupted_corrupt sampleReader_reads sampleFound_corrupt ⟨1, 3⟩).2 hcut
  have hsilent := opened_lost sampleReader_reads sampleReader_creates hlost hconverges.succeeds
  have hreported := hconverges.reported
  rw [List.foldl_cons, List.foldl_nil] at hreported
  rw [hreported] at hsilent
  cases hsilent

/-- A crash behind the look does no harm: the next open moves the index too
that SQLite has made by then. -/
theorem converges_iff_sample : sampleFound.Corrupt sampleReader ∧
    (presentSidecars (sampleFound.interrupted sampleReader ⟨1, 1⟩).files).length = 2 ∧
    Converges sampleReader sampleFound [⟨1, 1⟩] 2 := by
  have hharmless : sampleFound.Harmless sampleReader ⟨1, 1⟩ := by
    refine ⟨fun _ file hfile => ?_, fun _ _ _ => Or.inl (by decide)⟩
    have hnone : sampleFound.files .shm = none := rfl
    rw [hnone] at hfile
    cases hfile
  have hthrough :
      ([⟨1, 1⟩].foldl (interrupted sampleReader) sampleFound).Replaceable sampleReader 2 :=
    ⟨fun file hfile => hfile, fun _ => ⟨by decide, freeSequence_isSome rfl⟩⟩
  exact ⟨sampleFound_corrupt, by decide,
    (converges_iff sampleReader_reads sampleReader_creates sampleFound_corrupt).2
      ⟨⟨hharmless, trivial⟩, hthrough⟩⟩

end DatabaseDirectory

end Unlinger
