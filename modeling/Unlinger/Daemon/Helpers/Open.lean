import Mathlib.Data.List.Nodup
import Unlinger.Common.Transition
import Unlinger.Daemon.Model.Open

/-!
# The steps of an open

What SQLite may do to the files it looks at, what the steps of an open
keep, and where one leads that was cut: nothing has moved by then, or the
recovery is recorded, or the database is gone and nothing says so.
-/

namespace Unlinger

namespace DatabaseDirectory

open Transition

variable {κ : Type} {sqlite : SqliteReader κ} {d d₀ : DatabaseDirectory κ} {clock : Nat}
  {name : QuarantineName} {c : Component} {e : OpenError}

/-! ## Runs -/

/-- The directory as it was found. -/
def start (files : Component → Option κ) (quarantines : QuarantineName → Option (Files κ)) :
    DatabaseDirectory κ :=
  ⟨fun c => (files c).map .found, quarantines⟩

/-- An open at a time, cut after so many durable steps. -/
structure Attempt where
  clock : Nat
  steps : Nat

/-- The directory a crash leaves. -/
def interrupted (sqlite : SqliteReader κ) (d : DatabaseDirectory κ) (a : Attempt) :
    DatabaseDirectory κ :=
  ((d.openSteps sqlite a.clock).1.take a.steps).foldl apply d

/-- Every directory there was on the way. -/
def durable (sqlite : SqliteReader κ) :
    DatabaseDirectory κ → List Attempt → List (DatabaseDirectory κ)
  | d, [] => [d]
  | d, a :: attempts =>
      ((List.range (a.steps + 1)).map fun k => d.interrupted sqlite ⟨a.clock, k⟩)
        ++ durable sqlite (d.interrupted sqlite a) attempts

/-- The database is one that is replaced. -/
def Corrupt (sqlite : SqliteReader κ) (d : DatabaseDirectory κ) : Prop :=
  ∃ e, (preflightStoreFile sqlite d.files).1 = .error e ∧ isRecoverableCorruption e = true

/-! ## What is known of SQLite -/

/-- What a connection that only reads may do to the files: make an index,
or write the one that is there anew, and make a log where there is none. -/
def Touched (files left : Files κ) : Prop :=
  ∀ c, left c = files c ∨ (c = .shm ∨ c = .wal ∧ files c = none) ∧ left c = some .own

/-- It does no more, and what it made says nothing: an index is made from
the log, and an empty log is like none. -/
structure Reads (sqlite : SqliteReader κ) : Prop where
  touches : ∀ files, Touched files (sqlite.inspect files).2
  verdict : ∀ files left, Touched files left → (sqlite.inspect left).1 = (sqlite.inspect files).1

/-- SQLite finds nothing wrong with a database created here that has no
sidecars but its own. -/
def Creates (sqlite : SqliteReader κ) : Prop :=
  ∀ (files : Files κ) recoveries, files .database = some (.created recoveries) →
    (∀ c, c ≠ .database → files c = none ∨ files c = some .own) →
    (sqlite.inspect files).1 = .ok () ∧ sqlite.versioned files = true

section Touched

variable {files left left' : Files κ}

theorem Touched.refl (files : Files κ) : Touched files files := fun _ => Or.inl rfl

theorem Touched.trans (h : Touched files left) (h' : Touched left left') : Touched files left' := by
  intro c
  rcases h' c with heq | ⟨hc, hown⟩
  · rw [heq]
    exact h c
  · refine Or.inr ⟨hc.imp id fun ⟨hwal, hnone⟩ => ⟨hwal, ?_⟩, hown⟩
    rcases h c with heq | ⟨-, hsome⟩
    · rw [← heq, hnone]
    · rw [hsome] at hnone
      cases hnone

theorem Touched.database (h : Touched files left) : left .database = files .database := by
  rcases h .database with heq | ⟨hc | ⟨hc, -⟩, -⟩
  · exact heq
  · cases hc
  · cases hc

/-- A file that was found and is there was there. -/
theorem Touched.found (h : Touched files left) {content : κ} (hc : left c = some (.found content)) :
    files c = some (.found content) := by
  rcases h c with heq | ⟨-, hown⟩
  · rw [← heq, hc]
  · rw [hown] at hc
    cases hc

/-- Where the index is spared, everything is. -/
theorem Touched.spared (h : Touched files left)
    (hspares : ∀ file, files .shm = some file → left .shm = some file) {file : File κ}
    (hc : files c = some file) : left c = some file := by
  rcases h c with heq | ⟨rfl | ⟨-, hnone⟩, -⟩
  · rw [heq, hc]
  · exact hspares file hc
  · rw [hnone] at hc
    cases hc

end Touched

/-! ## Steps that lose nothing -/

/-- Nothing that was found is lost, overwritten, or beside a fresh
database. -/
structure Kept (d₀ d : DatabaseDirectory κ) : Prop where
  /-- It is where it was, or in a directory the run made. -/
  originals : ∀ c file, d₀.files c = some file → d.files c = some file ∨
    ∃ name files, d₀.quarantines name = none ∧ d.quarantines name = some files ∧
      files c = some file
  quarantines : ∀ name files, d₀.quarantines name = some files → d.quarantines name = some files
  unpaired : ∀ recoveries, d.files .database = some (.created recoveries) →
    ∀ c content, d.files c ≠ some (.found content)

/-- A database created here has no sidecars but its own. -/
def Created (d : DatabaseDirectory κ) (recoveries : List StorageRecoveryOccurrence) : Prop :=
  d.files .database = some (.created recoveries) ∧
    ∀ c, c ≠ .database → d.files c = none ∨ d.files c = some .own

theorem Created.not_found {recoveries : List StorageRecoveryOccurrence} (h : d.Created recoveries)
    (c : Component) (content : κ) : d.files c ≠ some (.found content) := by
  intro hfound
  by_cases hc : c = .database
  · rw [hc, h.1] at hfound
    cases hfound
  · rcases h.2 c hc with hnone | hown
    · rw [hnone] at hfound
      cases hfound
    · rw [hown] at hfound
      cases hfound

/-- A database that is created where nothing stands. -/
theorem created_afterInitialize (h : ∀ c, d.files c = none) :
    (d.apply .initializeStoreFile).Created [] := by
  refine ⟨rfl, fun c hc => ?_⟩
  cases c with
  | database => exact absurd rfl hc
  | wal => exact Or.inr rfl
  | shm => exact Or.inr rfl
  | journal => exact Or.inl (h .journal)

/-- What a step wants: a look makes no more of the sidecars than SQLite
does and spares the index, a new directory is not there, a file moves into
a place that is free in a directory that is new, a database is created
where nothing stands, and a recovery recorded in one that was created. -/
def Legal (d₀ d : DatabaseDirectory κ) : DurableStep κ → Prop
  | .look left => Touched d.files left ∧ ∀ file, d.files .shm = some file → left .shm = some file
  | .createDirectory name => d.quarantines name = none
  | .rename c name => d₀.quarantines name = none ∧
      ∃ files, d.quarantines name = some files ∧ files c = none
  | .initializeStoreFile => ∀ c, d.files c = none
  | .persistStorageRecovery _ => ∃ recoveries, d.Created recoveries

/-- A directory like another, but for files that moved away or were written
by SQLite, keeps the originals in their new places. -/
theorem Kept.moved {d' : DatabaseDirectory κ} (h : Kept d₀ d)
    (hfiles : ∀ c file, d₀.files c = some file → d.files c ≠ some file)
    (hquarantines : d'.quarantines = d.quarantines)
    (hcreated : ∃ recoveries, d'.Created recoveries) : Kept d₀ d' := by
  obtain ⟨recoveries, hcreated⟩ := hcreated
  refine ⟨fun c file hc => ?_, fun name files hn => ?_, fun _ _ => hcreated.not_found⟩
  · rcases h.originals c file hc with hplace | hmoved
    · exact absurd hplace (hfiles c file hc)
    · rw [hquarantines]
      exact Or.inr hmoved
  · rw [hquarantines]
    exact h.quarantines name files hn

/-- The step lemma: a rename of a file into a free place of a new
directory. -/
theorem Kept.rename (h : Kept d₀ d) (hnew : d₀.quarantines name = none) {moved : Files κ}
    (hmoved : d.quarantines name = some moved) (hfree : moved c = none) :
    Kept d₀ (d.apply (.rename c name)) := by
  have hplace : (d.apply (.rename c name)).quarantines name
      = some (setFile moved c (d.files c)) := by
    simp [apply, hmoved]
  have hothers : ∀ n, n ≠ name → (d.apply (.rename c name)).quarantines n = d.quarantines n := by
    intro n hn
    simp [apply, hn]
  refine ⟨fun c' file hc => ?_, fun n files hn => ?_, fun recoveries hcreated c' content => ?_⟩
  · rcases h.originals c' file hc with hstays | ⟨n, files, hn, hfiles, hfile⟩
    · by_cases hcc : c' = c
      · subst hcc
        exact Or.inr ⟨name, _, hnew, hplace, by simp [setFile, hstays]⟩
      · refine Or.inl ?_
        simp only [apply, setFile]
        rw [if_neg hcc, hstays]
    · by_cases hname : n = name
      · subst hname
        obtain rfl : moved = files := Option.some.inj (hmoved.symm.trans hfiles)
        refine Or.inr ⟨n, _, hnew, hplace, ?_⟩
        have hcc : c' ≠ c := by
          rintro rfl
          rw [hfree] at hfile
          cases hfile
        simp only [setFile]
        rw [if_neg hcc, hfile]
      · exact Or.inr ⟨n, files, hn, (hothers n hname).trans hfiles, hfile⟩
  · have hne : n ≠ name := by
      rintro rfl
      rw [hnew] at hn
      cases hn
    rw [hothers n hne, h.quarantines n files hn]
  · simp only [apply, setFile] at hcreated ⊢
    split_ifs at hcreated ⊢ with h₁ h₂
    · exact nofun
    · exact h.unpaired recoveries hcreated c' content

theorem Kept.step {step : DurableStep κ}
    (hfound : ∀ c file, d₀.files c = some file → ∃ content, file = .found content)
    (h : Kept d₀ d) (hstep : Legal d₀ d step) : Kept d₀ (d.apply step) := by
  cases step with
  | look left =>
      obtain ⟨htouched, hspares⟩ := hstep
      refine ⟨fun c file hc => (h.originals c file hc).imp (htouched.spared hspares) id,
        h.quarantines, fun recoveries hcreated c content hc => ?_⟩
      exact h.unpaired recoveries (htouched.database ▸ hcreated) c content (htouched.found hc)
  | createDirectory name =>
      have hnew : d.quarantines name = none := hstep
      have hkeeps : ∀ n files, d.quarantines n = some files →
          (d.apply (.createDirectory name)).quarantines n = some files := by
        intro n files hn
        have hne : n ≠ name := by
          rintro rfl
          rw [hnew] at hn
          cases hn
        simp [apply, hne, hn]
      refine ⟨fun c file hc => (h.originals c file hc).imp id ?_,
        fun n files hn => hkeeps n files (h.quarantines n files hn), h.unpaired⟩
      rintro ⟨n, files, hn, hfiles, hfile⟩
      exact ⟨n, files, hn, hkeeps n files hfiles, hfile⟩
  | rename c name =>
      obtain ⟨hnew, moved, hmoved, hfree⟩ := hstep
      exact h.rename hnew hmoved hfree
  | initializeStoreFile =>
      have hnone : ∀ c, d.files c = none := hstep
      refine h.moved (fun c file _ => ?_) rfl ⟨[], created_afterInitialize hnone⟩
      rw [hnone c]
      exact nofun
  | persistStorageRecovery occurrence =>
      obtain ⟨recoveries, hcreated⟩ := hstep
      refine h.moved (fun c file hc => ?_) rfl ⟨recoveries ++ [occurrence], ?_, fun c hc => ?_⟩
      · obtain ⟨content, rfl⟩ := hfound c file hc
        exact hcreated.not_found c content
      · simp [apply, setFile, hcreated.1, File.record]
      · simp only [apply, setFile]
        rw [if_neg hc]
        exact hcreated.2 c hc

/-! ## The steps of a replacement -/

/-- The files that move, the database first. -/
def moved (d : DatabaseDirectory κ) : List Component := .database :: presentSidecars d.files

theorem moved_nodup : d.moved.Nodup := by
  have hsidecars : (presentSidecars d.files).Nodup := List.Nodup.filter _ (by decide)
  refine List.nodup_cons.2 ⟨fun h => ?_, hsidecars⟩
  have hmem : Component.database ∈ Component.sidecars := (List.mem_filter.1 h).1
  revert hmem
  decide

theorem mem_moved (hdb : d.files .database ≠ none) : c ∈ d.moved ↔ d.files c ≠ none := by
  rw [moved, List.mem_cons, presentSidecars, List.mem_filter, Option.isSome_iff_ne_none]
  constructor
  · rintro (rfl | ⟨-, hc⟩)
    · exact hdb
    · exact hc
  · intro hc
    cases c with
    | database => exact Or.inl rfl
    | wal => exact Or.inr ⟨by decide, hc⟩
    | shm => exact Or.inr ⟨by decide, hc⟩
    | journal => exact Or.inr ⟨by decide, hc⟩

theorem quarantineDatabase_eq :
    d.quarantineDatabase name
      = .createDirectory name :: d.moved.map fun c => .rename c name := rfl

theorem length_moved : d.moved.length = 1 + (presentSidecars d.files).length := by
  rw [moved, List.length_cons, Nat.add_comm]

/-- What renames leave. -/
theorem files_renames {cs : List Component} :
    ((cs.map fun c => DurableStep.rename c name).foldl apply d).files c
      = if c ∈ cs then none else d.files c := by
  induction cs generalizing d with
  | nil => simp
  | cons c' cs ih =>
      rw [List.map_cons, List.foldl_cons, ih]
      by_cases hc : c ∈ cs
      · simp [hc]
      · by_cases hcc : c = c'
        · simp [hcc, apply, setFile]
        · simp [hc, hcc, apply, setFile]

/-- What the beginning of a quarantine leaves. -/
theorem files_quarantine_take {k : Nat} :
    (((d.quarantineDatabase name).take k).foldl apply d).files c
      = if c ∈ d.moved.take (k - 1) then none else d.files c := by
  cases k with
  | zero => simp
  | succ k =>
      rw [quarantineDatabase_eq, List.take_succ_cons, List.foldl_cons, ← List.map_take,
        files_renames, Nat.add_sub_cancel]
      rfl

/-- Files that move one after another into a new directory lose nothing. -/
theorem along_renames {cs : List Component} (hnew : d₀.quarantines name = none)
    (hnodup : cs.Nodup)
    (hfree : ∃ files, d.quarantines name = some files ∧ ∀ c ∈ cs, files c = none) :
    Along apply (Legal d₀) d (cs.map fun c => .rename c name) := by
  induction cs generalizing d with
  | nil => trivial
  | cons c cs ih =>
      obtain ⟨hc, hcs⟩ := List.nodup_cons.1 hnodup
      obtain ⟨files, hname, hnone⟩ := hfree
      refine ⟨⟨hnew, files, hname, hnone c List.mem_cons_self⟩, ih hcs ?_⟩
      refine ⟨setFile files c (d.files c), by simp [apply, hname], fun c' hc' => ?_⟩
      have hne : c' ≠ c := by
        rintro rfl
        exact hc hc'
      simp only [setFile]
      rw [if_neg hne, hnone c' (List.mem_cons_of_mem c hc')]

/-- A name that is free is of no directory. -/
theorem freeSequence_none {sequence : Nat} (h : d.freeSequence clock = some sequence) :
    d.quarantines ⟨clock, sequence⟩ = none := by
  unfold freeSequence at h
  have hfound := List.find?_some h
  simpa using hfound

/-- The end of a replacement that started. -/
def replaceTail (d : DatabaseDirectory κ) (e : OpenError) (name : QuarantineName) :
    List (DurableStep κ) :=
  .initializeStoreFile ::
    if name.stamp < 2 ^ 63 then [.persistStorageRecovery (d.occurrenceOf e name)] else []

/-- A replacement that starts. -/
theorem replaceDatabase_starts {sequence : Nat} (hclock : clock < 2 ^ 64)
    (hfree : d.freeSequence clock = some sequence) :
    (d.replaceDatabase e clock).1
      = d.quarantineDatabase ⟨clock, sequence⟩ ++ d.replaceTail e ⟨clock, sequence⟩ := by
  unfold replaceDatabase replaceTail
  rw [if_pos hclock, hfree]
  by_cases hfits : clock < 2 ^ 63
  · simp only [if_pos hfits]
  · simp only [if_neg hfits]

/-- A replacement that does not start has no step. -/
theorem replaceDatabase_idle (h : ¬ (clock < 2 ^ 64 ∧ (d.freeSequence clock).isSome = true)) :
    (d.replaceDatabase e clock).1 = [] := by
  unfold replaceDatabase
  by_cases hclock : clock < 2 ^ 64
  · rw [if_pos hclock]
    cases hfree : d.freeSequence clock with
    | none => rfl
    | some sequence => exact absurd ⟨hclock, by simp [hfree]⟩ h
  · rw [if_neg hclock]

/-- A replacement that starts is over when nothing is left of it. -/
theorem replaceDatabase_ok (hclock : clock < 2 ^ 64) {sequence : Nat}
    (hfree : d.freeSequence clock = some sequence) :
    (d.replaceDatabase e clock).2 = .ok () ↔ clock < 2 ^ 63 := by
  unfold replaceDatabase
  rw [if_pos hclock, hfree]
  by_cases hfits : clock < 2 ^ 63
  · simp only [hfits, if_true]
  · simp only [hfits, if_false, reduceCtorEq]

/-- After the quarantine nothing stands in the directory. -/
theorem files_quarantined (hdb : d.files .database ≠ none) :
    ((d.quarantineDatabase name).foldl apply d).files c = none := by
  have hall : (((d.quarantineDatabase name).take
      (d.quarantineDatabase name).length).foldl apply d).files c
      = if c ∈ d.moved.take ((d.quarantineDatabase name).length - 1) then none else d.files c :=
    files_quarantine_take
  have hlength : (d.quarantineDatabase name).length - 1 = d.moved.length := by
    rw [quarantineDatabase_eq, List.length_cons, List.length_map, Nat.add_sub_cancel]
  rw [List.take_length, hlength, List.take_length] at hall
  rw [hall]
  split_ifs with hc
  · rfl
  · exact Classical.not_not.1 fun hsome => hc ((mem_moved hdb).2 hsome)

/-- **A replacement loses nothing**, wherever it is cut. -/
theorem along_replaceDatabase (hkept : Kept d₀ d) (hdb : d.files .database ≠ none) :
    Along apply (Legal d₀) d (d.replaceDatabase e clock).1 := by
  by_cases hstarts : clock < 2 ^ 64 ∧ (d.freeSequence clock).isSome = true
  · obtain ⟨hclock, hsome⟩ := hstarts
    obtain ⟨sequence, hfree⟩ := Option.isSome_iff_exists.1 hsome
    have hnone := freeSequence_none hfree
    have hnew : d₀.quarantines ⟨clock, sequence⟩ = none := by
      by_contra hold
      obtain ⟨files, hfiles⟩ := Option.ne_none_iff_exists'.1 hold
      rw [hkept.quarantines _ files hfiles] at hnone
      cases hnone
    rw [replaceDatabase_starts hclock hfree, along_append]
    have hempty : ∃ files, (d.apply (.createDirectory ⟨clock, sequence⟩)).quarantines
        ⟨clock, sequence⟩ = some files ∧ ∀ c ∈ d.moved, files c = none :=
      ⟨fun _ => none, by simp [apply], fun _ _ => rfl⟩
    refine ⟨⟨hnone, along_renames hnew moved_nodup hempty⟩, fun c => files_quarantined hdb, ?_⟩
    split_ifs
    · exact ⟨⟨[], created_afterInitialize fun c => files_quarantined hdb⟩, trivial⟩
    · trivial
  · rw [replaceDatabase_idle hstarts]
    trivial

/-! ## Where an open starts -/

/-- A recovery was recorded. -/
def Recovered (d : DatabaseDirectory κ) : Prop :=
  ∃ recoveries, recoveries ≠ [] ∧ d.Created recoveries

/-- The database was moved away and nothing says so: some of its files were
left behind, or none, or a fresh database stands there. -/
inductive Lost (d : DatabaseDirectory κ) : Prop
  | stranded (hdb : d.files .database = none) (hleft : ∃ c, d.files c ≠ none)
  | empty (hnone : ∀ c, d.files c = none)
  | silent (hcreated : d.Created [])

/-- An open that is cut behind its look. -/
theorem interrupted_succ (sqlite : SqliteReader κ) (d : DatabaseDirectory κ) (clock steps : Nat) :
    d.interrupted sqlite ⟨clock, steps + 1⟩ =
      (((d.looked sqlite).stepsAfter sqlite (preflightStoreFile sqlite d.files).1 clock).1.take
        steps).foldl apply (d.looked sqlite) := rfl

theorem interrupted_zero (sqlite : SqliteReader κ) (d : DatabaseDirectory κ) (clock : Nat) :
    d.interrupted sqlite ⟨clock, 0⟩ = d := rfl

/-- Without a database there is nothing to look at. -/
theorem looked_of_none (hdb : d.files .database = none) : d.looked sqlite = d := by
  have hleft : (preflightStoreFile sqlite d.files).2 = d.files := by
    unfold preflightStoreFile validateExistingStoreComponents
    rw [hdb]
    cases Component.sidecars.find? fun c => (d.files c).isSome with
    | none => rfl
    | some c => rfl
  rw [looked, hleft]

/-- A look does to the files what SQLite may. -/
theorem touched_looked (hreads : Reads sqlite) (d : DatabaseDirectory κ) :
    Touched d.files (d.looked sqlite).files := by
  by_cases hdb : d.files .database = none
  · rw [looked_of_none hdb]
    exact Touched.refl _
  · have hleft : (preflightStoreFile sqlite d.files).2 = (sqlite.inspect d.files).2 := by
      unfold preflightStoreFile validateExistingStoreComponents
      rw [if_pos (Option.isSome_iff_ne_none.2 hdb)]
    rw [looked, hleft]
    exact hreads.touches d.files

/-- What is said of a database that is there. -/
theorem preflight_of_database (hdb : d.files .database ≠ none) :
    (preflightStoreFile sqlite d.files).1 = (sqlite.inspect d.files).1.map fun () => true := by
  unfold preflightStoreFile validateExistingStoreComponents
  rw [if_pos (Option.isSome_iff_ne_none.2 hdb)]

theorem Created.looked (hreads : Reads sqlite) {recoveries : List StorageRecoveryOccurrence}
    (h : d.Created recoveries) : (d.looked sqlite).Created recoveries := by
  have htouched := touched_looked hreads d
  refine ⟨htouched.database.trans h.1, fun c hc => ?_⟩
  rcases htouched c with heq | ⟨-, hown⟩
  · rw [heq]
    exact h.2 c hc
  · exact Or.inr hown

/-- A database created here is only looked at. -/
theorem openSteps_created (hreads : Reads sqlite) (hcreates : Creates sqlite)
    {recoveries : List StorageRecoveryOccurrence} (h : d.Created recoveries) :
    d.openSteps sqlite clock = ([.look (d.looked sqlite).files], .ok ()) := by
  have hsaid : (preflightStoreFile sqlite d.files).1 = .ok true := by
    rw [preflight_of_database (by rw [h.1]; exact nofun), (hcreates d.files recoveries h.1 h.2).1]
    rfl
  have hleft := h.looked hreads
  have hversioned := (hcreates _ recoveries hleft.1 hleft.2).2
  unfold openSteps
  dsimp only
  rw [hsaid, stepsAfter, if_pos hversioned]
  rfl

theorem openSteps_empty (h : ∀ c, d.files c = none) :
    d.openSteps sqlite clock = ([.look d.files, .initializeStoreFile], .ok ()) := by
  have hfind : (Component.sidecars.find? fun c => (d.files c).isSome) = none := by
    rw [List.find?_eq_none]
    intro c _
    simp [h c]
  unfold openSteps preflightStoreFile validateExistingStoreComponents
  rw [h .database, hfind]
  rfl

theorem openSteps_stranded (sqlite : SqliteReader κ) (clock : Nat)
    (hdb : d.files .database = none) (hleft : ∃ c, d.files c ≠ none) :
    ∃ e, d.openSteps sqlite clock = ([.look d.files], .error e) := by
  obtain ⟨c, hc⟩ := hleft
  have hsidecar : c ∈ Component.sidecars := by
    cases c with
    | database => exact absurd hdb hc
    | _ => decide
  unfold openSteps preflightStoreFile validateExistingStoreComponents
  rw [hdb]
  cases hfind : Component.sidecars.find? fun c => (d.files c).isSome with
  | none =>
      have hno := List.find?_eq_none.1 hfind c hsidecar
      exact absurd (Option.isSome_iff_ne_none.2 hc) hno
  | some c' => exact ⟨_, rfl⟩

/-- After the look a corrupt database is replaced. -/
theorem stepsAfter_corrupt (hrecoverable : isRecoverableCorruption e = true) :
    d.stepsAfter sqlite (.error e) clock = d.replaceDatabase e clock := if_pos hrecoverable

/-- A corrupt database is there. -/
theorem Corrupt.database (h : d.Corrupt sqlite) : d.files .database ≠ none := by
  intro hnone
  obtain ⟨e, he, hrecoverable⟩ := h
  unfold preflightStoreFile validateExistingStoreComponents at he
  rw [hnone] at he
  cases hfind : Component.sidecars.find? fun c => (d.files c).isSome with
  | none => simp [hfind] at he
  | some c =>
      simp only [hfind, Option.isSome_none, Bool.false_eq_true, if_false, Except.error.injEq] at he
      rw [← he] at hrecoverable
      cases hrecoverable

/-- It is there, and corrupt, after SQLite has touched the files. -/
theorem Corrupt.touched (hreads : Reads sqlite) (h : d₀.Corrupt sqlite)
    (htouched : Touched d₀.files d.files) : d.Corrupt sqlite := by
  have hdb := h.database
  obtain ⟨e, he, hrecoverable⟩ := h
  refine ⟨e, ?_, hrecoverable⟩
  rw [preflight_of_database hdb] at he
  rw [preflight_of_database (htouched.database ▸ hdb), hreads.verdict _ _ htouched, he]

/-! ## Where an open that was cut leads -/

/-- Nothing has moved yet: SQLite may have touched the files, and there may
be new directories with nothing in them. -/
structure Unmoved (d₀ d : DatabaseDirectory κ) : Prop where
  files : Touched d₀.files d.files
  quarantines : ∀ name, d.quarantines name = d₀.quarantines name ∨
    d₀.quarantines name = none ∧ d.quarantines name = some fun _ => none

theorem Unmoved.refl (d : DatabaseDirectory κ) : Unmoved d d :=
  ⟨Touched.refl _, fun _ => Or.inl rfl⟩

theorem Unmoved.trans {d' : DatabaseDirectory κ} (h : Unmoved d₀ d) (h' : Unmoved d d') :
    Unmoved d₀ d' := by
  refine ⟨h.files.trans h'.files, fun name => ?_⟩
  rcases h'.quarantines name with heq | ⟨hnone, hnew⟩
  · rw [heq]
    exact h.quarantines name
  · rcases h.quarantines name with heq | ⟨-, hsome⟩
    · exact Or.inr ⟨heq.symm.trans hnone, hnew⟩
    · rw [hsome] at hnone
      cases hnone

theorem Unmoved.looked (hreads : Reads sqlite) (d : DatabaseDirectory κ) :
    Unmoved d (d.looked sqlite) := ⟨touched_looked hreads d, fun _ => Or.inl rfl⟩

/-- What is lost stays lost. -/
theorem Lost.interrupted (hreads : Reads sqlite) (hcreates : Creates sqlite) (h : d.Lost)
    (a : Attempt) : (d.interrupted sqlite a).Lost := by
  obtain ⟨clock, steps⟩ := a
  cases steps with
  | zero => exact h
  | succ steps =>
      unfold DatabaseDirectory.interrupted
      cases h with
      | stranded hdb hleft =>
          obtain ⟨e, he⟩ := openSteps_stranded sqlite clock hdb hleft
          rw [he, List.take_succ_cons, List.take_nil]
          exact .stranded hdb hleft
      | empty hnone =>
          rw [openSteps_empty hnone]
          cases steps with
          | zero => exact .empty hnone
          | succ steps =>
              rw [List.take_succ_cons, List.take_succ_cons, List.take_nil]
              exact .silent (created_afterInitialize (d := d) hnone)
      | silent hcreated =>
          rw [openSteps_created hreads hcreates hcreated, List.take_succ_cons, List.take_nil]
          exact .silent (hcreated.looked hreads)

/-- A store that recorded its recovery keeps the record. -/
theorem Recovered.interrupted (hreads : Reads sqlite) (hcreates : Creates sqlite)
    (h : d.Recovered) (a : Attempt) : (d.interrupted sqlite a).Recovered := by
  obtain ⟨clock, steps⟩ := a
  cases steps with
  | zero => exact h
  | succ steps =>
      obtain ⟨recoveries, hne, hcreated⟩ := h
      unfold DatabaseDirectory.interrupted
      rw [openSteps_created hreads hcreates hcreated, List.take_succ_cons, List.take_nil]
      exact ⟨recoveries, hne, hcreated.looked hreads⟩

theorem Recovered.not_corrupt (hcreates : Creates sqlite) (h : d.Recovered) :
    ¬ d.Corrupt sqlite := by
  obtain ⟨recoveries, -, hcreated⟩ := h
  rintro ⟨e, he, -⟩
  rw [preflight_of_database (by rw [hcreated.1]; exact nofun),
    (hcreates d.files recoveries hcreated.1 hcreated.2).1] at he
  cases he

/-- A replacement that is cut before the database moves. -/
theorem unmoved_replace {steps : Nat} (hsteps : steps < 2) (hclock : clock < 2 ^ 64)
    {sequence : Nat} (hfree : d.freeSequence clock = some sequence) :
    Unmoved d (((d.replaceDatabase e clock).1.take steps).foldl apply d) := by
  rw [replaceDatabase_starts hclock hfree, quarantineDatabase_eq, List.cons_append]
  cases steps with
  | zero => exact Unmoved.refl d
  | succ steps =>
      obtain rfl : steps = 0 := by omega
      refine ⟨Touched.refl _, fun name => ?_⟩
      rw [List.take_succ_cons, List.take_zero, List.foldl_cons, List.foldl_nil]
      by_cases hname : name = ⟨clock, sequence⟩
      · subst hname
        exact Or.inr ⟨freeSequence_none hfree, by simp [apply]⟩
      · exact Or.inl (by simp [apply, hname])

/-- A replacement that gets through records the recovery. -/
theorem recovered_replace {steps : Nat} (hdb : d.files .database ≠ none) (hclock : clock < 2 ^ 63)
    {sequence : Nat} (hfree : d.freeSequence clock = some sequence)
    (hsteps : 4 + (presentSidecars d.files).length ≤ steps) :
    (((d.replaceDatabase e clock).1.take steps).foldl apply d).Recovered := by
  have hlength : (d.replaceDatabase e clock).1.length ≤ steps := by
    rw [replaceDatabase_starts (by omega) hfree, List.length_append, quarantineDatabase_eq,
      List.length_cons, List.length_map, length_moved, replaceTail, if_pos hclock]
    simp only [List.length_cons, List.length_nil]
    omega
  rw [List.take_of_length_le hlength, replaceDatabase_starts (by omega) hfree, List.foldl_append,
    replaceTail, if_pos hclock]
  have hempty : ∀ c, ((d.quarantineDatabase ⟨clock, sequence⟩).foldl apply d).files c = none :=
    fun c => files_quarantined hdb
  have hcreated := created_afterInitialize hempty
  refine ⟨[d.occurrenceOf e ⟨clock, sequence⟩], by simp, ?_, fun c hc => ?_⟩
  · simp [apply, freshFiles, setFile, File.record]
  · simp only [List.foldl_cons, List.foldl_nil, apply, setFile] at hcreated ⊢
    rw [if_neg hc]
    exact hcreated.2 c hc

/-- **A replacement that is cut in between loses the recovery.** -/
theorem lost_replace {steps : Nat} (hdb : d.files .database ≠ none) (hclock : clock < 2 ^ 64)
    {sequence : Nat} (hfree : d.freeSequence clock = some sequence) (hlate : 2 ≤ steps)
    (hcut : ¬ (clock < 2 ^ 63 ∧ 4 + (presentSidecars d.files).length ≤ steps)) :
    (((d.replaceDatabase e clock).1.take steps).foldl apply d).Lost := by
  have hlength : (d.quarantineDatabase ⟨clock, sequence⟩).length
      = 2 + (presentSidecars d.files).length := by
    rw [quarantineDatabase_eq, List.length_cons, List.length_map, length_moved]
    omega
  rw [replaceDatabase_starts hclock hfree]
  by_cases hleft : steps < 2 + (presentSidecars d.files).length
  · -- some file has not moved yet
    rw [List.take_append_of_le_length (by omega)]
    have hget : steps - 1 < d.moved.length := by
      rw [length_moved]
      omega
    refine .stranded ?_ ⟨d.moved.get ⟨steps - 1, hget⟩, ?_⟩
    · rw [files_quarantine_take, if_pos]
      rw [moved, show steps - 1 = (steps - 2) + 1 by omega, List.take_succ_cons]
      exact List.mem_cons_self
    · rw [files_quarantine_take, if_neg]
      · exact (mem_moved hdb).1 (List.get_mem _ _)
      · intro hmem
        obtain ⟨⟨i, hi⟩, hsame⟩ := List.mem_iff_get.1 hmem
        have hi' : i < steps - 1 := by
          rw [List.length_take] at hi
          omega
        have hsame' : d.moved.get ⟨i, by omega⟩ = d.moved.get ⟨steps - 1, hget⟩ := by
          rw [← hsame]
          simp
        have heq := (moved_nodup (d := d)).get_inj_iff.1 hsame'
        simp only [Fin.mk.injEq] at heq
        omega
  · rw [List.take_append, List.take_of_length_le (by omega), List.foldl_append]
    have hnone : ∀ c, ((d.quarantineDatabase ⟨clock, sequence⟩).foldl apply d).files c = none :=
      fun c => files_quarantined hdb
    by_cases hempty : steps = 2 + (presentSidecars d.files).length
    · rw [show steps - (d.quarantineDatabase ⟨clock, sequence⟩).length = 0 by omega]
      exact .empty hnone
    · -- the fresh database is there, and the record is not
      have htail : (d.replaceTail e ⟨clock, sequence⟩).take
          (steps - (d.quarantineDatabase ⟨clock, sequence⟩).length) = [.initializeStoreFile] := by
        unfold replaceTail
        by_cases hfits : clock < 2 ^ 63
        · have hone : steps - (d.quarantineDatabase ⟨clock, sequence⟩).length = 1 := by
            have hnot : ¬ 4 + (presentSidecars d.files).length ≤ steps := fun h => hcut ⟨hfits, h⟩
            omega
          rw [if_pos hfits, hone]
          rfl
        · rw [if_neg hfits, List.take_of_length_le]
          rw [List.length_singleton]
          omega
      rw [htail]
      exact .silent (created_afterInitialize hnone)

end DatabaseDirectory

end Unlinger
