import Unlinger.Cli.Helpers.Rollback
import Unlinger.Common.Framing

/-!
# Installing, cut anywhere

A generation that is made touches no other, so it disturbs no lease; the
snapshot is nobody's until the transaction says it is; and what is
selected is sealed by then. So an installation may be cut wherever it is,
and what its transaction says it found is what was there.
-/

namespace Unlinger

open Interaction Crash

namespace Cli

variable {H : Type} {α β : Type}
  {plutil : String → Except ServiceError LaunchAgentDocument} {schema : H → Nat}
  {paths : LocalPaths} {known : Selections} {d : Disk H} {t : InstallTransaction}
  {generation : Nat}

/-! ## Making a generation -/

/-- Only the generation's directory is another than it was. -/
def Frame (generation : Nat) (x y : Records H) : Prop :=
  ∃ generations : OrdMap Nat GenerationDir, y = { x with generations := generations } ∧
    ∀ g, g ≠ generation → generations.lookup g = x.generations.lookup g

theorem Frame.refl {x : Records H} : Frame generation x x := ⟨x.generations, rfl, fun _ _ => rfl⟩

/-- Another change of the generation's directory. -/
theorem Frame.change {x y : Records H} {generations : OrdMap Nat GenerationDir}
    (h : Frame generation x y)
    (hothers : ∀ g, g ≠ generation → generations.lookup g = y.generations.lookup g) :
    Frame generation x { y with generations := generations } := by
  obtain ⟨between, rfl, hbetween⟩ := h
  exact ⟨generations, rfl, fun g hg => (hothers g hg).trans (hbetween g hg)⟩

/-- A generation that was not there is none of a transaction's. -/
theorem Held.frame {x y : Records H} (h : Held plutil schema paths known t x)
    (habsent : x.generations.lookup generation = none) (hframe : Frame generation x y) :
    Held plutil schema paths known t y := by
  obtain ⟨generations, rfl, hothers⟩ := hframe
  exact ⟨h.transaction, h.version, h.known, h.lease.generation habsent hothers⟩

/-- A quiet part, under a condition of the records. -/
theorem upholds_quiet {I : Records H → Prop} {p : ServiceProg α}
    (h : p.Only fun c => c.quiet = true) (hI : I d.toRecords) :
    Upholds (Disk.serves plutil schema) (fun x => I x.toRecords) p d
      fun _ d' => d'.toRecords = d.toRecords := by
  have hread : Reads plutil schema p d fun _ => True := Reads.quiet h
  refine Upholds.mono (Upholds.post hread fun o d' hd' _ => hd') (fun x hx => ?_) fun _ _ ho => ho
  rw [hx]
  exact hI

theorem quiet_stageSteps (generation : Nat) (steps : List StageStep) :
    (stageSteps generation steps).Only fun c => c.quiet = true := by
  induction steps with
  | nil => exact Prog.only_pure
  | cons step steps ih =>
      exact Prog.Only.bind (Prog.Only.ask rfl fun _ => Prog.only_orThrow) fun _ => ih

/-- What is published is sealed, or the generation is as it was before. -/
theorem upholds_sealPublished {x : Records H} (hframe : Frame generation x d.toRecords)
    (hdir : d.generations.lookup generation = some ⟨.new generation, false⟩) :
    Upholds (Disk.serves plutil schema) (fun y => Frame generation x y.toRecords)
      (sealPublished generation) d fun o d' => o = .ok () → Sealed d'.toRecords generation := by
  have hothers : ∀ g, g ≠ generation →
      (d.generations.insert generation ⟨.new generation, true⟩).lookup g
        = d.generations.lookup g := by
    intro g hg
    rw [OrdMap.lookup_insert, if_neg hg]
  have hsealed : Upholds (Disk.serves plutil schema) (fun y => Frame generation x y.toRecords)
      (orFail (Prog.ask (Call.sealGeneration generation))) d
      fun o d' => o = .ok () →
        Sealed d'.toRecords generation ∧ Frame generation x d'.toRecords := by
    refine ⟨hframe, fun r d₁ hserve => ?_⟩
    obtain ⟨database, hchanges⟩ := hserve
    simp only [Disk.answers, hdir] at hchanges
    change Upholds _ _ (Prog.orThrow id r) d₁ _
    rcases hchanges with rfl | ⟨rfl, e, rfl⟩
    · have hafter := hframe.change hothers
      have hseal : Sealed { d.toRecords with
          generations := d.generations.insert generation ⟨.new generation, true⟩ } generation := by
        unfold Sealed
        rw [OrdMap.lookup_insert, if_pos rfl]
      cases r with
      | ok u => exact ⟨hafter, fun _ => ⟨hseal, hafter⟩⟩
      | error e => exact ⟨hafter, fun he => by cases he⟩
    · exact ⟨hframe, fun he => by cases he⟩
  refine hsealed.bind (fun _ d₁ h₁ => ?_) fun e _ _ _ he => by cases he
  obtain ⟨hseal, hframe₁⟩ := h₁ rfl
  refine (upholds_quiet (I := Frame generation x) ?_ hframe₁).bind (fun _ d₂ hd₂ => ?_)
    fun e _ _ _ he => by cases he
  · exact Prog.Only.ask rfl fun _ => Prog.only_orThrow
  rw [← hd₂] at hseal hframe₁
  refine (upholds_quiet (I := Frame generation x) ?_ hframe₁).post fun o d₃ _ hd₃ _ => ?_
  · refine Prog.Only.bind (Prog.Only.bind (Prog.Only.ask rfl fun _ => Prog.only_orThrow)
      fun _ => ?_) fun _ => Prog.only_pure
    exact Prog.Only.bind Prog.only_orThrow fun _ => Prog.only_pure
  rw [hd₃]
  exact hseal

/-- What publishing a generation leaves. -/
theorem Disk.Publishes.frame {x : Records H} {database : Database H} {d' : Disk H}
    {r : Except ServiceError Unit} (hframe : Frame generation x d.toRecords)
    (h : Disk.Publishes { d with database := database } generation r d') :
    Frame generation x d'.toRecords ∧
      (r = .ok () → d'.generations.lookup generation = some ⟨.new generation, false⟩) := by
  unfold Disk.Publishes at h
  split_ifs at h with hcontains
  · obtain ⟨rfl, e, rfl⟩ := h
    exact ⟨hframe, fun he => by cases he⟩
  · obtain ⟨stages, rfl | ⟨rfl, e, rfl⟩⟩ := h
    · refine ⟨hframe.change fun g hg => ?_, fun _ => ?_⟩
      · rw [OrdMap.lookup_insert, if_neg hg]
      · rw [OrdMap.lookup_insert, if_pos rfl]
    · exact ⟨hframe, fun he => by cases he⟩

/-- **Making a generation** touches no other, and one that was made is
sealed. -/
theorem upholds_createGeneration :
    Upholds (Disk.serves plutil schema) (fun y => Frame generation d.toRecords y.toRecords)
      (createGeneration generation) d fun o d' => o = .ok () → Sealed d'.toRecords generation := by
  have hframe : Frame generation d.toRecords d.toRecords := Frame.refl
  refine Upholds.ask hframe fun exist d₁ hserve => ?_
  have hd₁ : d₁.toRecords = d.toRecords :=
    Disk.serves_quiet (c := Call.generationExists generation) rfl hserve
  rw [← hd₁] at hframe ⊢
  cases exist with
  | true => exact ⟨hframe, fun he => by cases he⟩
  | false =>
      refine (upholds_quiet (quiet_stageSteps _ _) hframe).bind (fun _ d₂ hd₂ => ?_)
        fun e _ _ _ he => by cases he
      refine (upholds_quiet (quiet_stageSteps _ _).attempt (hd₂ ▸ hframe)).bind
        (fun filled d₃ hd₃ => ?_) fun e _ _ _ he => by cases he
      have hframe₃ : Frame generation d₁.toRecords d₃.toRecords := by
        rw [hd₃, hd₂]
        exact hframe
      have hdiscard : ∀ (e : ServiceError) (d : Disk H), Frame generation d₁.toRecords d.toRecords →
          Upholds (Disk.serves plutil schema)
            (fun y => Frame generation d₁.toRecords y.toRecords)
            (Prog.ask (Call.discardStage generation) >>= fun _ =>
              (Prog.throw e : ServiceProg Unit)) d
            fun o d' => o = .ok () → Sealed d'.toRecords generation := by
        intro e d hd
        refine Upholds.ask hd fun _ d' hserve => ?_
        have hd' : d'.toRecords = d.toRecords :=
          Disk.serves_quiet (c := Call.discardStage generation) rfl hserve
        rw [← hd'] at hd
        exact ⟨hd, fun he => by cases he⟩
      cases filled with
      | error e => exact hdiscard e d₃ hframe₃
      | ok u =>
          refine Upholds.ask hframe₃ fun published d₄ hserve => ?_
          obtain ⟨database, hpublish⟩ := hserve
          obtain ⟨hframe₄, hdir⟩ := Disk.Publishes.frame hframe₃ hpublish
          cases published with
          | error e => exact hdiscard e d₄ hframe₄
          | ok u =>
              refine Upholds.attempt (upholds_sealPublished hframe₄ (hdir rfl))
                fun r d₅ hframe₅ hr => ?_
              cases r with
              | ok u => exact ⟨hframe₅, fun _ => hr rfl⟩
              | error e =>
                  refine Upholds.ask hframe₅ fun _ d₆ hserve => ?_
                  obtain ⟨database, generations, rfl, hothers, -⟩ := hserve
                  exact ⟨hframe₅.change hothers, fun he => by cases he⟩

/-! ## What an installation begins with -/

/-- The largest number is not below any. -/
theorem maximumGeneration_le {maximum n : Nat} {entries : List GenerationEntry}
    (h : maximumGeneration maximum entries = .ok n) :
    maximum ≤ n ∧ ∀ entry ∈ entries, ∀ number, Text.parseU64 entry.name = .ok number →
      number ≤ n := by
  induction entries generalizing maximum with
  | nil =>
      obtain rfl := Except.ok.inj h
      exact ⟨le_refl _, fun entry he => by cases he⟩
  | cons entry entries ih =>
      simp only [maximumGeneration, bind_eq_ok] at h
      obtain ⟨number, hnumber, h⟩ := h
      unfold GenerationEntry.number at hnumber
      cases hparse : Text.parseU64 entry.name with
      | error e =>
          rw [hparse] at hnumber
          obtain rfl := Except.ok.inj hnumber
          obtain ⟨hmax, hrest⟩ := ih h
          refine ⟨hmax, fun other hother number hother' => ?_⟩
          rcases List.mem_cons.1 hother with rfl | hother
          · rw [hparse] at hother'
            cases hother'
          · exact hrest other hother number hother'
      | ok value =>
          rw [hparse] at hnumber
          simp only at hnumber
          split_ifs at hnumber with hdirectory
          obtain rfl := Except.ok.inj hnumber
          obtain ⟨hmax, hrest⟩ := ih h
          refine ⟨le_trans (le_max_left _ _) hmax, fun other hother number hother' => ?_⟩
          rcases List.mem_cons.1 hother with rfl | hother
          · rw [hparse] at hother'
            obtain rfl := Except.ok.inj hother'
            exact le_trans (le_max_right _ _) hmax
          · exact hrest other hother number hother'

/-- Every generation is listed under its number. -/
theorem reads_generationEntries :
    Reads plutil schema (orFail (Prog.ask Call.generationEntries)) d
      fun entries => ∀ g, g ∈ d.generations.keys → ⟨Text.decimal g, true⟩ ∈ entries := by
  refine Reads.orFail (Reads.ask rfl ?_)
  rintro r d' ⟨database, -, htrue⟩ entries rfl g hg
  rw [htrue entries rfl]
  exact List.mem_append_left _ (List.mem_map_of_mem hg)

/-- **The next generation is a new one.** -/
theorem reads_nextGeneration :
    Reads plutil schema nextGeneration d fun n => d.generations.lookup n = none := by
  refine Reads.bind reads_generationEntries fun entries d₁ _ hall => ?_
  refine Reads.bind (reads_check fun n hn => hn) fun maximum d₂ _ hmaximum => ?_
  refine Reads.bind (reads_check fun u hu => require_eq_ok.1 hu) fun u d₃ _ hsmall => ?_
  refine reads_pure ?_
  by_contra hsome
  obtain ⟨dir, hdir⟩ := Option.ne_none_iff_exists'.1 hsome
  have hkey : maximum + 1 ∈ d.generations.keys := by
    have hentry := OrdMap.lookup_eq_some.1 hdir
    exact List.mem_map.2 ⟨_, hentry, rfl⟩
  have hle := (maximumGeneration_le hmaximum).2 _ (hall _ hkey) _ (Text.parseU64_decimal hsmall)
  omega

/-- What a transaction says when it is opened: what is selected now, and a
generation that is not there. -/
structure Opened (plutil : String → Except ServiceError LaunchAgentDocument) (paths : LocalPaths)
    (t : InstallTransaction) (x : Records H) : Prop where
  new : ∃ loaded, t = .new t.candidateGeneration x.activeManifest x.launchAgent loaded
  absent : x.generations.lookup t.candidateGeneration = none
  target : ∃ target, rollbackTargetOf plutil paths t = .ok target
  complete : t.priorPlist = none → t.priorManifest = none

theorem reads_openTransaction {launchd : LaunchdState} :
    Reads plutil schema (openTransaction paths launchd) d
      fun t => Opened plutil paths t d.toRecords := by
  refine Reads.bind reads_manifest fun manifest d₁ hd₁ hmanifest => ?_
  refine Reads.bind reads_launchAgentText fun plist d₂ hd₂ hplist => ?_
  refine Reads.bind reads_nextGeneration fun n d₃ hd₃ hn => ?_
  refine Reads.bind (reads_check fun u hu => require_eq_ok.1 hu) fun u d₄ _ hcomplete => ?_
  refine Reads.bind reads_rollbackTarget fun target d₅ _ htarget => reads_pure ?_
  have hmanifest : manifest = d.activeManifest := hmanifest.1
  have hplist : plist = d.launchAgent := by rw [hplist, hd₁]
  have hn : d.generations.lookup n = none := by
    have hrecords := congrArg Records.generations (hd₂.trans hd₁)
    rw [← hrecords]
    exact hn
  refine ⟨⟨launchd.loaded, ?_⟩, hn, ⟨target, htarget⟩, fun hnone => ?_⟩
  · rw [← hmanifest, ← hplist]
    rfl
  · have hnone : plist = none := hnone
    change manifest = none
    by_contra hsome
    refine hcomplete ⟨hnone, Or.inl ?_⟩
    exact Option.isSome_iff_ne_none.2 hsome

/-- **A transaction that is opened** can be rolled back. -/
theorem Opened.held {x : Records H} (hpaths : paths.Managed) (h : Opened plutil paths t x)
    (hx : Coherent plutil schema paths known x) (hknown : known x.launchAgent x.activeManifest) :
    Held plutil schema paths known t { x with transaction := some t } := by
  obtain ⟨loaded, hnew⟩ := h.new
  have hplist : t.priorPlist = x.launchAgent := by rw [hnew]; rfl
  have hmanifest : t.priorManifest = x.activeManifest := by rw [hnew]; rfl
  have hback : t.databaseBackedUp = false := by rw [hnew]; rfl
  obtain ⟨target, htarget⟩ := h.target
  obtain ⟨o, hinstalled, hprior⟩ := installedOf_prior hpaths htarget
  have hsealed : ∀ m, t.priorManifest = some m → Sealed x m.activeGeneration := by
    intro m hm
    rw [hmanifest] at hm
    exact (hx.manifest m hm).2
  refine ⟨rfl, by rw [hnew]; rfl, by rw [hplist, hmanifest]; exact hknown, ⟨target, htarget⟩,
    ⟨⟨o, ?_, fun g hg => ?_⟩, fun m hm => ?_⟩, hsealed, fun hbacked => ?_, fun hbacked => ?_,
    h.complete⟩
  · rw [hplist] at hinstalled
    exact hinstalled
  · obtain ⟨prior, hm, rfl⟩ := hprior g hg
    exact ⟨allowsGeneration_prior hm, hsealed prior hm⟩
  · have hm : t.priorManifest = some m := by rw [hmanifest]; exact hm
    exact ⟨(hx.manifest m (hmanifest ▸ hm)).1, allowsGeneration_prior hm, hsealed m hm⟩
  · rw [hback] at hbacked
    cases hbacked
  · rw [hback] at hbacked
    cases hbacked

/-! ## The snapshot -/

/-- Nobody's snapshot is made, and one that was is whole. -/
theorem safe_snapshotDatabase (h : Held plutil schema paths known t d.toRecords)
    (hback : t.databaseBackedUp = false) :
    Safe plutil schema paths known snapshotDatabase d fun _ x =>
      ∃ h, x = { d.toRecords with databaseBackup := some (.whole h) } := by
  refine Safe.heldRead h (Reads.quiet (Prog.Only.ask rfl fun _ => Prog.only_orThrow))
    fun _ d₁ hd₁ h₁ _ => ?_
  refine Safe.heldRead h₁ (Reads.quiet (Prog.Only.ask rfl fun _ => Prog.only_orThrow))
    fun _ d₂ hd₂ h₂ _ => ?_
  -- the pending snapshot stays what it is between its validation and its publication
  have hvalid : Upholds (Disk.serves plutil schema)
      (fun x => Coherent plutil schema paths known x.toRecords)
      (orFail (Prog.ask (Call.validateSqlite .databaseBackupPending))) d₂
      fun o d' => o = .ok () → d'.toRecords = d₂.toRecords ∧
        ∃ h, d'.databaseBackupPending = some (.whole h) := by
    refine ⟨h₂.coherent, fun r d' hserve => ?_⟩
    obtain ⟨database, rfl, hwhole⟩ := hserve
    change Upholds _ _ (Prog.orThrow id r) _ _
    cases r with
    | ok u => exact ⟨h₂.coherent, fun _ => ⟨rfl, hwhole rfl⟩⟩
    | error e => exact ⟨h₂.coherent, fun he => by cases he⟩
  refine Upholds.bind hvalid (fun _ d₃ h₃ => ?_) fun _ _ _ _ _ ha => by cases ha
  obtain ⟨hd₃, hpending⟩ := h₃ rfl
  rw [← hd₃] at h₂
  have hreplaceable : Upholds (Disk.serves plutil schema)
      (fun x => Coherent plutil schema paths known x.toRecords)
      (orFail (Prog.ask (Call.validateReplaceableFile .databaseBackup))) d₃
      fun _ d' => d'.toRecords = d₃.toRecords ∧
        ∃ h, d'.databaseBackupPending = some (.whole h) := by
    refine ⟨h₂.coherent, fun r d' hserve => ?_⟩
    obtain ⟨database, rfl⟩ := hserve
    change Upholds _ _ (Prog.orThrow id r) _ _
    cases r with
    | ok u => exact ⟨h₂.coherent, rfl, hpending⟩
    | error e => exact ⟨h₂.coherent, rfl, hpending⟩
  refine Upholds.bind hreplaceable (fun _ d₄ h₄ => ?_) fun _ _ _ _ _ ha => by cases ha
  obtain ⟨hd₄, whole, hpending⟩ := h₄
  rw [← hd₄] at h₂
  have hpublished : Upholds (Disk.serves plutil schema)
      (fun x => Coherent plutil schema paths known x.toRecords)
      (orFail (Prog.ask Call.publishBackup)) d₄
      fun o d' => o = .ok () →
        d'.toRecords = { d₄.toRecords with databaseBackup := some (.whole whole) } := by
    refine ⟨h₂.coherent, fun r d' hserve => ?_⟩
    obtain ⟨database, hpublishes⟩ := hserve
    have hafter := h₂.uncommitted (some (.whole whole)) hback
    have hchanges : Disk.Changes { d₄ with database := database } r d'
        { d₄ with
          database := database
          databaseBackup := some (.whole whole)
          databaseBackupPending := none } := by
      simp only [Disk.answers, Disk.PublishesBackup, hpending, Option.isNone_some,
        Bool.false_eq_true, if_false] at hpublishes
      rw [hpending]
      exact hpublishes
    obtain ⟨hd', hr⟩ := Disk.Changes.records
      (I := fun x => Held plutil schema paths known t x) hchanges h₂ hafter
    change Upholds _ _ (Prog.orThrow id r) _ _
    cases r with
    | ok u => exact ⟨hd'.coherent, fun _ => hr rfl⟩
    | error e => exact ⟨hd'.coherent, fun he => by cases he⟩
  refine Upholds.bind hpublished (fun _ d₅ h₅ => ?_) fun _ _ _ _ _ ha => by cases ha
  have hd₅ := h₅ rfl
  have hafter := h₂.uncommitted (some (.whole whole)) hback
  rw [← hd₅] at hafter
  have hsynced : Safe plutil schema paths known (orFail (Prog.ask Call.syncSupport)) d₅ fun _ x =>
      ∃ h, x = { d.toRecords with databaseBackup := some (.whole h) } := by
    refine Safe.ofReads (Reads.quiet (Prog.Only.ask rfl fun _ => Prog.only_orThrow)) hafter.coherent
      fun _ _ => ⟨whole, ?_⟩
    rw [hd₅, hd₄, hd₃, hd₂, hd₁]
  exact hsynced

/-- The backup that is made is whole, if one is. -/
theorem safe_backupDatabase (h : Held plutil schema paths known t d.toRecords)
    (hback : t.databaseBackedUp = false) :
    Safe plutil schema paths known (backupDatabase paths) d fun present x =>
      ∃ backup, x = { d.toRecords with databaseBackup := backup } ∧
        (present = true → ∃ h, backup = some (.whole h)) := by
  refine Safe.heldRead h (reads_check (P := fun _ => True) fun _ _ => trivial)
    fun _ d₁ hd₁ h₁ _ => ?_
  refine Safe.heldRead h₁ (Reads.quiet (Prog.Only.ask rfl fun _ => Prog.only_orThrow))
    fun present d₂ hd₂ h₂ _ => ?_
  by_cases hpresent : present = false
  · rw [if_pos hpresent]
    refine Safe.heldWrite h₂ (h₂.uncommitted none hback) writes_remove fun d₃ hd₃ h₃ => ?_
    refine Safe.heldWrite h₃ h₃ writes_remove fun d₄ hd₄ h₄ => ?_
    refine safe_pure h₄.coherent ⟨none, ?_, fun hfalse => by cases hfalse⟩
    have hd₄ : d₄.toRecords = d₃.toRecords := hd₄
    have hd₃ : d₃.toRecords = { d₂.toRecords with databaseBackup := none } := hd₃
    rw [hd₄, hd₃, hd₂, hd₁]
  · rw [if_neg hpresent]
    refine Safe.heldRead h₂ (Reads.quiet (quiet_presentComponents _)) fun _ d₃ hd₃ h₃ _ => ?_
    refine Safe.heldWrite h₃ (h₃.uncommitted none hback) writes_remove fun d₄ hd₄ h₄ => ?_
    refine Safe.heldWrite h₄ h₄ writes_remove fun d₅ hd₅ h₅ => ?_
    refine Safe.attempt (safe_snapshotDatabase h₅ hback) (fun _ d₆ h₆ hwhole => ?_)
      fun e d₆ h₆ => ?_
    · obtain ⟨whole, hd₆⟩ := hwhole
      refine safe_pure h₆ ⟨some (.whole whole), ?_, fun _ => ⟨whole, rfl⟩⟩
      have hd₅ : d₅.toRecords = d₄.toRecords := hd₅
      have hd₄ : d₄.toRecords = { d₃.toRecords with databaseBackup := none } := hd₄
      rw [hd₆, hd₅, hd₄, hd₃, hd₂, hd₁]
    · refine Safe.read (R := fun _ => True) (Reads.ask rfl fun _ _ _ => trivial) h₆
        fun _ d₇ hd₇ _ => ?_
      rw [← hd₇] at h₆
      exact safe_throw h₆

/-- The transaction goes on to another phase. -/
theorem Held.advance {x : Records H} {phase : TransactionPhase}
    (h : Held plutil schema paths known t x)
    (hrestores : t.databaseBackedUp = true → phase.databaseMayHaveChanged = true) :
    Held plutil schema paths known { t with phase := phase }
      { x with transaction := some { t with phase := phase } } := by
  refine ⟨rfl, h.version, h.known, h.lease.rewrite rfl rfl rfl h.lease.backup fun hback => ?_⟩
  have hphase := hrestores hback
  simp only [InstallTransaction.inRollback, hphase, Bool.or_true]

/-- What the transaction says of its snapshot holds before it is written. -/
theorem safe_backUp (h : Held plutil schema paths known t d.toRecords)
    (hback : t.databaseBackedUp = false) :
    Safe plutil schema paths known (backUp paths t) d fun t' x =>
      x.generations = d.generations ∧ Held plutil schema paths known t x ∧
        t'.candidateGeneration = t.candidateGeneration ∧ t'.phase = .databaseBackedUp ∧
        Held plutil schema paths known t' { x with transaction := some t' } := by
  have hrestores : ∀ backed version, ({ t with
      databaseBackedUp := backed
      databaseBackupSchemaVersion := version
      phase := .databaseBackedUp } : InstallTransaction).inRollback.rollbackDatabaseRestore
        = true := by
    intro backed version
    simp only [InstallTransaction.inRollback, TransactionPhase.databaseMayHaveChanged, Bool.or_true]
  refine Safe.bind (safe_backupDatabase h hback) fun present d₁ h₁ => ?_
  obtain ⟨backup, hd₁, hwhole⟩ := h₁
  have h₁ := h.uncommitted backup hback
  rw [← hd₁] at h₁
  have hgenerations : d₁.generations = d.generations := by rw [hd₁]
  cases present with
  | false =>
      refine safe_pure h₁.coherent ⟨hgenerations, h₁, rfl, rfl, rfl, h₁.version, h₁.known, ?_⟩
      refine h₁.lease.rewrite rfl rfl rfl (fun hfalse => ?_) fun _ => hrestores _ _
      cases hfalse
  | true =>
      obtain ⟨whole, rfl⟩ := hwhole rfl
      have hbackup : d₁.databaseBackup = some (.whole whole) := by rw [hd₁]
      have hversion : Reads plutil schema
          (orFail (Prog.ask (Call.schemaVersion .databaseBackup))) d₁
          fun n => n = schema whole := by
        refine Reads.orFail (Reads.ask rfl ?_)
        rintro r d' ⟨database, -, hschema⟩ n rfl
        exact hschema n whole rfl hbackup
      refine Safe.heldRead h₁ hversion fun n d₂ hd₂ h₂ hn => ?_
      rw [← hd₂] at hbackup
      have hgenerations : d₂.generations = d.generations := by
        rw [hd₂]
        exact hgenerations
      refine safe_pure h₂.coherent ⟨hgenerations, h₂, rfl, rfl, rfl, h₂.version, h₂.known, ?_⟩
      refine h₂.lease.rewrite rfl rfl rfl (fun _ => ⟨whole, hbackup, fun version hsome => ?_⟩)
        fun _ => hrestores _ _
      obtain rfl := Option.some.inj hsome
      exact hn.symm

/-! ## Installing -/

theorem quiet_drainPrior (launchd : LaunchdState) (status : Option DaemonStatus)
    (offline : Bool) : (drainPrior launchd status offline).Only fun c => c.quiet = true := by
  unfold drainPrior
  split_ifs with hrunning
  · refine Prog.Only.bind (Prog.Only.ask rfl fun _ => Prog.only_orThrow) fun _ => ?_
    exact Prog.Only.ask rfl fun _ => Prog.only_orThrow
  · exact Prog.only_orThrow

theorem quiet_awaitStatus {awaited : Awaited}
    {f : ServiceStatusReport → ServiceProg ServiceStatusReport}
    (hf : ∀ report, (f report).Only fun c => c.quiet = true) :
    (orFail (Prog.ask (Call.awaitStatus awaited)) >>= f).Only fun c => c.quiet = true :=
  Prog.Only.bind (Prog.Only.ask rfl fun _ => Prog.only_orThrow) hf

theorem quiet_waitForGenerationReady (uid generation : Nat) :
    (waitForGenerationReady uid generation).Only fun c => c.quiet = true := by
  refine quiet_awaitStatus fun report => ?_
  split_ifs with h
  · exact Prog.only_pure
  · exact Prog.only_throw

theorem quiet_waitForMode (uid : Nat) (mode : DaemonMode) :
    (waitForMode uid mode).Only fun c => c.quiet = true := by
  refine quiet_awaitStatus fun report => ?_
  split_ifs with h
  · exact Prog.only_pure
  · exact Prog.only_throw

/-- The candidate may be selected once it is sealed. -/
theorem Held.selectCandidate {x : Records H} {contents : String}
    (h : Held plutil schema paths known t x)
    (hplist : installedOf plutil paths (some contents) = .ok (some t.candidateGeneration))
    (hsealed : Sealed x t.candidateGeneration) :
    Held plutil schema paths known t { x with launchAgent := some contents } := by
  refine ⟨h.transaction, h.version, h.known, h.lease.select ⟨_, hplist, fun g hg => ?_⟩⟩
  obtain rfl := Option.some.inj hg
  exact ⟨allowsGeneration_candidate, hsealed⟩

/-- And made active. -/
theorem Held.activateCandidate {x : Records H} {mode : DaemonMode}
    (h : Held plutil schema paths known t x) (hsealed : Sealed x t.candidateGeneration) :
    Held plutil schema paths known t
      { x with activeManifest := some (.new t.candidateGeneration mode) } := by
  refine ⟨h.transaction, h.version, h.known, h.lease.activate fun m hm => ?_⟩
  obtain rfl := Option.some.inj hm
  exact ⟨rfl, allowsGeneration_candidate, hsealed⟩

/-- Selecting the candidate and starting it, as an installation ends. -/
theorem safe_startCandidate {uid : Nat} {plist : String}
    (h : Held plutil schema paths known t d.toRecords)
    (hplist : installedOf plutil paths (some plist) = .ok (some t.candidateGeneration))
    (hsealed : Sealed d.toRecords t.candidateGeneration) :
    Safe plutil schema paths known
      (do
        orFail (Prog.ask (Call.writeLaunchAgent plist))
        orFail (Prog.ask (Call.writeManifest (.new t.candidateGeneration .reportOnly)))
        persistTransaction { t with phase := .candidateSelected }
        Prog.ask Call.dropDaemonLock
        orFail (Prog.ask Call.bootstrap)
        let _ ← waitForGenerationReady uid t.candidateGeneration
        persistTransaction { t with phase := .candidateReadyReportOnly }) d fun _ _ => True := by
  refine Safe.heldWrite h (h.selectCandidate hplist hsealed) writes_launchAgent fun d₁ hd₁ h₁ => ?_
  have hsealed : Sealed d₁.toRecords t.candidateGeneration := by
    rw [hd₁]
    exact hsealed
  refine Safe.heldWrite h₁ (h₁.activateCandidate hsealed) writes_manifest fun d₂ _ h₂ => ?_
  refine Safe.heldWrite h₂ (h₂.advance fun _ => rfl) writes_transaction fun d₃ _ h₃ => ?_
  refine Safe.heldRead (R := fun _ => True) h₃ (Reads.ask rfl fun _ _ _ => trivial)
    fun _ d₄ _ h₄ _ => ?_
  refine Safe.heldRead h₄ (Reads.quiet (Prog.Only.ask rfl fun _ => Prog.only_orThrow))
    fun _ d₅ _ h₅ _ => ?_
  refine Safe.heldRead h₅ (Reads.quiet (quiet_waitForGenerationReady _ _)) fun _ d₆ _ h₆ _ => ?_
  have hready : Held plutil schema paths known { t with phase := .candidateReadyReportOnly }
      { d₆.toRecords with transaction := some { t with phase := .candidateReadyReportOnly } } :=
    h₆.advance fun _ => rfl
  exact Safe.ofWrites writes_transaction h₆.coherent hready.coherent trivial

/-- **Installing a candidate** keeps its transaction's lease. -/
theorem safe_installCandidate {uid : Nat} {launchd : LaunchdState} {status : Option DaemonStatus}
    {offline : Bool} (h : Held plutil schema paths known t d.toRecords)
    (habsent : d.generations.lookup t.candidateGeneration = none)
    (hback : t.databaseBackedUp = false) :
    Safe plutil schema paths known (installCandidate paths uid launchd status offline t) d
      fun _ _ => True := by
  have hcreated : Safe plutil schema paths known (createGeneration t.candidateGeneration) d
      fun _ x => Held plutil schema paths known t x ∧ Sealed x t.candidateGeneration := by
    have hframed : Upholds (Disk.serves plutil schema)
        (fun y => Frame t.candidateGeneration d.toRecords y.toRecords)
        (createGeneration t.candidateGeneration) d fun o d' => ∀ u, o = .ok u →
          Held plutil schema paths known t d'.toRecords ∧
            Sealed d'.toRecords t.candidateGeneration :=
      Upholds.post upholds_createGeneration fun o d' hd' ho u hu => ⟨h.frame habsent hd', ho hu⟩
    exact hframed.mono (fun x hx => (h.frame habsent hx).coherent) fun o d' ho => ho
  refine Safe.bind hcreated fun _ d₁ h₁ => ?_
  obtain ⟨h₁, hsealed⟩ := h₁
  have hnot : ∀ phase : TransactionPhase,
      t.databaseBackedUp = true → phase.databaseMayHaveChanged = true := by
    intro phase hbacked
    rw [hback] at hbacked
    cases hbacked
  refine Safe.heldWrite h₁ (h₁.advance (hnot .candidateDurable)) writes_transaction
    fun d₂ hd₂ h₂ => ?_
  refine Safe.heldRead h₂ reads_validatePlist fun _ d₃ hd₃ h₃ hplist => ?_
  obtain ⟨document, hdocument, hvalid⟩ := hplist
  have hplist : installedOf plutil paths (some (launchAgentPlist paths t.candidateGeneration))
      = .ok (some t.candidateGeneration) := by
    simp only [installedOf, hdocument, ok_bind]
    exact installedGeneration_of_managed hvalid
  refine Safe.heldRead h₃ (Reads.quiet (quiet_drainPrior _ _ _)) fun _ d₄ hd₄ h₄ _ => ?_
  refine Safe.heldWrite h₄ (h₄.advance (hnot .priorDrained)) writes_transaction
    fun d₅ hd₅ h₅ => ?_
  have hsealed : Sealed d₅.toRecords t.candidateGeneration := by
    rw [hd₅, hd₄, hd₃, hd₂]
    exact hsealed
  refine Safe.bind (safe_backUp h₅ hback) fun t₆ d₆ h₆ => ?_
  obtain ⟨hgenerations, h₆, hcandidate, hphase, hafter⟩ := h₆
  refine Safe.heldWrite h₆ hafter writes_transaction fun d₇ hd₇ h₇ => ?_
  have hsealed : Sealed d₇.toRecords t₆.candidateGeneration := by
    have hsealed : Sealed d₆.toRecords t.candidateGeneration := by
      unfold Sealed
      rw [hgenerations]
      exact hsealed
    rw [hd₇, hcandidate]
    exact hsealed
  rw [← hcandidate] at hplist
  rw [← hcandidate]
  exact safe_startCandidate h₇ hplist hsealed

theorem quiet_beginMutation : beginMutation.Only fun c => c.quiet = true := by
  refine Prog.Only.bind (Prog.Only.ask rfl fun _ => Prog.only_orThrow) fun uid => ?_
  refine Prog.Only.bind (Prog.Only.ask rfl fun _ => Prog.only_orThrow) fun _ => ?_
  exact Prog.Only.bind (Prog.Only.ask rfl fun _ => Prog.only_orThrow) fun _ => Prog.only_pure

theorem quiet_priorStatus (launchd : LaunchdState) :
    (priorStatus launchd).Only fun c => c.quiet = true := by
  unfold priorStatus
  split
  · exact Prog.Only.ask rfl fun _ => Prog.only_orThrow
  · exact Prog.only_pure

theorem quiet_proveOfflineUnlessRunning (launchd : LaunchdState) :
    (proveOfflineUnlessRunning launchd).Only fun c => c.quiet = true := by
  unfold proveOfflineUnlessRunning
  split
  · refine Prog.Only.bind (Prog.Only.ask rfl fun _ => Prog.only_orThrow) fun _ => ?_
    exact Prog.Only.bind (Prog.Only.ask rfl fun _ => Prog.only_orThrow) fun _ => Prog.only_pure
  · exact Prog.Only.bind (Prog.Only.ask rfl fun _ => Prog.only_orThrow) fun _ => Prog.only_pure
  · exact Prog.only_pure

/-- What an installation does where its candidate failed. -/
theorem safe_recoverFailed {uid : Nat} {β : Type} {onOk : ServiceError}
    {onError : ServiceError → ServiceError} (hpaths : paths.Managed)
    (h : Coherent plutil schema paths known d.toRecords) :
    Safe plutil schema paths known
      (do
        match ← (recoverIncompleteInstall paths uid).attempt with
        | .ok () => (Prog.throw onOk : ServiceProg β)
        | .error recoveryError => Prog.throw (onError recoveryError)) d fun _ _ => True := by
  refine Safe.attempt (safe_recoverIncompleteInstall hpaths h) (fun _ d' hd' _ => ?_)
    fun e d' hd' => ?_
  · exact safe_throw hd'
  · exact safe_throw hd'

/-- **An installation, cut anywhere**, leaves the records coherent, where
what it may find selected is known. -/
theorem safe_install {mode : DaemonMode} (hpaths : paths.Managed)
    (h : Coherent plutil schema paths known d.toRecords)
    (hopen : ∀ x, Cut (Disk.serves plutil schema) (install paths mode) d x →
      x.transaction = none → known x.launchAgent x.activeManifest) :
    Safe plutil schema paths known (install paths mode) d fun _ _ => True := by
  have hread : ∀ {β : Type} {R : β → Prop} {p : ServiceProg β} {d : Disk H},
      Coherent plutil schema paths known d.toRecords → Reads plutil schema p d R →
      Safe plutil schema paths known p d fun a x => x = d.toRecords ∧ R a :=
    fun hd hp => Safe.ofReads hp hd fun a ha => ⟨rfl, ha⟩
  refine Safe.within (hread h (reads_check (P := fun _ => True) fun _ _ => trivial)) hopen
    fun _ d₁ hd₁ hopen => ?_
  rw [← hd₁.1] at h
  refine Safe.within (hread h (Reads.quiet quiet_beginMutation)) hopen fun uid d₂ hd₂ hopen => ?_
  rw [← hd₂.1] at h
  -- from here on no transaction is open
  have hrecovered : Safe plutil schema paths known (recoverIncompleteInstall paths uid) d₂
      fun _ x => Coherent plutil schema paths known x ∧ x.transaction = none := by
    exact Upholds.post (safe_recoverIncompleteInstall hpaths h) fun o d' hd' ho u hu =>
      ⟨hd', ho u hu⟩
  refine Safe.within hrecovered hopen fun _ d₃ hd₃ hopen => ?_
  obtain ⟨h₃, hnone⟩ := hd₃
  refine Safe.within (hread h₃ (Reads.quiet (Prog.Only.ask rfl fun _ => Prog.only_orThrow))) hopen
    fun launchd d₄ hd₄ hopen => ?_
  rw [← hd₄.1] at h₃
  refine Safe.within (hread h₃ (Reads.quiet (quiet_priorStatus _))) hopen
    fun status d₅ hd₅ hopen => ?_
  rw [← hd₅.1] at h₃
  refine Safe.within (hread h₃ (Reads.quiet (quiet_proveOfflineUnlessRunning _))) hopen
    fun offline d₆ hd₆ hopen => ?_
  rw [← hd₆.1] at h₃
  refine Safe.within (hread h₃ reads_openTransaction) hopen fun t d₇ hd₇ hopen => ?_
  obtain ⟨hd₇, hopened⟩ := hd₇
  rw [← hd₇] at h₃ hopened
  have hnone : d₇.transaction = none := by
    rw [hd₇, hd₆.1, hd₅.1, hd₄.1]
    exact hnone
  have h₇ := hopened.held hpaths h₃ (hopen d₇ .here hnone)
  refine Safe.write writes_transaction h₃ h₇.coherent fun d₈ hd₈ => ?_
  rw [← hd₈] at h₇
  have habsent : d₈.generations.lookup t.candidateGeneration = none := by
    rw [hd₈]
    exact hopened.absent
  have hback : t.databaseBackedUp = false := by
    obtain ⟨loaded, hnew⟩ := hopened.new
    rw [hnew]
    rfl
  -- both ends of the attempt leave the lock, and only a failure recovers
  have hfinish : ∀ (result : Except ServiceError Unit) (d₉ : Disk H),
      Coherent plutil schema paths known d₉.toRecords →
      Safe plutil schema paths known
        (do
          Prog.ask Call.dropDaemonLock
          match result with
          | .ok () => waitForMode uid .reportOnly
          | .error error =>
              match ← (recoverIncompleteInstall paths uid).attempt with
              | .ok () =>
                  Prog.throw ⟨"candidate installation failed: " ++ error.message
                    ++ "; prior service restored report-only"⟩
              | .error recoveryError =>
                  Prog.throw ⟨"candidate installation failed: " ++ error.message
                    ++ "; report-only recovery failed: " ++ recoveryError.message⟩) d₉
        fun _ _ => True := by
    intro result d₉ h₉
    refine Safe.read (R := fun _ => True) (Reads.ask rfl fun _ _ _ => trivial) h₉
      fun _ d₁₀ hd₁₀ _ => ?_
    rw [← hd₁₀] at h₉
    cases result with
    | ok u =>
        exact Safe.ofReads (Reads.quiet (quiet_waitForMode _ _)) h₉ fun _ _ => trivial
    | error error => exact safe_recoverFailed hpaths h₉
  exact Safe.attempt (safe_installCandidate h₇ habsent hback)
    (fun u d₉ h₉ _ => hfinish (.ok u) d₉ h₉) fun e d₉ h₉ => hfinish (.error e) d₉ h₉

end Cli

end Unlinger
