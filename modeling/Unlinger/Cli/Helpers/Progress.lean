import Unlinger.Cli.Helpers.Commands

/-!
# Recovery where nothing fails

What each part of a recovery does where every call does what it is asked
to. A recovery that may start comes to its end, and leaves what was there
before the transaction, report-only. The one that may not start is
stranded: a snapshot is there that the transaction does not say it made.
-/

namespace Unlinger

open Interaction Crash

namespace Cli

variable {H : Type} {α β : Type}

/-! ## What a rollback leaves -/

/-- The components that are there, as evidence. -/
def Disk.evidenceOf (d : Disk H) (directory : String) : List (Evidence H) :=
  (DatabaseComponent.all.filter d.database.present).map fun component =>
    ⟨directory, component, d.database.contents component⟩

/-- The database a rollback leaves: the snapshot where one is committed,
none where the candidate made it, and the one that is there where no
candidate came to it. -/
def Disk.rolledBack (d : Disk H) (t : InstallTransaction) : Database H :=
  if t.inRollback.rollbackDatabaseRestore = true then
    if t.databaseBackedUp = true then ⟨d.databaseBackup, false, false, false⟩ else .absent
  else d.database

/-- What it keeps of the one it found. -/
def Disk.keptBy (d : Disk H) (t : InstallTransaction) (directory : String) : List (Evidence H) :=
  if t.inRollback.rollbackDatabaseRestore = true then d.evidenceOf directory else []

/-- The prior installation is back, report-only, and nothing of the
transaction is left. -/
structure Restored (plutil : String → Except ServiceError LaunchAgentDocument)
    (paths : LocalPaths) (t : InstallTransaction) (d d' : Disk H) : Prop where
  transaction : d'.transaction = none
  backup : d'.databaseBackup = none
  pending : d'.databaseBackupPending = none
  launchAgent : rollbackTargetOf plutil paths t = .ok d'.launchAgent
  manifest : d'.activeManifest = t.priorManifest.map ActiveServiceManifest.rollbackFloor
  generations : d'.generations = d.generations
  prior : ∀ m, t.priorManifest = some m → Sealed d'.toRecords m.activeGeneration
  database : d'.database = d.rolledBack t
  evidence : ∃ directory, d'.failedGenerations = d.failedGenerations ++ d.keptBy t directory

/-- A snapshot is there that the transaction does not say it made. -/
def Stranded (t : InstallTransaction) (d : Disk H) : Prop :=
  t.databaseBackedUp = false ∧ d.databaseBackup.isSome = true

/-! ## The judgement -/

/-- Where nothing fails, the command ends with a value, which `P` tells of
with the disk it leaves. -/
def Finishes (plutil : String → Except ServiceError LaunchAgentDocument) (schema : H → Nat)
    (p : ServiceProg α) (d : Disk H) (P : α → Disk H → Prop) : Prop :=
  Upholds (Disk.obeys plutil schema) (fun _ => True) p d fun o d' => ∃ a, o = .ok a ∧ P a d'

variable {plutil : String → Except ServiceError LaunchAgentDocument} {schema : H → Nat}
  {paths : LocalPaths} {known : Selections} {d d' : Disk H} {t : InstallTransaction}
  {P : α → Disk H → Prop} {Q : β → Disk H → Prop}

theorem finishes_pure {a : α} (h : P a d) : Finishes plutil schema (pure a) d P :=
  ⟨trivial, a, rfl, h⟩

/-- What follows a part that finishes, whatever becomes of it. -/
theorem Finishes.then {p : ServiceProg α} {f : α → ServiceProg β}
    {R : Except ServiceError β → Disk H → Prop} (h : Finishes plutil schema p d P)
    (hf : ∀ a d', P a d' → Upholds (Disk.obeys plutil schema) (fun _ => True) (f a) d' R) :
    Upholds (Disk.obeys plutil schema) (fun _ => True) (p >>= f) d R := by
  refine Upholds.bind h (fun a d' ha => ?_) fun e d' _ he => ?_
  · obtain ⟨a', ha', hP⟩ := ha
    obtain rfl := Except.ok.inj ha'
    exact hf a d' hP
  · obtain ⟨a, ha, -⟩ := he
    cases ha

/-- **Sequencing.** -/
theorem Finishes.bind {p : ServiceProg α} {f : α → ServiceProg β}
    (h : Finishes plutil schema p d P)
    (hf : ∀ a d', P a d' → Finishes plutil schema (f a) d' Q) :
    Finishes plutil schema (p >>= f) d Q :=
  Finishes.then h hf

/-- A check that passes. -/
theorem finishes_check {x : Except ServiceError α} {a : α} (h : x = .ok a) (hP : P a d) :
    Finishes plutil schema (check x) d P := by
  subst h
  exact finishes_pure hP

/-- A requirement that is met. -/
theorem finishes_require {p : Prop} [Decidable p] {e : ServiceError} (h : p) :
    Finishes plutil schema (check (require p e)) d fun _ d' => d' = d := by
  have hmet : require p e = .ok () := require_eq_ok.2 h
  exact finishes_check hmet rfl

/-- A call that may fail, and does not. -/
theorem finishes_call {c : Call} {k : Answer c → Except ServiceError α}
    (h : ∀ r d', Disk.obeys plutil schema d c r d' → ∃ a, k r = .ok a ∧ P a d') :
    Finishes plutil schema (orFail (.call c fun r => .ret (k r))) d P := by
  refine ⟨trivial, fun r d' hserve => ?_⟩
  obtain ⟨a, ha, hP⟩ := h r d' hserve
  change Upholds _ _ (Prog.orThrow id (k r)) d' _
  rw [ha]
  exact ⟨trivial, a, rfl, hP⟩

/-- What is looked at and does not fail is what is there. -/
theorem Disk.Looks.answered {r : Except ServiceError α} {truth : α}
    (h : Disk.Looks d r d' truth) (hr : ∃ a, r = .ok a) : r = .ok truth ∧ d' = d := by
  obtain ⟨a, rfl⟩ := hr
  rw [h.2 a rfl]
  exact ⟨rfl, h.1⟩

/-- A change that does not fail is made. -/
theorem Disk.Changes.made {r : Except ServiceError Unit} {after : Disk H}
    (h : Disk.Changes d r d' after) (hr : r = .ok ()) : d' = after := by
  rcases h with rfl | ⟨-, e, rfl⟩
  · rfl
  · cases hr

/-! ## Single steps -/

theorem finishes_removeFileDurable {path : ManagedPath} :
    Finishes plutil schema (removeFileDurable path) d fun _ d' => d' = d.remove path := by
  refine finishes_call fun r d' hserve => ?_
  obtain ⟨hchanges, hr⟩ := hserve
  exact ⟨(), hr, Disk.Changes.made hchanges hr⟩

theorem finishes_persistTransaction :
    Finishes plutil schema (persistTransaction t) d
      fun _ d' => d' = { d with transaction := some t } := by
  refine finishes_call fun r d' hserve => ?_
  obtain ⟨hchanges, hr⟩ := hserve
  exact ⟨(), hr, Disk.Changes.made hchanges hr⟩

theorem finishes_writeManifest {manifest : ActiveServiceManifest} :
    Finishes plutil schema (orFail (Prog.ask (Call.writeManifest manifest))) d
      fun _ d' => d' = { d with activeManifest := some manifest } := by
  refine finishes_call fun r d' hserve => ?_
  obtain ⟨hchanges, hr⟩ := hserve
  exact ⟨(), hr, Disk.Changes.made hchanges hr⟩

theorem finishes_writeLaunchAgent {contents : String} :
    Finishes plutil schema (orFail (Prog.ask (Call.writeLaunchAgent contents))) d
      fun _ d' => d' = { d with launchAgent := some contents } := by
  refine finishes_call fun r d' hserve => ?_
  obtain ⟨hchanges, hr⟩ := hserve
  exact ⟨(), hr, Disk.Changes.made hchanges hr⟩

theorem finishes_readOptionalTransaction
    (hversion : ∀ t, d.transaction = some t → t.schemaVersion = serviceTransactionSchemaVersion) :
    Finishes plutil schema readOptionalTransaction d
      fun o d' => o = d.transaction ∧ d' = d := by
  have hread : Finishes plutil schema (orFail (Prog.ask Call.readTransaction)) d
      fun o d' => o = d.transaction ∧ d' = d := by
    refine finishes_call fun r d' hserve => ?_
    obtain ⟨hr, hd'⟩ := Disk.Looks.answered hserve.1 hserve.2
    exact ⟨_, hr, rfl, hd'⟩
  refine Finishes.bind hread fun o d' ho => ?_
  obtain ⟨rfl, rfl⟩ := ho
  cases ht : d'.transaction with
  | none => exact finishes_pure ⟨rfl, rfl⟩
  | some t =>
      refine Finishes.bind (finishes_require (hversion t ht)) fun _ d'' hd'' => ?_
      subst hd''
      exact finishes_pure ⟨rfl, rfl⟩

theorem finishes_readOptionalManifest
    (hversion : ∀ m, d.activeManifest = some m → m.schemaVersion = serviceManifestSchemaVersion) :
    Finishes plutil schema readOptionalManifest d
      fun o d' => o = d.activeManifest ∧ d' = d := by
  have hread : Finishes plutil schema (orFail (Prog.ask Call.readManifest)) d
      fun o d' => o = d.activeManifest ∧ d' = d := by
    refine finishes_call fun r d' hserve => ?_
    obtain ⟨hr, hd'⟩ := Disk.Looks.answered hserve.1 hserve.2
    exact ⟨_, hr, rfl, hd'⟩
  refine Finishes.bind hread fun o d' ho => ?_
  obtain ⟨rfl, rfl⟩ := ho
  cases hm : d'.activeManifest with
  | none => exact finishes_pure ⟨rfl, rfl⟩
  | some m =>
      refine Finishes.bind (finishes_require (hversion m hm)) fun _ d'' hd'' => ?_
      subst hd''
      exact finishes_pure ⟨rfl, rfl⟩

/-- A LaunchAgent that reads is read. -/
theorem finishes_parseLaunchAgent {contents : String} {document : LaunchAgentDocument}
    (h : plutil contents = .ok document) :
    Finishes plutil schema (parseLaunchAgent contents) d
      fun a d' => a = document ∧ d' = d := by
  refine finishes_call fun r d' hserve => ?_
  obtain ⟨⟨hd', -⟩, hr⟩ := hserve
  have hr : r = plutil contents := hr
  exact ⟨document, hr.trans h, rfl, hd'⟩

theorem finishes_installedGeneration {o : Option Nat}
    (h : installedOf plutil paths d.launchAgent = .ok o) :
    Finishes plutil schema (installedGeneration paths) d fun a d' => a = o ∧ d' = d := by
  have hread : Finishes plutil schema (orFail (Prog.ask Call.readLaunchAgent)) d
      fun o d' => o = d.launchAgent ∧ d' = d := by
    refine finishes_call fun r d' hserve => ?_
    obtain ⟨hr, hd'⟩ := Disk.Looks.answered hserve.1 hserve.2
    exact ⟨_, hr, rfl, hd'⟩
  refine Finishes.bind hread fun contents d' hc => ?_
  obtain ⟨rfl, rfl⟩ := hc
  cases hcontents : d'.launchAgent with
  | none =>
      rw [hcontents] at h
      obtain rfl := Except.ok.inj h
      exact finishes_pure ⟨rfl, rfl⟩
  | some contents =>
      rw [hcontents] at h
      obtain ⟨document, hdocument, hinstalled⟩ := bind_eq_ok.1 h
      refine Finishes.bind (finishes_parseLaunchAgent hdocument) fun a d'' ha => ?_
      obtain ⟨rfl, rfl⟩ := ha
      exact finishes_check hinstalled ⟨rfl, rfl⟩

theorem finishes_rollbackTarget {target : Option String}
    (h : rollbackTargetOf plutil paths t = .ok target) :
    Finishes plutil schema (rollbackTarget paths t) d fun a d' => a = target ∧ d' = d := by
  unfold rollbackTargetOf at h
  unfold rollbackTarget
  cases hprior : t.priorPlist with
  | none =>
      rw [hprior] at h
      obtain rfl := Except.ok.inj h
      exact finishes_pure ⟨rfl, rfl⟩
  | some priorPlist =>
      rw [hprior] at h
      simp only [bind_eq_ok, pure_eq_ok] at h
      obtain ⟨document, hdocument, contents, htext, reportOnly, hreads, u, hvalid, rfl⟩ := h
      have hcontents : Finishes plutil schema (reportOnlyRollbackPlist priorPlist) d
          fun a d' => a = contents ∧ d' = d := by
        refine Finishes.bind (finishes_parseLaunchAgent hdocument) fun a d' ha => ?_
        obtain ⟨rfl, rfl⟩ := ha
        exact finishes_check htext ⟨rfl, rfl⟩
      have hvalidated : Finishes plutil schema
          (validateReportOnlyRollbackPlist paths t priorPlist) d
          fun a d' => a = contents ∧ d' = d := by
        refine Finishes.bind hcontents fun a d' ha => ?_
        obtain ⟨rfl, rfl⟩ := ha
        have hplist : Finishes plutil schema (validatePlist a (t.rollbackExpectation paths).1
            (t.rollbackExpectation paths).2) d' fun _ d'' => d'' = d' := by
          refine Finishes.bind (finishes_parseLaunchAgent hreads) fun b d'' hb => ?_
          obtain ⟨rfl, rfl⟩ := hb
          exact finishes_check hvalid rfl
        refine Finishes.bind hplist fun _ d'' hd'' => ?_
        subst hd''
        exact finishes_pure ⟨rfl, rfl⟩
      refine Finishes.bind hvalidated fun a d' ha => ?_
      obtain ⟨rfl, rfl⟩ := ha
      exact finishes_pure ⟨rfl, rfl⟩

/-- A generation that is sealed passes for one. -/
theorem finishes_validateRollbackGeneration {generation : Nat}
    (h : Sealed d.toRecords generation) :
    Finishes plutil schema (validateRollbackGeneration generation) d fun _ d' => d' = d := by
  have hlookup : d.generations.lookup generation = some ⟨.new generation, true⟩ := h
  have hinspect : Finishes plutil schema (orFail (Prog.ask (Call.inspectGeneration generation))) d
      fun dir d' => dir = ⟨.new generation, true⟩ ∧ d' = d := by
    refine finishes_call fun r d' hserve => ?_
    obtain ⟨⟨hd', hdir⟩, hr⟩ := hserve
    obtain ⟨dir, rfl⟩ := hr (by simp [OrdMap.contains, hlookup])
    have hsame := (hdir dir rfl).symm.trans hlookup
    exact ⟨dir, rfl, Option.some.inj hsame, hd'⟩
  have hvalid : Finishes plutil schema (validateGeneration generation) d
      fun dir d' => dir = ⟨.new generation, true⟩ ∧ d' = d := by
    refine Finishes.bind hinspect fun dir d' hdir => ?_
    obtain ⟨rfl, rfl⟩ := hdir
    refine Finishes.bind (finishes_require rfl)
      fun _ d'' hd'' => ?_
    subst hd''
    exact finishes_pure ⟨rfl, rfl⟩
  refine Finishes.bind hvalid fun dir d' hdir => ?_
  obtain ⟨rfl, rfl⟩ := hdir
  exact finishes_require rfl

/-- What is in scope passes for it. -/
theorem finishes_rollbackSelectionScope (h : InScope plutil paths t d.toRecords) :
    Finishes plutil schema (validateRollbackSelectionScope paths t) d fun _ d' => d' = d := by
  obtain ⟨o, hinstalled, hallowed⟩ := h.launchAgent
  have hlaunchAgent : Finishes plutil schema (validateLaunchAgentScope paths t) d
      fun _ d' => d' = d := by
    refine Finishes.bind (finishes_installedGeneration hinstalled) fun a d' ha => ?_
    obtain ⟨rfl, rfl⟩ := ha
    cases a with
    | none => exact finishes_pure rfl
    | some generation =>
        obtain ⟨hallows, hsealed⟩ := hallowed generation rfl
        refine Finishes.bind (finishes_require hallows)
          fun _ d'' hd'' => ?_
        subst hd''
        exact finishes_validateRollbackGeneration hsealed
  refine Finishes.bind hlaunchAgent fun _ d' hd' => ?_
  subst hd'
  refine Finishes.bind (finishes_readOptionalManifest fun m hm => (h.manifest m hm).1)
    fun a d'' ha => ?_
  obtain ⟨rfl, rfl⟩ := ha
  cases hm : d''.activeManifest with
  | none => exact finishes_pure rfl
  | some m =>
      obtain ⟨-, hallows, hsealed⟩ := h.manifest m hm
      refine Finishes.bind (finishes_require hallows)
        fun _ d₃ hd₃ => ?_
      subst hd₃
      exact finishes_validateRollbackGeneration hsealed

/-! ## The database -/

theorem finishes_backupExists :
    Finishes plutil schema (orFail (Prog.ask (Call.pathEntryExists .databaseBackup))) d
      fun present d' => present = d.databaseBackup.isSome ∧ d' = d := by
  refine finishes_call fun r d' hserve => ?_
  obtain ⟨hr, hd'⟩ := Disk.Looks.answered hserve.1 hserve.2
  exact ⟨_, hr, rfl, hd'⟩

theorem finishes_inspectDatabaseFile {path : ManagedPath} (h : d.pathExists path = true) :
    Finishes plutil schema (orFail (Prog.ask (Call.inspectDatabaseFile path))) d
      fun _ d' => d' = d := by
  refine finishes_call fun r d' hserve => ?_
  obtain ⟨⟨hd', -⟩, hr⟩ := hserve
  exact ⟨(), hr h, hd'⟩

theorem finishes_validateSqlite {path : ManagedPath} {whole : H}
    (h : d.databaseFile path = some (.whole whole)) :
    Finishes plutil schema (orFail (Prog.ask (Call.validateSqlite path))) d
      fun _ d' => d' = d := by
  refine finishes_call fun r d' hserve => ?_
  obtain ⟨⟨hd', -⟩, hr⟩ := hserve
  exact ⟨(), hr ⟨whole, h⟩, hd'⟩

/-- The snapshot the transaction committed passes for it. -/
theorem finishes_committedBackup (hback : BackedUp schema t d.toRecords)
    (hclear : ¬ Stranded t d) :
    Finishes plutil schema (validateCommittedRollbackBackup t) d fun _ d' => d' = d := by
  unfold validateCommittedRollbackBackup
  by_cases hbacked : t.databaseBackedUp = false
  · rw [if_pos hbacked]
    refine Finishes.bind finishes_backupExists fun present d' hpresent => ?_
    obtain ⟨rfl, rfl⟩ := hpresent
    have hnone : d'.databaseBackup.isSome = false := by
      by_contra hsome
      exact hclear ⟨hbacked, Bool.eq_true_of_not_eq_false hsome⟩
    rw [hnone]
    exact finishes_pure rfl
  · rw [if_neg hbacked]
    obtain ⟨whole, hwhole, hversion⟩ := hback (Bool.eq_true_of_not_eq_false hbacked)
    have hwhole : d.databaseBackup = some (.whole whole) := hwhole
    have hexists : d.pathExists .databaseBackup = true := by simp [Disk.pathExists, hwhole]
    refine Finishes.bind (finishes_inspectDatabaseFile hexists) fun _ d' hd' => ?_
    subst hd'
    have hfile : d'.databaseFile .databaseBackup = some (.whole whole) := hwhole
    refine Finishes.bind (finishes_validateSqlite hfile) fun _ d'' hd'' => ?_
    subst hd''
    cases hschema : t.databaseBackupSchemaVersion with
    | none => exact finishes_pure rfl
    | some expected =>
        have hread : Finishes plutil schema
            (orFail (Prog.ask (Call.schemaVersion .databaseBackup))) d''
            fun n x => n = expected ∧ x = d'' := by
          refine finishes_call fun r x hserve => ?_
          obtain ⟨⟨hx, htrue⟩, hr⟩ := hserve
          obtain ⟨n, rfl⟩ := hr ⟨whole, hwhole⟩
          refine ⟨n, rfl, ?_, hx⟩
          rw [htrue n whole rfl hwhole]
          exact hversion expected hschema
        refine Finishes.bind hread fun n x hn => ?_
        obtain ⟨rfl, rfl⟩ := hn
        exact finishes_require rfl

theorem finishes_presentComponents (components : List DatabaseComponent) :
    Finishes plutil schema (presentComponents components) d
      fun present d' => present = components.filter d.database.present ∧ d' = d := by
  induction components with
  | nil => exact finishes_pure ⟨rfl, rfl⟩
  | cons component components ih =>
      have hread : Finishes plutil schema (orFail (Prog.ask (Call.databaseComponent component))) d
          fun present d' => present = d.database.present component ∧ d' = d := by
        refine finishes_call fun r d' hserve => ?_
        obtain ⟨hr, hd'⟩ := Disk.Looks.answered hserve.1 hserve.2
        exact ⟨_, hr, rfl, hd'⟩
      refine Finishes.bind hread fun present d' hpresent => ?_
      obtain ⟨rfl, rfl⟩ := hpresent
      refine Finishes.bind ih fun rest d'' hrest => ?_
      obtain ⟨rfl, rfl⟩ := hrest
      refine finishes_pure ⟨?_, rfl⟩
      rw [List.filter_cons]

theorem finishes_moveComponents (directory : String) (components : List DatabaseComponent) :
    Finishes plutil schema (moveComponents directory components) d
      fun _ d' => d' = components.foldl (fun x component => x.moveAway component directory) d := by
  induction components generalizing d with
  | nil => exact finishes_pure rfl
  | cons component components ih =>
      have hmove : Finishes plutil schema
          (orFail (Prog.ask (Call.moveToEvidence component directory))) d
          fun _ d' => d' = d.moveAway component directory := by
        refine finishes_call fun r d' hserve => ?_
        obtain ⟨hchanges, hr⟩ := hserve
        exact ⟨(), hr, Disk.Changes.made hchanges hr⟩
      refine Finishes.bind hmove fun _ d' hd' => ?_
      subst hd'
      exact ih

/-- Once all that is there is moved away, nothing is. -/
theorem moveAway_all (d : Disk H) (directory : String) :
    (DatabaseComponent.all.filter d.database.present).foldl
        (fun x component => x.moveAway component directory) d
      = { d with
          database := .absent
          failedGenerations := d.failedGenerations ++ d.evidenceOf directory } := by
  obtain ⟨records, pending, ⟨main, wal, shm, journal⟩, failed, stages, daemon, cli⟩ := d
  cases main <;> cases wal <;> cases shm <;> cases journal <;>
    simp [Disk.evidenceOf, DatabaseComponent.all, Database.present, List.filter, Disk.moveAway,
      Database.without, Database.contents, Database.absent]

/-- The failed database is kept. -/
theorem finishes_preserveFailedDatabase {generation : Nat} (hpaths : paths.Managed) :
    Finishes plutil schema (preserveFailedDatabase paths generation) d fun _ d' =>
      ∃ directory, d' = { d with
        database := .absent
        failedGenerations := d.failedGenerations ++ d.evidenceOf directory } := by
  refine Finishes.bind (finishes_require hpaths.database) fun _ d' hd' => ?_
  subst hd'
  refine Finishes.bind (finishes_presentComponents _) fun present d'' hpresent => ?_
  obtain ⟨rfl, rfl⟩ := hpresent
  by_cases hnone : DatabaseComponent.all.filter d''.database.present = []
  · rw [if_pos hnone]
    have hsame := moveAway_all d'' ""
    rw [hnone] at hsame
    exact finishes_pure ⟨"", hsame⟩
  · rw [if_neg hnone]
    have hcreate : Finishes plutil schema (orFail (Prog.ask (Call.createEvidence generation))) d''
        fun _ x => x = d'' := by
      refine finishes_call fun r x hserve => ?_
      obtain ⟨hx, directory, hr⟩ := hserve
      exact ⟨directory, hr, hx⟩
    refine Finishes.bind hcreate fun directory x hx => ?_
    subst hx
    refine Finishes.bind (finishes_moveComponents directory _) fun _ y hy => ?_
    rw [moveAway_all] at hy
    have hsync : Finishes plutil schema (orFail (Prog.ask Call.syncSupport)) y
        fun _ z => z = y :=
      finishes_call fun r z hserve => ⟨(), hserve.2, hserve.1⟩
    refine Finishes.bind hsync fun _ z hz => ?_
    subst hz
    exact finishes_pure ⟨directory, hy⟩

theorem finishes_requireNoComponents (h : d.database = .absent)
    (components : List DatabaseComponent) :
    Finishes plutil schema (requireNoComponents paths components) d fun _ d' => d' = d := by
  induction components with
  | nil => exact finishes_pure rfl
  | cons component components ih =>
      have hread : Finishes plutil schema
          (orFail (Prog.ask (Call.pathEntryExists (.database component)))) d
          fun present d' => present = false ∧ d' = d := by
        refine finishes_call fun r d' hserve => ?_
        obtain ⟨hr, hd'⟩ := Disk.Looks.answered hserve.1 hserve.2
        refine ⟨_, hr, ?_, hd'⟩
        rw [Disk.pathExists, h]
        cases component with
        | main | wal | shm | journal => rfl
      refine Finishes.bind hread fun present d' hpresent => ?_
      obtain ⟨rfl, rfl⟩ := hpresent
      exact ih

/-- The snapshot is put back, and what was there is kept. -/
theorem finishes_restoreDatabaseBackupFiles {generation : Nat} {whole : H}
    (hpaths : paths.Managed) (hwhole : d.databaseBackup = some (.whole whole)) :
    Finishes plutil schema (restoreDatabaseBackupFiles paths generation) d fun _ d' =>
      ∃ directory, d' = { d with
        database := ⟨d.databaseBackup, false, false, false⟩
        failedGenerations := d.failedGenerations ++ d.evidenceOf directory } := by
  have hexists : d.pathExists .databaseBackup = true := by simp [Disk.pathExists, hwhole]
  refine Finishes.bind (finishes_require hpaths.database) fun _ d₁ hd₁ => ?_
  subst hd₁
  refine Finishes.bind (finishes_inspectDatabaseFile hexists) fun _ d₂ hd₂ => ?_
  subst hd₂
  have hfile : d₂.databaseFile .databaseBackup = some (.whole whole) := hwhole
  refine Finishes.bind (finishes_validateSqlite hfile) fun _ d₃ hd₃ => ?_
  subst hd₃
  refine Finishes.bind (finishes_preserveFailedDatabase hpaths) fun evidence d₄ hd₄ => ?_
  obtain ⟨directory, rfl⟩ := hd₄
  refine Finishes.bind (finishes_requireNoComponents rfl _) fun _ d₅ hd₅ => ?_
  subst hd₅
  have hcopy : Finishes plutil schema (orFail (Prog.ask Call.copyBackup))
      { d₃ with
        database := .absent
        failedGenerations := d₃.failedGenerations ++ d₃.evidenceOf directory }
      fun _ x => x = { d₃ with
        database := ⟨d₃.databaseBackup, false, false, false⟩
        failedGenerations := d₃.failedGenerations ++ d₃.evidenceOf directory } := by
    refine finishes_call fun r x hserve => ?_
    obtain ⟨hcopies, hr⟩ := hserve
    have hr : r = .ok () := hr rfl (by simp [hwhole])
    refine ⟨(), hr, ?_⟩
    simp only [Disk.answers, Disk.CopiesBackup, Database.absent, hwhole, Option.isSome_none,
      Option.isNone_some, Bool.or_self, Bool.false_eq_true, if_false] at hcopies
    obtain ⟨⟨main, rfl⟩, hmain⟩ := hcopies
    have hmain : main = some (.whole whole) := hmain hr
    rw [hmain, hwhole]
  refine Finishes.bind hcopy fun _ d₆ hd₆ => ?_
  have hsync : Finishes plutil schema (orFail (Prog.ask Call.syncSupport)) d₆
      fun _ x => x = d₆ :=
    finishes_call fun r x hserve => ⟨(), hserve.2, hserve.1⟩
  refine Finishes.bind hsync fun _ d₇ hd₇ => ?_
  subst hd₇
  have hrestored : d₇.databaseFile (.database .main) = some (.whole whole) := by
    rw [hd₆]
    exact hwhole
  refine Finishes.bind (finishes_validateSqlite hrestored) fun _ d₈ hd₈ => ?_
  subst hd₈
  exact finishes_pure ⟨directory, hd₆⟩

/-- The database, as a rollback that was marked leaves it. -/
theorem finishes_rollbackDatabase (hpaths : paths.Managed) (hback : BackedUp schema t d.toRecords)
    (hclear : ¬ Stranded t d) :
    Finishes plutil schema (rollbackDatabase paths t.inRollback) d fun _ d' =>
      ∃ directory backup, d' = { d with
        databaseBackup := backup
        database := d.rolledBack t
        failedGenerations := d.failedGenerations ++ d.keptBy t directory } := by
  unfold rollbackDatabase Disk.rolledBack Disk.keptBy
  by_cases hrestore : t.inRollback.rollbackDatabaseRestore = true
  · simp only [if_pos hrestore]
    by_cases hbacked : t.databaseBackedUp = true
    · have hmarked : t.inRollback.databaseBackedUp = true := hbacked
      rw [if_pos hmarked]
      simp only [if_pos hbacked]
      obtain ⟨whole, hwhole, -⟩ := hback hbacked
      refine Finishes.bind (finishes_restoreDatabaseBackupFiles hpaths hwhole) fun _ d' hd' => ?_
      obtain ⟨directory, rfl⟩ := hd'
      exact finishes_pure ⟨directory, d.databaseBackup, rfl⟩
    · have hmarked : ¬ t.inRollback.databaseBackedUp = true := hbacked
      rw [if_neg hmarked]
      simp only [if_neg hbacked]
      refine Finishes.bind finishes_backupExists fun present d' hpresent => ?_
      obtain ⟨rfl, rfl⟩ := hpresent
      have hnone : d'.databaseBackup.isSome = false := by
        by_contra hsome
        exact hclear ⟨Bool.eq_false_iff.2 hbacked, Bool.eq_true_of_not_eq_false hsome⟩
      rw [hnone]
      refine Finishes.bind (finishes_preserveFailedDatabase hpaths) fun _ d'' hd'' => ?_
      obtain ⟨directory, rfl⟩ := hd''
      exact finishes_pure ⟨directory, d'.databaseBackup, rfl⟩
  · simp only [if_neg hrestore]
    refine Upholds.mono finishes_removeFileDurable (fun _ h => h) fun o d' ho => ?_
    obtain ⟨u, rfl, rfl⟩ := ho
    refine ⟨u, rfl, "", none, ?_⟩
    rw [List.append_nil]
    rfl

/-! ## The prior selection -/

theorem finishes_status :
    Finishes plutil schema (orFail (Prog.ask Call.status)) d fun _ d' => d' = d := by
  refine finishes_call fun r d' hserve => ?_
  obtain ⟨hd', report, hr⟩ := hserve
  exact ⟨report, hr, hd'⟩

/-- The prior service that is waited for comes back. -/
theorem finishes_waitForRestoredReportOnly {uid : Nat} (manifest : Option ActiveServiceManifest) :
    Finishes plutil schema (waitForRestoredReportOnly uid manifest) d fun _ d' => d' = d := by
  cases manifest with
  | some manifest =>
      have hawait : Finishes plutil schema (orFail (Prog.ask
          (Call.awaitStatus (.generationReady manifest.activeGeneration)))) d
          fun report d' =>
            (Awaited.generationReady manifest.activeGeneration).reached report = true ∧ d' = d := by
        refine finishes_call fun r d' hserve => ?_
        obtain ⟨hd', report, hr, hreached⟩ := hserve
        exact ⟨report, hr, hreached, hd'⟩
      refine Finishes.bind hawait fun report d' hreport => ?_
      obtain ⟨hreached, rfl⟩ := hreport
      rw [if_pos hreached]
      exact finishes_pure rfl
  | none =>
      have hawait : Finishes plutil schema (orFail (Prog.ask Call.awaitLegacy)) d
          fun polled d' => legacyRestored polled = true ∧ d' = d := by
        refine finishes_call fun r d' hserve => ?_
        obtain ⟨hd', polled, hr, hrestored⟩ := hserve
        exact ⟨polled, hr, hrestored, hd'⟩
      refine Finishes.bind hawait fun polled d' hpolled => ?_
      obtain ⟨hrestored, rfl⟩ := hpolled
      rw [if_pos hrestored]
      exact finishes_status

theorem finishes_restartPrior {uid : Nat} :
    Finishes plutil schema (restartPrior uid t) d fun _ d' => d' = d := by
  unfold restartPrior
  by_cases hloaded : t.priorWasLoaded = true
  · rw [if_pos hloaded]
    refine Upholds.ask trivial fun r d' hserve => ?_
    obtain ⟨rfl, -⟩ := hserve
    have hboot : Finishes plutil schema (orFail (Prog.ask Call.bootstrap)) d'
        fun _ x => x = d' :=
      finishes_call fun r x hserve => ⟨(), hserve.2, hserve.1⟩
    refine Finishes.bind hboot fun _ x hx => ?_
    subst hx
    refine Finishes.bind (finishes_waitForRestoredReportOnly _) fun _ y hy => ?_
    subst hy
    exact finishes_pure rfl
  · rw [if_neg hloaded]
    exact finishes_pure rfl

theorem finishes_publishPriorManifest :
    Finishes plutil schema (publishPriorManifest t) d fun _ d' =>
      d' = { d with
        activeManifest := t.priorManifest.map ActiveServiceManifest.rollbackFloor } := by
  unfold publishPriorManifest
  cases t.priorManifest with
  | some prior => exact finishes_writeManifest
  | none => exact finishes_removeFileDurable

/-- A rollback to no LaunchAgent found none. -/
theorem priorPlist_of_target (h : rollbackTargetOf plutil paths t = .ok none) :
    t.priorPlist = none := by
  unfold rollbackTargetOf at h
  cases hprior : t.priorPlist with
  | none => rfl
  | some priorPlist =>
      rw [hprior] at h
      obtain ⟨document, -, h⟩ := bind_eq_ok.1 h
      obtain ⟨contents, -, h⟩ := bind_eq_ok.1 h
      obtain ⟨reportOnly, -, h⟩ := bind_eq_ok.1 h
      obtain ⟨u, -, h⟩ := bind_eq_ok.1 h
      cases pure_eq_ok.1 h

theorem finishes_republishPrior {uid : Nat} {target : Option String}
    (htarget : rollbackTargetOf plutil paths t = .ok target)
    (hcomplete : t.priorPlist = none → t.priorManifest = none) :
    Finishes plutil schema (republishPrior uid t target) d fun _ d' =>
      d' = { d with
        launchAgent := target
        activeManifest := t.priorManifest.map ActiveServiceManifest.rollbackFloor } := by
  unfold republishPrior
  cases target with
  | some contents =>
      refine Finishes.bind finishes_writeLaunchAgent fun _ d₁ hd₁ => ?_
      subst hd₁
      refine Finishes.bind finishes_publishPriorManifest fun _ d₂ hd₂ => ?_
      subst hd₂
      exact finishes_restartPrior
  | none =>
      have hnone : t.priorManifest = none := hcomplete (priorPlist_of_target htarget)
      refine Finishes.bind finishes_removeFileDurable fun _ d₁ hd₁ => ?_
      subst hd₁
      rw [hnone]
      exact finishes_removeFileDurable

/-! ## Recovery -/

theorem finishes_markRollbackInProgress :
    Finishes plutil schema (markRollbackInProgress t) d fun marked d' =>
      marked = t.inRollback ∧ d' = { d with transaction := some t.inRollback } := by
  refine Finishes.bind finishes_persistTransaction fun _ d' hd' => ?_
  exact finishes_pure ⟨rfl, hd'⟩

/-- **A rollback that is not stranded restores what was there before.** -/
theorem finishes_rollbackInstallTransaction {uid : Nat} (hpaths : paths.Managed)
    (h : Held plutil schema paths known t d.toRecords) (hclear : ¬ Stranded t d) :
    Finishes plutil schema (rollbackInstallTransaction paths uid t) d
      fun _ d' => Restored plutil paths t d d' := by
  obtain ⟨target, htarget⟩ := h.lease.target
  refine Finishes.bind (finishes_rollbackTarget htarget) fun a d₁ ha => ?_
  obtain ⟨rfl, rfl⟩ := ha
  refine Finishes.bind (finishes_rollbackSelectionScope h.lease.scope) fun _ d₂ hd₂ => ?_
  subst hd₂
  refine Finishes.bind (finishes_committedBackup h.lease.backup hclear) fun _ d₃ hd₃ => ?_
  subst hd₃
  refine Finishes.bind finishes_markRollbackInProgress fun marked d₄ hd₄ => ?_
  obtain ⟨rfl, rfl⟩ := hd₄
  have hdrain : Finishes plutil schema
      (orFail (Prog.ask (Call.drainRollbackSelectedService t.inRollback)))
      { d₃ with transaction := some t.inRollback }
      fun _ x => x = { d₃ with transaction := some t.inRollback } :=
    finishes_call fun r x hserve => ⟨(), hserve.2, hserve.1⟩
  refine Finishes.bind hdrain fun _ d₅ hd₅ => ?_
  subst hd₅
  have hoffline : Finishes plutil schema (orFail (Prog.ask Call.proveDaemonOffline))
      { d₃ with transaction := some t.inRollback }
      fun _ x => x = { d₃ with transaction := some t.inRollback } :=
    finishes_call fun r x hserve => ⟨(), hserve.2, hserve.1⟩
  refine Finishes.bind hoffline fun _ d₆ hd₆ => ?_
  subst hd₆
  refine Finishes.bind finishes_removeFileDurable fun _ d₇ hd₇ => ?_
  have hdatabase : Finishes plutil schema (rollbackDatabase paths t.inRollback) d₇ fun _ x =>
      ∃ directory backup, x = { d₃ with
        transaction := some t.inRollback
        databaseBackupPending := none
        databaseBackup := backup
        database := d₃.rolledBack t
        failedGenerations := d₃.failedGenerations ++ d₃.keptBy t directory } := by
    subst hd₇
    exact finishes_rollbackDatabase hpaths h.lease.backup hclear
  refine Finishes.bind hdatabase fun _ d₈ hd₈ => ?_
  obtain ⟨directory, backup, rfl⟩ := hd₈
  have htarget' : rollbackTargetOf plutil paths t.inRollback = .ok a := by
    have hsame : rollbackTargetOf plutil paths t.inRollback = rollbackTargetOf plutil paths t :=
      rollbackTargetOf_congr rfl rfl
    rw [hsame]
    exact htarget
  refine Finishes.bind (finishes_republishPrior htarget' h.lease.complete) fun _ d₉ hd₉ => ?_
  refine Finishes.bind finishes_removeFileDurable fun _ d₁₀ hd₁₀ => ?_
  refine Finishes.bind finishes_removeFileDurable fun _ d₁₁ hd₁₁ => ?_
  refine Finishes.bind finishes_removeFileDurable fun _ d₁₂ hd₁₂ => ?_
  refine ⟨trivial, fun r x hserve => ⟨trivial, r, rfl, ?_⟩⟩
  obtain ⟨rfl, -⟩ := hserve
  subst hd₁₂ hd₁₁ hd₁₀ hd₉
  exact ⟨rfl, rfl, rfl, htarget, rfl, rfl, h.lease.prior, rfl, directory, rfl⟩

/-- **A stranded transaction is not recovered**, and nothing is changed. -/
theorem stranded_recoverIncompleteInstall {uid : Nat}
    (h : Held plutil schema paths known t d.toRecords) (hstranded : Stranded t d)
    (hphase : t.phase.recoveryDisposition = .rollbackPrior) :
    Upholds (Disk.obeys plutil schema) (fun _ => True) (recoverIncompleteInstall paths uid) d
      fun o d' => (∃ e, o = .error e) ∧ d' = d := by
  have hversion : ∀ t', d.transaction = some t' →
      t'.schemaVersion = serviceTransactionSchemaVersion := by
    intro t' ht'
    obtain rfl := Option.some.inj (h.transaction.symm.trans ht')
    exact h.version
  refine Finishes.then (finishes_readOptionalTransaction hversion) fun o d₁ ho => ?_
  obtain ⟨rfl, rfl⟩ := ho
  have ht : d₁.transaction = some t := h.transaction
  rw [ht]
  simp only [hphase]
  obtain ⟨target, htarget⟩ := h.lease.target
  refine Finishes.then (finishes_rollbackTarget htarget) fun a d₂ ha => ?_
  obtain ⟨rfl, rfl⟩ := ha
  refine Finishes.then (finishes_rollbackSelectionScope h.lease.scope) fun _ d₃ hd₃ => ?_
  subst hd₃
  have hthrow : Upholds (Disk.obeys plutil schema) (fun _ => True)
      (validateCommittedRollbackBackup t) d₃ fun o d' => (∃ e, o = .error e) ∧ d' = d₃ := by
    unfold validateCommittedRollbackBackup
    rw [if_pos hstranded.1]
    refine Finishes.then finishes_backupExists fun present d₄ hpresent => ?_
    obtain ⟨rfl, rfl⟩ := hpresent
    rw [hstranded.2]
    exact ⟨trivial, ⟨_, rfl⟩, rfl⟩
  refine Upholds.bind hthrow (fun _ d₄ h₄ => ?_) fun e d₄ _ h₄ => ⟨⟨e, rfl⟩, h₄.2⟩
  obtain ⟨⟨e, he⟩, -⟩ := h₄
  cases he

theorem finishes_recoverIncompleteInstall {uid : Nat} (hpaths : paths.Managed)
    (h : Held plutil schema paths known t d.toRecords) (hclear : ¬ Stranded t d)
    (hphase : t.phase.recoveryDisposition = .rollbackPrior) :
    Finishes plutil schema (recoverIncompleteInstall paths uid) d
      fun _ d' => Restored plutil paths t d d' := by
  have hversion : ∀ t', d.transaction = some t' →
      t'.schemaVersion = serviceTransactionSchemaVersion := by
    intro t' ht'
    obtain rfl := Option.some.inj (h.transaction.symm.trans ht')
    exact h.version
  refine Finishes.bind (finishes_readOptionalTransaction hversion) fun o d₁ ho => ?_
  obtain ⟨rfl, rfl⟩ := ho
  have ht : d₁.transaction = some t := h.transaction
  rw [ht]
  simp only [hphase]
  exact finishes_rollbackInstallTransaction hpaths h hclear

/-! ## Somebody obeys -/

/-- The call is obeyed by the service that does what it is asked to. -/
def Disk.Complies (plutil : String → Except ServiceError LaunchAgentDocument) (schema : H → Nat)
    (d : Disk H) (c : Call) : Prop :=
  Disk.obeys plutil schema d c (d.comply plutil schema c).1 (d.comply plutil schema c).2

theorem Disk.complies_publishGeneration (generation : Nat) :
    d.Complies plutil schema (.publishGeneration generation) := by
  by_cases hcontains : d.generations.contains generation = true
  · refine ⟨?_, fun hnot => ?_⟩
    · simp only [Disk.answers, Disk.Publishes, Disk.comply, if_pos hcontains]
      exact ⟨trivial, _, rfl⟩
    · rw [hcontains] at hnot
      cases hnot
  · refine ⟨?_, fun _ => ?_⟩
    · simp only [Disk.answers, Disk.Publishes, Disk.comply, if_neg hcontains]
      exact ⟨d.stages, Or.inl rfl⟩
    · simp only [Disk.comply, if_neg hcontains]

theorem Disk.complies_removeGenerationEntry (name : String) :
    d.Complies plutil schema (.removeGenerationEntry name) := by
  refine ⟨⟨_, d.stages, rfl, fun g hg => ?_, fun _ g hg => ?_⟩, rfl⟩
  · rw [OrdMap.lookup_filterKeys, if_pos (bne_iff_ne.2 hg)]
  · rw [OrdMap.lookup_filterKeys, if_neg (by simp [hg])]

theorem Disk.complies_publishBackup : d.Complies plutil schema .publishBackup := by
  by_cases hpending : d.databaseBackupPending.isNone = true
  · refine ⟨?_, fun hsome => ?_⟩
    · simp only [Disk.answers, Disk.PublishesBackup, Disk.comply, if_pos hpending]
      exact ⟨trivial, _, rfl⟩
    · rw [Option.isNone_iff_eq_none.1 hpending] at hsome
      cases hsome
  · refine ⟨?_, fun _ => ?_⟩
    · simp only [Disk.answers, Disk.PublishesBackup, Disk.comply, if_neg hpending]
      exact Or.inl rfl
    · simp only [Disk.comply, if_neg hpending]

theorem Disk.complies_copyBackup : d.Complies plutil schema .copyBackup := by
  by_cases hblocked : (d.database.main.isSome || d.databaseBackup.isNone) = true
  · refine ⟨?_, fun hmain hbackup => ?_⟩
    · simp only [Disk.answers, Disk.CopiesBackup, Disk.comply, if_pos hblocked]
      exact ⟨trivial, _, rfl⟩
    · obtain ⟨file, hfile⟩ := Option.isSome_iff_exists.1 hbackup
      rw [hmain, hfile] at hblocked
      cases hblocked
  · refine ⟨?_, fun _ _ => ?_⟩
    · simp only [Disk.answers, Disk.CopiesBackup, Disk.comply, if_neg hblocked]
      exact ⟨⟨_, rfl⟩, fun _ => trivial⟩
    · simp only [Disk.comply, if_neg hblocked]

/-- SQLite is asked about a file that is whole, or it answers with an
error. -/
theorem Disk.comply_whole (plutil : String → Except ServiceError LaunchAgentDocument)
    (schema : H → Nat) (d : Disk H) (path : ManagedPath) :
    (∃ h, d.databaseFile path = some (.whole h) ∧
      d.comply plutil schema (.validateSqlite path) = (.ok (), d) ∧
      d.comply plutil schema (.schemaVersion path) = (.ok (schema h), d)) ∨
    (∀ h, d.databaseFile path ≠ some (.whole h)) ∧
      d.comply plutil schema (.validateSqlite path) = (.error ⟨"not a database"⟩, d) ∧
      d.comply plutil schema (.schemaVersion path) = (.error ⟨"not a database"⟩, d) := by
  cases hfile : d.databaseFile path with
  | none => exact Or.inr ⟨fun h => by simp, by simp [Disk.comply, hfile]⟩
  | some file =>
      cases file with
      | whole contents => exact Or.inl ⟨contents, rfl, by simp [Disk.comply, hfile]⟩
      | torn => exact Or.inr ⟨fun h => by simp, by simp [Disk.comply, hfile]⟩

theorem Disk.complies_validateSqlite (path : ManagedPath) :
    d.Complies plutil schema (.validateSqlite path) := by
  unfold Disk.Complies
  rcases d.comply_whole plutil schema path with ⟨h, hfile, hcomply, -⟩ | ⟨hnone, hcomply, -⟩
  · rw [hcomply]
    exact ⟨⟨rfl, fun _ => ⟨h, hfile⟩⟩, fun _ => rfl⟩
  · rw [hcomply]
    exact ⟨⟨rfl, nofun⟩, fun ⟨h, hwhole⟩ => absurd hwhole (hnone h)⟩

theorem Disk.complies_schemaVersion (path : ManagedPath) :
    d.Complies plutil schema (.schemaVersion path) := by
  unfold Disk.Complies
  rcases d.comply_whole plutil schema path with ⟨h, hfile, -, hcomply⟩ | ⟨hnone, -, hcomply⟩
  · rw [hcomply]
    refine ⟨⟨rfl, fun n h' hn hwhole => ?_⟩, fun _ => ⟨schema h, rfl⟩⟩
    rw [hfile] at hwhole
    obtain rfl := DatabaseFile.whole.inj (Option.some.inj hwhole)
    exact (Except.ok.inj hn).symm
  · rw [hcomply]
    exact ⟨⟨rfl, nofun⟩, fun ⟨h, hwhole⟩ => absurd hwhole (hnone h)⟩

/-- The status that is waited for is the one that comes. -/
theorem Disk.complies_awaitStatus (awaited : Awaited) :
    d.Complies plutil schema (.awaitStatus awaited) := by
  refine ⟨rfl, _, rfl, ?_⟩
  cases awaited with
  | mode mode => cases mode <;> simp [Disk.comeReady, Awaited.reached, readyReport, readyStatus]
  | generationReady generation | runtimeReportOnly generation =>
      simp [Disk.comeReady, Awaited.reached, readyReport, readyStatus,
        ServiceStatusReport.readyReportOnly, ServiceStatusReport.readyReportOnlyForRestart,
        ServiceStatusReport.identifies, ServiceStatus.new, Unlinger.DaemonStatus.new,
        Unlinger.DaemonStatus.effectiveMode]

/-- **Every call can be obeyed.** -/
theorem Disk.comply_obeys (plutil : String → Except ServiceError LaunchAgentDocument)
    (schema : H → Nat) (d : Disk H) (c : Call) : d.Complies plutil schema c := by
  cases c with
  | mutationUid => exact ⟨rfl, 0, rfl⟩
  | readTransaction | readManifest | readLaunchAgent | readLaunchAgentText | pathEntryExists
  | databaseComponent | generationEntries =>
      exact ⟨⟨rfl, fun a ha => (Except.ok.inj ha).symm⟩, _, rfl⟩
  | plutil contents => exact ⟨⟨rfl, fun _ _ => rfl⟩, rfl⟩
  | writeTransaction | writeManifest | writeLaunchAgent | removeFile | sealGeneration
  | moveToEvidence => exact ⟨Or.inl rfl, rfl⟩
  | isFile => exact ⟨⟨rfl, id⟩, rfl⟩
  | generationExists => exact ⟨⟨rfl, id⟩, rfl⟩
  | stage => exact ⟨⟨d.stages, rfl⟩, rfl⟩
  | discardStage => exact ⟨⟨d.stages, rfl⟩, trivial⟩
  | discardGeneration =>
      exact ⟨⟨d.generations, rfl, fun _ _ => rfl, fun _ hdir => Or.inl hdir⟩, trivial⟩
  | discardPending => exact ⟨Or.inr rfl, trivial⟩
  | dropDaemonLock => exact ⟨rfl, trivial⟩
  | publishGeneration generation => exact Disk.complies_publishGeneration generation
  | inspectGeneration generation =>
      refine ⟨⟨rfl, fun dir hdir => found_eq_ok.1 hdir⟩, fun hcontains => ?_⟩
      obtain ⟨dir, hdir⟩ := Option.isSome_iff_exists.1 hcontains
      exact ⟨dir, found_eq_ok.2 hdir⟩
  | removeGenerationEntry name => exact Disk.complies_removeGenerationEntry name
  | inspectDatabaseFile path =>
      exact ⟨⟨rfl, fun hr => require_eq_ok.1 hr⟩, fun hexists => require_eq_ok.2 hexists⟩
  | vacuumInto => exact ⟨⟨⟨_, rfl⟩, fun _ => rfl⟩, rfl⟩
  | publishBackup => exact Disk.complies_publishBackup
  | validateSqlite path => exact Disk.complies_validateSqlite path
  | schemaVersion path => exact Disk.complies_schemaVersion path
  | createEvidence => exact ⟨rfl, _, rfl⟩
  | copyBackup => exact Disk.complies_copyBackup
  | launchdState | ipcStatusForLaunchd | status | requestArm | requestDisarm =>
      exact ⟨rfl, _, rfl⟩
  | awaitStatus awaited => exact Disk.complies_awaitStatus awaited
  | awaitLegacy => exact ⟨rfl, _, rfl, by decide⟩
  | prepareInstallDirectories | acquireServiceLock | validateReplaceableFile | syncGeneration
  | removeGenerationRoot | protectPending | syncSupport | bootstrap | bootoutAndWait
  | proveDaemonOffline | quiesceLoadedService | drainRollbackSelectedService
  | restoreGenerationReportOnly | emergencyRestartGenerationReportOnly => exact ⟨rfl, rfl⟩

theorem Finishes.exists_ran {p : ServiceProg α} (h : Finishes plutil schema p d P) :
    ∃ a d', Ran (Disk.obeys plutil schema) p d (.ok a) d' ∧ P a d' := by
  have htotal : ∀ (d : Disk H) (c : Call), ∃ r d', Disk.obeys plutil schema d c r d' :=
    fun d c => ⟨_, _, Disk.comply_obeys plutil schema d c⟩
  obtain ⟨o, d', hran⟩ := Crash.exists_ran htotal p d
  obtain ⟨a, rfl, hP⟩ := Upholds.ran h hran
  exact ⟨a, d', hran, hP⟩

/-- A recovery may be cut behind the mark of its rollback. -/
theorem cut_marked {uid : Nat} (h : Held plutil schema paths known t d.toRecords)
    (hclear : ¬ Stranded t d) (hphase : t.phase.recoveryDisposition = .rollbackPrior) :
    Cut (Disk.obeys plutil schema) (recoverIncompleteInstall paths uid) d
      { d with transaction := some t.inRollback } := by
  have hversion : ∀ t', d.transaction = some t' →
      t'.schemaVersion = serviceTransactionSchemaVersion := by
    intro t' ht'
    obtain rfl := Option.some.inj (h.transaction.symm.trans ht')
    exact h.version
  have hread : Finishes plutil schema readOptionalTransaction d
      fun o d' => o = d.transaction ∧ d' = d := finishes_readOptionalTransaction hversion
  obtain ⟨o, d₁, hran₁, rfl, rfl⟩ := hread.exists_ran
  refine hran₁.cutAfter ?_
  have ht : d₁.transaction = some t := h.transaction
  rw [ht]
  simp only [hphase]
  obtain ⟨target, htarget⟩ := h.lease.target
  have hselected : Finishes plutil schema (rollbackTarget paths t) d₁
      fun a d' => a = target ∧ d' = d₁ := finishes_rollbackTarget htarget
  obtain ⟨a, d₂, hran₂, rfl, rfl⟩ := hselected.exists_ran
  refine hran₂.cutAfter ?_
  have hscope : Finishes plutil schema (validateRollbackSelectionScope paths t) d₂
      fun _ d' => d' = d₂ := finishes_rollbackSelectionScope h.lease.scope
  obtain ⟨u, d₃, hran₃, rfl⟩ := hscope.exists_ran
  refine hran₃.cutAfter ?_
  have hbackup : Finishes plutil schema (validateCommittedRollbackBackup t) d₃
      fun _ d' => d' = d₃ := finishes_committedBackup h.lease.backup hclear
  obtain ⟨v, d₄, hran₄, rfl⟩ := hbackup.exists_ran
  refine hran₄.cutAfter ?_
  have hmarked : Finishes plutil schema (markRollbackInProgress t) d₄
      fun marked d' => marked = t.inRollback ∧ d' = { d₄ with transaction := some t.inRollback } :=
    finishes_markRollbackInProgress
  obtain ⟨marked, d₅, hran₅, -, rfl⟩ := hmarked.exists_ran
  exact hran₅.cut.before

end Cli

end Unlinger
