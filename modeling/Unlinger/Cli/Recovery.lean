import Unlinger.Cli.Helpers.Progress

/-!
# Recovery from every cut

A run is any number of commands, each cut anywhere, with every call free
to fail and a daemon free to write to its database in between. Whatever is
reached, the records are coherent; and a recovery that is then let run,
with nothing failing, restores what was installed before the transaction,
report-only, unless the transaction is stranded. `install` strands it by
renaming the snapshot into its place before the transaction that commits
it is written.
-/

namespace Unlinger

open Interaction Crash

namespace Cli

variable {H : Type} {plutil : String → Except ServiceError LaunchAgentDocument} {schema : H → Nat}
  {paths : LocalPaths} {d₀ d d' : Disk H} {t : InstallTransaction}

/-! ## Runs -/

/-- No transaction is open, and what is active is a sealed generation. -/
structure Settled (d : Disk H) : Prop where
  transaction : d.transaction = none
  manifest : ∀ m, d.activeManifest = some m → m.schemaVersion = serviceManifestSchemaVersion ∧
    Sealed d.toRecords m.activeGeneration

/-- What commands come to that are cut anywhere. -/
abbrev Reaches (plutil : String → Except ServiceError LaunchAgentDocument) (schema : H → Nat)
    (paths : LocalPaths) : Disk H → Disk H → Prop :=
  Relation.ReflTransGen (Started (Disk.serves plutil schema) (Command.program paths))

/-- The selections of a disk on the way that no transaction was open on. -/
def FoundFrom (plutil : String → Except ServiceError LaunchAgentDocument) (schema : H → Nat)
    (paths : LocalPaths) (d₀ : Disk H) : Selections := fun plist manifest =>
  ∃ x, Reaches plutil schema paths d₀ x ∧ x.transaction = none ∧ x.launchAgent = plist ∧
    x.activeManifest = manifest

/-- **Whatever is reached is coherent.** -/
theorem reaches_coherent (hpaths : paths.Managed) (h₀ : Settled d₀)
    (hrun : Reaches plutil schema paths d₀ d) :
    Coherent plutil schema paths (FoundFrom plutil schema paths d₀) d.toRecords := by
  induction hrun with
  | refl =>
      refine ⟨h₀.manifest, fun t ht => ?_⟩
      have ht : d₀.transaction = some t := ht
      rw [h₀.transaction] at ht
      cases ht
  | @tail x y hrun hstep ih =>
      obtain ⟨command, hcut⟩ := hstep
      have hsafe : Safe plutil schema paths (FoundFrom plutil schema paths d₀)
          (command.program paths) x fun _ _ => True := by
        refine command.safe hpaths ih fun x hx hnone => ?_
        exact ⟨x, hrun.tail ⟨command, hx⟩, hnone, rfl, rfl⟩
      exact Upholds.cut (I := fun x : Disk H =>
        Coherent plutil schema paths (FoundFrom plutil schema paths d₀) x.toRecords) hsafe hcut

/-- A command that is cut where every call before the cut complied. -/
theorem cut_comply {α : Type} (calls : Nat) (p : ServiceProg α) (d : Disk H) :
    Cut (Disk.serves plutil schema) p d (cutAfter (Disk.comply plutil schema) calls p d) :=
  cut_cutAfter (fun d c => ⟨d.database, (Disk.comply_obeys plutil schema d c).1⟩) calls p d

/-! ### A first installation -/

/-- A machine with a history and no service. -/
def freshDisk : Disk Unit where
  transaction := none
  launchAgent := none
  activeManifest := none
  generations := .empty
  databaseBackup := none
  databaseBackupPending := none
  database := ⟨some (.whole ()), false, false, false⟩
  failedGenerations := []
  stages := []
  daemonBinary := false
  cliBinary := false

theorem settled_freshDisk : Settled freshDisk := ⟨rfl, fun m hm => by cases hm⟩

/-- The LaunchAgent of the first generation, as it is read. -/
def firstDocument : LaunchAgentDocument :=
  let program := (LocalPaths.below "/Users/owner").generationDaemon 1
  ⟨launchAgentLabel, program, [program, "--managed", "--activation-generation", "1"]⟩

/-- What a first installation leaves that is cut after so many calls. -/
def firstInstallCut (calls : Nat) : Disk Unit :=
  cutAfter (Disk.comply (fun _ => .ok firstDocument) fun _ => 0) calls
    (Command.program (.below "/Users/owner") (.install .reportOnly)) freshDisk

theorem reaches_firstInstallCut (calls : Nat) :
    Reaches (fun _ => .ok firstDocument) (fun _ => 0) (.below "/Users/owner") freshDisk
      (firstInstallCut calls) :=
  .single ⟨.install .reportOnly, cut_comply _ _ _⟩

/-- The transaction of a first installation that has drained the prior. -/
def firstTransaction : InstallTransaction :=
  { InstallTransaction.new 1 none none false with phase := .priorDrained }

/-! ### A later installation -/

def ownerPaths : LocalPaths := .below "/Users/owner"

/-- The LaunchAgent of a managed generation, as it is read. -/
def managedDocument (generation : Nat) : LaunchAgentDocument :=
  let program := ownerPaths.generationDaemon generation
  ⟨launchAgentLabel, program,
    [program, "--managed", "--activation-generation", Text.decimal generation]⟩

/-- A LaunchAgent of the first generation, with no more than is read of it. -/
def servedPlist : String :=
  "<plist version=\"1.0\"><dict><key>Label</key><string>app.unlinger.daemon</string>" ++
  "<key>Program</key>" ++
  "<string>/Users/owner/Library/Application Support/Unlinger/generations/1/unlingerd</string>" ++
  "<key>ProgramArguments</key><array>" ++
  "<string>/Users/owner/Library/Application Support/Unlinger/generations/1/unlingerd</string>" ++
  "<string>--managed</string><string>--activation-generation</string><string>1</string>" ++
  "</array></dict></plist>"

/-- How that is read, and the one of the second generation. -/
def readsManaged (contents : String) : Except ServiceError LaunchAgentDocument :=
  .ok (managedDocument (if contents = servedPlist then 1 else 2))

/-- A machine whose service is of the first generation, with a history that
has journal files. The history is its schema version. -/
def servedDisk : Disk Nat where
  transaction := none
  launchAgent := some servedPlist
  activeManifest := some (.new 1 .reportOnly)
  generations := OrdMap.empty.insert 1 ⟨.new 1, true⟩
  databaseBackup := none
  databaseBackupPending := none
  database := ⟨some (.whole 3), true, true, false⟩
  failedGenerations := []
  stages := []
  daemonBinary := false
  cliBinary := false

theorem settled_servedDisk : Settled servedDisk := by
  refine ⟨rfl, fun m hm => ?_⟩
  obtain rfl := Option.some.inj hm
  have hsealed : servedDisk.generations.lookup 1 = some ⟨.new 1, true⟩ := by decide +kernel
  exact ⟨rfl, hsealed⟩

/-- What an installation of the second generation leaves that is cut after
so many calls. -/
def laterInstallCut (calls : Nat) : Disk Nat :=
  cutAfter (Disk.comply readsManaged id) calls
    (Command.program ownerPaths (.install .reportOnly)) servedDisk

theorem reaches_laterInstallCut (calls : Nat) :
    Reaches readsManaged id ownerPaths servedDisk (laterInstallCut calls) :=
  .single ⟨.install .reportOnly, cut_comply _ _ _⟩

/-- Its transaction when it has drained the prior. -/
def laterTransaction : InstallTransaction :=
  { InstallTransaction.new 2 (some (.new 1 .reportOnly)) (some servedPlist) false with
    phase := .priorDrained }

/-- And when its snapshot is committed. -/
def laterBackedUp : InstallTransaction :=
  { laterTransaction with
    phase := .databaseBackedUp
    databaseBackedUp := true
    databaseBackupSchemaVersion := some 3 }

/-- Which phases are rolled back: the ones that are neither held nor
finished. -/
theorem TransactionPhase.rollbackPrior_iff {phase : TransactionPhase} :
    phase.recoveryDisposition = .rollbackPrior ↔
      phase ≠ .candidateReadyReportOnly ∧ phase ≠ .accepted := by
  cases phase <;> decide

/-- **The active manifest selects a sealed generation**, whatever is run on
a settled disk and wherever it is cut. -/
theorem active_generation_sealed (home : String) (h₀ : Settled d₀)
    (hrun : Reaches plutil schema (.below home) d₀ d) :
    ∀ m, d.activeManifest = some m → m.schemaVersion = serviceManifestSchemaVersion ∧
      d.generations.lookup m.activeGeneration = some ⟨.new m.activeGeneration, true⟩ :=
  (reaches_coherent (managed_below home) h₀ hrun).manifest

/-- So it is with a later installation that has just written its manifest. -/
theorem active_generation_sealed_later :
    (ActiveServiceManifest.new 2 .reportOnly).schemaVersion = serviceManifestSchemaVersion ∧
      (laterInstallCut 51).generations.lookup 2 = some ⟨.new 2, true⟩ :=
  active_generation_sealed "/Users/owner" settled_servedDisk (reaches_laterInstallCut 51)
    (.new 2 .reportOnly) (by decide +kernel)

/-- **What a rollback needs is kept** until the transaction is accepted: the
prior generation, sealed, and the snapshot that was committed, with the
schema it was committed with. -/
theorem rollback_material_kept (home : String) (h₀ : Settled d₀)
    (hrun : Reaches plutil schema (.below home) d₀ d) (ht : d.transaction = some t)
    (hphase : t.phase ≠ .accepted) :
    (∀ m, t.priorManifest = some m →
      d.generations.lookup m.activeGeneration = some ⟨.new m.activeGeneration, true⟩) ∧
    (t.databaseBackedUp = true → ∃ contents, d.databaseBackup = some (.whole contents) ∧
      ∀ version, t.databaseBackupSchemaVersion = some version → schema contents = version) := by
  have hheld := (reaches_coherent (managed_below home) h₀ hrun).held ht hphase
  exact ⟨hheld.lease.prior, hheld.lease.backup⟩

/-- So it is with a later installation that has committed its snapshot. -/
theorem rollback_material_kept_later :
    (laterInstallCut 49).generations.lookup 1 = some ⟨.new 1, true⟩ ∧
      ∃ contents, (laterInstallCut 49).databaseBackup = some (.whole contents) ∧ contents = 3 := by
  obtain ⟨hprior, hbackup⟩ := rollback_material_kept (t := laterBackedUp) "/Users/owner"
    settled_servedDisk (reaches_laterInstallCut 49) (by decide +kernel) (by decide)
  obtain ⟨contents, hcontents, hversion⟩ := hbackup rfl
  exact ⟨hprior (.new 1 .reportOnly) rfl, contents, hcontents, hversion 3 rfl⟩

/-! ## Convergence -/

/-- A recovery that is let run comes to an end, well and with the prior
installation back. -/
structure Converges (plutil : String → Except ServiceError LaunchAgentDocument)
    (schema : H → Nat) (paths : LocalPaths) (uid : Nat) (t : InstallTransaction) (d : Disk H) :
    Prop where
  ends : ∃ d', Ran (Disk.obeys plutil schema) (recoverIncompleteInstall paths uid) d (.ok ()) d'
  restores : ∀ o d', Ran (Disk.obeys plutil schema) (recoverIncompleteInstall paths uid) d o d' →
    o = .ok () ∧ Restored plutil paths t d d'

theorem converges_iff_of_held {known : Selections} {uid : Nat} (hpaths : paths.Managed)
    (h : Held plutil schema paths known t d.toRecords)
    (hphase : t.phase.recoveryDisposition = .rollbackPrior) :
    Converges plutil schema paths uid t d ↔ ¬ Stranded t d := by
  constructor
  · rintro ⟨⟨d', hran⟩, -⟩ hstranded
    obtain ⟨⟨e, he⟩, -⟩ := (stranded_recoverIncompleteInstall h hstranded hphase).ran hran
    cases he
  · intro hclear
    have hrestores : ∀ o d',
        Ran (Disk.obeys plutil schema) (recoverIncompleteInstall paths uid) d o d' →
        o = .ok () ∧ Restored plutil paths t d d' := by
      intro o d' hran
      obtain ⟨u, rfl, hrestored⟩ :=
        Upholds.ran (finishes_recoverIncompleteInstall hpaths h hclear hphase) hran
      exact ⟨rfl, hrestored⟩
    obtain ⟨u, d', hran, -⟩ :=
      Finishes.exists_ran (finishes_recoverIncompleteInstall hpaths h hclear hphase)
    exact ⟨⟨d', hran⟩, hrestores⟩

/-- **Recovery converges exactly where it is not stranded**: from every disk
that commands come to which are cut anywhere, if its transaction waits for
no decision and is not accepted. What is restored was selected at a disk
on the way, before the transaction. -/
theorem recovery_converges_iff (plutil : String → Except ServiceError LaunchAgentDocument)
    (schema : H → Nat) (home : String) (uid : Nat) (h₀ : Settled d₀)
    (hrun : Reaches plutil schema (.below home) d₀ d) (ht : d.transaction = some t)
    (hphase : t.phase ≠ .candidateReadyReportOnly ∧ t.phase ≠ .accepted) :
    (∃ x, Reaches plutil schema (.below home) d₀ x ∧ x.transaction = none ∧
      x.launchAgent = t.priorPlist ∧ x.activeManifest = t.priorManifest) ∧
    (Converges plutil schema (.below home) uid t d ↔ ¬ Stranded t d) := by
  have hpaths := managed_below home
  have hheld := (reaches_coherent hpaths h₀ hrun).held ht hphase.2
  have hdisposition := TransactionPhase.rollbackPrior_iff.2 hphase
  exact ⟨hheld.known, converges_iff_of_held hpaths hheld hdisposition⟩

/-- A later installation that is cut when its candidate is selected is
recovered from: what was selected before it is the first generation. -/
theorem recovery_converges_iff_later :
    (∃ x, Reaches readsManaged id ownerPaths servedDisk x ∧ x.transaction = none ∧
      x.launchAgent = some servedPlist ∧ x.activeManifest = some (.new 1 .reportOnly)) ∧
    Converges readsManaged id ownerPaths 0 { laterBackedUp with phase := .candidateSelected }
      (laterInstallCut 52) := by
  obtain ⟨hknown, hiff⟩ := recovery_converges_iff readsManaged id "/Users/owner" 0
    settled_servedDisk (reaches_laterInstallCut 52)
    (t := { laterBackedUp with phase := .candidateSelected }) (by decide +kernel) (by decide)
  exact ⟨hknown, hiff.2 fun hstranded => by cases hstranded.1⟩

theorem transaction_firstInstallCut : (firstInstallCut 44).transaction = some firstTransaction := by
  decide +kernel

theorem stranded_firstInstallCut : Stranded firstTransaction (firstInstallCut 44) :=
  ⟨rfl, by decide +kernel⟩

/-- **A first installation that is cut behind the rename of its snapshot**
is not recovered from, with nothing failing. -/
theorem recovery_stranded :
    Settled freshDisk ∧
    Reaches (fun _ => .ok firstDocument) (fun _ => 0) (.below "/Users/owner") freshDisk
      (firstInstallCut 44) ∧
    (firstInstallCut 44).transaction = some firstTransaction ∧
    firstTransaction.phase = .priorDrained ∧
    ¬ ∃ d', Ran (Disk.obeys (fun _ => .ok firstDocument) fun _ => 0)
      (recoverIncompleteInstall (.below "/Users/owner") 0) (firstInstallCut 44) (.ok ()) d' := by
  refine ⟨settled_freshDisk, reaches_firstInstallCut 44, transaction_firstInstallCut, rfl, ?_⟩
  rintro ⟨d', hran⟩
  have hheld := (reaches_coherent (managed_below "/Users/owner") settled_freshDisk
    (reaches_firstInstallCut 44)).held transaction_firstInstallCut (by decide)
  obtain ⟨⟨e, he⟩, -⟩ :=
    (stranded_recoverIncompleteInstall hheld stranded_firstInstallCut rfl).ran hran
  cases he

/-! ## Once stranded -/

/-- The command goes on only where a recovery came to its end. -/
def Command.recoversFirst : Command → Bool
  | .install _ | .setMode _ | .uninstall | .recoverIncompleteInstall _ => true
  | .acceptCandidate | .rollbackCandidate | .restartReportOnly => false

/-- What follows the beginning of a command, if it never comes to its end. -/
theorem reads_after_begin {α : Type} {f : Nat → ServiceProg α}
    (h : ∀ uid (x : Disk H), x.toRecords = d.toRecords →
      Reads plutil schema (f uid) x fun _ => False) :
    Reads plutil schema (beginMutation >>= f >>= fun _ => pure ()) d fun _ => False := by
  have hnever : Reads plutil schema (beginMutation >>= f) d fun _ => False :=
    Reads.bind (Reads.quiet quiet_beginMutation) fun uid x hx _ => h uid x hx
  exact Reads.bind hnever fun _ _ _ hfalse => hfalse.elim

/-- Where no recovery comes to its end, neither does a command that recovers
first, and it changes no record. -/
theorem reads_refused (command : Command) (hfirst : command.recoversFirst = true)
    (hrecover : ∀ uid (x : Disk H), x.toRecords = d.toRecords →
      Reads plutil schema (recoverIncompleteInstall paths uid) x fun _ => False) :
    Reads plutil schema (command.program paths) d fun _ => False := by
  have hafter : ∀ {α : Type} {f : Unit → ServiceProg α} uid (x : Disk H),
      x.toRecords = d.toRecords →
      Reads plutil schema (recoverIncompleteInstall paths uid >>= f) x fun _ => False :=
    fun uid x hx => Reads.bind (hrecover uid x hx) fun _ _ _ hfalse => hfalse.elim
  cases command with
  | install mode =>
      have hinstall : Reads plutil schema (install paths mode) d fun _ => False := by
        refine Reads.bind (reads_check (P := fun _ => True) fun _ _ => trivial) fun _ x hx _ => ?_
        refine Reads.bind (Reads.quiet quiet_beginMutation) fun uid y hy _ => ?_
        exact hafter uid y (hy.trans hx)
      exact Reads.bind hinstall fun _ _ _ hfalse => hfalse.elim
  | setMode mode => exact reads_after_begin fun uid x hx => hafter uid x hx
  | uninstall => exact reads_after_begin fun uid x hx => hafter uid x hx
  | recoverIncompleteInstall uid => exact hrecover uid d rfl
  | acceptCandidate | rollbackCandidate | restartReportOnly => cases hfirst

/-- A stranded rollback ends before it changes anything, whatever fails. -/
theorem reads_rollback_stranded {uid : Nat} (h : Stranded t d) :
    Reads plutil schema (rollbackInstallTransaction paths uid t) d fun _ => False := by
  refine Reads.bind reads_rollbackTarget fun target d₁ hd₁ _ => ?_
  refine Reads.bind reads_rollbackSelectionScope fun _ d₂ hd₂ _ => ?_
  have hbackup : d₂.databaseBackup.isSome = true := by
    rw [hd₂, hd₁]
    exact h.2
  have hthrow : Reads plutil schema (validateCommittedRollbackBackup t) d₂ fun _ => False := by
    unfold validateCommittedRollbackBackup
    rw [if_pos h.1]
    refine Reads.bind reads_backupExists fun present d₃ _ hpresent => ?_
    rw [hpresent, hbackup]
    exact reads_throw
  exact Reads.bind hthrow fun _ _ _ hfalse => hfalse.elim

theorem reads_recover_stranded {uid : Nat} (ht : d.transaction = some t)
    (hphase : t.phase ≠ .candidateReadyReportOnly ∧ t.phase ≠ .accepted) (h : Stranded t d) :
    Reads plutil schema (recoverIncompleteInstall paths uid) d fun _ => False := by
  have hdisposition := TransactionPhase.rollbackPrior_iff.2 hphase
  refine Reads.bind reads_transaction fun o d₁ hd₁ ho => ?_
  rw [ho.1, ht]
  simp only [hdisposition]
  refine reads_rollback_stranded ⟨h.1, ?_⟩
  rw [hd₁]
  exact h.2

/-- No command gets past a stranded transaction. -/
theorem reads_command_stranded (command : Command) (ht : d.transaction = some t)
    (hphase : t.phase ≠ .candidateReadyReportOnly ∧ t.phase ≠ .accepted) (h : Stranded t d) :
    Reads plutil schema (command.program paths) d fun _ => False := by
  have hrecover : ∀ uid (x : Disk H), x.toRecords = d.toRecords →
      Reads plutil schema (recoverIncompleteInstall paths uid) x fun _ => False := by
    intro uid x hx
    refine reads_recover_stranded (t := t) ?_ hphase ⟨h.1, ?_⟩
    · rw [hx]
      exact ht
    · rw [hx]
      exact h.2
  cases command with
  | install | setMode | uninstall | recoverIncompleteInstall =>
      exact reads_refused _ rfl hrecover
  | acceptCandidate =>
      refine reads_after_begin fun uid x hx => ?_
      refine Reads.bind reads_transaction fun o y hy ho => ?_
      rw [ho.1, hx, ht]
      cases hp : t.phase with
      | accepted => exact absurd hp hphase.2
      | candidateReadyReportOnly => exact absurd hp hphase.1
      | prepared | candidateDurable | priorDrained | databaseBackedUp | candidateSelected
      | acceptanceInProgress | rollbackInProgress =>
          simp only [hp]
          exact Reads.bind (hrecover uid y (hy.trans hx)) fun _ _ _ hfalse => hfalse.elim
  | rollbackCandidate =>
      refine reads_after_begin fun uid x hx => ?_
      refine Reads.bind reads_transaction fun o y hy ho => ?_
      rw [ho.1, hx, ht]
      simp only [hphase.2, if_false]
      refine Reads.bind (reads_rollback_stranded ⟨h.1, ?_⟩) fun _ _ _ hfalse => hfalse.elim
      rw [hy, hx]
      exact h.2
  | restartReportOnly =>
      refine reads_after_begin fun uid x hx => ?_
      have hsettle : Reads plutil schema (settleBeforeRestart paths uid) x fun _ => False := by
        refine Reads.bind reads_transaction fun o y hy ho => ?_
        rw [ho.1, hx, ht]
        cases hp : t.phase with
        | accepted => exact absurd hp hphase.2
        | candidateReadyReportOnly => exact absurd hp hphase.1
        | prepared | candidateDurable | priorDrained | databaseBackedUp | candidateSelected
        | acceptanceInProgress | rollbackInProgress =>
            simp only [hp]
            exact Reads.bind (hrecover uid y (hy.trans hx)) fun _ _ _ hfalse => hfalse.elim
      exact Reads.bind hsettle fun _ _ _ hfalse => hfalse.elim

/-- **A stranded transaction is stranded for good**: no command changes a
record any more, not even `uninstall`, whatever fails and wherever it is
cut. -/
theorem stranded_forever (ht : d.transaction = some t)
    (hphase : t.phase ≠ .candidateReadyReportOnly ∧ t.phase ≠ .accepted) (h : Stranded t d)
    (hrun : Reaches plutil schema paths d d') : d'.toRecords = d.toRecords := by
  induction hrun with
  | refl => rfl
  | @tail x y _ hstep ih =>
      obtain ⟨command, hcut⟩ := hstep
      have hreads : Reads plutil schema (command.program paths) x fun _ => False := by
        refine reads_command_stranded command (t := t) ?_ hphase ⟨h.1, ?_⟩
        · rw [ih]
          exact ht
        · rw [ih]
          exact h.2
      have hsame : y.toRecords = x.toRecords :=
        Upholds.cut (I := fun z : Disk H => z.toRecords = x.toRecords) hreads hcut
      exact hsame.trans ih

/-- An uninstallation after the installation that was cut, let run for as
long as it goes, leaves the records of the cut. -/
theorem stranded_forever_uninstall :
    (cutAfter (Disk.comply (fun _ => .ok firstDocument) fun _ => 0) 50
      (Command.program (.below "/Users/owner") .uninstall) (firstInstallCut 44)).toRecords
      = (firstInstallCut 44).toRecords := by
  have hrun : Reaches (fun _ => .ok firstDocument) (fun _ => 0) (.below "/Users/owner")
      (firstInstallCut 44)
      (cutAfter (Disk.comply (fun _ => .ok firstDocument) fun _ => 0) 50
        (Command.program (.below "/Users/owner") .uninstall) (firstInstallCut 44)) :=
    .single ⟨.uninstall, cut_comply _ _ _⟩
  exact stranded_forever transaction_firstInstallCut (by decide)
    stranded_firstInstallCut hrun

/-! ## A rollback that is entered again -/

/-- **A rollback that no candidate has preceded keeps the database, and one
that is cut behind its mark and entered again does not**: the mark counts
as a phase in which the candidate may have come to the database, so the
history of the prior service is moved to the evidence and nothing is put
in its place. -/
theorem marked_rollback_reentered (home : String) (uid : Nat) (h₀ : Settled d₀)
    (hrun : Reaches plutil schema (.below home) d₀ d) (ht : d.transaction = some t)
    (hearly : t.phase = .prepared ∨ t.phase = .candidateDurable ∨ t.phase = .priorDrained)
    (hrestore : t.rollbackDatabaseRestore = false) (hback : t.databaseBackedUp = false)
    (hclear : d.databaseBackup = none) :
    (∀ o d', Ran (Disk.obeys plutil schema) (recoverIncompleteInstall (.below home) uid) d o d' →
      o = .ok () ∧ d'.database = d.database) ∧
    Cut (Disk.obeys plutil schema) (recoverIncompleteInstall (.below home) uid) d
      { d with transaction := some t.inRollback } ∧
    (∀ o d', Ran (Disk.obeys plutil schema) (recoverIncompleteInstall (.below home) uid)
        { d with transaction := some t.inRollback } o d' →
      o = .ok () ∧ d'.database = .absent ∧
        ∃ directory, d'.failedGenerations = d.failedGenerations ++ d.evidenceOf directory) := by
  have hpaths := managed_below home
  have hphase : t.phase ≠ .candidateReadyReportOnly ∧ t.phase ≠ .accepted := by
    rcases hearly with hp | hp | hp
    · rw [hp]
      decide
    · rw [hp]
      decide
    · rw [hp]
      decide
  have hunchanged : t.inRollback.rollbackDatabaseRestore = false := by
    rcases hearly with hp | hp | hp
    · simp [InstallTransaction.inRollback, hrestore, hp, TransactionPhase.databaseMayHaveChanged]
    · simp [InstallTransaction.inRollback, hrestore, hp, TransactionPhase.databaseMayHaveChanged]
    · simp [InstallTransaction.inRollback, hrestore, hp, TransactionPhase.databaseMayHaveChanged]
  have hheld := (reaches_coherent hpaths h₀ hrun).held ht hphase.2
  have hnot : ¬ Stranded t d := fun hstranded => by
    have hsome := hstranded.2
    rw [hclear] at hsome
    cases hsome
  have hnot' : ¬ Stranded t.inRollback { d with transaction := some t.inRollback } :=
    fun hstranded => by
      have hsome : d.databaseBackup.isSome = true := hstranded.2
      rw [hclear] at hsome
      cases hsome
  have hmarked : Cut (Disk.obeys plutil schema) (recoverIncompleteInstall (.below home) uid) d
      { d with transaction := some t.inRollback } :=
    cut_marked hheld hnot (TransactionPhase.rollbackPrior_iff.2 hphase)
  refine ⟨fun o d' hran => ?_, hmarked, fun o d' hran => ?_⟩
  · obtain ⟨u, rfl, hrestored⟩ := Upholds.ran (finishes_recoverIncompleteInstall hpaths hheld hnot
      (TransactionPhase.rollbackPrior_iff.2 hphase)) hran
    refine ⟨rfl, ?_⟩
    rw [hrestored.database, Disk.rolledBack, hunchanged]
    rfl
  · obtain ⟨u, rfl, hrestored⟩ := Upholds.ran (finishes_recoverIncompleteInstall hpaths hheld.mark
      hnot' rfl) hran
    -- the phase of a marked transaction is one of those that may have changed it
    have hagain : t.inRollback.inRollback.rollbackDatabaseRestore = true := by
      simp [InstallTransaction.inRollback, TransactionPhase.databaseMayHaveChanged]
    have hback : t.inRollback.databaseBackedUp = false := hback
    obtain ⟨directory, hevidence⟩ := hrestored.evidence
    refine ⟨rfl, ?_, directory, ?_⟩
    · rw [hrestored.database, Disk.rolledBack, hagain, hback]
      rfl
    · rw [hevidence, Disk.keptBy, hagain]
      rfl

/-- So it is with a later installation that is cut when it has drained. -/
theorem marked_rollback_reentered_later :
    (∀ o d', Ran (Disk.obeys readsManaged id) (recoverIncompleteInstall ownerPaths 0)
        (laterInstallCut 35) o d' →
      o = .ok () ∧ d'.database = (laterInstallCut 35).database) ∧
    Cut (Disk.obeys readsManaged id) (recoverIncompleteInstall ownerPaths 0) (laterInstallCut 35)
      { laterInstallCut 35 with transaction := some laterTransaction.inRollback } ∧
    (∀ o d', Ran (Disk.obeys readsManaged id) (recoverIncompleteInstall ownerPaths 0)
        { laterInstallCut 35 with transaction := some laterTransaction.inRollback } o d' →
      o = .ok () ∧ d'.database = .absent ∧ ∃ directory, d'.failedGenerations
        = (laterInstallCut 35).failedGenerations ++ (laterInstallCut 35).evidenceOf directory) :=
  marked_rollback_reentered "/Users/owner" 0 settled_servedDisk (reaches_laterInstallCut 35)
    (by decide +kernel) (Or.inr (Or.inr rfl)) rfl rfl (by decide +kernel)

end Cli

end Unlinger
