import Unlinger.Cli.Helpers.Lease

/-!
# What the validations find out

Every part of a command that only reads, with what a value of it tells
about the records; and the parts that talk to others, or work on the
database, which tell nothing.
-/

namespace Unlinger

open Interaction Crash

namespace Cli

variable {H : Type} {plutil : String → Except ServiceError LaunchAgentDocument} {schema : H → Nat}
  {paths : LocalPaths} {d : Disk H} {t : InstallTransaction}

/-! ## Records -/

/-- The transaction that is read is the one on the disk, at the version this
program writes. -/
theorem reads_transaction :
    Reads plutil schema readOptionalTransaction d fun o => o = d.transaction ∧
      ∀ t, o = some t → t.schemaVersion = serviceTransactionSchemaVersion := by
  have hread : Reads plutil schema (orFail (Prog.ask Call.readTransaction)) d
      fun o => o = d.transaction := by
    refine Reads.orFail (Reads.ask rfl ?_)
    rintro r d' ⟨database, hlook⟩
    exact hlook.2
  refine Reads.bind hread fun o d' _ ho => ?_
  cases o with
  | none => exact reads_pure ⟨ho, fun t ht => by cases ht⟩
  | some transaction =>
      refine Reads.bind (reads_check fun u hu => require_eq_ok.1 hu) fun u d' _ hversion => ?_
      refine reads_pure ⟨ho, fun t ht => ?_⟩
      obtain rfl := Option.some.inj ht
      exact hversion

/-- So is the manifest. -/
theorem reads_manifest :
    Reads plutil schema readOptionalManifest d fun o => o = d.activeManifest ∧
      ∀ m, o = some m → m.schemaVersion = serviceManifestSchemaVersion := by
  have hread : Reads plutil schema (orFail (Prog.ask Call.readManifest)) d
      fun o => o = d.activeManifest := by
    refine Reads.orFail (Reads.ask rfl ?_)
    rintro r d' ⟨database, hlook⟩
    exact hlook.2
  refine Reads.bind hread fun o d' _ ho => ?_
  cases o with
  | none => exact reads_pure ⟨ho, fun m hm => by cases hm⟩
  | some manifest =>
      refine Reads.bind (reads_check fun u hu => require_eq_ok.1 hu) fun u d' _ hversion => ?_
      refine reads_pure ⟨ho, fun m hm => ?_⟩
      obtain rfl := Option.some.inj hm
      exact hversion

/-- What is read of the LaunchAgent is its text. -/
theorem reads_launchAgent :
    Reads plutil schema (orFail (Prog.ask Call.readLaunchAgent)) d
      fun o => o = d.launchAgent := by
  refine Reads.orFail (Reads.ask rfl ?_)
  rintro r d' ⟨database, hlook⟩
  exact hlook.2

theorem reads_launchAgentText :
    Reads plutil schema (orFail (Prog.ask Call.readLaunchAgentText)) d
      fun o => o = d.launchAgent := by
  refine Reads.orFail (Reads.ask rfl ?_)
  rintro r d' ⟨database, hlook⟩
  exact hlook.2

/-! ## LaunchAgents -/

/-- A text that parses is one `plutil` reads. -/
theorem reads_parseLaunchAgent {contents : String} :
    Reads plutil schema (parseLaunchAgent contents) d
      fun document => plutil contents = .ok document := by
  refine Reads.orFail (Reads.ask rfl ?_)
  rintro r d' ⟨database, -, hparse⟩ document rfl
  exact hparse document rfl

/-- The generation found installed is the one the LaunchAgent names. -/
theorem reads_installedGeneration :
    Reads plutil schema (installedGeneration paths) d
      fun o => installedOf plutil paths d.launchAgent = .ok o := by
  refine Reads.bind reads_launchAgent fun o d' _ ho => ?_
  rw [← ho]
  cases o with
  | none => exact reads_pure rfl
  | some contents =>
      refine Reads.bind reads_parseLaunchAgent fun document d' _ hdocument => ?_
      refine reads_check fun o hinstalled => ?_
      simp only [installedOf, hdocument, ok_bind]
      exact hinstalled

/-- A plist that passes has the document that was expected. -/
theorem reads_validatePlist {contents program : String} {expectation : LaunchAgentExpectation} :
    Reads plutil schema (validatePlist contents program expectation) d fun _ =>
      ∃ document, plutil contents = .ok document ∧
        document.validate program expectation = .ok () := by
  refine Reads.bind reads_parseLaunchAgent fun document d' _ hdocument => ?_
  refine reads_check fun u hvalid => ?_
  exact ⟨document, hdocument, hvalid⟩

/-- The target of a rollback is a matter of the transaction alone. -/
theorem reads_rollbackTarget :
    Reads plutil schema (rollbackTarget paths t) d
      fun target => rollbackTargetOf plutil paths t = .ok target := by
  unfold rollbackTarget rollbackTargetOf
  cases t.priorPlist with
  | none => exact reads_pure rfl
  | some priorPlist =>
      have hvalidated : Reads plutil schema (validateReportOnlyRollbackPlist paths t priorPlist) d
          fun contents => (do
            let document ← plutil priorPlist
            let contents ← document.reportOnlyText priorPlist
            let reportOnly ← plutil contents
            reportOnly.validate (t.rollbackExpectation paths).1 (t.rollbackExpectation paths).2
            return some contents) = .ok (some contents) := by
        have htext : Reads plutil schema (reportOnlyRollbackPlist priorPlist) d fun contents =>
            ∃ document, plutil priorPlist = .ok document ∧
              document.reportOnlyText priorPlist = .ok contents := by
          refine Reads.bind reads_parseLaunchAgent fun document d' _ hdocument => ?_
          exact reads_check fun contents htext => ⟨document, hdocument, htext⟩
        refine Reads.bind htext fun contents d' _ hcontents => ?_
        refine Reads.bind reads_validatePlist fun u d' _ hvalid => ?_
        obtain ⟨document, hdocument, htext⟩ := hcontents
        obtain ⟨reportOnly, hreads, hvalid⟩ := hvalid
        refine reads_pure ?_
        have hexpected : reportOnly.validate (t.rollbackExpectation paths).1
            (t.rollbackExpectation paths).2 = .ok () := hvalid
        simp only [hdocument, ok_bind, htext, hreads, hexpected]
        rfl
      exact Reads.bind hvalidated fun contents d' _ hcontents => reads_pure hcontents

/-! ## Generations -/

/-- A generation that passes is there, and its manifest is its own. -/
theorem reads_validateGeneration {generation : Nat} :
    Reads plutil schema (validateGeneration generation) d fun dir =>
      d.generations.lookup generation = some dir ∧ dir.manifest = .new generation := by
  have hinspect : Reads plutil schema (orFail (Prog.ask (Call.inspectGeneration generation))) d
      fun dir => d.generations.lookup generation = some dir := by
    refine Reads.orFail (Reads.ask rfl ?_)
    rintro r d' ⟨database, -, hlook⟩ dir rfl
    exact hlook dir rfl
  refine Reads.bind hinspect fun dir d' _ hdir => ?_
  refine Reads.bind (reads_check fun u hu => require_eq_ok.1 hu) fun u d' _ hmanifest => ?_
  exact reads_pure ⟨hdir, hmanifest⟩

/-- One a rollback may go back to is sealed. -/
theorem reads_validateRollbackGeneration {generation : Nat} :
    Reads plutil schema (validateRollbackGeneration generation) d
      fun _ => Sealed d.toRecords generation := by
  refine Reads.bind reads_validateGeneration fun dir d' _ hdir => ?_
  refine reads_check fun u hu => ?_
  have hsealed : dir.isSealed = true := require_eq_ok.1 hu
  obtain ⟨manifest, isSealed⟩ := dir
  obtain ⟨hlookup, rfl⟩ := hdir
  obtain rfl := hsealed
  exact hlookup

/-- What the LaunchAgent selects is the transaction's, and sealed. -/
theorem reads_launchAgentScope :
    Reads plutil schema (validateLaunchAgentScope paths t) d fun _ =>
      ∃ o, installedOf plutil paths d.launchAgent = .ok o ∧
        ∀ g, o = some g → t.allowsGeneration g = true ∧ Sealed d.toRecords g := by
  refine Reads.bind reads_installedGeneration fun o d' hd' ho => ?_
  cases o with
  | none => exact reads_pure ⟨none, ho, fun g hg => by cases hg⟩
  | some generation =>
      refine Reads.bind (reads_check fun u hu => require_eq_ok.1 hu) fun u d'' hd'' hallows => ?_
      refine Reads.imp reads_validateRollbackGeneration fun u hsealed => ?_
      refine ⟨some generation, ho, fun g hg => ?_⟩
      obtain rfl := Option.some.inj hg
      rw [hd'', hd'] at hsealed
      exact ⟨hallows, hsealed⟩

/-- What the manifest selects is too. -/
theorem reads_manifestScope :
    Reads plutil schema (validateManifestScope t) d fun _ =>
      ∀ m, d.activeManifest = some m → m.schemaVersion = serviceManifestSchemaVersion ∧
        t.allowsGeneration m.activeGeneration = true ∧ Sealed d.toRecords m.activeGeneration := by
  refine Reads.bind reads_manifest fun o d' hd' ho => ?_
  obtain ⟨hmanifest, hversion⟩ := ho
  rw [← hmanifest]
  cases o with
  | none => exact reads_pure fun m hm => by cases hm
  | some manifest =>
      refine Reads.bind (reads_check fun u hu => require_eq_ok.1 hu) fun u d'' hd'' hallows => ?_
      refine Reads.imp reads_validateRollbackGeneration fun u hsealed => ?_
      intro m hm
      obtain rfl := Option.some.inj hm
      rw [hd'', hd'] at hsealed
      exact ⟨hversion _ rfl, hallows, hsealed⟩

/-- **A rollback that goes on finds the records in its scope.** -/
theorem reads_rollbackSelectionScope :
    Reads plutil schema (validateRollbackSelectionScope paths t) d
      fun _ => InScope plutil paths t d.toRecords := by
  refine Reads.bind reads_launchAgentScope fun u d' hd' hlaunchAgent => ?_
  refine Reads.imp reads_manifestScope fun u hmanifest => ⟨hlaunchAgent, ?_⟩
  rw [hd'] at hmanifest
  exact hmanifest

/-! ## The backup -/

theorem reads_backupExists :
    Reads plutil schema (orFail (Prog.ask (Call.pathEntryExists .databaseBackup))) d
      fun present => present = d.databaseBackup.isSome := by
  refine Reads.orFail (Reads.ask rfl ?_)
  rintro r d' ⟨database, hlook⟩
  exact hlook.2

end Cli

end Unlinger
