import Unlinger.Cli.Recovery

/-!
# Who asks for enforcement

The active manifest says what the owner wants of the daemon. A candidate is
installed report-only, the prior is restored report-only, and a manifest
that wants enforcement is written by `set_mode` alone, when it is asked to
enforce. So where nobody asks, none is ever on disk.
-/

namespace Unlinger

open Interaction Crash

namespace Cli

variable {H : Type} {α : Type} {plutil : String → Except ServiceError LaunchAgentDocument}
  {schema : H → Nat} {paths : LocalPaths} {d₀ d d' : Disk H} {t : InstallTransaction}

/-! ## Calls that ask for no enforcement -/

/-- A manifest that is written wants no enforcement. -/
def Call.writesReportOnly : Call → Prop
  | .writeManifest m => m.desiredMode = .reportOnly
  | _ => True

/-- The manifest on disk wants none. -/
def WantsReportOnly (x : Records H) : Prop :=
  ∀ m, x.activeManifest = some m → m.desiredMode = .reportOnly

/-- Every call of the program is such. -/
abbrev WritesReportOnly (p : ServiceProg α) : Prop := p.Only Call.writesReportOnly

/-- A quiet call writes no manifest. -/
theorem Call.writesReportOnly_of_quiet (c : Call) (h : c.quiet = true) : c.writesReportOnly := by
  cases c with
  | writeManifest m => cases h
  | _ => exact trivial

/-- So quiet programs write none. -/
theorem writesReportOnly_quiet {p : ServiceProg α} (h : p.Only fun c => c.quiet = true) :
    WritesReportOnly p :=
  h.mono Call.writesReportOnly_of_quiet

/-- The manifest is as it was, or it wants none. -/
theorem Disk.serves_writesReportOnly {c : Call} {r : Answer c} (hc : c.writesReportOnly)
    (hd : WantsReportOnly d.toRecords) (h : Disk.serves plutil schema d c r d') :
    WantsReportOnly d'.toRecords := by
  by_cases hquiet : c.quiet = true
  · rw [Disk.serves_quiet hquiet h]
    exact hd
  · obtain ⟨database, h⟩ := h
    cases c with
    | writeManifest manifest =>
        rcases h with rfl | ⟨rfl, -⟩
        · intro m hm
          obtain rfl := Option.some.inj hm
          exact hc
        · exact hd
    | writeTransaction | writeLaunchAgent | sealGeneration =>
        rcases h with rfl | ⟨rfl, -⟩
        · exact hd
        · exact hd
    | removeFile path =>
        rcases h with rfl | ⟨rfl, -⟩
        · cases path with
          | activeManifest => exact fun m hm => by cases hm
          | launchAgent | transaction | databaseBackup | databaseBackupPending | daemonBinary
          | cliBinary | database => exact hd
        · exact hd
    | publishGeneration generation =>
        simp only [Disk.answers, Disk.Publishes] at h
        split_ifs at h
        · obtain ⟨rfl, -⟩ := h
          exact hd
        · obtain ⟨stages, rfl | ⟨rfl, -⟩⟩ := h
          · exact hd
          · exact hd
    | discardGeneration generation =>
        obtain ⟨generations, rfl, -⟩ := h
        exact hd
    | removeGenerationEntry name =>
        obtain ⟨generations, stages, rfl, -⟩ := h
        exact hd
    | publishBackup =>
        simp only [Disk.answers, Disk.PublishesBackup] at h
        split_ifs at h
        · obtain ⟨rfl, -⟩ := h
          exact hd
        · rcases h with rfl | ⟨rfl, -⟩
          · exact hd
          · exact hd
    | _ => exact absurd rfl hquiet

/-! ## Programs that ask for none -/

/-- One call that may fail. -/
theorem writesReportOnly_call {c : Call} {k : Answer c → Except ServiceError α}
    (h : c.writesReportOnly) : WritesReportOnly (orFail (.call c fun r => .ret (k r))) :=
  ⟨h, fun _ => Prog.only_orThrow⟩

/-- Finishing an acceptance writes none. -/
theorem writesReportOnly_finalizeAcceptedLease : WritesReportOnly (finalizeAcceptedLease t) := by
  refine Prog.Only.bind Prog.only_orThrow fun _ => ?_
  refine Prog.Only.bind (writesReportOnly_call trivial) fun _ => ?_
  refine Prog.Only.bind (writesReportOnly_call trivial) fun _ => ?_
  refine Prog.Only.bind (writesReportOnly_call trivial) fun _ => ?_
  exact Prog.Only.bind (writesReportOnly_call trivial) fun _ => writesReportOnly_call trivial

theorem quiet_rollbackTarget : (rollbackTarget paths t).Only fun c => c.quiet = true := by
  unfold rollbackTarget
  cases t.priorPlist with
  | none => exact Prog.only_pure
  | some plist =>
      exact Prog.Only.bind (quiet_validateReportOnlyRollbackPlist plist) fun _ => Prog.only_pure

theorem quiet_validateRollbackGeneration (generation : Nat) :
    (validateRollbackGeneration generation).Only fun c => c.quiet = true :=
  Prog.Only.bind (quiet_validateGeneration _) fun _ => Prog.only_orThrow

/-- What is selected is only looked at. -/
theorem quiet_validateRollbackSelectionScope :
    (validateRollbackSelectionScope paths t).Only fun c => c.quiet = true := by
  have hagent : (validateLaunchAgentScope paths t).Only fun c => c.quiet = true := by
    refine Prog.Only.bind quiet_installedGeneration fun o => ?_
    cases o with
    | none => exact Prog.only_pure
    | some generation =>
        exact Prog.Only.bind Prog.only_orThrow fun _ => quiet_validateRollbackGeneration generation
  refine Prog.Only.bind hagent fun _ => ?_
  refine Prog.Only.bind quiet_readOptionalManifest fun o => ?_
  cases o with
  | none => exact Prog.only_pure
  | some m => exact Prog.Only.bind Prog.only_orThrow fun _ => quiet_validateRollbackGeneration _

/-- The database is put back without a manifest. -/
theorem writesReportOnly_rollbackDatabase : WritesReportOnly (rollbackDatabase paths t) := by
  unfold rollbackDatabase
  split_ifs with hrestore hback
  · refine Prog.Only.bind (writesReportOnly_quiet (quiet_restoreDatabaseBackupFiles _)) fun _ => ?_
    exact Prog.only_pure
  · refine Prog.Only.bind (writesReportOnly_call trivial) fun present => ?_
    cases present with
    | true => exact Prog.only_throw
    | false =>
        refine Prog.Only.bind (writesReportOnly_quiet (quiet_preserveFailedDatabase _)) fun _ => ?_
        exact Prog.only_pure
  · exact writesReportOnly_call trivial

/-- The prior is restored report-only. -/
theorem writesReportOnly_republishPrior {uid : Nat} (target : Option String) :
    WritesReportOnly (republishPrior uid t target) := by
  cases target with
  | none =>
      exact Prog.Only.bind (writesReportOnly_call trivial) fun _ => writesReportOnly_call trivial
  | some contents =>
      refine Prog.Only.bind (writesReportOnly_call trivial) fun _ => ?_
      have hmanifest : WritesReportOnly (publishPriorManifest t) := by
        unfold publishPriorManifest
        cases t.priorManifest with
        | none => exact writesReportOnly_call trivial
        | some prior => exact writesReportOnly_call rfl
      exact Prog.Only.bind hmanifest fun _ => writesReportOnly_quiet (quiet_restartPrior uid)

/-- A rollback publishes the prior manifest on its report-only floor. -/
theorem writesReportOnly_rollbackInstallTransaction {uid : Nat} :
    WritesReportOnly (rollbackInstallTransaction paths uid t) := by
  refine Prog.Only.bind (writesReportOnly_quiet quiet_rollbackTarget) fun target => ?_
  refine Prog.Only.bind (writesReportOnly_quiet quiet_validateRollbackSelectionScope) fun _ => ?_
  refine Prog.Only.bind (writesReportOnly_quiet quiet_committedBackup) fun _ => ?_
  have hmark : WritesReportOnly (markRollbackInProgress t) :=
    Prog.Only.bind (writesReportOnly_call trivial) fun _ => Prog.only_pure
  refine Prog.Only.bind hmark fun marked => ?_
  refine Prog.Only.bind (writesReportOnly_call trivial) fun _ => ?_
  refine Prog.Only.bind (writesReportOnly_call trivial) fun _ => ?_
  refine Prog.Only.bind (writesReportOnly_call trivial) fun _ => ?_
  refine Prog.Only.bind writesReportOnly_rollbackDatabase fun _ => ?_
  refine Prog.Only.bind (writesReportOnly_republishPrior target) fun _ => ?_
  refine Prog.Only.bind (writesReportOnly_call trivial) fun _ => ?_
  refine Prog.Only.bind (writesReportOnly_call trivial) fun _ => ?_
  refine Prog.Only.bind (writesReportOnly_call trivial) fun _ => ?_
  exact Prog.Only.ask trivial fun _ => Prog.only_pure

/-- So does a recovery. -/
theorem writesReportOnly_recoverIncompleteInstall {uid : Nat} :
    WritesReportOnly (recoverIncompleteInstall paths uid) := by
  refine Prog.Only.bind (writesReportOnly_quiet quiet_readOptionalTransaction) fun o => ?_
  cases o with
  | none =>
      exact Prog.Only.bind (writesReportOnly_call trivial) fun _ => writesReportOnly_call trivial
  | some t =>
      cases hdisposition : t.phase.recoveryDisposition with
      | holdForExplicitDecision =>
          simp only [hdisposition]
          exact Prog.only_throw
      | finalizeAccepted =>
          simp only [hdisposition]
          exact writesReportOnly_finalizeAcceptedLease
      | rollbackPrior =>
          simp only [hdisposition]
          exact writesReportOnly_rollbackInstallTransaction

/-! ### Installing -/

theorem writesReportOnly_createGeneration (generation : Nat) :
    WritesReportOnly (createGeneration generation) := by
  have hstaged : ∀ steps, WritesReportOnly (stageSteps generation steps) := fun steps =>
    writesReportOnly_quiet (quiet_stageSteps generation steps)
  have hsealed : WritesReportOnly (sealPublished generation) := by
    refine Prog.Only.bind (writesReportOnly_call trivial) fun _ => ?_
    refine Prog.Only.bind (writesReportOnly_call trivial) fun _ => ?_
    exact Prog.Only.bind (writesReportOnly_quiet (quiet_validateGeneration _)) fun _ =>
      Prog.only_pure
  refine Prog.Only.ask trivial fun present => ?_
  split_ifs with hpresent
  · exact Prog.only_throw
  · refine Prog.Only.bind (hstaged _) fun _ => ?_
    refine Prog.Only.bind (hstaged _).attempt fun filled => ?_
    cases filled with
    | error e => exact Prog.Only.ask trivial fun _ => Prog.only_throw
    | ok u =>
        refine Prog.Only.ask trivial fun published => ?_
        cases published with
        | error e => exact Prog.Only.ask trivial fun _ => Prog.only_throw
        | ok u =>
            refine Prog.Only.bind hsealed.attempt fun sealed => ?_
            cases sealed with
            | error e => exact Prog.Only.ask trivial fun _ => Prog.only_throw
            | ok u => exact Prog.only_pure

/-- A snapshot writes no manifest. -/
theorem writesReportOnly_backupDatabase : WritesReportOnly (backupDatabase paths) := by
  have hsnapshot : WritesReportOnly snapshotDatabase := by
    refine Prog.Only.bind (writesReportOnly_call trivial) fun _ => ?_
    refine Prog.Only.bind (writesReportOnly_call trivial) fun _ => ?_
    refine Prog.Only.bind (writesReportOnly_call trivial) fun _ => ?_
    refine Prog.Only.bind (writesReportOnly_call trivial) fun _ => ?_
    exact Prog.Only.bind (writesReportOnly_call trivial) fun _ => writesReportOnly_call trivial
  refine Prog.Only.bind Prog.only_orThrow fun _ => ?_
  refine Prog.Only.bind (writesReportOnly_call trivial) fun present => ?_
  split_ifs with hpresent
  · refine Prog.Only.bind (writesReportOnly_call trivial) fun _ => ?_
    exact Prog.Only.bind (writesReportOnly_call trivial) fun _ => Prog.only_pure
  · refine Prog.Only.bind (writesReportOnly_quiet (quiet_presentComponents _)) fun _ => ?_
    refine Prog.Only.bind (writesReportOnly_call trivial) fun _ => ?_
    refine Prog.Only.bind (writesReportOnly_call trivial) fun _ => ?_
    refine Prog.Only.bind hsnapshot.attempt fun o => ?_
    cases o with
    | error e => exact Prog.Only.ask trivial fun _ => Prog.only_throw
    | ok u => exact Prog.only_pure

theorem writesReportOnly_backUp : WritesReportOnly (backUp paths t) := by
  refine Prog.Only.bind writesReportOnly_backupDatabase fun backed => ?_
  cases backed with
  | true => exact Prog.Only.bind (writesReportOnly_call trivial) fun _ => Prog.only_pure
  | false => exact Prog.only_pure

/-- The candidate is activated report-only. -/
theorem writesReportOnly_installCandidate {uid : Nat} {launchd : LaunchdState}
    {status : Option DaemonStatus} {offline : Bool} :
    WritesReportOnly (installCandidate paths uid launchd status offline t) := by
  refine Prog.Only.bind (writesReportOnly_createGeneration _) fun _ => ?_
  refine Prog.Only.bind (writesReportOnly_call trivial) fun _ => ?_
  have hvalid : WritesReportOnly (validatePlist (launchAgentPlist paths t.candidateGeneration)
      (paths.generationDaemon t.candidateGeneration) (.managed t.candidateGeneration)) :=
    Prog.Only.bind (writesReportOnly_call trivial) fun _ => Prog.only_orThrow
  refine Prog.Only.bind hvalid fun _ => ?_
  refine Prog.Only.bind (writesReportOnly_quiet (quiet_drainPrior _ _ _)) fun _ => ?_
  refine Prog.Only.bind (writesReportOnly_call trivial) fun _ => ?_
  refine Prog.Only.bind writesReportOnly_backUp fun backed => ?_
  refine Prog.Only.bind (writesReportOnly_call trivial) fun _ => ?_
  refine Prog.Only.bind (writesReportOnly_call trivial) fun _ => ?_
  refine Prog.Only.bind (writesReportOnly_call rfl) fun _ => ?_
  refine Prog.Only.bind (writesReportOnly_call trivial) fun _ => ?_
  refine Prog.Only.ask trivial fun _ => ?_
  refine Prog.Only.bind (writesReportOnly_call trivial) fun _ => ?_
  refine Prog.Only.bind (writesReportOnly_quiet (quiet_waitForGenerationReady _ _)) fun _ => ?_
  exact writesReportOnly_call trivial

/-- Nor does opening a transaction. -/
theorem writesReportOnly_openTransaction {launchd : LaunchdState} :
    WritesReportOnly (openTransaction paths launchd) := by
  have hnext : WritesReportOnly nextGeneration := by
    refine Prog.Only.bind (writesReportOnly_call trivial) fun _ => ?_
    refine Prog.Only.bind Prog.only_orThrow fun _ => ?_
    exact Prog.Only.bind Prog.only_orThrow fun _ => Prog.only_pure
  refine Prog.Only.bind (writesReportOnly_quiet quiet_readOptionalManifest) fun _ => ?_
  refine Prog.Only.bind (writesReportOnly_call trivial) fun _ => ?_
  refine Prog.Only.bind hnext fun _ => ?_
  refine Prog.Only.bind Prog.only_orThrow fun _ => ?_
  exact Prog.Only.bind (writesReportOnly_quiet quiet_rollbackTarget) fun _ => Prog.only_pure

/-- An installation writes its candidate report-only. -/
theorem writesReportOnly_install {mode : DaemonMode} : WritesReportOnly (install paths mode) := by
  refine Prog.Only.bind Prog.only_orThrow fun _ => ?_
  refine Prog.Only.bind (writesReportOnly_quiet quiet_beginMutation) fun uid => ?_
  refine Prog.Only.bind writesReportOnly_recoverIncompleteInstall fun _ => ?_
  refine Prog.Only.bind (writesReportOnly_call trivial) fun launchd => ?_
  refine Prog.Only.bind (writesReportOnly_quiet (quiet_priorStatus _)) fun status => ?_
  refine Prog.Only.bind (writesReportOnly_quiet (quiet_proveOfflineUnlessRunning _))
    fun offline => ?_
  refine Prog.Only.bind writesReportOnly_openTransaction fun t => ?_
  refine Prog.Only.bind (writesReportOnly_call trivial) fun _ => ?_
  refine Prog.Only.bind writesReportOnly_installCandidate.attempt fun result => ?_
  refine Prog.Only.ask trivial fun _ => ?_
  cases result with
  | ok u => exact writesReportOnly_quiet (quiet_waitForMode _ _)
  | error error =>
      refine Prog.Only.bind writesReportOnly_recoverIncompleteInstall.attempt fun recovered => ?_
      cases recovered with
      | ok u => exact Prog.only_throw
      | error e => exact Prog.only_throw

/-! ### Deciding, restarting, uninstalling -/

/-- An acceptance asks for no enforcement, whichever way it ends. -/
theorem writesReportOnly_acceptCandidate : WritesReportOnly (acceptCandidate paths) := by
  refine Prog.Only.bind (writesReportOnly_quiet quiet_beginMutation) fun uid => ?_
  refine Prog.Only.bind (writesReportOnly_quiet quiet_readOptionalTransaction) fun o => ?_
  have hrecovered : ∀ e, WritesReportOnly
      (recoverIncompleteInstall paths uid >>= fun _ =>
        (Prog.throw e : ServiceProg ServiceStatusReport)) := fun e =>
    Prog.Only.bind writesReportOnly_recoverIncompleteInstall fun _ => Prog.only_throw
  cases o with
  | none => exact Prog.only_throw
  | some t =>
      cases hphase : t.phase with
      | accepted =>
          simp only [hphase]
          exact Prog.Only.bind writesReportOnly_finalizeAcceptedLease fun _ =>
            writesReportOnly_call trivial
      | candidateReadyReportOnly =>
          simp only [hphase]
          refine Prog.Only.bind (writesReportOnly_quiet quiet_validateCandidateAcceptanceState)
            fun _ => ?_
          refine Prog.Only.bind (writesReportOnly_call trivial) fun _ => ?_
          have hcommit : WritesReportOnly
              (commitAcceptance paths { t with phase := .acceptanceInProgress }) :=
            Prog.Only.bind (writesReportOnly_quiet quiet_validateCandidateAcceptanceState)
              fun _ => writesReportOnly_call trivial
          refine Prog.Only.bind hcommit.attempt fun committed => ?_
          cases committed with
          | ok u =>
              refine Prog.Only.bind writesReportOnly_finalizeAcceptedLease.attempt
                fun finalized => ?_
              cases finalized with
              | ok u => exact writesReportOnly_call trivial
              | error e => exact Prog.only_throw
          | error e =>
              refine Prog.Only.bind writesReportOnly_recoverIncompleteInstall.attempt
                fun recovered => ?_
              cases recovered with
              | error e => exact Prog.only_throw
              | ok u =>
                  refine Prog.Only.bind (writesReportOnly_call trivial) fun report => ?_
                  split_ifs with hready
                  · exact Prog.only_pure
                  · exact Prog.only_throw
      | prepared | candidateDurable | priorDrained | databaseBackedUp | candidateSelected
      | acceptanceInProgress | rollbackInProgress =>
          simp only [hphase]
          exact hrecovered _

/-- A rejected candidate gives way to a report-only prior. -/
theorem writesReportOnly_rollbackCandidate : WritesReportOnly (rollbackCandidate paths) := by
  refine Prog.Only.bind (writesReportOnly_quiet quiet_beginMutation) fun uid => ?_
  refine Prog.Only.bind (writesReportOnly_quiet quiet_readOptionalTransaction) fun o => ?_
  cases o with
  | none => exact Prog.only_throw
  | some t =>
      dsimp only
      split_ifs with hphase
      · exact Prog.Only.bind writesReportOnly_finalizeAcceptedLease fun _ => Prog.only_throw
      · exact Prog.Only.bind writesReportOnly_rollbackInstallTransaction fun _ =>
          writesReportOnly_call trivial

/-- `set_mode` to report-only contains what runs. -/
theorem writesReportOnly_setMode : WritesReportOnly (setMode paths .reportOnly) := by
  refine Prog.Only.bind (writesReportOnly_quiet quiet_beginMutation) fun _ => ?_
  refine Prog.Only.bind writesReportOnly_recoverIncompleteInstall fun _ => ?_
  refine Prog.Only.bind (writesReportOnly_call trivial) fun uid => ?_
  refine Prog.Only.bind (writesReportOnly_quiet quiet_readOptionalManifest) fun o => ?_
  cases o with
  | none => exact Prog.only_throw
  | some manifest =>
      refine Prog.Only.bind (writesReportOnly_call trivial) fun launchd => ?_
      have hroute : setModeRoute .reportOnly launchd = .reportOnlyContainment := rfl
      simp only [hroute]
      have hpublish : WritesReportOnly (recoverThenPublishReportOnly manifest) :=
        Prog.Only.bind (writesReportOnly_call trivial) fun _ => writesReportOnly_call rfl
      exact Prog.Only.bind hpublish fun _ => writesReportOnly_quiet (quiet_waitForMode _ _)

/-- A restart asks for report-only. -/
theorem writesReportOnly_restartReportOnly : WritesReportOnly (restartReportOnly paths) := by
  refine Prog.Only.bind (writesReportOnly_quiet quiet_beginMutation) fun uid => ?_
  have hsettle : WritesReportOnly (settleBeforeRestart paths uid) := by
    refine Prog.Only.bind (writesReportOnly_quiet quiet_readOptionalTransaction) fun o => ?_
    cases o with
    | none => exact Prog.only_pure
    | some t =>
        cases hphase : t.phase with
        | accepted =>
            simp only [hphase]
            exact writesReportOnly_finalizeAcceptedLease
        | candidateReadyReportOnly =>
            simp only [hphase]
            exact writesReportOnly_quiet quiet_validateCandidateRestartState
        | prepared | candidateDurable | priorDrained | databaseBackedUp | candidateSelected
        | acceptanceInProgress | rollbackInProgress =>
            simp only [hphase]
            exact Prog.Only.bind writesReportOnly_recoverIncompleteInstall fun _ => Prog.only_throw
  refine Prog.Only.bind hsettle fun _ => ?_
  refine Prog.Only.bind (writesReportOnly_quiet quiet_readOptionalManifest) fun o => ?_
  cases o with
  | none => exact Prog.only_throw
  | some m =>
      refine Prog.Only.bind Prog.only_orThrow fun _ => ?_
      refine Prog.Only.bind (writesReportOnly_call trivial) fun _ => ?_
      exact writesReportOnly_quiet (quiet_waitForGenerationReady _ _)

theorem writesReportOnly_removeFiles (files : List ManagedPath) :
    WritesReportOnly (removeFiles files) := by
  induction files with
  | nil => exact Prog.only_pure
  | cons path files ih => exact Prog.Only.bind (writesReportOnly_call trivial) fun _ => ih

theorem writesReportOnly_removeGenerationEntries (entries : List GenerationEntry) :
    WritesReportOnly (removeGenerationEntries entries) := by
  induction entries with
  | nil => exact Prog.only_pure
  | cons entry entries ih =>
      refine Prog.Only.bind Prog.only_orThrow fun _ => ?_
      refine Prog.Only.bind Prog.only_orThrow fun _ => ?_
      exact Prog.Only.bind (writesReportOnly_call trivial) fun _ => ih

/-- An uninstallation writes no manifest but a recovery's. -/
theorem writesReportOnly_uninstall : WritesReportOnly (uninstall paths) := by
  refine Prog.Only.bind (writesReportOnly_quiet quiet_beginMutation) fun uid => ?_
  refine Prog.Only.bind writesReportOnly_recoverIncompleteInstall fun _ => ?_
  refine Prog.Only.bind (writesReportOnly_call trivial) fun launchd => ?_
  refine Prog.Only.bind (writesReportOnly_quiet (quiet_quiesceForUninstall _)) fun _ => ?_
  refine Prog.Only.bind (writesReportOnly_call trivial) fun _ => ?_
  refine Prog.Only.bind (writesReportOnly_removeFiles _) fun _ => ?_
  have htree : WritesReportOnly removeGenerationTree := by
    refine Prog.Only.bind (writesReportOnly_call trivial) fun entries => ?_
    refine Prog.Only.bind (writesReportOnly_removeGenerationEntries entries) fun _ => ?_
    exact writesReportOnly_call trivial
  refine Prog.Only.bind htree fun _ => ?_
  exact Prog.Only.ask trivial fun _ => writesReportOnly_call trivial

/-! ## Every command but one -/

/-- The one command that asks for enforcement. -/
def Command.enforces : Command → Bool
  | .setMode .enforce => true
  | _ => false

/-- **No other command writes a manifest that wants enforcement.** -/
theorem Command.writesReportOnly (command : Command) (h : command.enforces = false) :
    WritesReportOnly (command.program paths) := by
  cases command with
  | install mode => exact Prog.Only.bind writesReportOnly_install fun _ => Prog.only_pure
  | acceptCandidate => exact Prog.Only.bind writesReportOnly_acceptCandidate fun _ => Prog.only_pure
  | rollbackCandidate =>
      exact Prog.Only.bind writesReportOnly_rollbackCandidate fun _ => Prog.only_pure
  | setMode mode =>
      cases mode with
      | reportOnly => exact Prog.Only.bind writesReportOnly_setMode fun _ => Prog.only_pure
      | enforce => cases h
  | restartReportOnly =>
      exact Prog.Only.bind writesReportOnly_restartReportOnly fun _ => Prog.only_pure
  | uninstall => exact Prog.Only.bind writesReportOnly_uninstall fun _ => Prog.only_pure
  | recoverIncompleteInstall uid => exact writesReportOnly_recoverIncompleteInstall

/-- What commands come to that ask for no enforcement, cut anywhere. -/
abbrev Unasked (plutil : String → Except ServiceError LaunchAgentDocument) (schema : H → Nat)
    (paths : LocalPaths) : Disk H → Disk H → Prop :=
  Relation.ReflTransGen (Started (Disk.serves plutil schema)
    fun command : { c : Command // c.enforces = false } => command.1.program paths)

/-- **Enforcement is on disk only where it was asked for**: no installation,
no decision, no recovery and no restart puts it there, whatever fails and
wherever it is cut. -/
theorem enforcement_asked_for (h : WantsReportOnly d.toRecords)
    (hrun : Unasked plutil schema paths d d') : WantsReportOnly d'.toRecords := by
  refine invariant_of_upholds (I := fun z : Disk H => WantsReportOnly z.toRecords)
    (fun command z hz => ?_) hrun h
  refine Upholds.mono (Upholds.only (command.1.writesReportOnly command.2)
    (fun x c r x' hc hx hserve => Disk.serves_writesReportOnly hc hx hserve) (fun _ hx => hx) hz)
    (fun _ hx => hx) fun _ _ _ => trivial

/-- A later installation that is ready wants none. -/
theorem enforcement_asked_for_later :
    (laterInstallCut 60).activeManifest = some (.new 2 .reportOnly) ∧
      WantsReportOnly (laterInstallCut 60).toRecords := by
  have hrun : Unasked readsManaged id ownerPaths servedDisk (laterInstallCut 60) :=
    .single ⟨⟨.install .reportOnly, rfl⟩, cut_comply _ _ _⟩
  have hserved : WantsReportOnly servedDisk.toRecords := by
    intro m hm
    obtain rfl := Option.some.inj hm
    rfl
  exact ⟨by decide +kernel, enforcement_asked_for hserved hrun⟩

end Cli

end Unlinger
