import Unlinger.Cli.Helpers.Install

/-!
# Every command, cut anywhere

Each of the other commands recovers what is left first, and goes on where
no transaction is, or with the one that waits for a decision. So whatever
is run and wherever it is cut, the records stay coherent.
-/

namespace Unlinger

open Interaction Crash

namespace Cli

variable {H : Type} {α β : Type}
  {plutil : String → Except ServiceError LaunchAgentDocument} {schema : H → Nat}
  {paths : LocalPaths} {known : Selections} {d : Disk H} {t : InstallTransaction}

/-! ## Deciding about a candidate -/

theorem quiet_readOptionalTransaction :
    readOptionalTransaction.Only fun c => c.quiet = true := by
  refine Prog.Only.bind (Prog.Only.ask rfl fun _ => Prog.only_orThrow) fun o => ?_
  cases o with
  | none => exact Prog.only_pure
  | some t => exact Prog.Only.bind Prog.only_orThrow fun _ => Prog.only_pure

theorem quiet_readOptionalManifest :
    readOptionalManifest.Only fun c => c.quiet = true := by
  refine Prog.Only.bind (Prog.Only.ask rfl fun _ => Prog.only_orThrow) fun o => ?_
  cases o with
  | none => exact Prog.only_pure
  | some m => exact Prog.Only.bind Prog.only_orThrow fun _ => Prog.only_pure

/-- To ask whether a check passes changes no more than the check. -/
theorem quiet_succeeds {p : ServiceProg α} (h : p.Only fun c => c.quiet = true) :
    (succeeds p).Only fun c => c.quiet = true := by
  refine Prog.Only.bind h.attempt fun o => ?_
  cases o with
  | ok a => exact Prog.only_pure
  | error e => exact Prog.only_pure

theorem quiet_validateGeneration (generation : Nat) :
    (validateGeneration generation).Only fun c => c.quiet = true := by
  refine Prog.Only.bind (Prog.Only.ask rfl fun _ => Prog.only_orThrow) fun _ => ?_
  exact Prog.Only.bind Prog.only_orThrow fun _ => Prog.only_pure

/-- What `accept_candidate` asks of the rollback material is read. -/
theorem quiet_rollbackDatabaseAvailable (present : Bool) :
    (rollbackDatabaseAvailable t present).Only fun c => c.quiet = true := by
  unfold rollbackDatabaseAvailable
  split_ifs with hback hpresent
  · exact Prog.only_pure
  · exact Prog.only_pure
  · refine Prog.Only.bind (quiet_succeeds (Prog.Only.ask rfl fun _ => Prog.only_orThrow))
      fun valid => ?_
    split_ifs with hvalid
    · cases t.databaseBackupSchemaVersion with
      | none => exact Prog.only_pure
      | some expected =>
          refine Prog.Only.bind (Prog.Only.attempt (Prog.Only.ask rfl fun _ => Prog.only_orThrow))
            fun actual => ?_
          cases actual with
          | ok n => exact Prog.only_pure
          | error e => exact Prog.only_pure
    · exact Prog.only_pure

theorem quiet_validateReportOnlyRollbackPlist (plist : String) :
    (validateReportOnlyRollbackPlist paths t plist).Only fun c => c.quiet = true := by
  refine Prog.Only.bind (Prog.Only.bind (Prog.Only.ask rfl fun _ => Prog.only_orThrow)
    fun _ => Prog.only_orThrow) fun contents => ?_
  refine Prog.Only.bind (Prog.Only.bind (Prog.Only.ask rfl fun _ => Prog.only_orThrow)
    fun _ => Prog.only_orThrow) fun _ => Prog.only_pure

theorem quiet_rollbackPlistAvailable :
    (rollbackPlistAvailable paths t).Only fun c => c.quiet = true := by
  unfold rollbackPlistAvailable
  cases t.priorPlist with
  | some plist => exact quiet_succeeds (quiet_validateReportOnlyRollbackPlist plist)
  | none => exact Prog.only_pure

theorem quiet_rollbackGenerationAvailable :
    (rollbackGenerationAvailable t).Only fun c => c.quiet = true := by
  unfold rollbackGenerationAvailable
  cases t.priorManifest with
  | some manifest =>
      exact quiet_succeeds (Prog.Only.bind (quiet_validateGeneration _) fun _ => Prog.only_orThrow)
  | none =>
      split_ifs with hplist
      · exact Prog.only_pure
      · exact Prog.Only.ask rfl fun _ => Prog.only_pure

theorem quiet_inspectAcceptanceLease :
    (inspectAcceptanceLease paths).Only fun c => c.quiet = true := by
  refine Prog.Only.bind quiet_readOptionalTransaction fun o => ?_
  cases o with
  | none => exact Prog.only_pure
  | some t =>
      refine Prog.Only.bind (Prog.Only.ask rfl fun _ => Prog.only_orThrow) fun present => ?_
      refine Prog.Only.bind (quiet_rollbackDatabaseAvailable _) fun database => ?_
      refine Prog.Only.bind quiet_rollbackPlistAvailable fun plist => ?_
      exact Prog.Only.bind quiet_rollbackGenerationAvailable fun generation => Prog.only_pure

/-- An acceptance that lacks its rollback material has changed nothing, -/
theorem quiet_requireRollbackMaterial :
    (requireRollbackMaterial paths t).Only fun c => c.quiet = true := by
  refine Prog.Only.bind quiet_inspectAcceptanceLease fun o => ?_
  cases o with
  | none => exact Prog.only_throw
  | some acceptance => exact Prog.only_orThrow

/-- and one that finds another candidate has not either. -/
theorem quiet_validateCandidateAcceptanceState :
    (validateCandidateAcceptanceState paths t).Only fun c => c.quiet = true := by
  refine Prog.Only.bind quiet_requireRollbackMaterial fun _ => ?_
  refine Prog.Only.bind (Prog.Only.ask rfl fun _ => Prog.only_orThrow) fun report => ?_
  exact Prog.Only.bind Prog.only_orThrow fun _ => Prog.only_pure

/-- A candidate that is accepted needs no lease any more. -/
theorem Held.accept {x : Records H} (h : Held plutil schema paths known t x) :
    Coherent plutil schema paths known
      { x with transaction := some { t with phase := .accepted } } := by
  refine ⟨h.coherent.manifest, fun t' ht' => ?_⟩
  obtain rfl := Option.some.inj ht'
  exact ⟨h.version, h.known, fun hphase => absurd rfl hphase⟩

/-- **Committing an acceptance** ends with the accepted transaction. -/
theorem safe_commitAcceptance (h : Held plutil schema paths known t d.toRecords) :
    Safe plutil schema paths known (commitAcceptance paths t) d
      fun _ x => x.transaction = some { t with phase := .accepted } := by
  refine Safe.heldRead h (Reads.quiet quiet_validateCandidateAcceptanceState) fun _ d₁ _ h₁ _ => ?_
  exact Safe.ofWrites writes_transaction h₁.coherent h₁.accept rfl

/-- A command that ends with the status ends quietly. -/
theorem quiet_status {f : ServiceStatusReport → ServiceProg ServiceStatusReport}
    (hf : ∀ report, (f report).Only fun c => c.quiet = true) :
    (orFail (Prog.ask Call.status) >>= f).Only fun c => c.quiet = true :=
  Prog.Only.bind (Prog.Only.ask rfl fun _ => Prog.only_orThrow) hf

/-- **Accepting a candidate, cut anywhere.** -/
theorem safe_acceptCandidate (hpaths : paths.Managed)
    (h : Coherent plutil schema paths known d.toRecords) :
    Safe plutil schema paths known (acceptCandidate paths) d fun _ _ => True := by
  refine Safe.read (Reads.quiet quiet_beginMutation) h fun uid d₁ hd₁ _ => ?_
  rw [← hd₁] at h
  refine Safe.read reads_transaction h fun o d₂ hd₂ ho => ?_
  rw [← hd₂] at h
  have ho : d₂.transaction = o := by rw [hd₂, ho.1]
  cases o with
  | none => exact safe_throw h
  | some t =>
      have hrecovered : Safe plutil schema paths known
          (do
            recoverIncompleteInstall paths uid
            Prog.throw ⟨"the incomplete candidate transaction was rolled back instead of accepted"⟩ :
              ServiceProg ServiceStatusReport) d₂ fun _ _ => True := by
        have hsafe : Safe plutil schema paths known (recoverIncompleteInstall paths uid) d₂
            fun _ x => Coherent plutil schema paths known x :=
          Upholds.post (safe_recoverIncompleteInstall hpaths h) fun o d' hd' _ u _ => hd'
        exact Safe.bind hsafe fun _ d₃ h₃ => safe_throw h₃
      cases hphase : t.phase with
      | accepted =>
          simp only [hphase]
          have hsafe : Safe plutil schema paths known (finalizeAcceptedLease t) d₂
              fun _ x => Coherent plutil schema paths known x :=
            Upholds.post (safe_finalizeAcceptedLease h ho hphase) fun o d' hd' _ u _ => hd'
          refine Safe.bind hsafe fun _ d₃ h₃ => ?_
          exact Safe.ofReads (Reads.quiet (Prog.Only.ask rfl fun _ => Prog.only_orThrow)) h₃
            fun _ _ => trivial
      | candidateReadyReportOnly =>
          simp only [hphase]
          have hheld := h.held ho (by rw [hphase]; decide)
          refine Safe.heldRead hheld (Reads.quiet quiet_validateCandidateAcceptanceState)
            fun _ d₃ _ h₃ _ => ?_
          refine Safe.heldWrite h₃ (h₃.advance fun _ => rfl) writes_transaction fun d₄ _ h₄ => ?_
          refine Safe.attempt (safe_commitAcceptance h₄) (fun _ d₅ h₅ ht₅ => ?_) fun e d₅ h₅ => ?_
          · refine Safe.attempt (safe_finalizeAcceptedLease h₅ ht₅ rfl) (fun _ d₆ h₆ _ => ?_)
              fun e d₆ h₆ => safe_throw h₆
            exact Safe.ofReads (Reads.quiet (Prog.Only.ask rfl fun _ => Prog.only_orThrow)) h₆
              fun _ _ => trivial
          · refine Safe.attempt (safe_recoverIncompleteInstall hpaths h₅) (fun _ d₆ h₆ _ => ?_)
              fun e d₆ h₆ => safe_throw h₆
            refine Safe.ofReads (Reads.quiet (quiet_status fun report => ?_)) h₆ fun _ _ => trivial
            split_ifs with hready
            · exact Prog.only_pure
            · exact Prog.only_throw
      | prepared | candidateDurable | priorDrained | databaseBackedUp | candidateSelected
      | acceptanceInProgress | rollbackInProgress =>
          simp only [hphase]
          exact hrecovered

/-- **Rolling a candidate back, cut anywhere.** -/
theorem safe_rollbackCandidate (hpaths : paths.Managed)
    (h : Coherent plutil schema paths known d.toRecords) :
    Safe plutil schema paths known (rollbackCandidate paths) d fun _ _ => True := by
  refine Safe.read (Reads.quiet quiet_beginMutation) h fun uid d₁ hd₁ _ => ?_
  rw [← hd₁] at h
  refine Safe.read reads_transaction h fun o d₂ hd₂ ho => ?_
  rw [← hd₂] at h
  have ho : d₂.transaction = o := by rw [hd₂, ho.1]
  cases o with
  | none => exact safe_throw h
  | some t =>
      by_cases hphase : t.phase = .accepted
      · simp only [hphase, if_true]
        have hsafe : Safe plutil schema paths known (finalizeAcceptedLease t) d₂
            fun _ x => Coherent plutil schema paths known x :=
          Upholds.post (safe_finalizeAcceptedLease h ho hphase) fun o d' hd' _ u _ => hd'
        exact Safe.bind hsafe fun _ d₃ h₃ => safe_throw h₃
      · simp only [hphase, if_false]
        have hsafe : Safe plutil schema paths known (rollbackInstallTransaction paths uid t) d₂
            fun _ x => Coherent plutil schema paths known x :=
          Upholds.post (safe_rollbackInstallTransaction hpaths (h.held ho hphase))
            fun o d' hd' _ u _ => hd'
        refine Safe.bind hsafe fun _ d₃ h₃ => ?_
        exact Safe.ofReads (Reads.quiet (Prog.Only.ask rfl fun _ => Prog.only_orThrow)) h₃
          fun _ _ => trivial

/-! ## Changing the mode -/

/-- Where no transaction is, another mode of the manifest disturbs nothing. -/
theorem Coherent.remode {x : Records H} {m : ActiveServiceManifest}
    (h : Coherent plutil schema paths known x) (mode : DaemonMode) (hm : x.activeManifest = some m)
    (hnone : x.transaction = none) :
    Coherent plutil schema paths known
      { x with activeManifest := some { m with desiredMode := mode } } := by
  obtain ⟨hversion, hsealed⟩ := h.manifest m hm
  refine ⟨fun m' hm' => ?_, fun t ht => ?_⟩
  · obtain rfl := Option.some.inj hm'
    exact ⟨hversion, hsealed⟩
  · have ht : x.transaction = some t := ht
    rw [hnone] at ht
    cases ht

/-- The manifest is written with another mode, and nothing else is. -/
theorem safe_writeMode {m : ActiveServiceManifest} {mode : DaemonMode} {f : Unit → ServiceProg α}
    (h : Coherent plutil schema paths known d.toRecords) (hm : d.activeManifest = some m)
    (hnone : d.transaction = none)
    (hf : ∀ d' : Disk H, Coherent plutil schema paths known d'.toRecords →
      d'.activeManifest = some { m with desiredMode := mode } → d'.transaction = none →
      Safe plutil schema paths known (f ()) d' fun _ _ => True) :
    Safe plutil schema paths known
      (orFail (Prog.ask (Call.writeManifest { m with desiredMode := mode })) >>= f) d
      fun _ _ => True := by
  have hafter := h.remode mode hm hnone
  refine Safe.write writes_manifest h hafter fun d' hd' => ?_
  rw [← hd'] at hafter
  refine hf d' hafter (by rw [hd']) ?_
  rw [hd']
  exact hnone

/-- A failed switch to enforcement goes back to report-only. -/
theorem safe_recoverThenPublishReportOnly {m : ActiveServiceManifest}
    (h : Coherent plutil schema paths known d.toRecords) (hm : d.activeManifest = some m)
    (hnone : d.transaction = none) :
    Safe plutil schema paths known (recoverThenPublishReportOnly m) d
      fun _ _ => True := by
  refine Safe.read (Reads.quiet (Prog.Only.ask rfl fun _ => Prog.only_orThrow)) h
    fun _ d₁ hd₁ _ => ?_
  rw [← hd₁] at h
  have hm : d₁.activeManifest = some m := by rw [hd₁]; exact hm
  have hnone : d₁.transaction = none := by rw [hd₁]; exact hnone
  have hafter := h.remode .reportOnly hm hnone
  exact Safe.ofWrites writes_manifest h hafter trivial

/-- Arming and disarming are the daemon's, not the disk's. -/
theorem quiet_disarmUnexpected (m : ActiveServiceManifest) (current : DaemonStatus) :
    (disarmUnexpected m current).Only fun c => c.quiet = true := by
  unfold disarmUnexpected
  split_ifs with h
  · refine Prog.Only.bind (Prog.Only.attempt (Prog.Only.bind
      (Prog.Only.ask rfl fun _ => Prog.only_orThrow) fun _ => Prog.only_orThrow)) fun o => ?_
    cases o with
    | ok u => exact Prog.only_pure
    | error e =>
        refine Prog.Only.ask rfl fun restored => ?_
        cases restored with
        | ok u => exact Prog.only_pure
        | error e => exact Prog.only_throw
  · exact Prog.only_pure

theorem quiet_armPreflight (generation : Nat) :
    (armPreflight generation).Only fun c => c.quiet = true := by
  refine Prog.Only.bind (Prog.Only.ask rfl fun _ => Prog.only_orThrow) fun report => ?_
  refine Prog.Only.bind (quiet_validateGeneration _) fun _ => ?_
  refine Prog.Only.bind Prog.only_orThrow fun _ => ?_
  cases report.daemonStatus with
  | none => exact Prog.only_throw
  | some daemon =>
      refine Prog.Only.bind Prog.only_orThrow fun _ => ?_
      exact Prog.Only.bind Prog.only_orThrow fun _ => Prog.only_pure

/-- **Arming, cut anywhere**: the manifest is all that is written. -/
theorem safe_armManifest {uid : Nat} {m : ActiveServiceManifest}
    (h : Coherent plutil schema paths known d.toRecords) (hm : d.activeManifest = some m)
    (hnone : d.transaction = none) :
    Safe plutil schema paths known (armManifest uid m) d fun _ _ => True := by
  refine Safe.read (Reads.quiet (quiet_armPreflight _)) h fun current d₁ hd₁ _ => ?_
  rw [← hd₁] at h
  have hm : d₁.activeManifest = some m := by rw [hd₁]; exact hm
  have hnone : d₁.transaction = none := by rw [hd₁]; exact hnone
  refine safe_writeMode h hm hnone fun d₂ h₂ hm₂ hnone₂ => ?_
  have harmed : Reads plutil schema
      ((armAndConfirm m.activeGeneration current).attempt :
        ServiceProg (Except ServiceError Unit)) d₂ fun _ => True := by
    refine Reads.quiet (Prog.Only.attempt (Prog.Only.bind ?_ fun _ => Prog.only_orThrow))
    exact Prog.Only.ask rfl fun _ => Prog.only_orThrow
  refine Safe.read harmed h₂ fun o d₃ hd₃ _ => ?_
  rw [← hd₃] at h₂
  have hm₃ : d₃.activeManifest = some { m with desiredMode := .enforce } := by rw [hd₃]; exact hm₂
  have hnone₃ : d₃.transaction = none := by rw [hd₃]; exact hnone₂
  cases o with
  | ok u => exact Safe.ofReads (Reads.quiet (quiet_waitForMode _ _)) h₂ fun _ _ => trivial
  | error e =>
      refine Safe.attempt (safe_recoverThenPublishReportOnly h₂ hm₃ hnone₃)
        (fun _ d₄ h₄ _ => safe_throw h₄) fun e d₄ h₄ => safe_throw h₄

/-- A daemon that runs is armed, or the manifest is as it was. -/
theorem safe_enforceOnline {uid pid : Nat} {m : ActiveServiceManifest}
    (h : Coherent plutil schema paths known d.toRecords) (hm : d.activeManifest = some m)
    (hnone : d.transaction = none) :
    Safe plutil schema paths known (enforceOnline uid pid m) d fun _ _ => True := by
  refine Safe.read (Reads.quiet (Prog.Only.ask rfl fun _ => Prog.only_orThrow)) h
    fun o d₁ hd₁ _ => ?_
  rw [← hd₁] at h
  have hm : d₁.activeManifest = some m := by rw [hd₁]; exact hm
  have hnone : d₁.transaction = none := by rw [hd₁]; exact hnone
  cases o with
  | none => exact safe_throw h
  | some current =>
      refine Safe.read (reads_check (P := fun _ => True) fun _ _ => trivial) h fun _ d₂ hd₂ _ => ?_
      rw [← hd₂] at h
      have hm : d₂.activeManifest = some m := by rw [hd₂]; exact hm
      have hnone : d₂.transaction = none := by rw [hd₂]; exact hnone
      refine Safe.read (Reads.quiet (quiet_disarmUnexpected _ _)) h fun _ d₃ hd₃ _ => ?_
      rw [← hd₃] at h
      have hm : d₃.activeManifest = some m := by rw [hd₃]; exact hm
      have hnone : d₃.transaction = none := by rw [hd₃]; exact hnone
      split_ifs with hready
      · refine Safe.ofReads (Reads.quiet (quiet_status fun report => ?_)) h fun _ _ => trivial
        exact Prog.Only.bind Prog.only_orThrow fun _ => Prog.only_pure
      · exact safe_armManifest h hm hnone

/-- **Setting the mode, cut anywhere.** -/
theorem safe_setMode {mode : DaemonMode} (hpaths : paths.Managed)
    (h : Coherent plutil schema paths known d.toRecords) :
    Safe plutil schema paths known (setMode paths mode) d fun _ _ => True := by
  refine Safe.read (Reads.quiet quiet_beginMutation) h fun uid d₁ hd₁ _ => ?_
  rw [← hd₁] at h
  have hrecovered : Safe plutil schema paths known (recoverIncompleteInstall paths uid) d₁
      fun _ x => Coherent plutil schema paths known x ∧ x.transaction = none :=
    Upholds.post (safe_recoverIncompleteInstall hpaths h) fun o d' hd' ho u hu => ⟨hd', ho u hu⟩
  refine Safe.bind hrecovered fun _ d₂ h₂ => ?_
  obtain ⟨h₂, hnone⟩ := h₂
  refine Safe.read (Reads.quiet (Prog.Only.ask rfl fun _ => Prog.only_orThrow)) h₂
    fun uid d₃ hd₃ _ => ?_
  rw [← hd₃] at h₂
  have hnone : d₃.transaction = none := by rw [hd₃]; exact hnone
  refine Safe.read reads_manifest h₂ fun o d₄ hd₄ ho => ?_
  rw [← hd₄] at h₂
  have hnone : d₄.transaction = none := by rw [hd₄]; exact hnone
  have ho : d₄.activeManifest = o := by rw [hd₄, ho.1]
  cases o with
  | none => exact safe_throw h₂
  | some m =>
      refine Safe.read (Reads.quiet (Prog.Only.ask rfl fun _ => Prog.only_orThrow)) h₂
        fun launchd d₅ hd₅ _ => ?_
      rw [← hd₅] at h₂
      have hnone : d₅.transaction = none := by rw [hd₅]; exact hnone
      have hm : d₅.activeManifest = some m := by rw [hd₅]; exact ho
      cases hroute : setModeRoute mode launchd with
      | reportOnlyContainment =>
          have hsafe : Safe plutil schema paths known (recoverThenPublishReportOnly m) d₅
              fun _ x => Coherent plutil schema paths known x :=
            Upholds.post (safe_recoverThenPublishReportOnly h₂ hm hnone)
              fun o d' hd' _ u _ => hd'
          refine Safe.bind hsafe fun _ d₆ h₆ => ?_
          exact Safe.ofReads (Reads.quiet (quiet_waitForMode _ _)) h₆ fun _ _ => trivial
      | enforceOnline pid =>
          exact safe_enforceOnline h₂ hm hnone
      | rejectEnforce =>
          exact safe_throw h₂

/-! ## Restarting -/

theorem quiet_installedGeneration :
    (installedGeneration paths).Only fun c => c.quiet = true := by
  refine Prog.Only.bind (Prog.Only.ask rfl fun _ => Prog.only_orThrow) fun o => ?_
  cases o with
  | none => exact Prog.only_pure
  | some contents =>
      exact Prog.Only.bind (Prog.Only.ask rfl fun _ => Prog.only_orThrow) fun _ =>
        Prog.only_orThrow

/-- What is selected is looked up before a restart, not changed. -/
theorem quiet_validateExactGenerationSelection (generation : Nat) :
    (validateExactGenerationSelection paths generation).Only fun c => c.quiet = true := by
  refine Prog.Only.bind quiet_readOptionalManifest fun o => ?_
  cases o with
  | none => exact Prog.only_throw
  | some active =>
      refine Prog.Only.bind Prog.only_orThrow fun _ => ?_
      refine Prog.Only.bind quiet_installedGeneration fun installed => ?_
      refine Prog.Only.bind Prog.only_orThrow fun _ => ?_
      exact Prog.Only.bind (quiet_validateGeneration _) fun _ => Prog.only_pure

theorem quiet_validateCandidateRestartState :
    (validateCandidateRestartState paths t).Only fun c => c.quiet = true := by
  refine Prog.Only.bind quiet_requireRollbackMaterial fun _ => ?_
  refine Prog.Only.bind (quiet_validateExactGenerationSelection _) fun _ => ?_
  refine Prog.Only.bind quiet_readOptionalManifest fun o => ?_
  cases o with
  | none => exact Prog.only_throw
  | some m => exact Prog.only_orThrow

/-- A restart first ends what an installation left behind. -/
theorem safe_settleBeforeRestart {uid : Nat} (hpaths : paths.Managed)
    (h : Coherent plutil schema paths known d.toRecords) :
    Safe plutil schema paths known (settleBeforeRestart paths uid) d fun _ _ => True := by
  refine Safe.read reads_transaction h fun o d₁ hd₁ ho => ?_
  rw [← hd₁] at h
  have ho : d₁.transaction = o := by rw [hd₁, ho.1]
  cases o with
  | none => exact safe_pure h trivial
  | some t =>
      have hrecovered : Safe plutil schema paths known
          (do
            recoverIncompleteInstall paths uid
            Prog.throw ⟨"the incomplete candidate transaction was rolled back before restart"⟩ :
              ServiceProg Unit) d₁ fun _ _ => True := by
        have hsafe : Safe plutil schema paths known (recoverIncompleteInstall paths uid) d₁
            fun _ x => Coherent plutil schema paths known x :=
          Upholds.post (safe_recoverIncompleteInstall hpaths h) fun o d' hd' _ u _ => hd'
        exact Safe.bind hsafe fun _ d₂ h₂ => safe_throw h₂
      cases hphase : t.phase with
      | accepted =>
          simp only [hphase]
          exact Safe.imp (safe_finalizeAcceptedLease h ho hphase) fun _ _ _ => trivial
      | candidateReadyReportOnly =>
          simp only [hphase]
          exact Safe.ofReads (Reads.quiet quiet_validateCandidateRestartState) h fun _ _ => trivial
      | prepared | candidateDurable | priorDrained | databaseBackedUp | candidateSelected
      | acceptanceInProgress | rollbackInProgress =>
          simp only [hphase]
          exact hrecovered

/-- **Restarting, cut anywhere.** -/
theorem safe_restartReportOnly (hpaths : paths.Managed)
    (h : Coherent plutil schema paths known d.toRecords) :
    Safe plutil schema paths known (restartReportOnly paths) d fun _ _ => True := by
  refine Safe.read (Reads.quiet quiet_beginMutation) h fun uid d₁ hd₁ _ => ?_
  rw [← hd₁] at h
  have hsettled : Safe plutil schema paths known (settleBeforeRestart paths uid) d₁
      fun _ x => Coherent plutil schema paths known x :=
    Upholds.post (safe_settleBeforeRestart hpaths h) fun o d' hd' _ u _ => hd'
  refine Safe.bind hsettled fun _ d₂ h₂ => ?_
  refine Safe.ofReads (Reads.quiet ?_) h₂ fun _ _ => trivial
  refine Prog.Only.bind quiet_readOptionalManifest fun o => ?_
  cases o with
  | none => exact Prog.only_throw
  | some m =>
      refine Prog.Only.bind Prog.only_orThrow fun _ => ?_
      refine Prog.Only.bind (Prog.Only.ask rfl fun _ => Prog.only_orThrow) fun _ => ?_
      exact quiet_waitForGenerationReady _ _

/-! ## Uninstalling -/

/-- Nothing is selected, and no transaction needs anything. -/
def Bare (x : Records H) : Prop := x.transaction = none ∧ x.activeManifest = none

/-- With nothing selected and nothing open there is nothing to contradict. -/
theorem Bare.coherent {x : Records H} (h : Bare x) : Coherent plutil schema paths known x := by
  refine ⟨fun m hm => ?_, fun t ht => ?_⟩
  · rw [h.2] at hm
    cases hm
  · rw [h.1] at ht
    cases ht

/-- The daemon is stopped before anything is removed. -/
theorem quiet_quiesceForUninstall (launchd : LaunchdState) :
    (quiesceForUninstall launchd).Only fun c => c.quiet = true := by
  unfold quiesceForUninstall
  split
  · refine Prog.Only.bind (Prog.Only.ask rfl fun _ => Prog.only_orThrow) fun status => ?_
    exact Prog.Only.ask rfl fun _ => Prog.only_orThrow
  · exact Prog.Only.ask rfl fun _ => Prog.only_orThrow
  · exact Prog.only_pure

/-- Where nothing is selected, a generation's entry may go. -/
theorem safe_removeGenerationEntries {entries : List GenerationEntry} (h : Bare d.toRecords) :
    Safe plutil schema paths known (removeGenerationEntries entries) d fun _ x => Bare x := by
  induction entries generalizing d with
  | nil => exact safe_pure h.coherent h
  | cons entry entries ih =>
      refine Safe.read (reads_check (P := fun _ => True) fun _ _ => trivial) h.coherent
        fun _ d₁ hd₁ _ => ?_
      rw [← hd₁] at h
      refine Safe.read (reads_check (P := fun _ => True) fun _ _ => trivial) h.coherent
        fun _ d₂ hd₂ _ => ?_
      rw [← hd₂] at h
      have hremoved : Safe plutil schema paths known
          (orFail (Prog.ask (Call.removeGenerationEntry entry.name))) d₂ fun _ x => Bare x := by
        refine ⟨h.coherent, fun r d₃ hserve => ?_⟩
        obtain ⟨database, generations, stages, rfl, -⟩ := hserve
        have hbare : Bare { d₂.toRecords with generations := generations } := h
        change Upholds _ _ (Prog.orThrow id r) _ _
        cases r with
        | ok u => exact ⟨hbare.coherent, fun _ _ => hbare⟩
        | error e => exact ⟨hbare.coherent, fun _ he => by cases he⟩
      exact Safe.bind hremoved fun _ d₃ h₃ => ih h₃

/-- Where no transaction is, the LaunchAgent is nobody's. -/
theorem Coherent.unselect {x : Records H} (h : Coherent plutil schema paths known x)
    (hnone : x.transaction = none) :
    Coherent plutil schema paths known { x with launchAgent := none } := by
  refine ⟨h.manifest, fun t ht => ?_⟩
  have ht : x.transaction = some t := ht
  rw [hnone] at ht
  cases ht

/-- The files of the service go one after the other. -/
theorem safe_removeManaged (h : Coherent plutil schema paths known d.toRecords)
    (hnone : d.transaction = none) :
    Safe plutil schema paths known
      (removeFiles [.launchAgent, .activeManifest, .transaction, .daemonBinary, .cliBinary]) d
      fun _ x => Bare x := by
  have hunselected := h.unselect hnone
  refine Safe.write writes_remove h hunselected fun d₁ hd₁ => ?_
  have hd₁ : d₁.toRecords = { d.toRecords with launchAgent := none } := hd₁
  rw [← hd₁] at hunselected
  have hbare : Bare { d₁.toRecords with activeManifest := none } := by
    refine ⟨?_, rfl⟩
    rw [hd₁]
    exact hnone
  refine Safe.write writes_remove hunselected hbare.coherent fun d₂ hd₂ => ?_
  have hd₂ : d₂.toRecords = { d₁.toRecords with activeManifest := none } := hd₂
  rw [← hd₂] at hbare
  have hforgot : Bare { d₂.toRecords with transaction := none } := ⟨rfl, hbare.2⟩
  refine Safe.write writes_remove hbare.coherent hforgot.coherent fun d₃ hd₃ => ?_
  have hd₃ : d₃.toRecords = { d₂.toRecords with transaction := none } := hd₃
  rw [← hd₃] at hforgot
  refine Safe.write writes_remove hforgot.coherent hforgot.coherent fun d₄ hd₄ => ?_
  have hd₄ : d₄.toRecords = d₃.toRecords := hd₄
  rw [← hd₄] at hforgot
  refine Safe.write writes_remove hforgot.coherent hforgot.coherent fun d₅ hd₅ => ?_
  have hd₅ : d₅.toRecords = d₄.toRecords := hd₅
  rw [← hd₅] at hforgot
  exact safe_pure hforgot.coherent hforgot

/-- Generations go last, when nothing selects them. -/
theorem safe_removeGenerationTree (h : Bare d.toRecords) :
    Safe plutil schema paths known removeGenerationTree d fun _ x => Bare x := by
  refine Safe.read (Reads.quiet (Prog.Only.ask rfl fun _ => Prog.only_orThrow)) h.coherent
    fun entries d₁ hd₁ _ => ?_
  rw [← hd₁] at h
  refine Safe.bind (safe_removeGenerationEntries h) fun _ d₂ h₂ => ?_
  exact Safe.ofReads (Reads.quiet (Prog.Only.ask rfl fun _ => Prog.only_orThrow)) h₂.coherent
    fun _ _ => h₂

/-- **Uninstalling, cut anywhere.** -/
theorem safe_uninstall (hpaths : paths.Managed)
    (h : Coherent plutil schema paths known d.toRecords) :
    Safe plutil schema paths known (uninstall paths) d fun _ _ => True := by
  refine Safe.read (Reads.quiet quiet_beginMutation) h fun uid d₁ hd₁ _ => ?_
  rw [← hd₁] at h
  have hrecovered : Safe plutil schema paths known (recoverIncompleteInstall paths uid) d₁
      fun _ x => Coherent plutil schema paths known x ∧ x.transaction = none :=
    Upholds.post (safe_recoverIncompleteInstall hpaths h) fun o d' hd' ho u hu => ⟨hd', ho u hu⟩
  refine Safe.bind hrecovered fun _ d₂ h₂ => ?_
  obtain ⟨h₂, hnone⟩ := h₂
  refine Safe.read (Reads.quiet (Prog.Only.ask rfl fun _ => Prog.only_orThrow)) h₂
    fun launchd d₃ hd₃ _ => ?_
  rw [← hd₃] at h₂
  refine Safe.read (Reads.quiet (quiet_quiesceForUninstall _)) h₂ fun _ d₄ hd₄ _ => ?_
  rw [← hd₄] at h₂
  refine Safe.read (Reads.quiet (Prog.Only.ask rfl fun _ => Prog.only_orThrow)) h₂
    fun _ d₅ hd₅ _ => ?_
  rw [← hd₅] at h₂
  have hnone : d₅.transaction = none := by rw [hd₅, hd₄, hd₃]; exact hnone
  refine Safe.bind (safe_removeManaged h₂ hnone) fun _ d₆ h₆ => ?_
  refine Safe.bind (safe_removeGenerationTree h₆) fun _ d₇ h₇ => ?_
  refine Safe.ofReads (Reads.quiet ?_) h₇.coherent fun _ _ => trivial
  exact Prog.Only.ask rfl fun _ => Prog.Only.ask rfl fun _ => Prog.only_orThrow

/-! ## All of them -/

/-- **Every command, cut anywhere**, leaves coherent records coherent,
where what an installation may find selected is known. -/
theorem Command.safe (command : Command) (hpaths : paths.Managed)
    (h : Coherent plutil schema paths known d.toRecords)
    (hopen : ∀ x, Cut (Disk.serves plutil schema) (command.program paths) d x →
      x.transaction = none → known x.launchAgent x.activeManifest) :
    Safe plutil schema paths known (command.program paths) d fun _ _ => True := by
  have hdone : ∀ {p : ServiceProg ServiceStatusReport},
      Safe plutil schema paths known p d (fun _ _ => True) →
      Safe plutil schema paths known (p >>= fun _ => pure ()) d fun _ _ => True := by
    intro p hp
    have hcoherent : Safe plutil schema paths known p d
        fun _ x => Coherent plutil schema paths known x :=
      Upholds.post hp fun o d' hd' _ u _ => hd'
    exact Safe.bind hcoherent fun _ d' hd' => safe_pure hd' trivial
  cases command with
  | install mode =>
      refine hdone (safe_install hpaths h fun x hx hnone => hopen x ?_ hnone)
      exact hx.before
  | acceptCandidate => exact hdone (safe_acceptCandidate hpaths h)
  | rollbackCandidate => exact hdone (safe_rollbackCandidate hpaths h)
  | setMode mode => exact hdone (safe_setMode hpaths h)
  | restartReportOnly => exact hdone (safe_restartReportOnly hpaths h)
  | uninstall => exact hdone (safe_uninstall hpaths h)
  | recoverIncompleteInstall uid =>
      exact Safe.imp (safe_recoverIncompleteInstall hpaths h) fun _ _ _ => trivial

end Cli

end Unlinger
