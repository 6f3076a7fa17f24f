import Unlinger.Cli.Helpers.Safe

/-!
# Rolling back, cut anywhere

Every record a rollback changes it changes in one step, and before and
after each the lease is held; the transaction is removed last. So wherever
a rollback is cut the records are coherent, and where it comes to its end
there is no transaction.
-/

namespace Unlinger

open Interaction Crash

namespace Cli

variable {H : Type} {α β : Type}
  {plutil : String → Except ServiceError LaunchAgentDocument} {schema : H → Nat}
  {paths : LocalPaths} {d : Disk H} {t : InstallTransaction}

/-! ## Quiet parts -/

theorem quiet_presentComponents (components : List DatabaseComponent) :
    (presentComponents components).Only fun c => c.quiet = true := by
  induction components with
  | nil => exact Prog.only_pure
  | cons component components ih =>
      refine Prog.Only.bind (Prog.Only.ask rfl fun _ => Prog.only_orThrow) fun present => ?_
      exact Prog.Only.bind ih fun rest => Prog.only_pure

theorem quiet_moveComponents (evidence : String) (components : List DatabaseComponent) :
    (moveComponents evidence components).Only fun c => c.quiet = true := by
  induction components with
  | nil => exact Prog.only_pure
  | cons component components ih =>
      exact Prog.Only.bind (Prog.Only.ask rfl fun _ => Prog.only_orThrow) fun _ => ih

theorem quiet_requireNoComponents (components : List DatabaseComponent) :
    (requireNoComponents paths components).Only fun c => c.quiet = true := by
  induction components with
  | nil => exact Prog.only_pure
  | cons component components ih =>
      refine Prog.Only.bind (Prog.Only.ask rfl fun _ => Prog.only_orThrow) fun present => ?_
      cases present with
      | true => exact Prog.only_throw
      | false => exact ih

theorem quiet_preserveFailedDatabase (generation : Nat) :
    (preserveFailedDatabase paths generation).Only fun c => c.quiet = true := by
  refine Prog.Only.bind Prog.only_orThrow fun _ => ?_
  refine Prog.Only.bind (quiet_presentComponents _) fun present => ?_
  split_ifs with h
  · exact Prog.only_pure
  · refine Prog.Only.bind (Prog.Only.ask rfl fun _ => Prog.only_orThrow) fun evidence => ?_
    refine Prog.Only.bind (quiet_moveComponents _ _) fun _ => ?_
    exact Prog.Only.bind (Prog.Only.ask rfl fun _ => Prog.only_orThrow) fun _ => Prog.only_pure

theorem quiet_restoreDatabaseBackupFiles (generation : Nat) :
    (restoreDatabaseBackupFiles paths generation).Only fun c => c.quiet = true := by
  refine Prog.Only.bind Prog.only_orThrow fun _ => ?_
  refine Prog.Only.bind (Prog.Only.ask rfl fun _ => Prog.only_orThrow) fun _ => ?_
  refine Prog.Only.bind (Prog.Only.ask rfl fun _ => Prog.only_orThrow) fun _ => ?_
  refine Prog.Only.bind (quiet_preserveFailedDatabase _) fun _ => ?_
  refine Prog.Only.bind (quiet_requireNoComponents _) fun _ => ?_
  refine Prog.Only.bind (Prog.Only.ask rfl fun _ => Prog.only_orThrow) fun _ => ?_
  refine Prog.Only.bind (Prog.Only.ask rfl fun _ => Prog.only_orThrow) fun _ => ?_
  exact Prog.Only.bind (Prog.Only.ask rfl fun _ => Prog.only_orThrow) fun _ => Prog.only_pure

theorem quiet_committedBackup :
    (validateCommittedRollbackBackup t).Only fun c => c.quiet = true := by
  unfold validateCommittedRollbackBackup
  split_ifs with h
  · refine Prog.Only.bind (Prog.Only.ask rfl fun _ => Prog.only_orThrow) fun present => ?_
    cases present with
    | true => exact Prog.only_throw
    | false => exact Prog.only_pure
  · refine Prog.Only.bind (Prog.Only.ask rfl fun _ => Prog.only_orThrow) fun _ => ?_
    refine Prog.Only.bind (Prog.Only.ask rfl fun _ => Prog.only_orThrow) fun _ => ?_
    cases t.databaseBackupSchemaVersion with
    | none => exact Prog.only_pure
    | some expected =>
        refine Prog.Only.bind (Prog.Only.ask rfl fun _ => Prog.only_orThrow) fun actual => ?_
        exact Prog.only_orThrow

theorem quiet_waitForRestoredReportOnly (uid : Nat) (manifest : Option ActiveServiceManifest) :
    (waitForRestoredReportOnly uid manifest).Only fun c => c.quiet = true := by
  cases manifest with
  | some manifest =>
      refine Prog.Only.bind (Prog.Only.ask rfl fun _ => Prog.only_orThrow) fun report => ?_
      split_ifs with h
      · exact Prog.only_pure
      · exact Prog.only_throw
  | none =>
      refine Prog.Only.bind (Prog.Only.ask rfl fun _ => Prog.only_orThrow) fun polled => ?_
      split_ifs with h
      · exact Prog.Only.ask rfl fun _ => Prog.only_orThrow
      · exact Prog.only_throw

theorem quiet_restartPrior (uid : Nat) :
    (restartPrior uid t).Only fun c => c.quiet = true := by
  unfold restartPrior
  split_ifs with h
  · refine Prog.Only.ask rfl fun _ => ?_
    refine Prog.Only.bind (Prog.Only.ask rfl fun _ => Prog.only_orThrow) fun _ => ?_
    exact Prog.Only.bind (quiet_waitForRestoredReportOnly _ _) fun _ => Prog.only_pure
  · exact Prog.only_pure

/-! ## Steps that keep the lease -/

section Held

variable {x : Records H} {known : Selections}

theorem Held.uncommitted (h : Held plutil schema paths known t x)
    (backup : Option (DatabaseFile H)) (hback : t.databaseBackedUp = false) :
    Held plutil schema paths known t { x with databaseBackup := backup } :=
  ⟨h.transaction, h.version, h.known, h.lease.uncommitted hback⟩

/-- The target of the rollback may be selected. -/
theorem Held.selectTarget {target : Option String} (hpaths : paths.Managed)
    (h : Held plutil schema paths known t x)
    (htarget : rollbackTargetOf plutil paths t = .ok target) :
    Held plutil schema paths known t { x with launchAgent := target } := by
  refine ⟨h.transaction, h.version, h.known, h.lease.select ?_⟩
  obtain ⟨o, hinstalled, hprior⟩ := installedOf_target hpaths htarget
  refine ⟨o, hinstalled, fun g hg => ?_⟩
  obtain ⟨prior, hmanifest, rfl⟩ := hprior g hg
  exact ⟨allowsGeneration_prior hmanifest, h.lease.prior prior hmanifest⟩

/-- And the prior manifest, report-only, or none. -/
theorem Held.activatePrior (h : Held plutil schema paths known t x) :
    Held plutil schema paths known t
      { x with activeManifest := t.priorManifest.map ActiveServiceManifest.rollbackFloor } := by
  refine ⟨h.transaction, h.version, h.known, h.lease.activate fun m hm => ?_⟩
  obtain ⟨prior, hprior, rfl⟩ := Option.map_eq_some_iff.1 hm
  have hallows : t.allowsGeneration prior.activeGeneration = true := allowsGeneration_prior hprior
  exact ⟨rfl, hallows, h.lease.prior prior hprior⟩

/-- The transaction's rollback is marked. -/
theorem Held.mark (h : Held plutil schema paths known t x) :
    Held plutil schema paths known t.inRollback { x with transaction := some t.inRollback } := by
  refine ⟨rfl, h.version, h.known, h.lease.rewrite rfl rfl rfl h.lease.backup fun _ => ?_⟩
  simp [InstallTransaction.inRollback, TransactionPhase.databaseMayHaveChanged]

/-- A snapshot is committed only where a marked rollback restores it. -/
theorem Held.marked_restores (h : Held plutil schema paths known t x)
    (hback : t.databaseBackedUp = true) : t.inRollback.rollbackDatabaseRestore = true :=
  h.lease.restores hback

end Held

/-- Where no transaction needs it, the backup is nobody's. -/
theorem Coherent.discard {known : Selections} {x : Records H}
    (h : Coherent plutil schema paths known x)
    (hfree : ∀ t, x.transaction = some t → t.phase = .accepted) :
    Coherent plutil schema paths known { x with databaseBackup := none } := by
  refine ⟨h.manifest, fun t ht => ?_⟩
  obtain ⟨hversion, hknown, -⟩ := h.transaction t ht
  exact ⟨hversion, hknown, fun hphase => absurd (hfree t ht) hphase⟩

/-- Neither does a transaction that is gone need anything. -/
theorem Coherent.forget {known : Selections} {x : Records H}
    (h : Coherent plutil schema paths known x) :
    Coherent plutil schema paths known { x with transaction := none } :=
  ⟨h.manifest, fun t ht => by cases ht⟩

/-! ## Rolling back -/

section Commands

variable {known : Selections}

theorem safe_rollbackDatabase (h : Held plutil schema paths known t d.toRecords)
    (hrestores : t.databaseBackedUp = true → t.rollbackDatabaseRestore = true) :
    Safe plutil schema paths known (rollbackDatabase paths t) d
      fun _ => Held plutil schema paths known t := by
  unfold rollbackDatabase
  by_cases hrestore : t.rollbackDatabaseRestore = true
  · rw [if_pos hrestore]
    refine Safe.ofReads (R := fun _ => True) (Reads.quiet ?_) h.coherent fun _ _ => h
    split_ifs with hback
    · exact Prog.Only.bind (quiet_restoreDatabaseBackupFiles _) fun _ => Prog.only_pure
    · refine Prog.Only.bind (Prog.Only.ask rfl fun _ => Prog.only_orThrow) fun present => ?_
      cases present with
      | true => exact Prog.only_throw
      | false => exact Prog.Only.bind (quiet_preserveFailedDatabase _) fun _ => Prog.only_pure
  · rw [if_neg hrestore]
    have hback : t.databaseBackedUp = false := by
      by_contra hback
      exact hrestore (hrestores (Bool.eq_true_of_not_eq_false hback))
    have hafter := h.uncommitted none hback
    exact Safe.ofWrites writes_remove h.coherent hafter.coherent hafter

theorem safe_publishPriorManifest (h : Held plutil schema paths known t d.toRecords) :
    Safe plutil schema paths known (publishPriorManifest t) d
      fun _ => Held plutil schema paths known t := by
  have hafter := h.activatePrior
  unfold publishPriorManifest
  cases hprior : t.priorManifest with
  | some prior =>
      rw [hprior] at hafter
      exact Safe.ofWrites writes_manifest h.coherent hafter.coherent hafter
  | none =>
      rw [hprior] at hafter
      exact Safe.ofWrites writes_remove h.coherent hafter.coherent hafter

theorem safe_republishPrior {uid : Nat} {target : Option String} (hpaths : paths.Managed)
    (h : Held plutil schema paths known t d.toRecords)
    (htarget : rollbackTargetOf plutil paths t = .ok target) :
    Safe plutil schema paths known (republishPrior uid t target) d
      fun _ => Held plutil schema paths known t := by
  have hselected := h.selectTarget hpaths htarget
  unfold republishPrior
  cases target with
  | some contents =>
      refine Safe.write writes_launchAgent h.coherent hselected.coherent fun d₁ hd₁ => ?_
      rw [← hd₁] at hselected
      refine Safe.bind (safe_publishPriorManifest hselected) fun _ d₂ hpublished => ?_
      exact Safe.ofReads (Reads.quiet (quiet_restartPrior uid)) hpublished.coherent
        fun _ _ => hpublished
  | none =>
      refine Safe.write writes_remove h.coherent hselected.coherent fun d₁ hd₁ => ?_
      have hd₁ : d₁.toRecords = { d.toRecords with launchAgent := none } := hd₁
      rw [← hd₁] at hselected
      have hafter : Held plutil schema paths known t { d₁.toRecords with activeManifest := none } :=
        ⟨hselected.transaction, hselected.version, hselected.known,
          hselected.lease.activate fun m hm => by cases hm⟩
      exact Safe.ofWrites writes_remove hselected.coherent hafter.coherent hafter

theorem safe_markRollbackInProgress (h : Held plutil schema paths known t d.toRecords) :
    Safe plutil schema paths known (markRollbackInProgress t) d
      fun marked x => marked = t.inRollback ∧ Held plutil schema paths known marked x := by
  refine Safe.write writes_transaction h.coherent h.mark.coherent fun d₁ hd₁ => ?_
  have hmarked := h.mark
  rw [← hd₁] at hmarked
  exact safe_pure hmarked.coherent ⟨rfl, hmarked⟩

/-- What the end of a rollback leaves: no transaction. -/
theorem safe_forgetTransaction (h : Coherent plutil schema paths known d.toRecords) :
    Safe plutil schema paths known
      (do
        removeFileDurable .transaction
        removeFileDurable .databaseBackup
        removeFileDurable .databaseBackupPending
        Prog.ask Call.dropDaemonLock) d fun _ x => x.transaction = none := by
  have hforgot := h.forget
  refine Safe.write writes_remove h hforgot fun d₁ hd₁ => ?_
  have hd₁ : d₁.toRecords = { d.toRecords with transaction := none } := hd₁
  rw [← hd₁] at hforgot
  have hnone : d₁.transaction = none := congrArg Records.transaction hd₁
  have hdiscard := hforgot.discard fun t ht => by
    rw [hnone] at ht
    cases ht
  refine Safe.write writes_remove hforgot hdiscard fun d₂ hd₂ => ?_
  have hd₂ : d₂.toRecords = { d₁.toRecords with databaseBackup := none } := hd₂
  rw [← hd₂] at hdiscard
  have hnone : d₂.transaction = none := by
    rw [hd₂]
    exact hnone
  refine Safe.write writes_remove hdiscard hdiscard fun d₃ hd₃ => ?_
  have hd₃ : d₃.toRecords = d₂.toRecords := hd₃
  rw [← hd₃] at hdiscard hnone
  exact Safe.ofReads (R := fun _ => True) (Reads.ask rfl fun _ _ _ => trivial) hdiscard
    fun _ _ => hnone

/-- **A rollback, cut anywhere**, leaves the records coherent, and no
transaction where it comes to its end. -/
theorem safe_rollbackInstallTransaction {uid : Nat} (hpaths : paths.Managed)
    (h : Held plutil schema paths known t d.toRecords) :
    Safe plutil schema paths known (rollbackInstallTransaction paths uid t) d
      fun _ x => x.transaction = none := by
  refine Safe.read reads_rollbackTarget h.coherent fun target d₁ hd₁ htarget => ?_
  rw [← hd₁] at h
  refine Safe.read reads_rollbackSelectionScope h.coherent fun _ d₂ hd₂ _ => ?_
  rw [← hd₂] at h
  refine Safe.read (Reads.quiet quiet_committedBackup) h.coherent fun _ d₃ hd₃ _ => ?_
  rw [← hd₃] at h
  have hrestores := h.marked_restores
  refine Safe.bind (safe_markRollbackInProgress h) fun marked d₄ hmarked => ?_
  obtain ⟨rfl, h₄⟩ := hmarked
  refine Safe.read (Reads.quiet (Prog.Only.ask rfl fun _ => Prog.only_orThrow)) h₄.coherent
    fun _ d₅ hd₅ _ => ?_
  rw [← hd₅] at h₄
  refine Safe.read (Reads.quiet (Prog.Only.ask rfl fun _ => Prog.only_orThrow)) h₄.coherent
    fun _ d₆ hd₆ _ => ?_
  rw [← hd₆] at h₄
  refine Safe.write writes_remove h₄.coherent h₄.coherent fun d₇ hd₇ => ?_
  have hd₇ : d₇.toRecords = d₆.toRecords := hd₇
  rw [← hd₇] at h₄
  refine Safe.bind (safe_rollbackDatabase h₄ hrestores) fun _ d₈ h₈ => ?_
  have htarget : rollbackTargetOf plutil paths t.inRollback = .ok target := by
    have hsame : rollbackTargetOf plutil paths t.inRollback = rollbackTargetOf plutil paths t :=
      rollbackTargetOf_congr rfl rfl
    rw [hsame]
    exact htarget
  refine Safe.bind (safe_republishPrior hpaths h₈ htarget) fun _ d₉ h₉ => ?_
  exact safe_forgetTransaction h₉.coherent

/-- So does finishing an acceptance. -/
theorem safe_finalizeAcceptedLease (h : Coherent plutil schema paths known d.toRecords)
    (ht : d.transaction = some t) (hphase : t.phase = .accepted) :
    Safe plutil schema paths known (finalizeAcceptedLease t) d
      fun _ x => x.transaction = none := by
  refine Safe.read (reads_check (P := fun _ => True) fun _ _ => trivial) h fun _ d₁ hd₁ _ => ?_
  rw [← hd₁] at h
  refine Safe.write writes_remove h h fun d₂ hd₂ => ?_
  have hd₂ : d₂.toRecords = d₁.toRecords := hd₂
  rw [← hd₂] at h
  refine Safe.write writes_remove h h fun d₃ hd₃ => ?_
  have hd₃ : d₃.toRecords = d₂.toRecords := hd₃
  have ht₃ : d₃.transaction = some t := by
    rw [hd₃, hd₂, hd₁]
    exact ht
  rw [← hd₃] at h
  have hdiscard := h.discard fun t' ht' => by
    rw [ht₃] at ht'
    obtain rfl := Option.some.inj ht'
    exact hphase
  refine Safe.write writes_remove h hdiscard fun d₄ hd₄ => ?_
  have hd₄ : d₄.toRecords = { d₃.toRecords with databaseBackup := none } := hd₄
  rw [← hd₄] at hdiscard
  refine Safe.write writes_remove hdiscard hdiscard fun d₅ hd₅ => ?_
  have hd₅ : d₅.toRecords = d₄.toRecords := hd₅
  rw [← hd₅] at hdiscard
  exact Safe.ofWrites writes_remove hdiscard hdiscard.forget rfl

/-- Which phases are finished: the accepted one alone. -/
theorem TransactionPhase.finalizeAccepted_iff {phase : TransactionPhase} :
    phase.recoveryDisposition = .finalizeAccepted ↔ phase = .accepted := by
  cases phase <;> decide

/-- **Recovery, cut anywhere**, leaves the records coherent, and no
transaction where it comes to its end. -/
theorem safe_recoverIncompleteInstall {uid : Nat} (hpaths : paths.Managed)
    (h : Coherent plutil schema paths known d.toRecords) :
    Safe plutil schema paths known (recoverIncompleteInstall paths uid) d
      fun _ x => x.transaction = none := by
  refine Safe.read reads_transaction h fun o d₁ hd₁ ho => ?_
  rw [← hd₁] at h
  obtain ⟨ho, -⟩ := ho
  have ho : d₁.transaction = o := by rw [hd₁, ho]
  cases o with
  | none =>
      have hdiscard := h.discard fun t ht => by
        rw [ho] at ht
        cases ht
      refine Safe.write writes_remove h hdiscard fun d₂ hd₂ => ?_
      have hd₂ : d₂.toRecords = { d₁.toRecords with databaseBackup := none } := hd₂
      rw [← hd₂] at hdiscard
      have hnone : d₂.transaction = none := by
        rw [hd₂]
        exact ho
      exact Safe.ofWrites writes_remove hdiscard hdiscard hnone
  | some t =>
      cases hphase : t.phase.recoveryDisposition with
      | holdForExplicitDecision =>
          simp only [hphase]
          exact safe_throw h
      | finalizeAccepted =>
          simp only [hphase]
          exact safe_finalizeAcceptedLease h ho (TransactionPhase.finalizeAccepted_iff.1 hphase)
      | rollbackPrior =>
          simp only [hphase]
          refine safe_rollbackInstallTransaction hpaths (h.held ho fun haccepted => ?_)
          rw [TransactionPhase.finalizeAccepted_iff.2 haccepted] at hphase
          cases hphase

end Commands

end Cli

end Unlinger
