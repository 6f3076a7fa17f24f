import Unlinger.Cli.Recovery

/-!
# Decisions about a candidate

A candidate that came ready waits, and what it replaced is retained. While
it waits no command but the two that decide changes a record. Rolling it
back restores what was there before; once it is accepted, every recovery
finishes the acceptance and none takes it back.
-/

namespace Unlinger

open Interaction Crash

namespace Cli

variable {H : Type} {plutil : String → Except ServiceError LaunchAgentDocument} {schema : H → Nat}
  {paths : LocalPaths} {d₀ d d' x : Disk H} {t : InstallTransaction}

/-! ## Waiting -/

/-- A candidate that waits is not recovered. -/
theorem reads_recover_waiting {uid : Nat} (ht : d.transaction = some t)
    (hphase : t.phase = .candidateReadyReportOnly) :
    Reads plutil schema (recoverIncompleteInstall paths uid) d fun _ => False := by
  refine Reads.bind reads_transaction fun o d₁ _ ho => ?_
  rw [ho.1, ht]
  have hhold : t.phase.recoveryDisposition = .holdForExplicitDecision := by
    rw [hphase]
    rfl
  simp only [hhold]
  exact reads_throw

/-- The two commands that decide. -/
def Command.decides : Command → Bool
  | .acceptCandidate | .rollbackCandidate => true
  | _ => false

theorem reads_command_waiting (command : Command) (hdecides : command.decides = false)
    (ht : d.transaction = some t) (hphase : t.phase = .candidateReadyReportOnly) :
    Reads plutil schema (command.program paths) d fun _ => True := by
  by_cases hfirst : command.recoversFirst = true
  · refine Reads.imp (reads_refused command hfirst fun uid x hx => ?_) fun _ _ => trivial
    refine reads_recover_waiting (t := t) ?_ hphase
    rw [hx]
    exact ht
  · cases command with
    | install | setMode | uninstall | recoverIncompleteInstall => exact absurd rfl hfirst
    | acceptCandidate | rollbackCandidate => cases hdecides
    | restartReportOnly =>
        have hrestart : Reads plutil schema (restartReportOnly paths) d fun _ => True := by
          refine Reads.bind (Reads.quiet quiet_beginMutation) fun uid x hx _ => ?_
          have hsettled : Reads plutil schema (settleBeforeRestart paths uid) x
              fun _ => True := by
            refine Reads.bind reads_transaction fun o y hy ho => ?_
            rw [ho.1, hx, ht]
            simp only [hphase]
            exact Reads.quiet quiet_validateCandidateRestartState
          refine Reads.bind hsettled fun _ y _ _ => Reads.quiet ?_
          refine Prog.Only.bind quiet_readOptionalManifest fun o => ?_
          cases o with
          | none => exact Prog.only_throw
          | some m =>
              refine Prog.Only.bind Prog.only_orThrow fun _ => ?_
              refine Prog.Only.bind (Prog.Only.ask rfl fun _ => Prog.only_orThrow) fun _ => ?_
              exact quiet_waitForGenerationReady _ _
        exact Reads.bind hrestart fun _ _ _ _ => reads_pure trivial

/-- What commands come to that do not decide, cut anywhere. -/
abbrev Idles (plutil : String → Except ServiceError LaunchAgentDocument) (schema : H → Nat)
    (paths : LocalPaths) : Disk H → Disk H → Prop :=
  Relation.ReflTransGen (Started (Disk.serves plutil schema)
    fun command : { c : Command // c.decides = false } => command.1.program paths)

/-- **A candidate waits for its decision**: no other command changes a
record, whatever fails and wherever it is cut. -/
theorem candidate_waits (ht : d.transaction = some t)
    (hphase : t.phase = .candidateReadyReportOnly) (hrun : Idles plutil schema paths d d') :
    d'.toRecords = d.toRecords := by
  refine invariant_of_upholds (I := fun z : Disk H => z.toRecords = d.toRecords)
    (fun command z hz => ?_) hrun rfl
  have hreads : Reads plutil schema (command.1.program paths) z fun _ => True := by
    refine reads_command_waiting command.1 command.2 (t := t) ?_ hphase
    rw [hz]
    exact ht
  exact Upholds.mono hreads (fun y hy => hy.trans hz) fun _ _ _ => trivial

/-- The transaction of a later installation that is ready. -/
def laterReady : InstallTransaction := { laterBackedUp with phase := .candidateReadyReportOnly }

theorem transaction_laterReady : (laterInstallCut 60).transaction = some laterReady := by
  decide +kernel

/-- An uninstallation of a later installation that is ready. -/
theorem candidate_waits_uninstall :
    (cutAfter (Disk.comply readsManaged id) 50 (Command.program ownerPaths .uninstall)
      (laterInstallCut 60)).toRecords = (laterInstallCut 60).toRecords := by
  have hrun : Idles readsManaged id ownerPaths (laterInstallCut 60)
      (cutAfter (Disk.comply readsManaged id) 50 (Command.program ownerPaths .uninstall)
        (laterInstallCut 60)) := .single ⟨⟨.uninstall, rfl⟩, cut_comply _ _ _⟩
  exact candidate_waits transaction_laterReady rfl hrun

/-! ## Rolling back -/

theorem finishes_beginMutation :
    Finishes plutil schema beginMutation d fun _ d' => d' = d := by
  have huid : Finishes plutil schema (orFail (Prog.ask Call.mutationUid)) d fun _ d' => d' = d := by
    refine finishes_call fun r d' hserve => ?_
    obtain ⟨hd', uid, hr⟩ := hserve
    exact ⟨uid, hr, hd'⟩
  refine Finishes.bind huid fun uid d₁ hd₁ => ?_
  subst hd₁
  have hprepare : Finishes plutil schema (orFail (Prog.ask Call.prepareInstallDirectories)) d₁
      fun _ d' => d' = d₁ := finishes_call fun r d' hserve => ⟨(), hserve.2, hserve.1⟩
  refine Finishes.bind hprepare fun _ d₂ hd₂ => ?_
  subst hd₂
  have hlock : Finishes plutil schema (orFail (Prog.ask Call.acquireServiceLock)) d₂
      fun _ d' => d' = d₂ := finishes_call fun r d' hserve => ⟨(), hserve.2, hserve.1⟩
  refine Finishes.bind hlock fun _ d₃ hd₃ => ?_
  exact finishes_pure hd₃

theorem finishes_rollbackCandidate (hpaths : paths.Managed) {known : Selections}
    (h : Held plutil schema paths known t d.toRecords) (hphase : t.phase ≠ .accepted)
    (hclear : ¬ Stranded t d) :
    Finishes plutil schema (rollbackCandidate paths) d
      fun _ d' => Restored plutil paths t d d' := by
  refine Finishes.bind finishes_beginMutation fun uid d₁ hd₁ => ?_
  subst hd₁
  have hversion : ∀ t', d₁.transaction = some t' →
      t'.schemaVersion = serviceTransactionSchemaVersion := by
    intro t' ht'
    obtain rfl := Option.some.inj (h.transaction.symm.trans ht')
    exact h.version
  refine Finishes.bind (finishes_readOptionalTransaction hversion) fun o d₂ ho => ?_
  obtain ⟨rfl, rfl⟩ := ho
  have ht : d₂.transaction = some t := h.transaction
  rw [ht]
  simp only [hphase, if_false]
  refine Finishes.bind (finishes_rollbackInstallTransaction hpaths h hclear) fun _ d₃ hd₃ => ?_
  refine Upholds.mono finishes_status (fun _ hx => hx) fun o x hx => ?_
  obtain ⟨report, hreport, rfl⟩ := hx
  exact ⟨report, hreport, hd₃⟩

/-- **A candidate that is rolled back leaves what was there before it**,
whenever it was, if it is not stranded. -/
theorem rollback_candidate_restores (home : String) (h₀ : Settled d₀)
    (hrun : Reaches plutil schema (.below home) d₀ d) (ht : d.transaction = some t)
    (hphase : t.phase ≠ .accepted) (hclear : ¬ Stranded t d) :
    (∃ report d', Ran (Disk.obeys plutil schema) (rollbackCandidate (.below home)) d
      (.ok report) d') ∧
    ∀ o d', Ran (Disk.obeys plutil schema) (rollbackCandidate (.below home)) d o d' →
      (∃ report, o = .ok report) ∧ Restored plutil (.below home) t d d' := by
  have hpaths := managed_below home
  have hheld := (reaches_coherent hpaths h₀ hrun).held ht hphase
  have hfinishes := finishes_rollbackCandidate hpaths hheld hphase hclear
  refine ⟨?_, fun o d' hran => ?_⟩
  · obtain ⟨report, d', hran, -⟩ := hfinishes.exists_ran
    exact ⟨report, d', hran⟩
  · obtain ⟨report, rfl, hrestored⟩ := Upholds.ran hfinishes hran
    exact ⟨⟨report, rfl⟩, hrestored⟩

/-- So does a later installation that is ready. -/
theorem rollback_candidate_restores_later :
    (∃ report d', Ran (Disk.obeys readsManaged id) (rollbackCandidate ownerPaths)
      (laterInstallCut 60) (.ok report) d') ∧
    ∀ o d', Ran (Disk.obeys readsManaged id) (rollbackCandidate ownerPaths) (laterInstallCut 60)
        o d' →
      (∃ report, o = .ok report) ∧
        Restored readsManaged ownerPaths laterReady (laterInstallCut 60) d' :=
  rollback_candidate_restores "/Users/owner" settled_servedDisk (reaches_laterInstallCut 60)
    transaction_laterReady (by decide) fun hstranded => by cases hstranded.1

/-! ## Accepting -/

/-- What is left of an acceptance on its way to its end: the selection is
the candidate's, and the snapshot goes before the transaction does. -/
structure Accepting (t : InstallTransaction) (x y : Records H) : Prop where
  launchAgent : y.launchAgent = x.launchAgent
  manifest : y.activeManifest = x.activeManifest
  generations : y.generations = x.generations
  transaction : y.transaction = some t ∨ y.transaction = none ∧ y.databaseBackup = none

/-- A recovery that finishes an acceptance, cut anywhere. -/
theorem upholds_finalizeAcceptedLease {y : Records H} (h : Accepting t y d.toRecords)
    (ht : d.transaction = some t) :
    Upholds (Disk.serves plutil schema) (fun z => Accepting t y z.toRecords)
      (finalizeAcceptedLease t) d fun _ _ => True := by
  refine Reads.then (reads_check (P := fun _ => True) fun _ _ => trivial) h
    (fun _ d₁ hd₁ _ => ?_) fun _ _ _ => trivial
  rw [← hd₁] at h
  refine Writes.then writes_remove h h (fun d₂ hd₂ => ?_) fun _ _ _ => trivial
  have hd₂ : d₂.toRecords = d₁.toRecords := hd₂
  rw [← hd₂] at h
  refine Writes.then writes_remove h h (fun d₃ hd₃ => ?_) fun _ _ _ => trivial
  have hd₃ : d₃.toRecords = d₂.toRecords := hd₃
  have ht₃ : d₃.transaction = some t := by
    rw [hd₃, hd₂, hd₁]
    exact ht
  rw [← hd₃] at h
  have hretired : Accepting t y { d₃.toRecords with databaseBackup := none } :=
    ⟨h.launchAgent, h.manifest, h.generations, Or.inl ht₃⟩
  refine Writes.then writes_remove h hretired (fun d₄ hd₄ => ?_) fun _ _ _ => trivial
  have hd₄ : d₄.toRecords = { d₃.toRecords with databaseBackup := none } := hd₄
  rw [← hd₄] at hretired
  refine Writes.then writes_remove hretired hretired (fun d₅ hd₅ => ?_) fun _ _ _ => trivial
  have hd₅ : d₅.toRecords = d₄.toRecords := hd₅
  rw [← hd₅] at hretired
  have hback : d₅.databaseBackup = none := by
    rw [hd₅, hd₄]
  have hdone : Accepting t y { d₅.toRecords with transaction := none } :=
    ⟨hretired.launchAgent, hretired.manifest, hretired.generations, Or.inr ⟨rfl, hback⟩⟩
  exact Upholds.mono (writes_remove (fun z => Accepting t y z) hretired hdone)
    (fun _ hz => hz) fun _ _ _ => trivial

theorem upholds_recover_accepting {uid : Nat} {y : Records H} (hphase : t.phase = .accepted)
    (h : Accepting t y d.toRecords) :
    Upholds (Disk.serves plutil schema) (fun z => Accepting t y z.toRecords)
      (recoverIncompleteInstall paths uid) d fun _ _ => True := by
  refine Reads.then reads_transaction h (fun o d₁ hd₁ ho => ?_) fun _ _ _ => trivial
  rw [← hd₁] at h
  have ho : d₁.transaction = o := by rw [hd₁, ho.1]
  rcases h.transaction with ht | ⟨ht, hback⟩
  · obtain rfl := ho.symm.trans ht
    have hfinalize : t.phase.recoveryDisposition = .finalizeAccepted :=
      TransactionPhase.finalizeAccepted_iff.2 hphase
    simp only [hfinalize]
    exact upholds_finalizeAcceptedLease h ho
  · obtain rfl := ho.symm.trans ht
    have hsame : Accepting t y { d₁.toRecords with databaseBackup := none } :=
      ⟨h.launchAgent, h.manifest, h.generations, Or.inr ⟨ht, rfl⟩⟩
    refine Writes.then writes_remove h hsame (fun d₂ hd₂ => ?_) fun _ _ _ => trivial
    have hd₂ : d₂.toRecords = { d₁.toRecords with databaseBackup := none } := hd₂
    rw [← hd₂] at hsame
    exact Upholds.mono (writes_remove (fun z => Accepting t y z) hsame hsame)
      (fun _ hz => hz) fun _ _ _ => trivial

/-- The candidate is selected, and nothing of the transaction is left. -/
structure Accepted (x d : Disk H) : Prop where
  transaction : d.transaction = none
  backup : d.databaseBackup = none
  pending : d.databaseBackupPending = none
  launchAgent : d.launchAgent = x.launchAgent
  manifest : d.activeManifest = x.activeManifest
  generations : d.generations = x.generations
  database : d.database = x.database

theorem finishes_finalizeAcceptedLease (hphase : t.phase = .accepted) :
    Finishes plutil schema (finalizeAcceptedLease t) d fun _ d' => Accepted d d' := by
  refine Finishes.bind (finishes_require hphase) fun _ d₁ hd₁ => ?_
  refine Finishes.bind finishes_removeFileDurable fun _ d₂ hd₂ => ?_
  refine Finishes.bind finishes_removeFileDurable fun _ d₃ hd₃ => ?_
  refine Finishes.bind finishes_removeFileDurable fun _ d₄ hd₄ => ?_
  refine Finishes.bind finishes_removeFileDurable fun _ d₅ hd₅ => ?_
  refine Upholds.mono finishes_removeFileDurable (fun _ hz => hz) fun o d₆ ho => ?_
  obtain ⟨u, hu, hd₆⟩ := ho
  subst hd₆ hd₅ hd₄ hd₃ hd₂ hd₁
  exact ⟨u, hu, rfl, rfl, rfl, rfl, rfl, rfl, rfl⟩

theorem finishes_recover_accepting {uid : Nat} {y : Records H} (hphase : t.phase = .accepted)
    (hversion : t.schemaVersion = serviceTransactionSchemaVersion)
    (h : Accepting t y d.toRecords) :
    Finishes plutil schema (recoverIncompleteInstall paths uid) d fun _ d' => Accepted d d' := by
  have hschema : ∀ t', d.transaction = some t' →
      t'.schemaVersion = serviceTransactionSchemaVersion := by
    intro t' ht'
    rcases h.transaction with ht | ⟨ht, -⟩
    · obtain rfl := Option.some.inj (ht.symm.trans ht')
      exact hversion
    · cases ht.symm.trans ht'
  refine Finishes.bind (finishes_readOptionalTransaction hschema) fun o d₁ ho => ?_
  obtain ⟨rfl, rfl⟩ := ho
  rcases h.transaction with ht | ⟨ht, -⟩
  · have ht : d₁.transaction = some t := ht
    rw [ht]
    have hfinalize : t.phase.recoveryDisposition = .finalizeAccepted :=
      TransactionPhase.finalizeAccepted_iff.2 hphase
    simp only [hfinalize]
    exact finishes_finalizeAcceptedLease hphase
  · have ht : d₁.transaction = none := ht
    rw [ht]
    refine Finishes.bind finishes_removeFileDurable fun _ d₂ hd₂ => ?_
    refine Upholds.mono finishes_removeFileDurable (fun _ hz => hz) fun o d₃ ho => ?_
    obtain ⟨u, hu, hd₃⟩ := ho
    subst hd₃ hd₂
    exact ⟨u, hu, ht, rfl, rfl, rfl, rfl, rfl, rfl⟩

/-- What a later installation leaves whose acceptance is cut after so many
calls. -/
def laterAcceptanceCut (calls : Nat) : Disk Nat :=
  cutAfter (Disk.comply readsManaged id) calls (Command.program ownerPaths .acceptCandidate)
    (laterInstallCut 60)

theorem reaches_laterAcceptanceCut (calls : Nat) :
    Reaches readsManaged id ownerPaths servedDisk (laterAcceptanceCut calls) :=
  (reaches_laterInstallCut 60).tail ⟨.acceptCandidate, cut_comply _ _ _⟩

/-- **An acceptance that is durable is final**: recoveries of it may be cut
any number of times, with calls that fail, and none takes the selection
back; the one that is let run finishes it. -/
theorem acceptance_final (home : String) (uid : Nat) (h₀ : Settled d₀)
    (hrun : Reaches plutil schema (.below home) d₀ d) (ht : d.transaction = some t)
    (hphase : t.phase = .accepted)
    (hcuts : Relation.ReflTransGen
      (Cut (Disk.serves plutil schema) (recoverIncompleteInstall (.below home) uid)) d x) :
    Accepting t d.toRecords x.toRecords ∧
    (∃ d', Ran (Disk.obeys plutil schema) (recoverIncompleteInstall (.below home) uid) x
      (.ok ()) d') ∧
    ∀ o d', Ran (Disk.obeys plutil schema) (recoverIncompleteInstall (.below home) uid) x o d' →
      o = .ok () ∧ Accepted x d' := by
  have hversion : t.schemaVersion = serviceTransactionSchemaVersion :=
    ((reaches_coherent (managed_below home) h₀ hrun).transaction t ht).1
  have haccepting : Accepting t d.toRecords x.toRecords :=
    invariant_of_cuts (I := fun z : Disk H => Accepting t d.toRecords z.toRecords)
      (fun z hz => upholds_recover_accepting hphase hz) hcuts ⟨rfl, rfl, rfl, Or.inl ht⟩
  have hfinishes : Finishes plutil schema (recoverIncompleteInstall (.below home) uid) x
      fun _ d' => Accepted x d' := finishes_recover_accepting hphase hversion haccepting
  refine ⟨haccepting, ?_, fun o d' hran => ?_⟩
  · obtain ⟨u, d', hran, -⟩ := hfinishes.exists_ran
    exact ⟨d', hran⟩
  · obtain ⟨u, rfl, haccepted⟩ := Upholds.ran hfinishes hran
    exact ⟨rfl, haccepted⟩

/-- So is that of a later installation whose recovery is cut when the
snapshot is gone and the transaction is not. -/
theorem acceptance_final_later :
    Accepting { laterBackedUp with phase := .accepted } (laterAcceptanceCut 22).toRecords
      (laterAcceptanceCut 26).toRecords ∧
    (∃ d', Ran (Disk.obeys readsManaged id) (recoverIncompleteInstall ownerPaths 0)
      (laterAcceptanceCut 26) (.ok ()) d') ∧
    ∀ o d', Ran (Disk.obeys readsManaged id) (recoverIncompleteInstall ownerPaths 0)
        (laterAcceptanceCut 26) o d' →
      o = .ok () ∧ Accepted (laterAcceptanceCut 26) d' := by
  have hcut : cutAfter (Disk.comply readsManaged id) 5 (recoverIncompleteInstall ownerPaths 0)
      (laterAcceptanceCut 22) = laterAcceptanceCut 26 := by decide +kernel
  have hcuts : Relation.ReflTransGen (Cut (Disk.serves readsManaged id)
      (recoverIncompleteInstall ownerPaths 0)) (laterAcceptanceCut 22)
      (laterAcceptanceCut 26) := by
    rw [← hcut]
    exact .single (cut_comply _ _ _)
  exact acceptance_final "/Users/owner" 0 settled_servedDisk (reaches_laterAcceptanceCut 22)
    (by decide +kernel) (t := { laterBackedUp with phase := .accepted }) rfl hcuts

end Cli

end Unlinger
