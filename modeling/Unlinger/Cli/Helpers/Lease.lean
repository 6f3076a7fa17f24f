import Unlinger.Cli.Helpers.Reads

/-!
# What a transaction needs to be rolled back

`Lease` says of a transaction and the records that its rollback can start:
its target reads as a LaunchAgent, what is selected is the candidate or
the prior, sealed, and the snapshot it committed is there. `Coherent` says
it of whatever transaction is on disk, together with what is left to hold
where there is none. The lemmas say which changes keep a lease, and what
the reading parts of the commands find out.
-/

namespace Unlinger

open Interaction Crash

namespace Cli

variable {H : Type} {α β : Type}

/-! ## Paths -/

/-- What the service relies on of its paths: the legacy binary is no
option, and the database is in its place. -/
structure LocalPaths.Managed (paths : LocalPaths) : Prop where
  binary : paths.daemonBinary ≠ "--managed" ∧ paths.daemonBinary ≠ "--activation-generation"
  database : paths.database = Text.joinPath paths.applicationSupport "history.sqlite3"

/-- A joined path ends in what was joined. -/
theorem suffix_joinPath {base name : String} (hname : Text.isAbsolute name = false) :
    name.toList <:+ (Text.joinPath base name).toList := by
  unfold Text.joinPath
  rw [hname]
  simp only [Bool.false_eq_true, if_false]
  split_ifs with h
  · rw [String.toList_append]
    exact List.suffix_append _ _
  · rw [String.toList_append]
    exact List.suffix_append _ _

/-- The paths below a home directory are such. -/
theorem managed_below (home : String) : (LocalPaths.below home).Managed := by
  have hsuffix : "unlingerd".toList <:+ (LocalPaths.below home).daemonBinary.toList :=
    suffix_joinPath (by decide)
  refine ⟨⟨fun h => ?_, fun h => ?_⟩, rfl⟩
  · rw [h] at hsuffix
    revert hsuffix
    decide
  · rw [h] at hsuffix
    revert hsuffix
    decide

/-! ## Reading a LaunchAgent -/

section Documents

variable (plutil : String → Except ServiceError LaunchAgentDocument) (paths : LocalPaths)

/-- The generation a LaunchAgent selects, if it is a managed one. -/
def installedOf : Option String → Except ServiceError (Option Nat)
  | none => .ok none
  | some contents => do
      let document ← plutil contents
      document.installedGeneration paths

/-- What a transaction rolls its LaunchAgent back to. -/
def rollbackTargetOf (t : InstallTransaction) : Except ServiceError (Option String) :=
  match t.priorPlist with
  | none => .ok none
  | some priorPlist => do
      let document ← plutil priorPlist
      let contents ← document.reportOnlyText priorPlist
      let reportOnly ← plutil contents
      reportOnly.validate (t.rollbackExpectation paths).1 (t.rollbackExpectation paths).2
      return some contents

variable {plutil paths} {document : LaunchAgentDocument} {generation : Nat}
  {contents text : String} {t : InstallTransaction} {target : Option String}

/-- A managed LaunchAgent that is the one expected selects its
generation. -/
theorem installedGeneration_of_managed
    (h : document.validate (paths.generationDaemon generation) (.managed generation) = .ok ()) :
    document.installedGeneration paths = .ok (some generation) := by
  have hvalid := h
  simp only [LaunchAgentDocument.validate, bind_eq_ok, require_eq_ok, found_eq_ok] at h
  obtain ⟨-, -, -, -, actual, hmanaged, number, rfl, rfl⟩ := h
  simp only [LaunchAgentDocument.installedGeneration, hmanaged, ok_bind, hvalid]
  rfl

/-- A legacy LaunchAgent of a binary that is no option selects none. -/
theorem installedGeneration_of_legacy {program : String} {mode : DaemonMode}
    (hprogram : program ≠ "--managed" ∧ program ≠ "--activation-generation")
    (h : document.validate program (.legacy mode) = .ok ()) :
    document.installedGeneration paths = .ok none := by
  simp only [LaunchAgentDocument.validate, bind_eq_ok, require_eq_ok] at h
  obtain ⟨u, hbase, -, hprogram', actual, hlegacy, -⟩ := h
  have hmanaged : document.managedGeneration = .ok none := by
    have hfirst : document.programArguments.head? = some document.program := by
      simp only [LaunchAgentDocument.validateBase, bind_eq_ok, require_eq_ok] at hbase
      obtain ⟨-, -, hbase⟩ := hbase
      exact hbase.2
    unfold LaunchAgentDocument.legacyMode at hlegacy
    simp only [hbase, ok_bind] at hlegacy
    unfold LaunchAgentDocument.managedGeneration
    simp only [hbase, ok_bind]
    split at hlegacy
    · rename_i first option harguments
      rw [harguments] at hfirst ⊢
      obtain rfl := Option.some.inj hfirst
      rw [hprogram']
      have hoption : option ≠ "--managed" ∧ option ≠ "--activation-generation" := by
        simp only [bind_eq_ok, require_eq_ok] at hlegacy
        obtain ⟨-, -, hmode⟩ := hlegacy
        split_ifs at hmode with h₁ h₂
        · subst h₁
          decide
        · subst h₂
          decide
      simp [hprogram.1, hprogram.2, hoption.1, hoption.2, pure, Except.pure]
    · cases hlegacy
  simp only [LaunchAgentDocument.installedGeneration, hmanaged, ok_bind]
  rfl

/-- What a rollback selects is the prior's generation, or none. -/
theorem installedOf_target (hpaths : paths.Managed)
    (h : rollbackTargetOf plutil paths t = .ok target) :
    ∃ o, installedOf plutil paths target = .ok o ∧
      ∀ g, o = some g → ∃ prior, t.priorManifest = some prior ∧ prior.activeGeneration = g := by
  unfold rollbackTargetOf at h
  cases hprior : t.priorPlist with
  | none =>
      rw [hprior] at h
      obtain rfl := Except.ok.inj h
      exact ⟨none, rfl, fun g hg => by cases hg⟩
  | some priorPlist =>
      rw [hprior] at h
      simp only [bind_eq_ok, pure_eq_ok] at h
      obtain ⟨document, -, contents, -, reportOnly, hreads, u, hvalid, rfl⟩ := h
      have hinstalled : installedOf plutil paths (some contents) =
          reportOnly.installedGeneration paths := by
        simp only [installedOf, hreads, ok_bind]
      rw [hinstalled]
      cases hmanifest : t.priorManifest with
      | none =>
          simp only [InstallTransaction.rollbackExpectation, hmanifest] at hvalid
          exact ⟨none, installedGeneration_of_legacy hpaths.binary hvalid, fun g hg => by cases hg⟩
      | some prior =>
          simp only [InstallTransaction.rollbackExpectation, hmanifest] at hvalid
          refine ⟨_, installedGeneration_of_managed hvalid, fun g hg => ?_⟩
          exact ⟨prior, rfl, Option.some.inj hg⟩

/-- And so is what the prior LaunchAgent selects. -/
theorem installedOf_prior (hpaths : paths.Managed)
    (h : rollbackTargetOf plutil paths t = .ok target) :
    ∃ o, installedOf plutil paths t.priorPlist = .ok o ∧
      ∀ g, o = some g → ∃ prior, t.priorManifest = some prior ∧ prior.activeGeneration = g := by
  have htarget := installedOf_target hpaths h
  unfold rollbackTargetOf at h
  cases hprior : t.priorPlist with
  | none => exact ⟨none, rfl, fun g hg => by cases hg⟩
  | some priorPlist =>
      rw [hprior] at h
      simp only [bind_eq_ok, pure_eq_ok] at h
      obtain ⟨document, hdocument, contents, htext, -, -, -, -, rfl⟩ := h
      unfold LaunchAgentDocument.reportOnlyText at htext
      obtain ⟨managed, hmanaged, htext⟩ := bind_eq_ok.1 htext
      cases managed with
      | some generation =>
          -- a managed LaunchAgent is rolled back to as it is
          obtain rfl := pure_eq_ok.1 htext
          exact htarget
      | none =>
          refine ⟨none, ?_, fun g hg => by cases hg⟩
          simp only [installedOf, hdocument, ok_bind, LaunchAgentDocument.installedGeneration,
            hmanaged]
          rfl

/-- The target is the prior's alone, whatever became of the rest. -/
theorem rollbackTargetOf_congr {t' : InstallTransaction} (hplist : t'.priorPlist = t.priorPlist)
    (hmanifest : t'.priorManifest = t.priorManifest) :
    rollbackTargetOf plutil paths t' = rollbackTargetOf plutil paths t := by
  unfold rollbackTargetOf InstallTransaction.rollbackExpectation
  rw [hplist, hmanifest]

end Documents

/-! ## Leases -/

/-- The generation's directory is there, sealed, with its own manifest. -/
def Sealed (x : Records H) (generation : Nat) : Prop :=
  x.generations.lookup generation = some ⟨.new generation, true⟩

variable (plutil : String → Except ServiceError LaunchAgentDocument) (schema : H → Nat)
  (paths : LocalPaths)

/-- What is selected is a generation of the transaction, sealed. -/
structure InScope (t : InstallTransaction) (x : Records H) : Prop where
  launchAgent : ∃ o, installedOf plutil paths x.launchAgent = .ok o ∧
    ∀ g, o = some g → t.allowsGeneration g = true ∧ Sealed x g
  manifest : ∀ m, x.activeManifest = some m → m.schemaVersion = serviceManifestSchemaVersion ∧
    t.allowsGeneration m.activeGeneration = true ∧ Sealed x m.activeGeneration

/-- The snapshot the transaction committed is there. -/
def BackedUp (t : InstallTransaction) (x : Records H) : Prop :=
  t.databaseBackedUp = true → ∃ h, x.databaseBackup = some (.whole h) ∧
    ∀ version, t.databaseBackupSchemaVersion = some version → schema h = version

/-- The transaction can be rolled back. -/
structure Lease (t : InstallTransaction) (x : Records H) : Prop where
  target : ∃ target, rollbackTargetOf plutil paths t = .ok target
  scope : InScope plutil paths t x
  prior : ∀ m, t.priorManifest = some m → Sealed x m.activeGeneration
  backup : BackedUp schema t x
  /-- a snapshot is committed only where it will be restored -/
  restores : t.databaseBackedUp = true → t.inRollback.rollbackDatabaseRestore = true
  /-- a manifest is rolled back to only with its LaunchAgent -/
  complete : t.priorPlist = none → t.priorManifest = none

/-- What the selections may be that a transaction found, a LaunchAgent and a
manifest. -/
abbrev Selections := Option String → Option ActiveServiceManifest → Prop

variable (known : Selections)

/-- The records of a service that only its commands have changed. -/
structure Coherent (x : Records H) : Prop where
  manifest : ∀ m, x.activeManifest = some m → m.schemaVersion = serviceManifestSchemaVersion ∧
    Sealed x m.activeGeneration
  transaction : ∀ t, x.transaction = some t →
    t.schemaVersion = serviceTransactionSchemaVersion ∧ known t.priorPlist t.priorManifest ∧
      (t.phase ≠ .accepted → Lease plutil schema paths t x)

/-- The transaction is on disk, and can be rolled back. -/
structure Held (t : InstallTransaction) (x : Records H) : Prop where
  transaction : x.transaction = some t
  version : t.schemaVersion = serviceTransactionSchemaVersion
  known : known t.priorPlist t.priorManifest
  lease : Lease plutil schema paths t x

variable {plutil schema paths known} {t t' : InstallTransaction} {x x' : Records H}

theorem Held.coherent (h : Held plutil schema paths known t x) :
    Coherent plutil schema paths known x := by
  refine ⟨fun m hm => ?_, fun t' ht' => ?_⟩
  · have hscope := h.lease.scope.manifest m hm
    exact ⟨hscope.1, hscope.2.2⟩
  · rw [h.transaction] at ht'
    obtain rfl := Option.some.inj ht'
    exact ⟨h.version, h.known, fun _ => h.lease⟩

theorem Coherent.held (h : Coherent plutil schema paths known x) (ht : x.transaction = some t)
    (hphase : t.phase ≠ .accepted) : Held plutil schema paths known t x := by
  obtain ⟨hversion, hknown, hlease⟩ := h.transaction t ht
  exact ⟨ht, hversion, hknown, hlease hphase⟩

/-! ## Changes that keep a lease -/

/-- The transaction is written again with another phase, or with more of
what it says about itself. -/
theorem Lease.rewrite (h : Lease plutil schema paths t x)
    (hcandidate : t'.candidateGeneration = t.candidateGeneration)
    (hplist : t'.priorPlist = t.priorPlist) (hmanifest : t'.priorManifest = t.priorManifest)
    (hbackup : BackedUp schema t' x)
    (hrestores : t'.databaseBackedUp = true → t'.inRollback.rollbackDatabaseRestore = true) :
    Lease plutil schema paths t' { x with transaction := some t' } := by
  have hallows : ∀ g, t'.allowsGeneration g = t.allowsGeneration g := by
    intro g
    unfold InstallTransaction.allowsGeneration
    rw [hcandidate, hmanifest]
  obtain ⟨o, hinstalled, hsome⟩ := h.scope.launchAgent
  refine ⟨?_, ⟨⟨o, hinstalled, fun g hg => ?_⟩, fun m hm => ?_⟩, fun m hm => ?_, hbackup,
    hrestores, fun hnone => ?_⟩
  · rw [rollbackTargetOf_congr hplist hmanifest]
    exact h.target
  · rw [hallows]
    exact hsome g hg
  · rw [hallows]
    exact h.scope.manifest m hm
  · rw [hmanifest] at hm
    exact h.prior m hm
  · rw [hmanifest]
    rw [hplist] at hnone
    exact h.complete hnone

/-- Another LaunchAgent is selected. -/
theorem Lease.select {launchAgent : Option String} (h : Lease plutil schema paths t x)
    (hscope : ∃ o, installedOf plutil paths launchAgent = .ok o ∧
      ∀ g, o = some g → t.allowsGeneration g = true ∧ Sealed x g) :
    Lease plutil schema paths t { x with launchAgent := launchAgent } :=
  ⟨h.target, ⟨hscope, h.scope.manifest⟩, h.prior, h.backup, h.restores, h.complete⟩

/-- Another manifest is. -/
theorem Lease.activate {manifest : Option ActiveServiceManifest}
    (h : Lease plutil schema paths t x)
    (hscope : ∀ m, manifest = some m → m.schemaVersion = serviceManifestSchemaVersion ∧
      t.allowsGeneration m.activeGeneration = true ∧ Sealed x m.activeGeneration) :
    Lease plutil schema paths t { x with activeManifest := manifest } :=
  ⟨h.target, ⟨h.scope.launchAgent, hscope⟩, h.prior, h.backup, h.restores, h.complete⟩

/-- Where no snapshot is committed, the backup is nobody's. -/
theorem Lease.uncommitted {backup : Option (DatabaseFile H)} (h : Lease plutil schema paths t x)
    (hback : t.databaseBackedUp = false) :
    Lease plutil schema paths t { x with databaseBackup := backup } := by
  refine ⟨h.target, ⟨h.scope.launchAgent, h.scope.manifest⟩, h.prior, fun hbacked => ?_,
    h.restores, h.complete⟩
  rw [hback] at hbacked
  cases hbacked

/-- A generation that was not there comes and goes. -/
theorem Lease.generation {generations : OrdMap Nat GenerationDir} {generation : Nat}
    (h : Lease plutil schema paths t x) (habsent : x.generations.lookup generation = none)
    (hothers : ∀ g, g ≠ generation → generations.lookup g = x.generations.lookup g) :
    Lease plutil schema paths t { x with generations := generations } := by
  have hsealed : ∀ g, Sealed x g → Sealed { x with generations := generations } g := by
    intro g hg
    have hne : g ≠ generation := by
      intro heq
      rw [Sealed, heq, habsent] at hg
      cases hg
    unfold Sealed
    rw [hothers g hne]
    exact hg
  obtain ⟨o, hinstalled, hsome⟩ := h.scope.launchAgent
  refine ⟨h.target, ⟨⟨o, hinstalled, fun g hg => ?_⟩, fun m hm => ?_⟩, fun m hm => ?_, h.backup,
    h.restores, h.complete⟩
  · exact ⟨(hsome g hg).1, hsealed g (hsome g hg).2⟩
  · have hscope := h.scope.manifest m hm
    exact ⟨hscope.1, hscope.2.1, hsealed _ hscope.2.2⟩
  · exact hsealed _ (h.prior m hm)

theorem allowsGeneration_prior {prior : ActiveServiceManifest} (h : t.priorManifest = some prior) :
    t.allowsGeneration prior.activeGeneration = true := by
  simp [InstallTransaction.allowsGeneration, h]

theorem allowsGeneration_candidate : t.allowsGeneration t.candidateGeneration = true := by
  simp [InstallTransaction.allowsGeneration]

end Cli

end Unlinger
