import Unlinger.Cli.Model.Disk

/-!
# Programs that leave the records alone

Most of what a service command does changes nothing a transaction is
about: it looks, it talks to `launchd` and to the daemon, it works on the
database and on files nobody has selected. `Reads` is the judgement of
such a part, with what its value tells about the records.
-/

namespace Unlinger

open Interaction Crash

namespace Cli

variable {H : Type} {α β : Type}

/-! ## Quiet calls -/

/-- The call changes no record, whatever it answers. -/
def Call.quiet : Call → Bool
  | .writeTransaction _ | .writeManifest _ | .writeLaunchAgent _ => false
  | .removeFile .transaction | .removeFile .launchAgent | .removeFile .activeManifest
  | .removeFile .databaseBackup => false
  | .publishGeneration _ | .sealGeneration _ | .discardGeneration _ | .removeGenerationEntry _ =>
      false
  | .publishBackup => false
  | _ => true

variable {plutil : String → Except ServiceError LaunchAgentDocument} {schema : H → Nat}
  {d d' : Disk H}

theorem Disk.Looks.toRecords {r : Except ServiceError α} {truth : α}
    (h : Disk.Looks d r d' truth) : d'.toRecords = d.toRecords := by rw [h.1]

theorem Disk.Changes.toRecords {r : Except ServiceError Unit} {after : Disk H}
    (h : Disk.Changes d r d' after) (hafter : after.toRecords = d.toRecords) :
    d'.toRecords = d.toRecords := by
  rcases h with rfl | ⟨rfl, -⟩
  · exact hafter
  · rfl

theorem Disk.CopiesBackup.toRecords {r : Except ServiceError Unit}
    (h : Disk.CopiesBackup d r d') : d'.toRecords = d.toRecords := by
  unfold Disk.CopiesBackup at h
  split_ifs at h
  · rw [h.1]
  · obtain ⟨⟨main, rfl⟩, -⟩ := h
    rfl

/-- What a quiet call leaves. -/
theorem Disk.answers_quiet {c : Call} {r : Answer c} (hc : c.quiet = true)
    (h : Disk.answers plutil schema d c r d') : d'.toRecords = d.toRecords := by
  cases c with
  | writeTransaction | writeManifest | writeLaunchAgent => cases hc
  | publishGeneration | sealGeneration | discardGeneration | removeGenerationEntry => cases hc
  | publishBackup => cases hc
  | removeFile path =>
      cases path with
      | transaction | launchAgent | activeManifest | databaseBackup => cases hc
      | databaseBackupPending | daemonBinary | cliBinary | database =>
          exact Disk.Changes.toRecords h rfl
  | readTransaction | readManifest | readLaunchAgent | readLaunchAgentText | pathEntryExists
  | generationEntries | databaseComponent => exact Disk.Looks.toRecords h
  | plutil | isFile | generationExists | inspectGeneration | inspectDatabaseFile | validateSqlite
  | schemaVersion => rw [h.1]
  | stage | discardStage =>
      obtain ⟨stages, rfl⟩ := h
      rfl
  | vacuumInto =>
      obtain ⟨⟨pending, rfl⟩, -⟩ := h
      rfl
  | discardPending =>
      rcases h with rfl | rfl
      · rfl
      · rfl
  | moveToEvidence => exact Disk.Changes.toRecords h rfl
  | copyBackup => exact Disk.CopiesBackup.toRecords h
  | mutationUid | prepareInstallDirectories | acquireServiceLock | validateReplaceableFile
  | syncGeneration | removeGenerationRoot | protectPending | syncSupport | createEvidence
  | launchdState | ipcStatusForLaunchd | bootstrap | bootoutAndWait | proveDaemonOffline
  | dropDaemonLock | quiesceLoadedService | drainRollbackSelectedService
  | restoreGenerationReportOnly | emergencyRestartGenerationReportOnly | status | awaitStatus
  | awaitLegacy | requestArm | requestDisarm =>
      obtain rfl := h
      rfl

/-- A daemon's writes are not to the records. -/
theorem Disk.serves_quiet {c : Call} {r : Answer c} (hc : c.quiet = true)
    (h : Disk.serves plutil schema d c r d') : d'.toRecords = d.toRecords := by
  obtain ⟨database, h⟩ := h
  have hrecords := Disk.answers_quiet hc h
  exact hrecords

/-! ## The judgement -/

/-- The records stay as they are, and the value is one of `P`. -/
def Reads (plutil : String → Except ServiceError LaunchAgentDocument) (schema : H → Nat)
    (p : ServiceProg α) (d : Disk H) (P : α → Prop) : Prop :=
  Upholds (Disk.serves plutil schema) (fun d' => d'.toRecords = d.toRecords) p d
    fun o _ => ∀ a, o = .ok a → P a

variable {P P' : α → Prop} {Q : β → Prop}

theorem reads_pure {a : α} (h : P a) : Reads plutil schema (pure a) d P := by
  refine ⟨rfl, fun b hb => ?_⟩
  obtain rfl := Except.ok.inj hb
  exact h

theorem reads_throw {e : ServiceError} : Reads plutil schema (Prog.throw e) d P :=
  ⟨rfl, fun _ h => by cases h⟩

/-- A value that is one of more. -/
theorem Reads.imp {p : ServiceProg α} (h : Reads plutil schema p d P) (himp : ∀ a, P a → P' a) :
    Reads plutil schema p d P' :=
  Upholds.mono h (fun _ hd => hd) fun _ _ ho a ha => himp a (ho a ha)

/-- **Sequencing.** -/
theorem Reads.bind {p : ServiceProg α} {f : α → ServiceProg β} (h : Reads plutil schema p d P)
    (hf : ∀ a (d' : Disk H), d'.toRecords = d.toRecords → P a → Reads plutil schema (f a) d' Q) :
    Reads plutil schema (p >>= f) d Q := by
  have hrecords : Upholds (Disk.serves plutil schema) (fun d' => d'.toRecords = d.toRecords) p d
      fun o d' => d'.toRecords = d.toRecords ∧ ∀ a, o = .ok a → P a :=
    Upholds.post h fun o d' hd ho => ⟨hd, ho⟩
  refine hrecords.bind (fun a d' ha => ?_) fun e d' _ _ b hb => by cases hb
  have hcont := hf a d' ha.1 (ha.2 a rfl)
  exact Upholds.mono hcont (fun x hx => hx.trans ha.1) fun _ _ ho => ho

/-- A call that changes no record. -/
theorem Reads.ask {c : Call} {P : Answer c → Prop} (hc : c.quiet = true)
    (h : ∀ r d', Disk.serves plutil schema d c r d' → P r) :
    Reads plutil schema (Prog.ask c) d P := by
  refine ⟨rfl, fun r d' hserve => ⟨Disk.serves_quiet hc hserve, fun a ha => ?_⟩⟩
  obtain rfl := Except.ok.inj ha
  exact h r d' hserve

/-- A check. -/
theorem reads_check {x : Except ServiceError α} (h : ∀ a, x = .ok a → P a) :
    Reads plutil schema (check x) d P := by
  cases x with
  | ok a => exact reads_pure (h a rfl)
  | error e => exact reads_throw

/-- A call that may fail. -/
theorem Reads.orFail {p : ServiceProg (Except ServiceError α)}
    (h : Reads plutil schema p d fun r => ∀ a, r = .ok a → P a) :
    Reads plutil schema (orFail p) d P :=
  Reads.bind h fun _ _ _ hr => reads_check hr

/-- A program of quiet calls. -/
theorem Reads.quiet {p : ServiceProg α} (h : p.Only fun c => c.quiet = true) :
    Reads plutil schema p d fun _ => True := by
  have hkeep : ∀ (x : Disk H) c r x', c.quiet = true → x.toRecords = d.toRecords →
      Disk.serves plutil schema x c r x' → x'.toRecords = d.toRecords := by
    intro x c r x' hc hx hserve
    exact (Disk.serves_quiet hc hserve).trans hx
  have honly := Upholds.only h hkeep (fun _ hx => hx) rfl
  exact honly.mono (fun _ hx => hx) fun _ _ _ _ _ => trivial

/-- **A part that only reads**, and what follows it. -/
theorem Reads.then {I : Records H → Prop} {p : ServiceProg α} {f : α → ServiceProg β}
    {R : Except ServiceError β → Disk H → Prop} (h : Reads plutil schema p d P)
    (hI : I d.toRecords)
    (hok : ∀ a (d' : Disk H), d'.toRecords = d.toRecords → P a →
      Upholds (Disk.serves plutil schema) (fun x => I x.toRecords) (f a) d' R)
    (herr : ∀ e (d' : Disk H), d'.toRecords = d.toRecords → R (.error e) d') :
    Upholds (Disk.serves plutil schema) (fun x => I x.toRecords) (p >>= f) d R := by
  have hrecords : Upholds (Disk.serves plutil schema) (fun x => I x.toRecords) p d
      fun o d' => d'.toRecords = d.toRecords ∧ ∀ a, o = .ok a → P a := by
    refine Upholds.mono (Upholds.post h fun o d' hd ho => ⟨hd, ho⟩) (fun x hx => ?_)
      fun _ _ ho => ho
    rw [hx]
    exact hI
  refine hrecords.bind (fun a d' ha => hok a d' ha.1 (ha.2 a rfl)) ?_
  exact fun e d' _ he => herr e d' he.1

end Cli

end Unlinger
