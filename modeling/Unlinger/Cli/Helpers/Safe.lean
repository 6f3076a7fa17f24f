import Unlinger.Cli.Helpers.Validate

/-!
# Commands, cut anywhere

Every record a command changes it changes in one step. `Writes` is such a
step, and `Safe` the judgement of a command built from them and from parts
that only read: wherever it is cut the records are coherent, and where it
ends well its value and the records are as they should be.
-/

namespace Unlinger

open Interaction Crash

namespace Cli

variable {H : Type} {α β : Type}
  {plutil : String → Except ServiceError LaunchAgentDocument} {schema : H → Nat}
  {paths : LocalPaths} {d : Disk H} {t : InstallTransaction}

/-! ## One step -/

/-- The records become `after` in one step, or the call fails and they do
not. -/
def Writes (plutil : String → Except ServiceError LaunchAgentDocument) (schema : H → Nat)
    (p : ServiceProg Unit) (d : Disk H) (after : Records H) : Prop :=
  ∀ I : Records H → Prop, I d.toRecords → I after →
    Upholds (Disk.serves plutil schema) (fun x => I x.toRecords) p d
      fun o d' => o = .ok () → d'.toRecords = after

/-- A failing step is one of the records before or after. -/
theorem Writes.then {I : Records H → Prop} {p : ServiceProg Unit} {after : Records H}
    {f : Unit → ServiceProg β} {R : Except ServiceError β → Disk H → Prop}
    (h : Writes plutil schema p d after) (hI : I d.toRecords) (hafter : I after)
    (hok : ∀ d' : Disk H, d'.toRecords = after →
      Upholds (Disk.serves plutil schema) (fun x => I x.toRecords) (f ()) d' R)
    (herr : ∀ e (d' : Disk H), I d'.toRecords → R (.error e) d') :
    Upholds (Disk.serves plutil schema) (fun x => I x.toRecords) (p >>= f) d R :=
  (h I hI hafter).bind (fun _ d' hd' => hok d' (hd' rfl)) fun e d' hd' _ => herr e d' hd'

/-- A call's two outcomes. -/
theorem Disk.Changes.records {r : Except ServiceError Unit} {after d' : Disk H}
    {I : Records H → Prop} (h : Disk.Changes d r d' after) (hd : I d.toRecords)
    (hafter : I after.toRecords) :
    I d'.toRecords ∧ (r = .ok () → d'.toRecords = after.toRecords) := by
  rcases h with rfl | ⟨rfl, e, rfl⟩
  · exact ⟨hafter, fun _ => rfl⟩
  · exact ⟨hd, fun he => by cases he⟩

/-- A call that may fail, whose answer says whether it did. -/
theorem upholds_orFail {c : Call} {k : Answer c → Except ServiceError Unit} {I : Records H → Prop}
    {after : Records H} (hI : I d.toRecords)
    (h : ∀ r d', Disk.serves plutil schema d c r d' →
      I d'.toRecords ∧ (k r = .ok () → d'.toRecords = after)) :
    Upholds (Disk.serves plutil schema) (fun x => I x.toRecords)
      (orFail (.call c fun r => .ret (k r))) d fun o d' => o = .ok () → d'.toRecords = after := by
  refine ⟨hI, fun r d' hserve => ?_⟩
  obtain ⟨hd', hr⟩ := h r d' hserve
  change Upholds _ _ (Prog.orThrow id (k r)) d' _
  cases hk : k r with
  | ok u => exact ⟨hd', fun _ => hr hk⟩
  | error e => exact ⟨hd', fun he => by cases he⟩

theorem writes_transaction :
    Writes plutil schema (persistTransaction t) d { d.toRecords with transaction := some t } := by
  intro I hI hafter
  refine upholds_orFail hI fun r d' hserve => ?_
  obtain ⟨database, hchanges⟩ := hserve
  exact Disk.Changes.records (I := I) hchanges hI hafter

theorem writes_manifest {manifest : ActiveServiceManifest} :
    Writes plutil schema (orFail (Prog.ask (Call.writeManifest manifest))) d
      { d.toRecords with activeManifest := some manifest } := by
  intro I hI hafter
  refine upholds_orFail hI fun r d' hserve => ?_
  obtain ⟨database, hchanges⟩ := hserve
  exact Disk.Changes.records (I := I) hchanges hI hafter

theorem writes_launchAgent {contents : String} :
    Writes plutil schema (orFail (Prog.ask (Call.writeLaunchAgent contents))) d
      { d.toRecords with launchAgent := some contents } := by
  intro I hI hafter
  refine upholds_orFail hI fun r d' hserve => ?_
  obtain ⟨database, hchanges⟩ := hserve
  exact Disk.Changes.records (I := I) hchanges hI hafter

/-- What is removed from the records does not depend on the database. -/
theorem Disk.remove_toRecords (database : Database H) (path : ManagedPath) :
    (Disk.remove { d with database := database } path).toRecords = (d.remove path).toRecords := by
  cases path with
  | launchAgent | activeManifest | transaction | databaseBackup | databaseBackupPending
  | daemonBinary | cliBinary | database => rfl

theorem writes_remove {path : ManagedPath} :
    Writes plutil schema (removeFileDurable path) d (d.remove path).toRecords := by
  intro I hI hafter
  refine upholds_orFail hI fun r d' hserve => ?_
  obtain ⟨database, hchanges⟩ := hserve
  have hremove := Disk.remove_toRecords (d := d) database path
  rw [← hremove] at hafter ⊢
  exact Disk.Changes.records (I := I) hchanges hI hafter

/-! ## Commands -/

/-- Wherever the command is cut the records are coherent, and a value it
ends with satisfies `Q` with them. -/
def Safe (plutil : String → Except ServiceError LaunchAgentDocument) (schema : H → Nat)
    (paths : LocalPaths) (known : Selections) (p : ServiceProg α) (d : Disk H)
    (Q : α → Records H → Prop) : Prop :=
  Upholds (Disk.serves plutil schema)
    (fun x => Coherent plutil schema paths known x.toRecords) p d
    fun o d' => ∀ a, o = .ok a → Q a d'.toRecords

variable {known : Selections} {P : α → Records H → Prop} {Q : β → Records H → Prop}

theorem safe_pure {a : α} (hd : Coherent plutil schema paths known d.toRecords)
    (h : P a d.toRecords) : Safe plutil schema paths known (pure a) d P := by
  refine ⟨hd, fun b hb => ?_⟩
  obtain rfl := Except.ok.inj hb
  exact h

theorem safe_throw {e : ServiceError} (hd : Coherent plutil schema paths known d.toRecords) :
    Safe plutil schema paths known (Prog.throw e) d P :=
  ⟨hd, fun a ha => by cases ha⟩

/-- **Consequence.** -/
theorem Safe.imp {P' : α → Records H → Prop} {p : ServiceProg α}
    (h : Safe plutil schema paths known p d P) (himp : ∀ a x, P a x → P' a x) :
    Safe plutil schema paths known p d P' :=
  Upholds.mono h (fun _ hx => hx) fun _ _ ho a ha => himp a _ (ho a ha)

/-- **Sequencing.** -/
theorem Safe.bind {p : ServiceProg α} {f : α → ServiceProg β}
    (h : Safe plutil schema paths known p d P)
    (hf : ∀ a (d' : Disk H), P a d'.toRecords → Safe plutil schema paths known (f a) d' Q) :
    Safe plutil schema paths known (p >>= f) d Q :=
  Upholds.bind h (fun a d' ha => hf a d' (ha a rfl)) fun _ _ _ _ _ hb => by cases hb

/-- Sequencing, where the command is known to be cut at some disks only. -/
theorem Safe.within {K : Disk H → Prop} {p : ServiceProg α} {f : α → ServiceProg β}
    (h : Safe plutil schema paths known p d P)
    (hcut : ∀ x, Cut (Disk.serves plutil schema) (p >>= f) d x → K x)
    (hf : ∀ a (d' : Disk H), P a d'.toRecords →
      (∀ x, Cut (Disk.serves plutil schema) (f a) d' x → K x) →
      Safe plutil schema paths known (f a) d' Q) :
    Safe plutil schema paths known (p >>= f) d Q := by
  refine Upholds.bind (Upholds.reaches h) (fun a d' ha => ?_) fun _ _ _ _ _ hb => by cases hb
  exact hf a d' (ha.2 a rfl) fun x hx => hcut x (ha.1.cutAfter hx)

/-- A part that only reads. -/
theorem Safe.read {R : α → Prop} {p : ServiceProg α} {f : α → ServiceProg β}
    (h : Reads plutil schema p d R) (hd : Coherent plutil schema paths known d.toRecords)
    (hf : ∀ a (d' : Disk H), d'.toRecords = d.toRecords → R a →
      Safe plutil schema paths known (f a) d' Q) :
    Safe plutil schema paths known (p >>= f) d Q :=
  Reads.then h hd hf fun _ _ _ _ hb => by cases hb

/-- A step that changes the records. -/
theorem Safe.write {after : Records H} {p : ServiceProg Unit} {f : Unit → ServiceProg β}
    (h : Writes plutil schema p d after) (hd : Coherent plutil schema paths known d.toRecords)
    (hafter : Coherent plutil schema paths known after)
    (hf : ∀ d' : Disk H, d'.toRecords = after → Safe plutil schema paths known (f ()) d' Q) :
    Safe plutil schema paths known (p >>= f) d Q :=
  Writes.then h hd hafter hf fun _ _ _ _ hb => by cases hb

/-- A part that only reads, with a transaction that is held. -/
theorem Safe.heldRead {R : α → Prop} {p : ServiceProg α} {f : α → ServiceProg β}
    (h : Held plutil schema paths known t d.toRecords) (hread : Reads plutil schema p d R)
    (hf : ∀ a (d' : Disk H), d'.toRecords = d.toRecords →
      Held plutil schema paths known t d'.toRecords → R a →
      Safe plutil schema paths known (f a) d' Q) :
    Safe plutil schema paths known (p >>= f) d Q := by
  refine Safe.read hread h.coherent fun a d' hd' ha => hf a d' hd' ?_ ha
  rw [hd']
  exact h

/-- And a step after which one is. -/
theorem Safe.heldWrite {t' : InstallTransaction} {after : Records H} {p : ServiceProg Unit}
    {f : Unit → ServiceProg β} (h : Held plutil schema paths known t d.toRecords)
    (hafter : Held plutil schema paths known t' after) (hwrite : Writes plutil schema p d after)
    (hf : ∀ d' : Disk H, d'.toRecords = after → Held plutil schema paths known t' d'.toRecords →
      Safe plutil schema paths known (f ()) d' Q) :
    Safe plutil schema paths known (p >>= f) d Q := by
  refine Safe.write hwrite h.coherent hafter.coherent fun d' hd' => hf d' hd' ?_
  rw [hd']
  exact hafter

/-- A command that only reads. -/
theorem Safe.ofReads {R : α → Prop} {p : ServiceProg α} (h : Reads plutil schema p d R)
    (hd : Coherent plutil schema paths known d.toRecords) (hP : ∀ a, R a → P a d.toRecords) :
    Safe plutil schema paths known p d P := by
  have hrecords : Upholds (Disk.serves plutil schema) (fun d' => d'.toRecords = d.toRecords) p d
      fun o d' => d'.toRecords = d.toRecords ∧ ∀ a, o = .ok a → R a :=
    Upholds.post h fun o d' hd' ho => ⟨hd', ho⟩
  refine hrecords.mono (fun x hx => ?_) fun o d' ho a ha => ?_
  · rw [hx]
    exact hd
  · rw [ho.1]
    exact hP a (ho.2 a ha)

/-- A command of one step. -/
theorem Safe.ofWrites {P : Unit → Records H → Prop} {after : Records H} {p : ServiceProg Unit}
    (h : Writes plutil schema p d after) (hd : Coherent plutil schema paths known d.toRecords)
    (hafter : Coherent plutil schema paths known after) (hP : P () after) :
    Safe plutil schema paths known p d P := by
  refine Upholds.mono (h _ hd hafter) (fun _ hx => hx) fun o d' ho u hu => ?_
  rw [ho hu]
  exact hP

/-- How a part ended: the records are coherent either way. -/
theorem Safe.attempt {p : ServiceProg α} {f : Except ServiceError α → ServiceProg β}
    (h : Safe plutil schema paths known p d P)
    (hok : ∀ a (d' : Disk H), Coherent plutil schema paths known d'.toRecords →
      P a d'.toRecords → Safe plutil schema paths known (f (.ok a)) d' Q)
    (herr : ∀ e (d' : Disk H), Coherent plutil schema paths known d'.toRecords →
      Safe plutil schema paths known (f (.error e)) d' Q) :
    Safe plutil schema paths known (p.attempt >>= f) d Q := by
  refine Upholds.attempt h fun r d' hd' hr => ?_
  cases r with
  | ok a => exact hok a d' hd' (hr a rfl)
  | error e => exact herr e d' hd'

end Cli

end Unlinger
