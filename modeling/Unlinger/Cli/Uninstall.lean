import Unlinger.Cli.Decisions

/-!
# What an uninstallation leaves

An uninstallation that comes to its end well has removed what the service
was selected by and every generation, whatever it found and whatever
failed before.
-/

namespace Unlinger

open Interaction Crash

namespace Cli

variable {H : Type} {plutil : String → Except ServiceError LaunchAgentDocument} {schema : H → Nat}
  {paths : LocalPaths} {d d' : Disk H} {report : ServiceStatusReport}

/-- Nothing is selected. -/
structure Unselected (x : Records H) : Prop where
  transaction : x.transaction = none
  launchAgent : x.launchAgent = none
  manifest : x.activeManifest = none

/-- Nothing of the service is there. -/
structure Gone (x : Records H) : Prop extends Unselected x where
  generations : ∀ g, x.generations.lookup g = none

/-- The judgement of a part: where it ends well, the records are of `Q`. -/
def EndsIn (plutil : String → Except ServiceError LaunchAgentDocument) (schema : H → Nat)
    {α : Type} (p : ServiceProg α) (d : Disk H) (Q : Records H → Prop) : Prop :=
  Upholds (Disk.serves plutil schema) (fun _ => True) p d
    fun o d' => ∀ a, o = .ok a → Q d'.toRecords

/-- **Sequencing.** -/
theorem EndsIn.bind {α β : Type} {p : ServiceProg α} {f : α → ServiceProg β}
    {P Q : Records H → Prop} (h : EndsIn plutil schema p d P)
    (hf : ∀ a (d' : Disk H), P d'.toRecords → EndsIn plutil schema (f a) d' Q) :
    EndsIn plutil schema (p >>= f) d Q :=
  Upholds.bind h (fun a d' ha => hf a d' (ha a rfl)) fun _ _ _ _ _ hb => by cases hb

/-- A part of quiet calls. -/
theorem endsIn_quiet {α : Type} {p : ServiceProg α} (h : p.Only fun c => c.quiet = true) :
    EndsIn plutil schema p d fun x => x = d.toRecords := by
  have hreads : Reads plutil schema p d fun _ => True := Reads.quiet h
  exact Upholds.mono (Upholds.post hreads fun o d' hd' _ _ _ => hd') (fun _ _ => trivial)
    fun _ _ ho => ho

theorem endsIn_writes {p : ServiceProg Unit} {after : Records H}
    (h : Writes plutil schema p d after) : EndsIn plutil schema p d fun x => x = after :=
  Upholds.mono (h (fun _ => True) trivial trivial) (fun _ _ => trivial) fun _ _ ho _ hu => ho hu

theorem endsIn_removeFiles :
    EndsIn plutil schema
      (removeFiles [.launchAgent, .activeManifest, .transaction, .daemonBinary, .cliBinary]) d
      Unselected := by
  refine EndsIn.bind (endsIn_writes writes_remove) fun _ d₁ hd₁ => ?_
  refine EndsIn.bind (endsIn_writes writes_remove) fun _ d₂ hd₂ => ?_
  refine EndsIn.bind (endsIn_writes writes_remove) fun _ d₃ hd₃ => ?_
  refine EndsIn.bind (endsIn_writes writes_remove) fun _ d₄ hd₄ => ?_
  refine EndsIn.bind (endsIn_writes writes_remove) fun _ d₅ hd₅ => ?_
  have hd₁ : d₁.toRecords = { d.toRecords with launchAgent := none } := hd₁
  have hd₂ : d₂.toRecords = { d₁.toRecords with activeManifest := none } := hd₂
  have hd₃ : d₃.toRecords = { d₂.toRecords with transaction := none } := hd₃
  have hd₅ : d₅.toRecords = d₃.toRecords := hd₅.trans hd₄
  refine ⟨trivial, fun _ _ => ?_⟩
  rw [hd₅, hd₃, hd₂, hd₁]
  exact ⟨rfl, rfl, rfl⟩

/-- What is listed is removed, and the rest is as it was: the induction is on
the entries that are left, and all that is there is among them. -/
theorem endsIn_removeGenerationEntries {entries : List GenerationEntry}
    (hunselected : Unselected d.toRecords)
    (hlisted : ∀ g, d.generations.lookup g ≠ none → ∃ e ∈ entries, e.name = Text.decimal g) :
    EndsIn plutil schema (removeGenerationEntries entries) d Gone := by
  induction entries generalizing d with
  | nil =>
      refine ⟨trivial, fun _ _ => ⟨hunselected, fun g => ?_⟩⟩
      by_contra hthere
      obtain ⟨e, he, -⟩ := hlisted g hthere
      cases he
  | cons entry entries ih =>
      refine EndsIn.bind (endsIn_quiet Prog.only_orThrow) fun _ d₁ hd₁ => ?_
      refine EndsIn.bind (endsIn_quiet Prog.only_orThrow) fun _ d₂ hd₂ => ?_
      have hremoved : EndsIn plutil schema
          (orFail (Prog.ask (Call.removeGenerationEntry entry.name))) d₂ fun x =>
            Unselected x ∧ ∀ g, x.generations.lookup g ≠ none →
              d₂.generations.lookup g ≠ none ∧ entry.name ≠ Text.decimal g := by
        refine ⟨trivial, fun r d₃ hserve => ?_⟩
        obtain ⟨database, generations, stages, rfl, hothers, hgone⟩ := hserve
        change Upholds _ _ (Prog.orThrow id r) _ _
        cases r with
        | error e => exact ⟨trivial, fun _ he => by cases he⟩
        | ok u =>
            refine ⟨trivial, fun _ _ => ⟨?_, fun g hg => ?_⟩⟩
            · have hunselected : Unselected d₂.toRecords := by
                rw [hd₂, hd₁]
                exact hunselected
              exact ⟨hunselected.transaction, hunselected.launchAgent, hunselected.manifest⟩
            · have hname : Text.decimal g ≠ entry.name := fun heq => hg (hgone rfl g heq)
              refine ⟨?_, hname.symm⟩
              have hsame := hothers g hname
              have hg : generations.lookup g ≠ none := hg
              rw [hsame] at hg
              exact hg
      refine EndsIn.bind hremoved fun _ d₃ hd₃ => ih hd₃.1 fun g hg => ?_
      obtain ⟨hthere, hname⟩ := hd₃.2 g hg
      have hsame : d₂.generations = d.generations := by
        rw [hd₂, hd₁]
      rw [hsame] at hthere
      obtain ⟨e, he, heq⟩ := hlisted g hthere
      rcases List.mem_cons.1 he with rfl | he
      · exact absurd heq hname
      · exact ⟨e, he, heq⟩

theorem endsIn_removeGenerationTree (hunselected : Unselected d.toRecords) :
    EndsIn plutil schema removeGenerationTree d Gone := by
  have hentries : Upholds (Disk.serves plutil schema) (fun _ => True)
      (orFail (Prog.ask Call.generationEntries)) d fun o d' =>
        ∀ entries, o = .ok entries → d'.toRecords = d.toRecords ∧
          ∀ g, g ∈ d.generations.keys → ⟨Text.decimal g, true⟩ ∈ entries := by
    refine Upholds.mono (Upholds.post reads_generationEntries fun o d' hd' ho entries hentries =>
      ⟨hd', ho entries hentries⟩) (fun _ _ => trivial) fun _ _ ho => ho
  refine Upholds.bind hentries (fun entries d₁ hd₁ => ?_) fun _ _ _ _ _ hb => by cases hb
  obtain ⟨hd₁, hall⟩ := hd₁ entries rfl
  have hremoved : EndsIn plutil schema (removeGenerationEntries entries) d₁ Gone := by
    refine endsIn_removeGenerationEntries ?_ fun g hg => ?_
    · rw [hd₁]
      exact hunselected
    · rw [hd₁] at hg
      obtain ⟨dir, hdir⟩ := Option.ne_none_iff_exists'.1 hg
      have hkey : g ∈ d.generations.keys :=
        List.mem_map.2 ⟨_, OrdMap.lookup_eq_some.1 hdir, rfl⟩
      exact ⟨_, hall g hkey, rfl⟩
  refine EndsIn.bind hremoved fun _ d₂ hd₂ => ?_
  refine Upholds.mono (endsIn_quiet (Prog.Only.ask rfl fun _ => Prog.only_orThrow))
    (fun _ h => h) fun o d₃ ho u hu => ?_
  rw [ho u hu]
  exact hd₂

/-- **An uninstallation that ends well leaves nothing of the service**: no
transaction, no LaunchAgent, no manifest, no generation. -/
theorem uninstall_leaves_nothing
    (h : Ran (Disk.serves plutil schema) (uninstall paths) d (.ok report) d') :
    Gone d'.toRecords := by
  have hends : EndsIn plutil schema (uninstall paths) d Gone := by
    refine EndsIn.bind (endsIn_quiet quiet_beginMutation) fun uid d₁ _ => ?_
    have hrecovered : EndsIn plutil schema (recoverIncompleteInstall paths uid) d₁ fun _ => True :=
      (upholds_trivial _ _).mono (fun _ h => h) fun _ _ _ _ _ => trivial
    refine EndsIn.bind hrecovered fun _ d₂ _ => ?_
    refine EndsIn.bind (endsIn_quiet (Prog.Only.ask rfl fun _ => Prog.only_orThrow))
      fun launchd d₃ _ => ?_
    refine EndsIn.bind (endsIn_quiet (quiet_quiesceForUninstall _)) fun _ d₄ _ => ?_
    refine EndsIn.bind (endsIn_quiet (Prog.Only.ask rfl fun _ => Prog.only_orThrow))
      fun _ d₅ _ => ?_
    refine EndsIn.bind endsIn_removeFiles fun _ d₆ h₆ => ?_
    refine EndsIn.bind (endsIn_removeGenerationTree h₆) fun _ d₇ h₇ => ?_
    have hquiet : EndsIn plutil schema
        (Prog.ask Call.dropDaemonLock >>= fun _ => orFail (Prog.ask Call.status)) d₇
        fun x => x = d₇.toRecords :=
      endsIn_quiet (Prog.Only.ask rfl fun _ => Prog.Only.ask rfl fun _ => Prog.only_orThrow)
    refine Upholds.mono hquiet (fun _ h => h) fun o d₈ ho u hu => ?_
    rw [ho u hu]
    exact h₇
  exact hends.ran h report rfl

/-- A later installation that is accepted is uninstalled so, with both its
generations. -/
theorem uninstall_leaves_nothing_later :
    (laterAcceptanceCut 40).generations.keys = [1, 2] ∧
    ∃ report d', Ran (Disk.serves readsManaged id) (uninstall ownerPaths) (laterAcceptanceCut 40)
      (.ok report) d' ∧ Gone d'.toRecords := by
  have hends : endsWell (Disk.comply readsManaged id) 50 (uninstall ownerPaths)
      (laterAcceptanceCut 40) = true := by decide +kernel
  obtain ⟨report, d', hran⟩ := ran_of_endsWell (S := Disk.serves readsManaged id)
    (fun d c => ⟨d.database, (Disk.comply_obeys _ _ d c).1⟩) hends
  exact ⟨by decide +kernel, report, d', hran, uninstall_leaves_nothing hran⟩

end Cli

end Unlinger
