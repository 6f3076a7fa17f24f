import Unlinger.Daemon.Helpers.Tasks

/-!
# Task ownership is written once

Over every run of the registry, the engine's scan and the calls of the
socket interleaved: a row only gains, a release lands only on the owner
its caller read, a controller belongs to one task and was born while that
task ran, and a task goes only long after its release. The one bound that
does not last is the upper one on a controller's birth: it is the release
the scan had read, and a release written after that may be earlier.
-/

namespace Unlinger

theorem stripPrefix_append (p x : String) : Text.stripPrefix (p ++ x) p = some x := by
  have hlist : ∀ xs ys : List Char, xs.isPrefixOf? (xs ++ ys) = some ys := by
    intro xs ys
    induction xs with
    | nil => simp [List.isPrefixOf?]
    | cons c xs ih => simp [List.isPrefixOf?, ih]
  simp [Text.stripPrefix, hlist]

/-- A valid task is found again in its session name. -/
theorem taskIdFromSession_taskSession {taskId : String} (h : validTaskId taskId = true) :
    taskIdFromSession (taskSession taskId) = some taskId := by
  unfold taskIdFromSession taskSession
  rw [stripPrefix_append, Option.filter_some_pos h]

namespace TaskTables

variable {t : TaskTables} {snapshot : Snapshot} {bindings : List TaskControllerBinding}
  {scope : TaskScope}

/-- What an old task is, with the arithmetic done: saturation only makes
the cutoff earlier. -/
theorem expiredScope_spec (h : expiredScope snapshot bindings scope = true) :
    (∃ released, scope.releasedAtMicros = some released ∧
      released + taskRetentionMillis * 1000 < snapshot.observedAtUnixMillis * 1000) ∧
    ∀ process ∈ snapshot.processes,
      process.runtime.taskSessionName.bind taskIdFromSession ≠ some scope.taskId ∧
      ∀ b ∈ bindings, b.taskId = scope.taskId → b.controller.exactMatch process.identity = false := by
  simp only [expiredScope, Bool.and_eq_true, Option.any_eq_true, decide_eq_true_eq,
    Bool.not_eq_true', List.any_eq_false, Bool.or_eq_true, beq_iff_eq, not_or, List.any_eq_true,
    not_exists, not_and, Bool.not_eq_true] at h
  obtain ⟨⟨released, hreleased, hold⟩, hgone⟩ := h
  refine ⟨⟨released, hreleased, ?_⟩, fun process hprocess => ?_⟩
  · have hcutoff : taskCutoff snapshot ≤
        (snapshot.observedAtUnixMillis - taskRetentionMillis) * 1000 := Nat.min_le_left _ _
    generalize taskRetentionMillis = retention at hcutoff ⊢
    omega
  · obtain ⟨hsession, hbound⟩ := hgone process hprocess
    exact ⟨hsession, hbound⟩

end TaskTables

namespace TaskSystem

variable {s : TaskSystem} {a : TaskStep} {steps : List TaskStep} {taskId : String} {row : TaskRow}

/-! ## Rows -/

/-- A step leads a row on, or deletes it. -/
theorem step_row (hs : s.Sound) (hrow : s.row taskId = some row) :
    (∃ row', (s.step a).row taskId = some row' ∧ row.Leads row') ∨
      ((s.step a).row taskId = none ∧ a = .bindPrune ∧ ∃ snapshot bindings scope rest,
        s.scan = some (.pruning snapshot bindings (scope :: rest)) ∧ scope.taskId = taskId ∧
        TaskTables.expiredScope snapshot bindings scope = true) := by
  rcases change_cases hs (step_change s a) with
    ⟨hgrows, -, -⟩ | ⟨snapshot, scopes, -, -, hinsert⟩ |
    ⟨snapshot, bindings, scope, rest, ha, hscan, hexpired, heq⟩
  · exact Or.inl (hgrows taskId row hrow)
  · refine Or.inl ⟨row, ?_, TaskRow.Leads.refl row⟩
    rw [TaskSystem.row, (TaskTables.insertControllers_inserts hinsert).rows]
    exact hrow
  · rw [TaskSystem.row, heq, TaskTables.lookup_deleteScope]
    by_cases htask : taskId = scope.taskId
    · rw [if_pos htask]
      exact Or.inr ⟨rfl, ha, snapshot, bindings, scope, rest, hscan, htask.symm, hexpired⟩
    · rw [if_neg htask]
      exact Or.inl ⟨row, hrow, TaskRow.Leads.refl row⟩

/-- While its row exists, a task is led on by every run. -/
theorem row_leads {more : List TaskStep} (hrow : (ran steps).row taskId = some row)
    (hexists : ∀ n, (ran (steps ++ more.take n)).row taskId ≠ none) :
    ∃ row', (ran (steps ++ more)).row taskId = some row' ∧ row.Leads row' := by
  -- induction on the later steps, from their end: the prefixes of a shorter run are prefixes
  induction more using List.reverseRecOn with
  | nil => exact ⟨row, by simpa using hrow, TaskRow.Leads.refl row⟩
  | append_singleton more a ih =>
      have hbefore : ∀ n, (ran (steps ++ more.take n)).row taskId ≠ none := by
        intro n
        have h := hexists (min n more.length)
        rw [List.take_append_of_le_length (by omega)] at h
        rwa [show more.take (min n more.length) = more.take n by simp [List.take_eq_take_iff]] at h
      obtain ⟨mid, hmid, hleads⟩ := ih hbefore
      have hlast := hexists (more ++ [a]).length
      rw [List.take_length, ← List.append_assoc, ran_concat] at hlast
      rw [← List.append_assoc, ran_concat]
      rcases step_row (a := a) (ran_sound _) hmid with ⟨row', hrow', hleads'⟩ | ⟨hgone, -⟩
      · exact ⟨row', hrow', hleads.trans hleads'⟩
      · exact absurd hgone hlast

/-- A release is written by a call that passes the owner the row has. -/
theorem step_released {row' : TaskRow} (hrow : s.row taskId = some row)
    (hrow' : (s.step a).row taskId = some row') (hopen : row.releasedAtMicros = none)
    (hset : row'.releasedAtMicros ≠ none) :
    ∃ now reason, a = .release taskId now reason row.owner ∧
      row' = { row with
        releasedAtMicros := some (saturated (saturated (now + 1) * 1000))
        releaseReason := some reason } := by
  have hsame : ∀ other, s.tables.scopes.lookup taskId = some other → other.releasedAtMicros = none := by
    intro other hother
    obtain rfl := Option.some.inj (hrow.symm.trans hother)
    exact hopen
  have hchange := step_change s a
  unfold TaskSystem.row at hrow'
  generalize (s.step a).tables = t at hchange hrow'
  cases hchange with
  | same => exact absurd (hsame row' hrow') hset
  | @reserve other registrar now fresh habsent hvalid =>
      rcases TaskTables.putScope_cases hrow' with ⟨-, rfl⟩ | hkept
      · exact absurd rfl hset
      · exact absurd (hsame row' hkept) hset
  | @activate other owner now activated before hbefore hreleased howner =>
      rcases TaskTables.putScope_cases hrow' with ⟨-, rfl⟩ | hkept
      · exact absurd hreleased hset
      · exact absurd (hsame row' hkept) hset
  | @release other now reason before hbefore hreleased =>
      rcases TaskTables.putScope_cases hrow' with ⟨rfl, rfl⟩ | hkept
      · obtain rfl := Option.some.inj (hrow.symm.trans hbefore)
        exact ⟨now, reason, rfl, rfl⟩
      · exact absurd (hsame row' hkept) hset
  | insert hscan hinsert =>
      rw [(TaskTables.insertControllers_inserts hinsert).rows] at hrow'
      exact absurd (hsame row' hrow') hset
  | @delete snapshot bindings scope rest hscan hexpired =>
      rw [TaskTables.lookup_deleteScope] at hrow'
      by_cases heq : taskId = scope.taskId
      · simp [heq] at hrow'
      · rw [if_neg heq] at hrow'
        exact absurd (hsame row' hrow') hset

/-- A task that a step deletes. -/
theorem step_deleted (hs : s.Sound) (hrow : s.row taskId = some row)
    (hgone : (s.step a).row taskId = none) :
    ∃ snapshot bindings scope rest, a = .bindPrune ∧
      s.scan = some (.pruning snapshot bindings (scope :: rest)) ∧
      snapshot.provesCompleteExactIdentityCoverage = true ∧
      (∃ released, row.releasedAtMicros = some released ∧
        released + TaskTables.taskRetentionMillis * 1000 < snapshot.observedAtUnixMillis * 1000) ∧
      ∀ process ∈ snapshot.processes,
        process.runtime.taskSessionName ≠ some (taskSession taskId) ∧
        ∀ key c, s.controller key = some c → c.taskId = taskId → process.identity ≠ c.identity := by
  rcases step_row (a := a) hs hrow with ⟨row', hrow', -⟩ |
    ⟨-, ha, snapshot, bindings, scope, rest, hscan, rfl, hexpired⟩
  · rw [hgone] at hrow'
    cases hrow'
  · obtain ⟨hreads, hproves, hcover⟩ := hs.scan _ hscan
    obtain ⟨⟨released, hreleased, hold⟩, hnothing⟩ := TaskTables.expiredScope_spec hexpired
    obtain ⟨current, hcurrent, -, -, hshown⟩ := hreads.shows scope (by simp)
    obtain rfl := Option.some.inj (hcurrent.symm.trans hrow)
    refine ⟨snapshot, bindings, scope, rest, ha, hscan, hproves,
      ⟨released, hshown released hreleased, hold⟩, fun process hprocess => ?_⟩
    obtain ⟨hsession, hbound⟩ := hnothing process hprocess
    refine ⟨fun hname => hsession ?_, fun key c hc htask hidentity => ?_⟩
    · rw [hname, Option.bind_some]
      exact taskIdFromSession_taskSession (hs.tables.valid _ _ hrow)
    · obtain ⟨b, hb, hbtask, hbcontroller⟩ := hcover key c hc
      have hno := hbound b hb (hbtask.trans htask)
      rw [hbcontroller, hidentity, hs.tables.exact key c hc] at hno
      cases hno

/-! ## Controllers -/

/-- A scan of the run bound this controller: a process of its snapshot,
of the registrar's user, born no later than the release that the scan had
read of the task. -/
def BoundIn (steps : List TaskStep) (c : TaskController) (row : TaskRow) : Prop :=
  ∃ n snapshot scopes, steps[n]? = some .bindInsert ∧
    (ran (steps.take n)).scan = some (.read snapshot scopes) ∧
    ∃ process ∈ snapshot.processes, ∃ scope ∈ scopes,
      process.identity = c.identity ∧ scope.taskId = c.taskId ∧
      process.uid = row.registrar.uid ∧
      ∀ released, scope.releasedAtMicros = some released →
        row.releasedAtMicros = some released ∧ c.identity.startedAtUnixMicros ≤ released

theorem BoundIn.concat {c : TaskController} {row' : TaskRow} (hleads : row.Leads row')
    (h : BoundIn steps c row) : BoundIn (steps ++ [a]) c row' := by
  obtain ⟨n, snapshot, scopes, hn, hscan, process, hprocess, scope, hscope, hidentity, htask, huid,
    htime⟩ := h
  have hlt : n < steps.length := (List.getElem?_eq_some_iff.1 hn).1
  refine ⟨n, snapshot, scopes, ?_, ?_, process, hprocess, scope, hscope, hidentity, htask, ?_,
    fun released hreleased => ?_⟩
  · rw [List.getElem?_append_left hlt]
    exact hn
  · rw [List.take_append_of_le_length (by omega)]
    exact hscan
  · rw [hleads.registrar]
    exact huid
  · obtain ⟨hset, hborn⟩ := htime released hreleased
    rw [hleads.released (by simp [hset])]
    exact ⟨hset, hborn⟩

/-- A controller stays as it was bound until its task is deleted. -/
theorem step_controller {key : String} {c : TaskController} (hs : s.Sound)
    (hc : s.controller key = some c) :
    (s.step a).controller key = some c ∨ (s.step a).row c.taskId = none := by
  unfold TaskSystem.controller TaskSystem.row at *
  rcases change_cases hs (step_change s a) with
    ⟨-, hsame, -⟩ | ⟨snapshot, scopes, -, -, hinsert⟩ | ⟨-, -, scope, -, -, -, -, heq⟩
  · rw [hsame]
    exact Or.inl hc
  · exact Or.inl ((TaskTables.insertControllers_inserts hinsert).kept key c hc)
  · rw [heq]
    by_cases htask : c.taskId = scope.taskId
    · exact Or.inr (by rw [TaskTables.lookup_deleteScope, if_pos htask])
    · exact Or.inl (TaskTables.controller_deleteScope.2 ⟨hc, htask⟩)

/-- Where a controller of the tables came from, over the whole run. -/
theorem controller_bound {key : String} {c : TaskController}
    (hc : (ran steps).controller key = some c) :
    ∃ row, (ran steps).row c.taskId = some row ∧ BoundIn steps c row := by
  induction steps using List.reverseRecOn with
  | nil => simp [ran, start, TaskSystem.controller, TaskTables.empty] at hc
  | append_singleton steps a ih =>
      have hs : (ran steps).Sound := ran_sound steps
      -- the task a controller is bound to is there, so its row was led on if it was there before
      have hold : (ran steps).controller key = some c →
          ∃ row, (ran (steps ++ [a])).row c.taskId = some row ∧ BoundIn (steps ++ [a]) c row := by
        intro hbefore
        obtain ⟨row, hrow, hbound⟩ := ih hbefore
        obtain ⟨now, -, hnow, -⟩ := (ran_sound (steps ++ [a])).tables.held key c hc
        rw [ran_concat] at hnow ⊢
        rcases step_row (a := a) hs hrow with ⟨row', hrow', hleads⟩ | ⟨hgone, -⟩
        · exact ⟨row', hrow', hbound.concat hleads⟩
        · exact absurd (hgone.symm.trans hnow) (by simp)
      rw [ran_concat] at hc
      rcases change_cases hs (step_change (ran steps) a) with
        ⟨-, hsame, -⟩ | ⟨snapshot, scopes, ha, hscan, hinsert⟩ | ⟨-, -, scope, -, -, -, -, heq⟩
      · rw [TaskSystem.controller, hsame] at hc
        exact hold hc
      · have hinserts := TaskTables.insertControllers_inserts hinsert
        rcases hinserts.new key c hc with hc | ⟨process, hprocess, scope, hby, -, htask, hidentity⟩
        · exact hold hc
        · have hreads : (ran steps).tables.Reads scopes := hs.scan _ hscan
          obtain ⟨row, hrow, hregistrar, -, hshown⟩ := hreads.shows scope hby.mem
          refine ⟨row, ?_, steps.length, snapshot, scopes, by simp [ha], by simpa using hscan,
            process, hprocess, scope, hby.mem, hidentity.symm, htask.symm, ?_,
            fun released hreleased => ?_⟩
          · rw [ran_concat, TaskSystem.row, hinserts.rows, htask]
            exact hrow
          · rw [hregistrar]
            exact hby.uid
          · rw [hidentity]
            exact ⟨hshown released hreleased, hby.inTime released hreleased⟩
      · rw [TaskSystem.controller, heq] at hc
        exact hold (TaskTables.controller_deleteScope.1 hc).1

/-- **Task ownership is written once.** In every run of the registry, the
engine's scans over any snapshots and the calls of the socket in any
order: while a task's row exists nothing that was set in it changes, its
phase does not go back and a released row does not change at all; a
release is written by a call that passes the owner the row has; a
controller is of the registrar's user, exactly known, born after the
activation and no later than a release its scan had read; no identity is
bound twice, and no binding moves; and a task is deleted by a scan whose
snapshot is complete, shows neither its session nor its controllers and
was taken more than the retention after its release. -/
theorem ownership_kept (steps : List TaskStep) :
    (∀ more taskId row, (ran steps).row taskId = some row →
      (∀ n, (ran (steps ++ more.take n)).row taskId ≠ none) →
      ∃ row', (ran (steps ++ more)).row taskId = some row' ∧ row.Leads row') ∧
    (∀ a taskId row row', (ran steps).row taskId = some row →
      ((ran steps).step a).row taskId = some row' → row.releasedAtMicros = none →
      row'.releasedAtMicros ≠ none →
      ∃ now reason, a = .release taskId now reason row.owner ∧
        row' = { row with
          releasedAtMicros := some (saturated (saturated (now + 1) * 1000))
          releaseReason := some reason }) ∧
    (∀ key c, (ran steps).controller key = some c →
      key = fingerprintProcessIdentity c.identity ∧
      c.identity.executableDevice.isSome = true ∧ c.identity.executableInode.isSome = true ∧
      ∃ row activated, (ran steps).row c.taskId = some row ∧ BoundIn steps c row ∧
        row.activatedAtMicros = some activated ∧ activated ≤ c.identity.startedAtUnixMicros) ∧
    (∀ key c key' c', (ran steps).controller key = some c → (ran steps).controller key' = some c' →
      c.identity = c'.identity → c.taskId = c'.taskId) ∧
    (∀ a key c, (ran steps).controller key = some c →
      ((ran steps).step a).controller key = some c ∨
        ((ran steps).step a).row c.taskId = none) ∧
    (∀ a taskId row, (ran steps).row taskId = some row → ((ran steps).step a).row taskId = none →
      ∃ snapshot bindings scope rest, a = .bindPrune ∧
        (ran steps).scan = some (.pruning snapshot bindings (scope :: rest)) ∧
        snapshot.provesCompleteExactIdentityCoverage = true ∧
        (∃ released, row.releasedAtMicros = some released ∧
          released + TaskTables.taskRetentionMillis * 1000
            < snapshot.observedAtUnixMillis * 1000) ∧
        ∀ process ∈ snapshot.processes,
          process.runtime.taskSessionName ≠ some (taskSession taskId) ∧
          ∀ key c, (ran steps).controller key = some c → c.taskId = taskId →
            process.identity ≠ c.identity) := by
  have hs : (ran steps).Sound := ran_sound steps
  refine ⟨?_, ?_, ?_, ?_, ?_, ?_⟩
  · intro more taskId row hrow hexists
    exact row_leads hrow hexists
  · intro a taskId row row' hrow hrow' hopen hset
    exact step_released hrow hrow' hopen hset
  · intro key c hc
    obtain ⟨row, hrow, hbound⟩ := controller_bound hc
    obtain ⟨held, activated, hheld, hactivated, hborn⟩ := hs.tables.held key c hc
    -- the table's own row for the task is the one it was bound under
    obtain rfl := Option.some.inj (hheld.symm.trans hrow)
    obtain ⟨-, hdevice, hinode⟩ := ProcessIdentity.exactMatch_iff.1 (hs.tables.exact key c hc)
    exact ⟨hs.tables.keyed key c hc, hdevice, hinode, held, activated, hheld, hbound, hactivated,
      hborn⟩
  · intro key c key' c' hc hc' hidentity
    -- the key is the fingerprint of the identity, so one identity has one row
    have hkey : key = key' := by
      rw [hs.tables.keyed key c hc, hs.tables.keyed key' c' hc', hidentity]
    subst hkey
    rw [Option.some.inj (hc.symm.trans hc')]
  · intro a key c hc
    exact step_controller hs hc
  · intro a taskId row hrow hgone
    exact step_deleted hs hrow hgone

/-- The identifier of a sample task. -/
def sampleTaskId : String := "0123456789abcdef0123456789abcdef"

/-- A controller of the sample task, born at the twelfth millisecond. -/
def lateController : ProcessRecord where
  identity := ⟨30, 12000, some 1, some 2⟩
  parentPid := 1
  processGroupId := 30
  uid := 501
  ttyDevice := none
  name := "node"
  executablePath := none
  executable := ⟨none, none⟩
  arguments := none
  residentMemoryBytes := 0
  runtime := { playwrightCli := some ⟨taskSession sampleTaskId, "1.63.0", false, false, none⟩ }

/-- A release that took the time at the tenth millisecond and is written
after a scan that has already found the controller. -/
def lateRelease : List TaskStep :=
  [.reserve sampleTaskId ⟨10, 500, 501⟩ 1 ⟨sampleTaskId, by decide⟩,
    .activate sampleTaskId ⟨20, 500, 501⟩ 2,
    .bindRead ⟨13, 501, [lateController], ⟨1, 1, 0, 0, 0⟩⟩,
    .bindInsert,
    .release sampleTaskId 10 "reported_exit" (some ⟨20, 500, 501⟩)]

/-- A task whose command never started goes from reserved to released in
one step. -/
theorem phase_skipped : ¬ ∀ steps a taskId row row', (ran steps).row taskId = some row →
    ((ran steps).step a).row taskId = some row' → row'.phase.rank ≤ row.phase.rank + 1 := by
  intro h
  have hphase := h (lateRelease.take 1) (.release sampleTaskId 10 "never_started" none) sampleTaskId
    ⟨⟨sampleTaskId, by decide⟩, ⟨10, 500, 501⟩, none, 1, none, none, none⟩
    ⟨⟨sampleTaskId, by decide⟩, ⟨10, 500, 501⟩, none, 1, none, some 11000, some "never_started"⟩
    (by decide +kernel) (by decide +kernel)
  simp [TaskRow.phase, TaskPhase.rank] at hphase

/-- A controller can be younger than its task's release, which was not
written yet when the scan read the task. -/
theorem born_late : ¬ ∀ steps key c row released, (ran steps).controller key = some c →
    (ran steps).row c.taskId = some row → row.releasedAtMicros = some released →
    c.identity.startedAtUnixMicros ≤ released := by
  intro h
  have hlate : (ran lateRelease).controller (fingerprintProcessIdentity lateController.identity) =
      some ⟨sampleTaskId, lateController.identity,
        TaskTables.controllerIncidentId lateController.identity⟩ := by decide +kernel
  have hrow : (ran lateRelease).row sampleTaskId =
      some ⟨⟨sampleTaskId, by decide⟩, ⟨10, 500, 501⟩, some ⟨20, 500, 501⟩, 1, some 2000,
        some 11000, some "reported_exit"⟩ := by decide +kernel
  have hborn := h lateRelease _ _ _ 11000 hlate hrow rfl
  simp [lateController] at hborn

end TaskSystem

end Unlinger
