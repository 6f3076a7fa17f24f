import Unlinger.Common.Fallible
import Unlinger.Common.Transition
import Unlinger.Daemon.Helpers.Journal
import Unlinger.Daemon.Model.Tasks

/-!
# What a step does to the tasks

`TaskChange` says once what a step may do to the two tables, and `Sound`
is the invariant of every reachable registry: what a scan has read is
still true of the tables, up to what rows gain, because rows go only by
the scan itself.
-/

namespace Unlinger

/-- A row and a later state of it: nothing that was set changes, the phase
does not go back, and a released row stays as it is. -/
structure TaskRow.Leads (row row' : TaskRow) : Prop where
  registrar : row'.registrar = row.registrar
  capability : row'.capability = row.capability
  created : row'.createdAtMillis = row.createdAtMillis
  owner : ∀ owner, row.owner = some owner → row'.owner = some owner
  activated : ∀ at_, row.activatedAtMicros = some at_ → row'.activatedAtMicros = some at_
  reason : ∀ reason, row.releaseReason = some reason → row'.releaseReason = some reason
  phase : row.phase.rank ≤ row'.phase.rank
  released : row.releasedAtMicros ≠ none → row' = row

namespace TaskRow

theorem Leads.refl (row : TaskRow) : row.Leads row :=
  ⟨rfl, rfl, rfl, fun _ h => h, fun _ h => h, fun _ h => h, Nat.le_refl _, fun _ => rfl⟩

theorem Leads.trans {row row' row'' : TaskRow} (h : row.Leads row') (h' : row'.Leads row'') :
    row.Leads row'' where
  registrar := h'.registrar.trans h.registrar
  capability := h'.capability.trans h.capability
  created := h'.created.trans h.created
  owner := fun owner ho => h'.owner owner (h.owner owner ho)
  activated := fun at_ ha => h'.activated at_ (h.activated at_ ha)
  reason := fun reason hr => h'.reason reason (h.reason reason hr)
  phase := Nat.le_trans h.phase h'.phase
  released := fun hr => by
    have heq : row' = row := h.released hr
    subst heq
    exact h'.released hr

/-- A row that gets its owner. -/
theorem leads_activated {row : TaskRow} {owner : TaskOwnerIdentity} {at_ : Nat}
    (howner : row.owner = none) (hactivated : row.activatedAtMicros = none)
    (hreleased : row.releasedAtMicros = none) :
    row.Leads { row with owner := some owner, activatedAtMicros := some at_ } where
  registrar := rfl
  capability := rfl
  created := rfl
  owner := fun o h => by simp [howner] at h
  activated := fun a h => by simp [hactivated] at h
  reason := fun r h => h
  phase := by simp [phase, hreleased, hactivated, TaskPhase.rank]
  released := fun h => absurd hreleased h

/-- A row that is released. -/
theorem leads_released {row : TaskRow} {at_ : Nat} {reason : String}
    (hreleased : row.releasedAtMicros = none) (hreason : row.releaseReason = none) :
    row.Leads { row with releasedAtMicros := some at_, releaseReason := some reason } where
  registrar := rfl
  capability := rfl
  created := rfl
  owner := fun o h => h
  activated := fun a h => h
  reason := fun r h => by simp [hreason] at h
  phase := by
    have hlast : ∀ p : TaskPhase, p.rank ≤ 2 := by
      intro p
      cases p <;> simp [TaskPhase.rank]
    simpa [phase, TaskPhase.rank] using hlast row.phase
  released := fun h => absurd hreleased h

end TaskRow

/-! ## What a step may do -/

/-- The tables after a step. -/
inductive TaskChange (s : TaskSystem) : TaskStep → TaskTables → Prop
  | same {a : TaskStep} : TaskChange s a s.tables
  | reserve {taskId : String} {registrar : TaskOwnerIdentity} {now : Nat} {fresh : NamespaceToken}
      (habsent : s.row taskId = none) (hvalid : validTaskId taskId = true) :
      TaskChange s (.reserve taskId registrar now fresh)
        (s.tables.putScope taskId ⟨fresh, registrar, none, now, none, none, none⟩)
  | activate {taskId : String} {owner : TaskOwnerIdentity} {now activated : Nat} {row : TaskRow}
      (hrow : s.row taskId = some row) (hreleased : row.releasedAtMicros = none)
      (howner : row.owner = none) :
      TaskChange s (.activate taskId owner now) (s.tables.putScope taskId
        { row with owner := some owner, activatedAtMicros := some activated })
  | release {taskId : String} {now : Nat} {reason : String} {row : TaskRow}
      (hrow : s.row taskId = some row) (hreleased : row.releasedAtMicros = none) :
      TaskChange s (.release taskId now reason row.owner) (s.tables.putScope taskId
        { row with
          releasedAtMicros := some (saturated (saturated (now + 1) * 1000))
          releaseReason := some reason })
  | insert {snapshot : Snapshot} {scopes : List TaskScope} {t : TaskTables}
      (hscan : s.scan = some (.read snapshot scopes))
      (hinsert : s.tables.insertControllers scopes snapshot = .ok t) : TaskChange s .bindInsert t
  | delete {snapshot : Snapshot} {bindings : List TaskControllerBinding} {scope : TaskScope}
      {rest : List TaskScope} (hscan : s.scan = some (.pruning snapshot bindings (scope :: rest)))
      (hexpired : TaskTables.expiredScope snapshot bindings scope = true) :
      TaskChange s .bindPrune (s.tables.deleteScope scope.taskId)

namespace TaskSystem

variable {s : TaskSystem} {a : TaskStep} {steps : List TaskStep}

/-- A call whose success is a change, or leaves the tables. -/
theorem change_keep {r : Except StoreError TaskTables}
    (h : ∀ t, r = .ok t → TaskChange s a t) : TaskChange s a (s.keep r).tables := by
  cases r with
  | error e => exact .same
  | ok t => exact h t rfl

theorem reserveTask_change {taskId : String} {registrar : TaskOwnerIdentity} {now : Nat}
    {fresh : NamespaceToken} {t : TaskTables}
    (h : (s.tables.reserveTask taskId registrar now fresh).map Prod.fst = .ok t) :
    TaskChange s (.reserve taskId registrar now fresh) t := by
  obtain ⟨⟨t', lease⟩, hreserve, rfl⟩ := map_eq_ok.1 h
  simp only [TaskTables.reserveTask, bind_eq_ok, require_eq_ok] at hreserve
  obtain ⟨-, hvalid, hreserve⟩ := hreserve
  cases hrow : s.tables.scopes.lookup taskId with
  | some row =>
      simp only [hrow, bind_eq_ok, pure_eq_ok] at hreserve
      obtain ⟨-, -, heq⟩ := hreserve
      obtain ⟨rfl, -⟩ := Prod.mk.inj heq
      exact .same
  | none =>
      simp only [hrow, bind_eq_ok, sqliteMillis_eq_ok, pure_eq_ok] at hreserve
      obtain ⟨-, -, created, ⟨-, rfl⟩, heq⟩ := hreserve
      obtain ⟨rfl, -⟩ := Prod.mk.inj heq
      exact .reserve hrow hvalid

theorem activateTask_change {taskId : String} {owner : TaskOwnerIdentity} {now : Nat}
    {t : TaskTables} (h : s.tables.activateTask taskId owner now = .ok t) :
    TaskChange s (.activate taskId owner now) t := by
  simp only [TaskTables.activateTask, bind_eq_ok, found_eq_ok, require_eq_ok] at h
  obtain ⟨row, hrow, -, hreleased, h⟩ := h
  cases howner : row.owner with
  | some prior =>
      simp only [howner, bind_eq_ok, pure_eq_ok] at h
      obtain ⟨-, -, rfl⟩ := h
      exact .same
  | none =>
      simp only [howner, bind_eq_ok, pure_eq_ok] at h
      obtain ⟨activated, -, rfl⟩ := h
      exact .activate hrow hreleased howner

theorem releaseTask_change {taskId : String} {now : Nat} {reason : String}
    {owner : Option TaskOwnerIdentity} {t : TaskTables}
    (h : s.tables.releaseTask taskId now reason owner = .ok t) :
    TaskChange s (.release taskId now reason owner) t := by
  simp only [TaskTables.releaseTask, bind_eq_ok, sqliteMillis_eq_ok] at h
  obtain ⟨released, ⟨-, rfl⟩, h⟩ := h
  cases hrow : s.tables.scopes.lookup taskId with
  | none =>
      simp only [hrow, pure_eq_ok] at h
      exact h ▸ .same
  | some row =>
      simp only [hrow] at h
      by_cases hopen : row.releasedAtMicros = none ∧ row.owner = owner
      · rw [if_pos hopen, pure_eq_ok] at h
        obtain ⟨hreleased, rfl⟩ := hopen
        exact h ▸ .release hrow hreleased
      · rw [if_neg hopen, pure_eq_ok] at h
        exact h ▸ .same

/-- **What a step may do to the tables.** -/
theorem step_change (s : TaskSystem) (a : TaskStep) : TaskChange s a (s.step a).tables := by
  cases a with
  | reserve taskId registrar now fresh => exact change_keep fun t h => reserveTask_change h
  | authorize taskId capability =>
      refine change_keep fun t h => ?_
      obtain ⟨-, -, rfl⟩ := map_eq_ok.1 h
      exact .same
  | activate taskId owner now => exact change_keep fun t h => activateTask_change h
  | release taskId now reason owner => exact change_keep fun t h => releaseTask_change h
  | bindRead snapshot =>
      simp only [step]
      split
      · exact .same
      · exact .same
  | bindInsert =>
      simp only [step]
      split
      · next snapshot scopes hscan =>
        split
        · next t hinsert => exact .insert hscan hinsert
        · exact .same
      · exact .same
  | bindBindings =>
      simp only [step]
      split
      · exact .same
      · exact .same
  | bindPrune =>
      simp only [step]
      split
      · exact .same
      · next snapshot bindings scope rest hscan =>
        show TaskChange s .bindPrune (TaskTables.pruneScope snapshot bindings s.tables scope)
        unfold TaskTables.pruneScope
        by_cases hexpired : TaskTables.expiredScope snapshot bindings scope = true
        · rw [if_pos hexpired]
          exact .delete hscan hexpired
        · rw [if_neg hexpired]
          exact .same
      · exact .same
  | bindAbort => exact .same

end TaskSystem

/-! ## Controllers -/

/-- A process of a snapshot that the tasks as read admit as a controller
of one of them. -/
structure ControlledBy (scopes : List TaskScope) (process : ProcessRecord) (scope : TaskScope) :
    Prop where
  mem : scope ∈ scopes
  uid : process.uid = scope.registrar.uid
  born : ∃ activated, scope.activatedAtMicros = some activated ∧
    activated ≤ process.identity.startedAtUnixMicros
  inTime : ∀ released, scope.releasedAtMicros = some released →
    process.identity.startedAtUnixMicros ≤ released
  exact : process.identity.exactMatch process.identity = true

namespace TaskTables

variable {t t' : TaskTables} {scopes : List TaskScope} {snapshot : Snapshot}

theorem controlledBy_of_controlledScope {process : ProcessRecord} {scope : TaskScope}
    (h : controlledScope scopes process = some scope) : ControlledBy scopes process scope := by
  simp only [controlledScope, Option.bind_eq_bind, Option.bind_eq_some_iff] at h
  obtain ⟨cli, -, taskId, -, read, hfind, activated, hactivated, h⟩ := h
  split_ifs at h with hout
  obtain rfl := Option.some.inj h
  simp only [Bool.or_eq_true, decide_eq_true_eq, Bool.not_eq_true', not_or, not_lt, Option.any_eq_true,
    not_exists, not_and, Bool.not_eq_false, ne_eq, not_not] at hout
  obtain ⟨⟨⟨huid, hborn⟩, htime⟩, hexact⟩ := hout
  exact ⟨List.mem_of_find?_eq_some hfind, huid, ⟨activated, hactivated, hborn⟩, htime, hexact⟩

/-- What the transaction of a scan does: no task changes, no controller is
lost, and a new one is a process of the snapshot. -/
structure Inserts (t : TaskTables) (scopes : List TaskScope) (processes : List ProcessRecord)
    (t' : TaskTables) : Prop where
  rows : t'.scopes = t.scopes
  kept : ∀ key c, t.controllers.lookup key = some c → t'.controllers.lookup key = some c
  new : ∀ key c, t'.controllers.lookup key = some c → t.controllers.lookup key = some c ∨
    ∃ process ∈ processes, ∃ scope, ControlledBy scopes process scope ∧
      key = fingerprintProcessIdentity process.identity ∧ c.taskId = scope.taskId ∧
      c.identity = process.identity

theorem bindController_inserts {process : ProcessRecord} {scope : TaskScope}
    (hscope : ControlledBy scopes process scope)
    (h : t.bindController scope.taskId process.identity = .ok t') :
    t.Inserts scopes [process] t' := by
  unfold bindController at h
  by_cases hbound : t.controllers.contains (fingerprintProcessIdentity process.identity) = true
  · rw [if_pos hbound] at h
    obtain rfl := Except.ok.inj h
    exact ⟨rfl, fun _ _ hc => hc, fun _ _ hc => Or.inl hc⟩
  · rw [if_neg hbound] at h
    simp only [bind_eq_ok, pure_eq_ok] at h
    obtain ⟨-, -, rfl⟩ := h
    refine ⟨rfl, fun key c hc => ?_, fun key c hc => ?_⟩
    · have hkey : key ≠ fingerprintProcessIdentity process.identity := by
        rintro rfl
        exact hbound (by simp [OrdMap.contains, hc])
      rw [OrdMap.lookup_insert, if_neg hkey]
      exact hc
    · rw [OrdMap.lookup_insert] at hc
      by_cases hkey : key = fingerprintProcessIdentity process.identity
      · rw [if_pos hkey] at hc
        obtain rfl := Option.some.inj hc
        exact Or.inr ⟨process, by simp, scope, hscope, hkey, rfl, rfl⟩
      · rw [if_neg hkey] at hc
        exact Or.inl hc

/-- The transaction, by the processes of the snapshot. -/
theorem insertControllers_inserts (h : t.insertControllers scopes snapshot = .ok t') :
    t.Inserts scopes snapshot.processes t' := by
  unfold insertControllers at h
  generalize snapshot.processes = processes at h
  induction processes generalizing t with
  | nil =>
      rw [List.foldlM_nil, pure_eq_ok] at h
      subst h
      exact ⟨rfl, fun _ _ hc => hc, fun _ _ hc => Or.inl hc⟩
  | cons process processes ih =>
      rw [List.foldlM_cons, bind_eq_ok] at h
      obtain ⟨mid, hmid, hrest⟩ := h
      have hfirst : t.Inserts scopes [process] mid := by
        cases hscope : controlledScope scopes process with
        | none =>
            rw [hscope] at hmid
            obtain rfl := Except.ok.inj hmid
            exact ⟨rfl, fun _ _ hc => hc, fun _ _ hc => Or.inl hc⟩
        | some scope =>
            rw [hscope] at hmid
            exact bindController_inserts (controlledBy_of_controlledScope hscope) hmid
      have hlater := ih hrest
      refine ⟨hlater.rows.trans hfirst.rows, fun key c hc => ?_, fun key c hc => ?_⟩
      · exact hlater.kept key c (hfirst.kept key c hc)
      · rcases hlater.new key c hc with hc | ⟨p, hp, hnew⟩
        · rcases hfirst.new key c hc with hc | ⟨p, hp, hnew⟩
          · exact Or.inl hc
          · obtain rfl := List.mem_singleton.1 hp
            exact Or.inr ⟨p, by simp, hnew⟩
        · exact Or.inr ⟨p, List.mem_cons_of_mem _ hp, hnew⟩

/-! ## The invariant -/

/-- A task that was read, and its row since. -/
def Shows (t : TaskTables) (scope : TaskScope) : Prop :=
  ∃ row, t.scopes.lookup scope.taskId = some row ∧ row.registrar = scope.registrar ∧
    (∀ at_, scope.activatedAtMicros = some at_ → row.activatedAtMicros = some at_) ∧
    ∀ at_, scope.releasedAtMicros = some at_ → row.releasedAtMicros = some at_

/-- Tasks that were read, each once. -/
structure Reads (t : TaskTables) (scopes : List TaskScope) : Prop where
  shows : ∀ scope ∈ scopes, t.Shows scope
  distinct : scopes.Pairwise fun a b => a.taskId ≠ b.taskId

/-- The tables on their own. -/
structure Sound (t : TaskTables) : Prop where
  valid : ∀ id row, t.scopes.lookup id = some row → validTaskId id = true
  owned : ∀ id row, t.scopes.lookup id = some row →
    (row.owner = none ↔ row.activatedAtMicros = none)
  reason : ∀ id row, t.scopes.lookup id = some row → row.releasedAtMicros = none →
    row.releaseReason = none
  keyed : ∀ key c, t.controllers.lookup key = some c → key = fingerprintProcessIdentity c.identity
  exact : ∀ key c, t.controllers.lookup key = some c → c.identity.exactMatch c.identity = true
  held : ∀ key c, t.controllers.lookup key = some c → ∃ row activated,
    t.scopes.lookup c.taskId = some row ∧ row.activatedAtMicros = some activated ∧
      activated ≤ c.identity.startedAtUnixMicros

/-- What a scan has read still holds. -/
def Scanned (t : TaskTables) : BindScan → Prop
  | .read _ scopes => t.Reads scopes
  | .inserted snapshot scopes =>
      t.Reads scopes ∧ snapshot.provesCompleteExactIdentityCoverage = true
  | .pruning snapshot bindings scopes =>
      t.Reads scopes ∧ snapshot.provesCompleteExactIdentityCoverage = true ∧
        ∀ key c, t.controllers.lookup key = some c →
          ∃ b ∈ bindings, b.taskId = c.taskId ∧ b.controller = c.identity

/-- Rows only gain. -/
def Grows (t t' : TaskTables) : Prop :=
  ∀ id row, t.scopes.lookup id = some row → ∃ row', t'.scopes.lookup id = some row' ∧ row.Leads row'

theorem Shows.grows {scope : TaskScope} (hgrows : t.Grows t') (h : t.Shows scope) :
    t'.Shows scope := by
  obtain ⟨row, hrow, hregistrar, hactivated, hreleased⟩ := h
  obtain ⟨row', hrow', hleads⟩ := hgrows _ row hrow
  refine ⟨row', hrow', hleads.registrar.trans hregistrar, fun at_ hat => ?_, fun at_ hat => ?_⟩
  · exact hleads.activated at_ (hactivated at_ hat)
  · have hset : row.releasedAtMicros = some at_ := hreleased at_ hat
    rw [hleads.released (by simp [hset])]
    exact hset

theorem Reads.grows (hgrows : t.Grows t') (h : t.Reads scopes) : t'.Reads scopes :=
  ⟨fun scope hscope => (h.shows scope hscope).grows hgrows, h.distinct⟩

/-- A row after one was written is that one, or was there. -/
theorem putScope_cases {id other : String} {row row' : TaskRow}
    (h : (t.putScope id row').scopes.lookup other = some row) :
    (other = id ∧ row = row') ∨ t.scopes.lookup other = some row := by
  simp only [putScope, OrdMap.lookup_insert] at h
  by_cases heq : other = id
  · rw [if_pos heq] at h
    exact Or.inl ⟨heq, (Option.some.inj h).symm⟩
  · rw [if_neg heq] at h
    exact Or.inr h

/-- Writing a row that the old one leads to. -/
theorem grows_putScope {id : String} {row' : TaskRow}
    (h : ∀ row, t.scopes.lookup id = some row → row.Leads row') : t.Grows (t.putScope id row') := by
  intro other row hrow
  by_cases heq : other = id
  · subst heq
    exact ⟨row', by simp [putScope, OrdMap.lookup_insert], h row hrow⟩
  · exact ⟨row, by simpa [putScope, OrdMap.lookup_insert, heq] using hrow, TaskRow.Leads.refl row⟩

theorem sound_empty : empty.Sound := by
  constructor <;> intro key row h <;> simp [empty] at h

/-- A row that is in order, in the place of one that leads to it. -/
theorem Sound.putScope {id : String} {row' : TaskRow} (hs : t.Sound) (hvalid : validTaskId id = true)
    (howned : row'.owner = none ↔ row'.activatedAtMicros = none)
    (hreason : row'.releasedAtMicros = none → row'.releaseReason = none)
    (hleads : ∀ row, t.scopes.lookup id = some row → row.Leads row') :
    (t.putScope id row').Sound := by
  constructor
  case valid =>
    intro other row h
    rcases putScope_cases h with ⟨rfl, -⟩ | h
    · exact hvalid
    · exact hs.valid other row h
  case owned =>
    intro other row h
    rcases putScope_cases h with ⟨-, rfl⟩ | h
    · exact howned
    · exact hs.owned other row h
  case reason =>
    intro other row h
    rcases putScope_cases h with ⟨-, rfl⟩ | h
    · exact hreason
    · exact hs.reason other row h
  case keyed => exact hs.keyed
  case exact => exact hs.exact
  case held =>
    intro key c hc
    obtain ⟨row, activated, hrow, hactivated, hborn⟩ := hs.held key c hc
    obtain ⟨row'', hrow'', hto⟩ := grows_putScope hleads c.taskId row hrow
    exact ⟨row'', activated, hrow'', hto.activated activated hactivated, hborn⟩

/-- The controllers of a snapshot are controllers of the tasks as they are
now, for what was read of these still holds. -/
theorem Sound.inserts {processes : List ProcessRecord} (hs : t.Sound) (hreads : t.Reads scopes)
    (h : t.Inserts scopes processes t') : t'.Sound where
  valid := by
    rw [h.rows]
    exact hs.valid
  owned := by
    rw [h.rows]
    exact hs.owned
  reason := by
    rw [h.rows]
    exact hs.reason
  keyed := by
    intro key c hc
    rcases h.new key c hc with hc | ⟨process, -, scope, -, rfl, -, hidentity⟩
    · exact hs.keyed key c hc
    · rw [hidentity]
  exact := by
    intro key c hc
    rcases h.new key c hc with hc | ⟨process, -, scope, hby, -, -, hidentity⟩
    · exact hs.exact key c hc
    · rw [hidentity]
      exact hby.exact
  held := by
    intro key c hc
    rw [h.rows]
    rcases h.new key c hc with hc | ⟨process, -, scope, hby, -, htask, hidentity⟩
    · exact hs.held key c hc
    · obtain ⟨row, hrow, -, hactivated, -⟩ := hreads.shows scope hby.mem
      obtain ⟨activated, hset, hborn⟩ := hby.born
      rw [htask, hidentity]
      exact ⟨row, activated, hrow, hactivated activated hset, hborn⟩

theorem lookup_deleteScope {id other : String} :
    (t.deleteScope id).scopes.lookup other = if other = id then none else t.scopes.lookup other :=
  OrdMap.lookup_erase

theorem controller_deleteScope {id key : String} {c : TaskController} :
    (t.deleteScope id).controllers.lookup key = some c ↔
      t.controllers.lookup key = some c ∧ c.taskId ≠ id := by
  simp [deleteScope, OrdMap.lookup_filter, Option.filter_eq_some_iff]

/-- A task is deleted with its controllers, so none is left behind. -/
theorem Sound.deleteScope {id : String} (hs : t.Sound) : (t.deleteScope id).Sound := by
  have hkept : ∀ other row, (t.deleteScope id).scopes.lookup other = some row →
      t.scopes.lookup other = some row := by
    intro other row h
    rw [lookup_deleteScope] at h
    by_cases heq : other = id
    · simp [heq] at h
    · simpa [heq] using h
  constructor
  case valid => exact fun other row h => hs.valid other row (hkept other row h)
  case owned => exact fun other row h => hs.owned other row (hkept other row h)
  case reason => exact fun other row h => hs.reason other row (hkept other row h)
  case keyed => exact fun key c hc => hs.keyed key c (controller_deleteScope.1 hc).1
  case exact => exact fun key c hc => hs.exact key c (controller_deleteScope.1 hc).1
  case held =>
    intro key c hc
    obtain ⟨hc, hne⟩ := controller_deleteScope.1 hc
    obtain ⟨row, activated, hrow, hactivated, hborn⟩ := hs.held key c hc
    exact ⟨row, activated, by rw [lookup_deleteScope, if_neg hne]; exact hrow, hactivated, hborn⟩

/-- Reading the tasks. -/
theorem reads_taskScopes : t.Reads t.taskScopes where
  shows := by
    intro scope hscope
    obtain ⟨⟨id, row⟩, hmem, rfl⟩ := List.mem_map.1 hscope
    exact ⟨row, OrdMap.lookup_eq_some.2 hmem, rfl, fun _ h => h, fun _ h => h⟩
  distinct := by
    rw [taskScopes, List.pairwise_map]
    exact t.scopes.sorted.imp fun hlt => ne_of_lt hlt

/-- Reading the controllers. -/
theorem mem_taskControllerBindings (hs : t.Sound) {key : String} {c : TaskController}
    (hc : t.controllers.lookup key = some c) :
    ∃ b ∈ t.taskControllerBindings, b.taskId = c.taskId ∧ b.controller = c.identity := by
  obtain ⟨row, -, hrow, -⟩ := hs.held key c hc
  refine ⟨⟨c.taskId, c.identity, row.releasedAtMicros.isSome⟩, ?_, rfl, rfl⟩
  refine List.mem_filterMap.2 ⟨c, OrdMap.mem_values.2 ⟨key, hc⟩, ?_⟩
  rw [hrow]
  rfl

/-- A scan and calls that let the controllers be. -/
theorem Scanned.grows {scan : BindScan} (hgrows : t.Grows t') (hsame : t'.controllers = t.controllers)
    (h : t.Scanned scan) : t'.Scanned scan := by
  cases scan with
  | read snapshot scopes => exact Reads.grows hgrows h
  | inserted snapshot scopes => exact ⟨h.1.grows hgrows, h.2⟩
  | pruning snapshot bindings scopes =>
      refine ⟨h.1.grows hgrows, h.2.1, ?_⟩
      rw [hsame]
      exact h.2.2

/-- The next task of a scan, deleted or not: the other ones are still as
they were read. -/
theorem Scanned.pruneScope {bindings : List TaskControllerBinding} {scope : TaskScope}
    {rest : List TaskScope} (h : t.Scanned (.pruning snapshot bindings (scope :: rest))) :
    (TaskTables.pruneScope snapshot bindings t scope).Scanned (.pruning snapshot bindings rest) := by
  obtain ⟨hreads, hproves, hcover⟩ := h
  obtain ⟨hfirst, hrest⟩ := List.pairwise_cons.1 hreads.distinct
  unfold TaskTables.pruneScope
  split_ifs with hexpired
  · refine ⟨⟨fun other hother => ?_, hrest⟩, hproves, fun key c hc => ?_⟩
    · obtain ⟨row, hrow, hshown⟩ := hreads.shows other (List.mem_cons_of_mem _ hother)
      refine ⟨row, ?_, hshown⟩
      rw [lookup_deleteScope, if_neg (hfirst other hother).symm]
      exact hrow
    · exact hcover key c (controller_deleteScope.1 hc).1
  · exact ⟨⟨fun other hother => hreads.shows other (List.mem_cons_of_mem _ hother), hrest⟩, hproves,
      hcover⟩

end TaskTables

namespace TaskSystem

variable {s : TaskSystem} {a : TaskStep} {t : TaskTables} {steps : List TaskStep}

/-- Every reachable registry: the tables are in order, and what the scan
has read still holds. -/
structure Sound (s : TaskSystem) : Prop where
  tables : s.tables.Sound
  scan : ∀ scan, s.scan = some scan → s.tables.Scanned scan

/-- A step that is not of the scan lets rows grow and keeps the
controllers; what one of the scan does, its own case says. -/
theorem change_cases (hs : s.Sound) (h : TaskChange s a t) :
    (s.tables.Grows t ∧ t.controllers = s.tables.controllers ∧ t.Sound) ∨
      (∃ snapshot scopes, a = .bindInsert ∧ s.scan = some (.read snapshot scopes) ∧
        s.tables.insertControllers scopes snapshot = .ok t) ∨
      (∃ snapshot bindings scope rest, a = .bindPrune ∧
        s.scan = some (.pruning snapshot bindings (scope :: rest)) ∧
        TaskTables.expiredScope snapshot bindings scope = true ∧
        t = s.tables.deleteScope scope.taskId) := by
  cases h with
  | same =>
      exact Or.inl ⟨fun id row hrow => ⟨row, hrow, TaskRow.Leads.refl row⟩, rfl, hs.tables⟩
  | @reserve taskId registrar now fresh habsent hvalid =>
      have hleads : ∀ row, s.tables.scopes.lookup taskId = some row →
          row.Leads ⟨fresh, registrar, none, now, none, none, none⟩ := by
        intro row hrow
        exact absurd (habsent.symm.trans hrow) (by simp)
      exact Or.inl ⟨TaskTables.grows_putScope hleads, rfl,
        hs.tables.putScope hvalid (by simp) (by simp) hleads⟩
  | @activate taskId owner now activated row hrow hreleased howner =>
      have hleads : ∀ other, s.tables.scopes.lookup taskId = some other → other.Leads
          { row with owner := some owner, activatedAtMicros := some activated } := by
        intro other hother
        obtain rfl := Option.some.inj (hrow.symm.trans hother)
        exact TaskRow.leads_activated howner ((hs.tables.owned taskId row hrow).1 howner) hreleased
      refine Or.inl ⟨TaskTables.grows_putScope hleads, rfl,
        hs.tables.putScope (hs.tables.valid taskId row hrow) (by simp) ?_ hleads⟩
      exact hs.tables.reason taskId row hrow
  | @release taskId now reason row hrow hreleased =>
      have hleads : ∀ other, s.tables.scopes.lookup taskId = some other → other.Leads
          { row with
            releasedAtMicros := some (saturated (saturated (now + 1) * 1000))
            releaseReason := some reason } := by
        intro other hother
        obtain rfl := Option.some.inj (hrow.symm.trans hother)
        exact TaskRow.leads_released hreleased (hs.tables.reason taskId row hrow hreleased)
      refine Or.inl ⟨TaskTables.grows_putScope hleads, rfl,
        hs.tables.putScope (hs.tables.valid taskId row hrow) ?_ (by simp) hleads⟩
      exact hs.tables.owned taskId row hrow
  | insert hscan hinsert => exact Or.inr (Or.inl ⟨_, _, rfl, hscan, hinsert⟩)
  | delete hscan hexpired => exact Or.inr (Or.inr ⟨_, _, _, _, rfl, hscan, hexpired, rfl⟩)

theorem step_tables_sound (hs : s.Sound) (a : TaskStep) : (s.step a).tables.Sound := by
  rcases change_cases hs (step_change s a) with
    ⟨-, -, hsound⟩ | ⟨snapshot, scopes, -, hscan, hinsert⟩ | ⟨-, -, scope, -, -, -, -, heq⟩
  · exact hsound
  · have hreads : s.tables.Reads scopes := hs.scan _ hscan
    exact hs.tables.inserts hreads (TaskTables.insertControllers_inserts hinsert)
  · rw [heq]
    exact hs.tables.deleteScope

/-- The calls of the socket go past a scan. -/
theorem scanned_keep {r : Except StoreError TaskTables} (hs : s.Sound)
    (h : ∀ t, r = .ok t → s.tables.Grows t ∧ t.controllers = s.tables.controllers) {scan : BindScan}
    (hscan : (s.keep r).scan = some scan) : (s.keep r).tables.Scanned scan := by
  cases r with
  | error e => exact hs.scan scan hscan
  | ok t =>
      obtain ⟨hgrows, hsame⟩ := h t rfl
      exact (hs.scan scan hscan).grows hgrows hsame

/-- What a change outside the scan leaves to the scan. -/
theorem change_grows (hs : s.Sound) (h : TaskChange s a t) (hinsert : a ≠ .bindInsert)
    (hprune : a ≠ .bindPrune) : s.tables.Grows t ∧ t.controllers = s.tables.controllers := by
  rcases change_cases hs h with ⟨hgrows, hsame, -⟩ | ⟨-, -, ha, -⟩ | ⟨-, -, -, -, ha, -⟩
  · exact ⟨hgrows, hsame⟩
  · exact absurd ha hinsert
  · exact absurd ha hprune

theorem step_scanned (hs : s.Sound) (a : TaskStep) {scan : BindScan}
    (hscan : (s.step a).scan = some scan) : (s.step a).tables.Scanned scan := by
  cases a with
  | reserve taskId registrar now fresh =>
      -- between two parts of a scan the socket's calls only move rows forward
      exact scanned_keep hs
        (fun t h => change_grows hs (reserveTask_change h) (by simp) (by simp)) hscan
  | authorize taskId capability =>
      refine scanned_keep hs (fun t h => ?_) hscan
      obtain ⟨-, -, rfl⟩ := map_eq_ok.1 h
      exact ⟨fun id row hrow => ⟨row, hrow, TaskRow.Leads.refl row⟩, rfl⟩
  | activate taskId owner now =>
      exact scanned_keep hs
        (fun t h => change_grows hs (activateTask_change h) (by simp) (by simp)) hscan
  | release taskId now reason owner =>
      exact scanned_keep hs
        (fun t h => change_grows hs (releaseTask_change h) (by simp) (by simp)) hscan
  | bindRead snapshot =>
      simp only [step] at hscan ⊢
      split at hscan
      · obtain rfl := Option.some.inj hscan
        exact TaskTables.reads_taskScopes
      · exact hs.scan scan hscan
  | bindInsert =>
      simp only [step] at hscan ⊢
      split at hscan
      · next snapshot scopes hread =>
        split at hscan
        · next t hinsert =>
          split_ifs at hscan with hproves
          obtain rfl := Option.some.inj hscan
          -- the insert writes controllers only: the rows the scan has read are still led to
          refine ⟨?_, hproves⟩
          have hrows : t.scopes = s.tables.scopes :=
            (TaskTables.insertControllers_inserts hinsert).rows
          have hreads : s.tables.Reads scopes := hs.scan _ hread
          exact hreads.grows fun id row hrow => ⟨row, hrows ▸ hrow, TaskRow.Leads.refl row⟩
        · simp at hscan
      · exact hs.scan scan hscan
  | bindBindings =>
      simp only [step] at hscan ⊢
      split at hscan
      · next snapshot scopes hinserted =>
        obtain rfl := Option.some.inj hscan
        obtain ⟨hreads, hproves⟩ := hs.scan _ hinserted
        exact ⟨hreads, hproves, fun key c hc => TaskTables.mem_taskControllerBindings hs.tables hc⟩
      · exact hs.scan scan hscan
  | bindPrune =>
      simp only [step] at hscan ⊢
      split at hscan
      · simp at hscan
      · next snapshot bindings scope rest hpruning =>
        obtain rfl := Option.some.inj hscan
        exact (hs.scan _ hpruning).pruneScope
      · exact hs.scan scan hscan
  | bindAbort => simp [step] at hscan

/-- **Every reachable registry is sound.** -/
theorem ran_sound (steps : List TaskStep) : (ran steps).Sound := by
  have hstart : start.Sound := ⟨TaskTables.sound_empty, by simp [start]⟩
  induction steps using List.reverseRecOn with
  | nil => exact hstart
  | append_singleton steps a ih =>
      rw [ran, List.foldl_append, List.foldl_cons, List.foldl_nil]
      exact ⟨step_tables_sound ih a, fun scan hscan => step_scanned ih a hscan⟩

theorem ran_concat : ran (steps ++ [a]) = (ran steps).step a := by
  rw [ran, List.foldl_append, List.foldl_cons, List.foldl_nil, ran]

end TaskSystem

end Unlinger
