import Unlinger.Common.Fallible
import Unlinger.Daemon.Helpers.Journal
import Unlinger.Daemon.Model.SessionOwners

/-!
# What a call does to the session owners

`SessionOwnerChange` says once what a call may do to the leases and their
controllers. A pruning that takes the newest lease of a selector takes all
of them, because an older lease was released no later.
-/

namespace Unlinger

namespace SessionOwnerTables

variable {t t' : SessionOwnerTables} {selector leaseId : String} {row : SessionOwnerRow}

/-! ## Reading the leases -/

/-- The lease of an identifier is of the selector. -/
def Leased (t : SessionOwnerTables) (selector leaseId : String) (row : SessionOwnerRow) : Prop :=
  t.leases.lookup leaseId = some row ∧ row.selectorFingerprint = selector

theorem activeLease_eq_none (h : t.activeLease selector = none)
    (hrow : t.Leased selector leaseId row) : row.releasedAtMicros ≠ none := by
  intro hopen
  have hmem : (leaseId, row) ∈ (t.leases.entries.filter fun e =>
      e.2.selectorFingerprint == selector && e.2.releasedAtMicros.isNone).insertionSort
        fun a b => b.2.generation ≤ a.2.generation := by
    refine (List.mem_insertionSort _).2 (List.mem_filter.2 ⟨OrdMap.lookup_eq_some.1 hrow.1, ?_⟩)
    simp [hrow.2, hopen]
  rw [activeLease, List.head?_eq_none_iff] at h
  rw [h] at hmem
  cases hmem

theorem activeLease_eq_some (h : t.activeLease selector = some (leaseId, row)) :
    t.leases.lookup leaseId = some row := by
  have hmem := (List.mem_insertionSort _).1 (List.mem_of_head? h)
  exact OrdMap.lookup_eq_some.2 (List.mem_filter.1 hmem).1

/-- A new lease is of a higher generation than those of its selector. -/
theorem lt_nextGeneration (h : t.Leased selector leaseId row) :
    row.generation < t.nextGeneration selector := by
  have hmem : row.generation ∈ (t.leases.values.filter fun row =>
      row.selectorFingerprint == selector).map SessionOwnerRow.generation := by
    refine List.mem_map.2 ⟨row, List.mem_filter.2 ⟨?_, by simp [h.2]⟩, rfl⟩
    exact OrdMap.mem_values.2 ⟨leaseId, h.1⟩
  exact Nat.lt_succ_of_le (List.le_max?_getD_of_mem hmem)

/-- A scope shows a lease as it stands. -/
theorem mem_sessionOwnerScopes {scope : SessionOwnerScope} :
    scope ∈ t.sessionOwnerScopes ↔ ∃ row, t.leases.lookup scope.leaseId = some row ∧
      scope = ⟨scope.leaseId, row.selectorFingerprint, row.sessionName, row.controllerVersion,
        row.generation, row.registrar, row.owner, row.activatedAtMicros, row.releasedAtMicros⟩ := by
  simp only [sessionOwnerScopes, List.mem_map, Prod.exists]
  constructor
  · rintro ⟨id, row, hrow, rfl⟩
    exact ⟨row, OrdMap.lookup_eq_some.2 hrow, rfl⟩
  · rintro ⟨row, hrow, hscope⟩
    exact ⟨scope.leaseId, row, OrdMap.lookup_eq_some.1 hrow, hscope.symm⟩

/-- A current scope is a lease of the highest generation of its
selector. -/
theorem current_greatest {scope : SessionOwnerScope} (h : scope ∈ t.currentSessionOwnerScopes) :
    scope ∈ t.sessionOwnerScopes ∧
      ∀ id row, t.Leased scope.selectorFingerprint id row → row.generation ≤ scope.generation := by
  obtain ⟨key, hkey⟩ := OrdMap.mem_values.1 h
  obtain ⟨hmem, rfl, hmax⟩ := (OrdMap.lookup_greatestBy key).1 scope hkey
  refine ⟨hmem, fun id row hrow => ?_⟩
  exact hmax ⟨id, row.selectorFingerprint, row.sessionName, row.controllerVersion, row.generation,
    row.registrar, row.owner, row.activatedAtMicros, row.releasedAtMicros⟩
    (mem_sessionOwnerScopes.2 ⟨row, hrow.1, rfl⟩) hrow.2

/-! ## Pruning -/

/-- The scope of a lease. -/
def scopeOf (leaseId : String) (row : SessionOwnerRow) : SessionOwnerScope :=
  ⟨leaseId, row.selectorFingerprint, row.sessionName, row.controllerVersion, row.generation,
    row.registrar, row.owner, row.activatedAtMicros, row.releasedAtMicros⟩

/-- Deleting some of the scopes that were read. -/
theorem deleted_leases {scopes : List SessionOwnerScope} {expired : SessionOwnerScope → Bool} :
    let left := scopes.foldl (fun t scope =>
      if expired scope then t.deleteLease scope.leaseId else t) t
    (∀ id row, left.leases.lookup id = some row ↔ t.leases.lookup id = some row ∧
      ∀ scope ∈ scopes, scope.leaseId = id → expired scope = false) ∧
    (∀ key c, left.controllers.lookup key = some c ↔ t.controllers.lookup key = some c ∧
      ∀ scope ∈ scopes, scope.leaseId = c.leaseId → expired scope = false) := by
  induction scopes generalizing t with
  | nil => simp
  | cons scope scopes ih =>
      rw [List.foldl_cons]
      obtain ⟨hleases, hcontrollers⟩ :=
        ih (t := if expired scope then t.deleteLease scope.leaseId else t)
      refine ⟨fun id row => ?_, fun key c => ?_⟩
      · rw [hleases]
        cases hexpired : expired scope with
        | true =>
            simp only [if_true, deleteLease, OrdMap.lookup_erase, List.mem_cons, forall_eq_or_imp]
            by_cases hid : id = scope.leaseId
            · simp [hid, hexpired]
            · simp [hid, Ne.symm hid]
        | false => simp [hexpired]
      · rw [hcontrollers]
        cases hexpired : expired scope with
        | true =>
            simp only [if_true, deleteLease, OrdMap.lookup_filter, Option.filter_eq_some_iff,
              List.mem_cons, forall_eq_or_imp, hexpired, bne_iff_ne, ne_eq, and_assoc]
            simp only [reduceCtorEq, imp_false, eq_comm]
        | false => simp [hexpired]

/-- What a pruning leaves. -/
theorem lookup_pruned {snapshot : Snapshot} :
    (∀ id row, (t.pruneSessionOwnerLeases snapshot).leases.lookup id = some row ↔
      t.leases.lookup id = some row ∧ ¬ (snapshot.provesCompleteExactIdentityCoverage = true ∧
        expiredScope snapshot (scopeOf id row) = true)) ∧
    (∀ key c, (t.pruneSessionOwnerLeases snapshot).controllers.lookup key = some c →
      t.controllers.lookup key = some c ∧ ∀ row, t.leases.lookup c.leaseId = some row →
        (t.pruneSessionOwnerLeases snapshot).leases.lookup c.leaseId = some row) := by
  unfold pruneSessionOwnerLeases
  by_cases hproves : snapshot.provesCompleteExactIdentityCoverage = true
  · rw [if_pos hproves]
    obtain ⟨hleases, hcontrollers⟩ := @deleted_leases t t.sessionOwnerScopes
      (expiredScope snapshot)
    -- of a lease there is one scope
    have hscope : ∀ id row, t.leases.lookup id = some row →
        ((∀ scope ∈ t.sessionOwnerScopes, scope.leaseId = id → expiredScope snapshot scope = false) ↔
          ¬ expiredScope snapshot (scopeOf id row) = true) := by
      intro id row hrow
      rw [Bool.not_eq_true]
      constructor
      · exact fun h => h (scopeOf id row) (mem_sessionOwnerScopes.2 ⟨row, hrow, rfl⟩) rfl
      · intro h scope hmem hid
        obtain ⟨other, hother, heq⟩ := mem_sessionOwnerScopes.1 hmem
        rw [hid] at hother
        obtain rfl := Option.some.inj (hother.symm.trans hrow)
        rw [heq, hid]
        exact h
    refine ⟨fun id row => ?_, fun key c hc => ?_⟩
    · rw [hleases]
      constructor
      · rintro ⟨hrow, hall⟩
        exact ⟨hrow, fun hexpired => (hscope id row hrow).1 hall hexpired.2⟩
      · rintro ⟨hrow, hnot⟩
        exact ⟨hrow, (hscope id row hrow).2 fun hexpired => hnot ⟨hproves, hexpired⟩⟩
    · obtain ⟨hc, hall⟩ := (hcontrollers key c).1 hc
      exact ⟨hc, fun row hrow => (hleases _ _).2 ⟨hrow, hall⟩⟩
  · rw [if_neg hproves]
    exact ⟨fun id row => by simp [hproves], fun key c hc => ⟨hc, fun row hrow => hrow⟩⟩

/-! ## Binding -/

/-- A process of a snapshot that a lease admits as a controller. -/
structure Admits (row : SessionOwnerRow) (process : ProcessRecord) : Prop where
  session : ∃ cli, process.runtime.playwrightCli = some cli ∧
    cli.selectorFingerprint = some row.selectorFingerprint ∧ cli.sessionName = row.sessionName ∧
    cli.version = row.controllerVersion ∧ taskIdFromSession cli.sessionName = none
  uid : process.uid = row.registrar.uid
  born : ∃ activated, row.activatedAtMicros = some activated ∧
    activated ≤ process.identity.startedAtUnixMicros
  inTime : ∀ released, row.releasedAtMicros = some released →
    process.identity.startedAtUnixMicros ≤ released
  exact : process.identity.executableDevice.isSome = true ∧
    process.identity.executableInode.isSome = true

theorem admittedScope_admits {process : ProcessRecord} {scope : SessionOwnerScope}
    (h : admittedScope t.currentSessionOwnerScopes process = some scope) :
    ∃ row, t.leases.lookup scope.leaseId = some row ∧ Admits row process := by
  simp only [admittedScope, Option.bind_eq_bind, Option.bind_eq_some_iff] at h
  obtain ⟨cli, hcli, h⟩ := h
  by_cases htask : (taskIdFromSession cli.sessionName).isSome = true
  · simp [htask] at h
  rw [if_neg htask] at h
  simp only [Option.bind_eq_some_iff] at h
  obtain ⟨selector, hselector, read, hfind, activated, hactivated, h⟩ := h
  split_ifs at h with hout
  obtain rfl := Option.some.inj h
  simp only [Bool.or_eq_true, decide_eq_true_eq, not_or, not_lt, Option.any_eq_true, not_exists,
    not_and, ne_eq, not_not, Option.isNone_iff_eq_none] at hout
  obtain ⟨⟨⟨⟨huid, hborn⟩, htime⟩, hdevice⟩, hinode⟩ := hout
  have hfacts := List.find?_some hfind
  simp only [Bool.and_eq_true, beq_iff_eq] at hfacts
  obtain ⟨⟨hsel, hname⟩, hversion⟩ := hfacts
  obtain ⟨row, hrow, heq⟩ :=
    mem_sessionOwnerScopes.1 (current_greatest (List.mem_of_find?_eq_some hfind)).1
  refine ⟨row, hrow, ⟨cli, hcli, ?_, ?_, ?_, ?_⟩, ?_, ⟨activated, ?_, hborn⟩, ?_, ?_⟩
  · rw [hselector, ← hsel, heq]
  · rw [← hname, heq]
  · rw [← hversion, heq]
  · simpa using htask
  · rw [huid, heq]
  · rw [← hactivated, heq]
  · intro released hreleased
    refine htime released ?_
    rw [heq]
    exact hreleased
  · exact ⟨Option.isSome_iff_ne_none.2 hdevice, Option.isSome_iff_ne_none.2 hinode⟩

/-- What the transaction of a scan does: no lease changes, and a new
controller is a process of the snapshot that its lease admits. -/
structure Inserts (t : SessionOwnerTables) (processes : List ProcessRecord)
    (t' : SessionOwnerTables) : Prop where
  leases : t'.leases = t.leases
  new : ∀ key c, t'.controllers.lookup key = some c → t.controllers.lookup key = some c ∨
    ∃ process ∈ processes, ∃ row, t.leases.lookup c.leaseId = some row ∧ Admits row process ∧
      c.identity = process.identity

theorem bindController_inserts {process : ProcessRecord} {row : SessionOwnerRow}
    (hrow : t.leases.lookup leaseId = some row) (hadmits : Admits row process)
    (h : t.bindController leaseId process.identity = .ok t') : t.Inserts [process] t' := by
  unfold bindController at h
  by_cases hbound : t.controllers.contains (fingerprintProcessIdentity process.identity) = true
  · rw [if_pos hbound] at h
    obtain rfl := Except.ok.inj h
    exact ⟨rfl, fun _ _ hc => Or.inl hc⟩
  · rw [if_neg hbound] at h
    simp only [bind_eq_ok, pure_eq_ok] at h
    obtain ⟨-, -, rfl⟩ := h
    refine ⟨rfl, fun key c hc => ?_⟩
    rw [OrdMap.lookup_insert] at hc
    by_cases hkey : key = fingerprintProcessIdentity process.identity
    · rw [if_pos hkey] at hc
      obtain rfl := Option.some.inj hc
      exact Or.inr ⟨process, by simp, row, hrow, hadmits, rfl⟩
    · rw [if_neg hkey] at hc
      exact Or.inl hc

/-- The transaction, by the processes of the snapshot. -/
theorem insertControllers_inserts {snapshot : Snapshot}
    (h : t.insertControllers t.currentSessionOwnerScopes snapshot = .ok t') :
    t.Inserts snapshot.processes t' := by
  -- the leases are those the scopes were read of, before every process
  have hall : ∀ (processes : List ProcessRecord) (mid : SessionOwnerTables), mid.leases = t.leases →
      mid.insertControllers t.currentSessionOwnerScopes { snapshot with processes := processes } =
        .ok t' → mid.Inserts processes t' := by
    intro processes
    induction processes with
    | nil =>
        intro mid hmid hfold
        rw [insertControllers, List.foldlM_nil, pure_eq_ok] at hfold
        subst hfold
        exact ⟨rfl, fun _ _ hc => Or.inl hc⟩
    | cons process processes ih =>
        intro mid hmid hfold
        rw [insertControllers, List.foldlM_cons, bind_eq_ok] at hfold
        obtain ⟨next, hnext, hrest⟩ := hfold
        have hfirst : mid.Inserts [process] next := by
          cases hscope : admittedScope t.currentSessionOwnerScopes process with
          | none =>
              rw [hscope] at hnext
              obtain rfl := Except.ok.inj hnext
              exact ⟨rfl, fun _ _ hc => Or.inl hc⟩
          | some scope =>
              rw [hscope] at hnext
              obtain ⟨row, hrow, hadmits⟩ := admittedScope_admits hscope
              exact bindController_inserts (by rw [hmid]; exact hrow) hadmits hnext
        have hlater := ih next (hfirst.leases.trans hmid) hrest
        refine ⟨hlater.leases.trans hfirst.leases, fun key c hc => ?_⟩
        rcases hlater.new key c hc with hc | ⟨p, hp, row, hrow, hnew⟩
        · rcases hfirst.new key c hc with hc | ⟨p, hp, hnew⟩
          · exact Or.inl hc
          · obtain rfl := List.mem_singleton.1 hp
            exact Or.inr ⟨p, by simp, hnew⟩
        · rw [hfirst.leases] at hrow
          exact Or.inr ⟨p, List.mem_cons_of_mem _ hp, row, hrow, hnew⟩
  exact hall snapshot.processes t rfl h

/-- No controller that is bound changes a lease, whatever the scopes were. -/
theorem insertControllers_leases {scopes : List SessionOwnerScope} {snapshot : Snapshot}
    (h : t.insertControllers scopes snapshot = .ok t') : t'.leases = t.leases := by
  unfold insertControllers at h
  generalize snapshot.processes = processes at h
  induction processes generalizing t with
  | nil =>
      rw [List.foldlM_nil, pure_eq_ok] at h
      rw [h]
  | cons process processes ih =>
      rw [List.foldlM_cons, bind_eq_ok] at h
      obtain ⟨next, hnext, hrest⟩ := h
      rw [ih hrest]
      split at hnext
      · obtain rfl := Except.ok.inj hnext
        rfl
      · unfold bindController at hnext
        split at hnext
        · obtain rfl := Except.ok.inj hnext
          rfl
        · simp only [bind_eq_ok, pure_eq_ok] at hnext
          obtain ⟨-, -, rfl⟩ := hnext
          rfl

/-- A binding is of a lease of the highest generation of its selector. -/
theorem mem_sessionOwnerBindings {b : SessionOwnerBinding} (h : b ∈ t.sessionOwnerBindings) :
    ∃ key c row, t.controllers.lookup key = some c ∧ t.leases.lookup c.leaseId = some row ∧
      (∀ id other, t.Leased row.selectorFingerprint id other → other.generation ≤ row.generation) ∧
      b = ⟨c.leaseId, row.selectorFingerprint, row.sessionName, row.controllerVersion, c.identity,
        row.releasedAtMicros.isSome⟩ := by
  obtain ⟨c, hc, hscope⟩ := List.mem_filterMap.1 h
  obtain ⟨key, hkey⟩ := OrdMap.mem_values.1 ((List.mem_insertionSort _).1 hc)
  obtain ⟨scope, hlookup, rfl⟩ := Option.map_eq_some_iff.1 hscope
  obtain ⟨read, hread, heq⟩ := List.mem_map.1 (OrdMap.lookup_ofList hlookup)
  obtain ⟨hid, rfl⟩ := Prod.mk.inj heq
  obtain ⟨hmem, hgreatest⟩ := current_greatest hread
  obtain ⟨row, hrow, hfacts⟩ := mem_sessionOwnerScopes.1 hmem
  rw [hfacts] at hgreatest
  rw [hid] at hrow
  refine ⟨key, c, row, hkey, hrow, hgreatest, ?_⟩
  rw [hfacts]

end SessionOwnerTables

/-! ## What a call may do -/

/-- The registry after a call. -/
inductive SessionOwnerChange (s : SessionOwnerSystem) : SessionOwnerStep → SessionOwnerSystem → Prop
  | same {a : SessionOwnerStep} : SessionOwnerChange s a s
  | declare {selector sessionName controllerVersion : String} {registrar : TaskOwnerIdentity}
      {now : Nat} {freshId freshCapability : NamespaceToken}
      (hreleased : ∀ id row, s.tables.Leased selector id row → row.releasedAtMicros ≠ none)
      (hfresh : s.lease freshId.value = none) :
      SessionOwnerChange s
        (.declare selector sessionName controllerVersion registrar now freshId freshCapability)
        ⟨s.tables.putLease freshId.value ⟨freshCapability, selector, sessionName, controllerVersion,
            s.tables.nextGeneration selector, registrar, none, now, none, none, none⟩,
          s.declared ++ [⟨freshId.value, sessionName, selector, s.tables.nextGeneration selector,
            freshCapability⟩]⟩
  | activate {leaseId : String} {owner : TaskOwnerIdentity} {now activated : Nat}
      {row : SessionOwnerRow} (hrow : s.lease leaseId = some row)
      (hreleased : row.releasedAtMicros = none) (howner : row.owner = none) :
      SessionOwnerChange s (.activate leaseId owner now)
        ⟨s.tables.putLease leaseId
          { row with owner := some owner, activatedAtMicros := some activated }, s.declared⟩
  | release {leaseId : String} {now : Nat} {reason : String} {owner : Option TaskOwnerIdentity}
      {row : SessionOwnerRow} (hrow : s.lease leaseId = some row)
      (hreleased : row.releasedAtMicros = none) :
      SessionOwnerChange s (.release leaseId now reason owner)
        ⟨s.tables.putLease leaseId
          { row with
            releasedAtMicros := some (SessionOwnerTables.releaseMicros now)
            releaseReason := some reason }, s.declared⟩
  | bind {snapshot : Snapshot} {t : SessionOwnerTables}
      (hinserts : s.tables.Inserts snapshot.processes t) :
      SessionOwnerChange s (.bind snapshot) ⟨t.pruneSessionOwnerLeases snapshot, s.declared⟩

namespace SessionOwnerSystem

variable {s : SessionOwnerSystem} {a : SessionOwnerStep}

/-- A call whose success is a change, or leaves the registry. -/
theorem change_keep {r : Except StoreError SessionOwnerTables}
    (h : ∀ t, r = .ok t → SessionOwnerChange s a ⟨t, s.declared⟩) :
    SessionOwnerChange s a (s.keep r) := by
  cases r with
  | error e => exact .same
  | ok t => exact h t rfl

theorem declare_change (s : SessionOwnerSystem)
    (selector sessionName controllerVersion : String) (registrar : TaskOwnerIdentity) (now : Nat)
    (freshId freshCapability : NamespaceToken) :
    let a := SessionOwnerStep.declare selector sessionName controllerVersion registrar now freshId
      freshCapability
    SessionOwnerChange s a (s.step a) := by
  simp only [step]
  split
  · rename_i t lease h
    simp only [SessionOwnerTables.declareSessionOwner, bind_eq_ok] at h
    obtain ⟨-, -, -, -, -, -, h⟩ := h
    cases hactive : s.tables.activeLease selector with
    | some e =>
        simp only [hactive, bind_eq_ok, pure_eq_ok] at h
        obtain ⟨-, -, -, -, -, -, -, -, heq⟩ := h
        obtain ⟨rfl, rfl⟩ := Prod.mk.inj heq
        have hthere : s.tables.leases.contains e.1 = true := by
          simp [OrdMap.contains, SessionOwnerTables.activeLease_eq_some hactive]
        rw [if_pos hthere]
        exact .same
    | none =>
        simp only [hactive, bind_eq_ok, require_eq_ok, sqliteMillis_eq_ok, pure_eq_ok] at h
        obtain ⟨-, -, created, ⟨-, rfl⟩, -, ⟨-, hfresh⟩, heq⟩ := h
        obtain ⟨rfl, rfl⟩ := Prod.mk.inj heq
        rw [if_neg (by simp [OrdMap.contains, hfresh])]
        exact .declare (fun id row hrow => SessionOwnerTables.activeLease_eq_none hactive hrow) hfresh
  · exact .same

theorem activate_change {leaseId : String} {owner : TaskOwnerIdentity} {now : Nat}
    {t : SessionOwnerTables} (h : s.tables.activateSessionOwner leaseId owner now = .ok t) :
    SessionOwnerChange s (.activate leaseId owner now) ⟨t, s.declared⟩ := by
  simp only [SessionOwnerTables.activateSessionOwner, bind_eq_ok, found_eq_ok, require_eq_ok] at h
  obtain ⟨row, hrow, -, hreleased, h⟩ := h
  cases howner : row.owner with
  | some prior =>
      simp only [howner, bind_eq_ok, pure_eq_ok] at h
      obtain ⟨-, -, rfl⟩ := h
      exact .same
  | none =>
      simp only [howner, bind_eq_ok, pure_eq_ok] at h
      obtain ⟨activated, -, rfl⟩ := h
      exact .activate hrow hreleased howner

theorem release_change {leaseId : String} {now : Nat} {reason : String}
    {owner : Option TaskOwnerIdentity} {t : SessionOwnerTables}
    (h : s.tables.releaseSessionOwner leaseId now reason owner = .ok t) :
    SessionOwnerChange s (.release leaseId now reason owner) ⟨t, s.declared⟩ := by
  simp only [SessionOwnerTables.releaseSessionOwner, bind_eq_ok, sqliteMillis_eq_ok] at h
  obtain ⟨released, ⟨-, rfl⟩, h⟩ := h
  cases hrow : s.tables.leases.lookup leaseId with
  | none =>
      simp only [hrow, pure_eq_ok] at h
      exact h ▸ .same
  | some row =>
      simp only [hrow] at h
      by_cases hopen : row.releasedAtMicros = none ∧ row.owner = owner
      · rw [if_pos hopen, pure_eq_ok] at h
        exact h ▸ .release hrow hopen.1
      · rw [if_neg hopen, pure_eq_ok] at h
        exact h ▸ .same

/-- **What a call may do to the registry.** -/
theorem step_change (s : SessionOwnerSystem) (a : SessionOwnerStep) :
    SessionOwnerChange s a (s.step a) := by
  cases a with
  | declare selector sessionName controllerVersion registrar now freshId freshCapability =>
      exact declare_change s selector sessionName controllerVersion registrar now freshId
        freshCapability
  | activate leaseId owner now => exact change_keep fun t h => activate_change h
  | release leaseId now reason owner => exact change_keep fun t h => release_change h
  | bind snapshot =>
      refine change_keep fun t h => ?_
      simp only [SessionOwnerTables.bindSessionOwnerControllers, bind_eq_ok, pure_eq_ok] at h
      obtain ⟨mid, hmid, rfl⟩ := h
      exact .bind (SessionOwnerTables.insertControllers_inserts hmid)

end SessionOwnerSystem

end Unlinger
