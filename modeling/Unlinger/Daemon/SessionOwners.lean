import Unlinger.Daemon.Helpers.SessionOwners

/-!
# A superseded lease supplies nothing

The bindings are those of the newest lease of each selector, and the
newest lease is the one declared last: an older one is released no later
and has the same selector, so a pruning that takes the newest takes them
all. What the numbers do not keep is their meaning over time, because a
selector whose leases are all pruned starts again at generation one.
-/

namespace Unlinger

open SessionOwnerTables

/-- A row of a lease and a later one: the facts of the session stay, and
what was set is not changed. -/
structure SessionOwnerRow.Continues (row row' : SessionOwnerRow) : Prop where
  selector : row'.selectorFingerprint = row.selectorFingerprint
  session : row'.sessionName = row.sessionName
  version : row'.controllerVersion = row.controllerVersion
  generation : row'.generation = row.generation
  registrar : row'.registrar = row.registrar
  activated : ∀ at_, row.activatedAtMicros = some at_ → row'.activatedAtMicros = some at_
  released : ∀ at_, row.releasedAtMicros = some at_ → row'.releasedAtMicros = some at_

theorem SessionOwnerRow.Continues.refl (row : SessionOwnerRow) : row.Continues row :=
  ⟨rfl, rfl, rfl, rfl, rfl, fun _ h => h, fun _ h => h⟩

theorem SessionOwnerRow.Continues.trans {row row' row'' : SessionOwnerRow} (h : row.Continues row')
    (h' : row'.Continues row'') : row.Continues row'' :=
  ⟨h'.selector.trans h.selector, h'.session.trans h.session, h'.version.trans h.version,
    h'.generation.trans h.generation, h'.registrar.trans h.registrar,
    fun at_ hat => h'.activated at_ (h.activated at_ hat),
    fun at_ hat => h'.released at_ (h.released at_ hat)⟩

namespace SessionOwnerSystem

variable {s : SessionOwnerSystem} {a : SessionOwnerStep} {steps : List SessionOwnerStep}
  {now now' : Nat} {selector : String}

/-! ## The invariant -/

/-- The registry at a time. -/
structure Sound (s : SessionOwnerSystem) (now : Nat) : Prop where
  distinct : ∀ selector i j a b, s.tables.Leased selector i a → s.tables.Leased selector j b →
    a.generation = b.generation → i = j
  /-- an older lease was released first -/
  ordered : ∀ selector i j a b, s.tables.Leased selector i a → s.tables.Leased selector j b →
    a.generation < b.generation → ∃ released, a.releasedAtMicros = some released ∧
      ∀ later, b.releasedAtMicros = some later → released ≤ later
  past : ∀ i a released, s.lease i = some a → a.releasedAtMicros = some released →
    released ≤ releaseMicros now
  owned : ∀ i a, s.lease i = some a → (a.owner = none ↔ a.activatedAtMicros = none)
  /-- while any lease of a selector is left, the one declared last is -/
  newest : ∀ selector i a, s.tables.Leased selector i a → ∃ d b, s.newest selector = some d ∧
    s.tables.Leased selector d.leaseId b ∧ b.generation = d.generation ∧
    a.generation ≤ b.generation

theorem releaseMicros_mono (h : now ≤ now') : releaseMicros now ≤ releaseMicros now' := by
  unfold releaseMicros saturated
  omega

theorem Sound.mono (h : s.Sound now) (hnow : now ≤ now') : s.Sound now' where
  distinct := h.distinct
  ordered := h.ordered
  past := fun i a released ha hreleased =>
    (h.past i a released ha hreleased).trans (releaseMicros_mono hnow)
  owned := h.owned
  newest := h.newest

/-- Two leases of a selector that are not released are one. -/
theorem Sound.one_unreleased (h : s.Sound now) {i j : String} {a b : SessionOwnerRow}
    (hi : s.tables.Leased selector i a) (hj : s.tables.Leased selector j b)
    (ha : a.releasedAtMicros = none) (hb : b.releasedAtMicros = none) : i = j := by
  rcases Nat.lt_trichotomy a.generation b.generation with hlt | heq | hgt
  · obtain ⟨released, hreleased, -⟩ := h.ordered selector i j a b hi hj hlt
    rw [ha] at hreleased
    cases hreleased
  · exact h.distinct selector i j a b hi hj heq
  · obtain ⟨released, hreleased, -⟩ := h.ordered selector j i b a hj hi hgt
    rw [hb] at hreleased
    cases hreleased

/-- A row after one was written is that one, or was there. -/
theorem putLease_cases {t : SessionOwnerTables} {id other : String} {row row' : SessionOwnerRow}
    (h : (t.putLease id row').leases.lookup other = some row) :
    (other = id ∧ row = row') ∨ (other ≠ id ∧ t.leases.lookup other = some row) := by
  simp only [putLease, OrdMap.lookup_insert] at h
  by_cases heq : other = id
  · rw [if_pos heq] at h
    exact Or.inl ⟨heq, (Option.some.inj h).symm⟩
  · rw [if_neg heq] at h
    exact Or.inr ⟨heq, h⟩

/-- A row in the place of one it continues. -/
theorem Sound.putLease {id : String} {row row' : SessionOwnerRow} (h : s.Sound now)
    (hrow : s.lease id = some row) (hcontinues : row.Continues row')
    (howned : row'.owner = none ↔ row'.activatedAtMicros = none)
    (hreleased : row'.releasedAtMicros = row.releasedAtMicros ∨
      row.releasedAtMicros = none ∧ row'.releasedAtMicros = some (releaseMicros now)) :
    (SessionOwnerSystem.mk (s.tables.putLease id row') s.declared).Sound now := by
  -- every row there is now continues one there was
  have hwas : ∀ {other : String} {a' : SessionOwnerRow},
      (s.tables.putLease id row').leases.lookup other = some a' →
      ∃ a, s.lease other = some a ∧ a.Continues a' ∧
        (a'.releasedAtMicros = a.releasedAtMicros ∨
          a.releasedAtMicros = none ∧ a'.releasedAtMicros = some (releaseMicros now)) := by
    intro other a' ha'
    rcases putLease_cases ha' with ⟨rfl, rfl⟩ | ⟨-, ha⟩
    · exact ⟨row, hrow, hcontinues, hreleased⟩
    · exact ⟨a', ha, SessionOwnerRow.Continues.refl a', Or.inl rfl⟩
  have hleased : ∀ {sel other : String} {a' : SessionOwnerRow},
      (s.tables.putLease id row').Leased sel other a' →
      ∃ a, s.tables.Leased sel other a ∧ a.generation = a'.generation ∧
        (a'.releasedAtMicros = a.releasedAtMicros ∨
          a.releasedAtMicros = none ∧ a'.releasedAtMicros = some (releaseMicros now)) := by
    rintro sel other a' ⟨ha', rfl⟩
    obtain ⟨a, ha, hcont, hrel⟩ := hwas ha'
    exact ⟨a, ⟨ha, hcont.selector.symm⟩, hcont.generation.symm, hrel⟩
  refine ⟨?_, ?_, ?_, ?_, ?_⟩
  · intro sel i j a' b' hi hj hgen
    obtain ⟨a, ha, hga, -⟩ := hleased hi
    obtain ⟨b, hb, hgb, -⟩ := hleased hj
    exact h.distinct sel i j a b ha hb (by rw [hga, hgb, hgen])
  · intro sel i j a' b' hi hj hlt
    obtain ⟨a, ha, hga, hrela⟩ := hleased hi
    obtain ⟨b, hb, hgb, hrelb⟩ := hleased hj
    obtain ⟨released, hset, hbefore⟩ := h.ordered sel i j a b ha hb (by rw [hga, hgb]; exact hlt)
    refine ⟨released, ?_, fun later hlater => ?_⟩
    · rcases hrela with hsame | ⟨hnone, -⟩
      · rw [hsame, hset]
      · rw [hnone] at hset
        cases hset
    · rcases hrelb with hsame | ⟨-, hnow⟩
      · exact hbefore later (by rw [← hsame, hlater])
      · rw [hnow] at hlater
        obtain rfl := Option.some.inj hlater
        exact h.past i a released ha.1 hset
  · intro i a' released ha' hset
    obtain ⟨a, ha, -, hrel⟩ := hwas ha'
    rcases hrel with hsame | ⟨-, hnow⟩
    · exact h.past i a released ha (by rw [← hsame, hset])
    · rw [hnow] at hset
      obtain rfl := Option.some.inj hset
      exact le_rfl
  · intro i a' ha'
    rcases putLease_cases ha' with ⟨rfl, rfl⟩ | ⟨-, ha⟩
    · exact howned
    · exact h.owned i a' ha
  · intro sel i a' hi
    obtain ⟨a, ha, hga, -⟩ := hleased hi
    obtain ⟨d, b, hd, hb, hgd, hle⟩ := h.newest sel i a ha
    by_cases hid : d.leaseId = id
    · obtain rfl : b = row := by
        have hb' := hb.1
        rw [hid] at hb'
        exact Option.some.inj (hb'.symm.trans hrow)
      refine ⟨d, row', hd, ⟨?_, hcontinues.selector.trans hb.2⟩,
        hcontinues.generation.trans hgd, ?_⟩
      · simp [SessionOwnerTables.putLease, OrdMap.lookup_insert, hid]
      · rw [hcontinues.generation, ← hga]
        exact hle
    · refine ⟨d, b, hd, ⟨?_, hb.2⟩, hgd, hga ▸ hle⟩
      simp only [SessionOwnerTables.putLease, OrdMap.lookup_insert, if_neg hid]
      exact hb.1

/-- A new lease, where every other of its selector is released. -/
theorem Sound.declare {id : String} {row : SessionOwnerRow} {lease : SessionOwnerLease}
    (h : s.Sound now) (hfresh : s.lease id = none)
    (hreleased : ∀ j b, s.tables.Leased row.selectorFingerprint j b → b.releasedAtMicros ≠ none)
    (hnext : row.generation = s.tables.nextGeneration row.selectorFingerprint)
    (hnew : row.owner = none ∧ row.activatedAtMicros = none ∧ row.releasedAtMicros = none)
    (hlease : lease.leaseId = id ∧ lease.selectorFingerprint = row.selectorFingerprint ∧
      lease.generation = row.generation) :
    (SessionOwnerSystem.mk (s.tables.putLease id row) (s.declared ++ [lease])).Sound now := by
  have hcases : ∀ {sel other : String} {a : SessionOwnerRow},
      (s.tables.putLease id row).Leased sel other a →
      (other = id ∧ a = row ∧ row.selectorFingerprint = sel) ∨
        (other ≠ id ∧ s.tables.Leased sel other a) := by
    rintro sel other a ⟨ha, hsel⟩
    rcases putLease_cases ha with ⟨rfl, rfl⟩ | ⟨hne, ha⟩
    · exact Or.inl ⟨rfl, rfl, hsel⟩
    · exact Or.inr ⟨hne, ha, hsel⟩
  -- the new lease is of the highest generation
  have hbelow : ∀ {other : String} {a : SessionOwnerRow},
      s.tables.Leased row.selectorFingerprint other a → a.generation < row.generation := by
    intro other a ha
    rw [hnext]
    exact lt_nextGeneration ha
  refine ⟨?_, ?_, ?_, ?_, ?_⟩
  · intro sel i j a b hi hj hgen
    rcases hcases hi with ⟨rfl, rfl, rfl⟩ | ⟨-, ha⟩ <;> rcases hcases hj with ⟨rfl, rfl, hsel⟩ | ⟨-, hb⟩
    · rfl
    · have hlt := hbelow hb
      omega
    · subst hsel
      have hlt := hbelow ha
      omega
    · exact h.distinct sel i j a b ha hb hgen
  · intro sel i j a b hi hj hlt
    rcases hcases hi with ⟨rfl, rfl, rfl⟩ | ⟨-, ha⟩ <;> rcases hcases hj with ⟨rfl, rfl, hsel⟩ | ⟨-, hb⟩
    · omega
    · have hbelow := hbelow hb
      omega
    · subst hsel
      obtain ⟨released, hset⟩ := Option.ne_none_iff_exists'.1 (hreleased i a ha)
      refine ⟨released, hset, fun later hlater => ?_⟩
      rw [hnew.2.2] at hlater
      cases hlater
    · exact h.ordered sel i j a b ha hb hlt
  · intro i a released ha hset
    rcases putLease_cases ha with ⟨rfl, rfl⟩ | ⟨-, ha⟩
    · rw [hnew.2.2] at hset
      cases hset
    · exact h.past i a released ha hset
  · intro i a ha
    rcases putLease_cases ha with ⟨rfl, rfl⟩ | ⟨-, ha⟩
    · simp [hnew.1, hnew.2.1]
    · exact h.owned i a ha
  · intro sel i a hi
    by_cases hsel : row.selectorFingerprint = sel
    · subst hsel
      refine ⟨lease, row, ?_, ⟨?_, rfl⟩, hlease.2.2.symm, ?_⟩
      · simp [SessionOwnerSystem.newest, hlease.2.1]
      · simp [SessionOwnerTables.putLease, OrdMap.lookup_insert, hlease.1]
      · rcases hcases hi with ⟨-, rfl, -⟩ | ⟨-, ha⟩
        · exact le_rfl
        · exact (hbelow ha).le
    · have ha : s.tables.Leased sel i a := by
        rcases hcases hi with ⟨-, -, heq⟩ | ⟨-, ha⟩
        · exact absurd heq hsel
        · exact ha
      obtain ⟨d, b, hd, hb, hgd, hle⟩ := h.newest sel i a ha
      refine ⟨d, b, ?_, ⟨?_, hb.2⟩, hgd, hle⟩
      · have hother : lease.selectorFingerprint ≠ sel := by
          rw [hlease.2.1]
          exact hsel
        simpa [SessionOwnerSystem.newest, List.filter_append, hother] using hd
      · have hne : d.leaseId ≠ id := by
          intro heq
          rw [SessionOwnerSystem.lease, ← heq, hb.1] at hfresh
          cases hfresh
        simp only [SessionOwnerTables.putLease, OrdMap.lookup_insert, if_neg hne]
        exact hb.1

/-- A pruning that takes the newest lease of a selector takes them all: an
older one was released no later. -/
theorem Sound.prune {t : SessionOwnerTables} {snapshot : Snapshot} (h : s.Sound now)
    (ht : t.leases = s.tables.leases) :
    (SessionOwnerSystem.mk (t.pruneSessionOwnerLeases snapshot) s.declared).Sound now := by
  have hkept : ∀ id row, (t.pruneSessionOwnerLeases snapshot).leases.lookup id = some row ↔
      s.lease id = some row ∧ ¬ (snapshot.provesCompleteExactIdentityCoverage = true ∧
        expiredScope snapshot (scopeOf id row) = true) := by
    intro id row
    rw [SessionOwnerSystem.lease, ← ht]
    exact lookup_pruned.1 id row
  have hwas : ∀ {sel id : String} {row : SessionOwnerRow},
      (t.pruneSessionOwnerLeases snapshot).Leased sel id row → s.tables.Leased sel id row :=
    fun hrow => ⟨((hkept _ _).1 hrow.1).1, hrow.2⟩
  refine ⟨?_, ?_, ?_, ?_, ?_⟩
  · exact fun sel i j a b hi hj => h.distinct sel i j a b (hwas hi) (hwas hj)
  · exact fun sel i j a b hi hj => h.ordered sel i j a b (hwas hi) (hwas hj)
  · exact fun i a released ha => h.past i a released ((hkept i a).1 ha).1
  · exact fun i a ha => h.owned i a ((hkept i a).1 ha).1
  · intro sel i a hi
    obtain ⟨d, b, hd, hb, hgd, hle⟩ := h.newest sel i a (hwas hi)
    refine ⟨d, b, hd, ⟨(hkept _ _).2 ⟨hb.1, fun hgone => ?_⟩, hb.2⟩, hgd, hle⟩
    refine ((hkept i a).1 hi.1).2 ⟨hgone.1, ?_⟩
    rcases hle.lt_or_eq with hlt | heq
    · obtain ⟨released, hset, hbefore⟩ := h.ordered sel i d.leaseId a b (hwas hi) hb hlt
      have hexpired := hgone.2
      simp only [expiredScope, scopeOf, Bool.and_eq_true, Option.any_eq_true,
        decide_eq_true_eq] at hexpired ⊢
      obtain ⟨⟨later, hlater, hold⟩, hunseen⟩ := hexpired
      have hle := hbefore later hlater
      exact ⟨⟨released, hset, by omega⟩, by rw [hi.2, ← hb.2]; exact hunseen⟩
    · obtain rfl := h.distinct sel i d.leaseId a b (hwas hi) hb heq
      obtain rfl := Option.some.inj ((hwas hi).1.symm.trans hb.1)
      exact hgone.2

/-- What one call preserves. -/
theorem step_sound (h : s.Sound now) (hnow : now ≤ a.now) : (s.step a).Sound a.now := by
  have hlater := h.mono hnow
  have hchange := step_change s a
  generalize s.step a = s' at hchange ⊢
  cases hchange with
  | same => exact hlater
  | declare hreleased hfresh =>
      exact hlater.declare hfresh hreleased rfl ⟨rfl, rfl, rfl⟩ ⟨rfl, rfl, rfl⟩
  | activate hrow hreleased howner =>
      have hnone := (hlater.owned _ _ hrow).1 howner
      refine hlater.putLease hrow ⟨rfl, rfl, rfl, rfl, rfl, ?_, fun _ h => h⟩ (by simp) (Or.inl rfl)
      intro at_ hat
      rw [hnone] at hat
      cases hat
  | release hrow hreleased =>
      have howned := hlater.owned _ _ hrow
      refine hlater.putLease hrow ⟨rfl, rfl, rfl, rfl, rfl, fun _ h => h, ?_⟩ howned
        (Or.inr ⟨hreleased, rfl⟩)
      intro at_ hat
      rw [hreleased] at hat
      cases hat
  | bind hinserts => exact hlater.prune hinserts.leases

theorem ran_append (steps : List SessionOwnerStep) (a : SessionOwnerStep) :
    ran (steps ++ [a]) = (ran steps).step a := by
  simp [ran]

/-- The clock of a run, and of the run without its last call. -/
theorem clock_append (h : ((steps ++ [a]).map SessionOwnerStep.now).Pairwise (· ≤ ·)) :
    (steps.map SessionOwnerStep.now).Pairwise (· ≤ ·) ∧ ∀ b ∈ steps, b.now ≤ a.now := by
  rw [List.map_append, List.pairwise_append] at h
  refine ⟨h.1, fun b hb => ?_⟩
  exact h.2.2 b.now (List.mem_map_of_mem hb) a.now (by simp)

/-- What every run keeps. -/
theorem ran_sound (hclock : (steps.map SessionOwnerStep.now).Pairwise (· ≤ ·)) :
    ∀ now, (∀ a ∈ steps, a.now ≤ now) → (ran steps).Sound now := by
  induction steps using List.reverseRecOn with
  | nil =>
      intro now _
      refine ⟨?_, ?_, ?_, ?_, ?_⟩ <;>
        simp [ran, start, SessionOwnerTables.empty, SessionOwnerSystem.lease, Leased]
  | append_singleton steps a ih =>
      intro now hnow
      obtain ⟨hbefore, hlast⟩ := clock_append hclock
      rw [ran_append]
      exact (step_sound (ih hbefore a.now hlast) le_rfl).mono (hnow a (by simp))

/-! ## Controllers -/

/-- A controller of a lease was found by a scan of the run, and the lease
admitted it as the lease stood then. Its release may be later than the
scan. -/
def Observed (steps : List SessionOwnerStep) (leaseId : String) (row : SessionOwnerRow)
    (identity : ProcessIdentity) : Prop :=
  ∃ n snapshot process before, steps[n]? = some (.bind snapshot) ∧ process ∈ snapshot.processes ∧
    process.identity = identity ∧ (ran (steps.take n)).lease leaseId = some before ∧
    Admits before process ∧ before.Continues row ∧
    ∀ released, row.releasedAtMicros = some released → before.releasedAtMicros = some released ∨
      releaseMicros snapshot.observedAtUnixMillis ≤ released

/-- A lease goes on by one call. -/
theorem Observed.step {leaseId : String} {row row' : SessionOwnerRow} {identity : ProcessIdentity}
    (h : Observed steps leaseId row identity) (hlast : ∀ b ∈ steps, b.now ≤ a.now)
    (hcontinues : row.Continues row')
    (hreleased : row'.releasedAtMicros = row.releasedAtMicros ∨
      row'.releasedAtMicros = some (releaseMicros a.now)) :
    Observed (steps ++ [a]) leaseId row' identity := by
  obtain ⟨n, snapshot, process, before, hn, hprocess, hidentity, hbefore, hadmits, hcont, hrel⟩ := h
  have hlt : n < steps.length := (List.getElem?_eq_some_iff.1 hn).1
  refine ⟨n, snapshot, process, before, ?_, hprocess, hidentity, ?_, hadmits,
    hcont.trans hcontinues, fun released hset => ?_⟩
  · rw [List.getElem?_append_left hlt, hn]
  · rw [List.take_append_of_le_length hlt.le]
    exact hbefore
  · rcases hreleased with hsame | hnow
    · exact hrel released (by rw [← hsame, hset])
    · rw [hnow] at hset
      obtain rfl := Option.some.inj hset
      have hscan := hlast _ (List.mem_of_getElem? hn)
      exact Or.inr (releaseMicros_mono hscan)

/-- Every controller is of a lease that is left, and was observed. -/
theorem ran_observed (hclock : (steps.map SessionOwnerStep.now).Pairwise (· ≤ ·)) :
    ∀ key c, (ran steps).tables.controllers.lookup key = some c →
      ∃ row, (ran steps).lease c.leaseId = some row ∧ Observed steps c.leaseId row c.identity := by
  induction steps using List.reverseRecOn with
  | nil => simp [ran, start, SessionOwnerTables.empty]
  | append_singleton steps a ih =>
      intro key c hc
      obtain ⟨hbefore, hlast⟩ := clock_append hclock
      have hsound := ran_sound hbefore a.now hlast
      rw [ran_append] at hc ⊢
      -- a row that was written over one the controller's lease had
      have hput : ∀ {id : String} {old new : SessionOwnerRow}, (ran steps).lease id = some old →
          (ran steps).tables.controllers.lookup key = some c → old.Continues new →
          (new.releasedAtMicros = old.releasedAtMicros ∨
            new.releasedAtMicros = some (releaseMicros a.now)) →
          ∃ row, ((ran steps).tables.putLease id new).leases.lookup c.leaseId = some row ∧
            Observed (steps ++ [a]) c.leaseId row c.identity := by
        intro id old new hold hwas hcontinues hreleased
        obtain ⟨row, hrow, hobserved⟩ := ih hbefore key c hwas
        simp only [SessionOwnerTables.putLease, OrdMap.lookup_insert]
        by_cases hid : c.leaseId = id
        · rw [if_pos hid]
          obtain rfl := Option.some.inj (hold.symm.trans (hid ▸ hrow))
          exact ⟨new, rfl, hobserved.step hlast hcontinues hreleased⟩
        · rw [if_neg hid]
          exact ⟨row, hrow, hobserved.step hlast (SessionOwnerRow.Continues.refl row) (Or.inl rfl)⟩
      have hchange := step_change (ran steps) a
      generalize (ran steps).step a = s' at hc hchange ⊢
      cases hchange with
      | same =>
          obtain ⟨row, hrow, hobserved⟩ := ih hbefore key c hc
          exact ⟨row, hrow,
            hobserved.step hlast (SessionOwnerRow.Continues.refl row) (Or.inl rfl)⟩
      | declare _ hfresh =>
          obtain ⟨row, hrow, hobserved⟩ := ih hbefore key c hc
          refine ⟨row, ?_, hobserved.step hlast (SessionOwnerRow.Continues.refl row) (Or.inl rfl)⟩
          have hne : c.leaseId ≠ _ := fun heq => by
            rw [heq, hfresh] at hrow
            cases hrow
          simp only [SessionOwnerSystem.lease, SessionOwnerTables.putLease, OrdMap.lookup_insert,
            if_neg hne]
          exact hrow
      | activate hrow hreleased howner =>
          refine hput hrow hc ⟨rfl, rfl, rfl, rfl, rfl, ?_, fun _ h => h⟩ (Or.inl rfl)
          intro at_ hat
          rw [(hsound.owned _ _ hrow).1 howner] at hat
          cases hat
      | release hrow hreleased =>
          refine hput hrow hc ⟨rfl, rfl, rfl, rfl, rfl, fun _ h => h, ?_⟩ (Or.inr rfl)
          intro at_ hat
          rw [hreleased] at hat
          cases hat
      | @bind snapshot t hinserts =>
          obtain ⟨hinserted, hkept⟩ := lookup_pruned.2 key c hc
          rcases hinserts.new key c hinserted with hwas | ⟨process, hprocess, row, hrow, hadmits, hid⟩
          · obtain ⟨row, hrow, hobserved⟩ := ih hbefore key c hwas
            refine ⟨row, hkept row (by rw [hinserts.leases]; exact hrow), ?_⟩
            exact hobserved.step hlast (SessionOwnerRow.Continues.refl row) (Or.inl rfl)
          · refine ⟨row, hkept row (by rw [hinserts.leases]; exact hrow), steps.length, snapshot,
              process, row, by simp, hprocess, hid.symm, ?_, hadmits,
              SessionOwnerRow.Continues.refl row, fun released hset => Or.inl hset⟩
            rw [List.take_left]
            exact hrow

/-! ## The whole run -/

/-- **A superseded lease supplies nothing.** In every run whose clock does
not go back: of a selector at most one lease is not released, and the
leases that are left have different generations. Every binding is of the
lease declared last for its selector, also where others were pruned. Its
controller was in a scan of the run, with the lease's selector, session
name and version, the registrar's user and a complete identity, born after
the activation and by the release as the scan read it; a release written
later is later than the scan's time. No task's session is bound. -/
theorem superseded_supplies_nothing
    (hclock : (steps.map SessionOwnerStep.now).Pairwise (· ≤ ·)) :
    (∀ selector i j a b, (ran steps).tables.Leased selector i a →
      (ran steps).tables.Leased selector j b →
      (a.releasedAtMicros = none → b.releasedAtMicros = none → i = j) ∧
      (a.generation = b.generation → i = j)) ∧
    ∀ b ∈ (ran steps).tables.sessionOwnerBindings,
      taskIdFromSession b.sessionName = none ∧
      ∃ newest row, (ran steps).newest b.selectorFingerprint = some newest ∧
        newest.leaseId = b.leaseId ∧ newest.generation = row.generation ∧
        (ran steps).tables.Leased b.selectorFingerprint b.leaseId row ∧
        row.sessionName = b.sessionName ∧ row.controllerVersion = b.controllerVersion ∧
        Observed steps b.leaseId row b.controller := by
  have hsound := ran_sound hclock ((steps.map SessionOwnerStep.now).max?.getD 0) fun a ha =>
    List.le_max?_getD_of_mem (List.mem_map_of_mem ha)
  refine ⟨fun selector i j a b hi hj => ⟨hsound.one_unreleased hi hj,
    hsound.distinct selector i j a b hi hj⟩, fun b hb => ?_⟩
  obtain ⟨key, c, row, hc, hrow, hgreatest, rfl⟩ := mem_sessionOwnerBindings hb
  obtain ⟨row', hrow', hobserved⟩ := ran_observed hclock key c hc
  obtain rfl := Option.some.inj (hrow.symm.trans hrow')
  obtain ⟨newest, last, hnewest, hlast, hgeneration, hle⟩ :=
    hsound.newest _ _ _ (show (ran steps).tables.Leased _ c.leaseId row from ⟨hrow, rfl⟩)
  have heq : row.generation = last.generation := le_antisymm hle (hgreatest _ _ hlast)
  have hid := hsound.distinct _ _ _ _ _ ⟨hrow, rfl⟩ hlast heq
  refine ⟨?_, newest, row, hnewest, hid.symm, by rw [heq, hgeneration], ⟨hrow, rfl⟩, rfl, rfl,
    hobserved⟩
  obtain ⟨n, snapshot, process, before, -, -, -, -, hadmits, hcontinues, -⟩ := hobserved
  obtain ⟨cli, -, -, hname, -, htask⟩ := hadmits.session
  rw [hcontinues.session, ← hname]
  exact htask

/-- The selector of a sample session. -/
def sampleSelector : String := "0123456789abcdef"

/-- The identifiers two samples of leases draw. -/
def sampleLeases : NamespaceToken × NamespaceToken :=
  (⟨"11111111111111111111111111111111", by decide⟩, ⟨"22222222222222222222222222222222", by decide⟩)

/-- A controller of the sample session, of a birth. -/
def ordinaryController (birth : Nat) : ProcessRecord where
  identity := ⟨30, birth, some 1, some 2⟩
  parentPid := 1
  processGroupId := 30
  uid := 501
  ttyDevice := none
  name := "node"
  executablePath := none
  executable := ⟨none, none⟩
  arguments := none
  residentMemoryBytes := 0
  runtime := { playwrightCli := some ⟨"default", "1.63.0", false, false, some sampleSelector⟩ }

/-- One turn of a host: a lease is declared, activated, its controller is
found, and it is released. -/
def sampleTurn (lease : NamespaceToken) (now birth : Nat) : List SessionOwnerStep :=
  [.declare sampleSelector "default" "1.63.0" ⟨10, 500, 501⟩ now lease lease,
    .activate lease.value ⟨20, 500, 501⟩ now,
    .bind ⟨now, 501, [ordinaryController birth], ⟨1, 1, 0, 0, 0⟩⟩,
    .release lease.value now "idle" (some ⟨20, 500, 501⟩)]

/-- After a second turn the binding of the first supplies nothing. -/
theorem superseded_supplies_nothing_two_turns :
    let steps := sampleTurn sampleLeases.1 1 1000 ++ sampleTurn sampleLeases.2 3 3000
    ((ran (sampleTurn sampleLeases.1 1 1000)).tables.sessionOwnerBindings.map
        SessionOwnerBinding.leaseId = [sampleLeases.1.value] ∧
      (ran steps).tables.controllers.values.map SessionOwnerController.leaseId =
        [sampleLeases.2.value, sampleLeases.1.value]) ∧
    ∀ b ∈ (ran steps).tables.sessionOwnerBindings,
      ∃ newest, (ran steps).newest b.selectorFingerprint = some newest ∧
        newest.leaseId = b.leaseId := by
  refine ⟨by decide +kernel, fun b hb => ?_⟩
  obtain ⟨-, newest, -, hnewest, hid, -⟩ :=
    (superseded_supplies_nothing (by decide +kernel)).2 b hb
  exact ⟨newest, hnewest, hid⟩

/-- Two turns, and a third one when both leases have been pruned. -/
def restartedTurns : List SessionOwnerStep :=
  sampleTurn sampleLeases.1 1 1000 ++ sampleTurn sampleLeases.2 3 3000 ++
    .bind ⟨1300000000, 501, [], ⟨0, 0, 0, 0, 0⟩⟩ ::
      sampleTurn sampleLeases.1 1300000001 1300000001000

/-- The numbers start again when all leases of a selector are pruned, so a
binding of generation one is returned after generation two was declared;
and a controller can be younger than its lease's release, which was not
written yet when the scan bound it. -/
theorem generation_restarts_and_born_late :
    (¬ ∀ steps : List SessionOwnerStep, (steps.map SessionOwnerStep.now).Pairwise (· ≤ ·) →
      ∀ d ∈ (ran steps).declared, ∀ b ∈ (ran steps).tables.sessionOwnerBindings,
        b.selectorFingerprint = d.selectorFingerprint →
        ∀ row, (ran steps).lease b.leaseId = some row → d.generation ≤ row.generation) ∧
    ¬ ∀ steps : List SessionOwnerStep, (steps.map SessionOwnerStep.now).Pairwise (· ≤ ·) →
      ∀ b ∈ (ran steps).tables.sessionOwnerBindings, ∀ row, (ran steps).lease b.leaseId = some row →
        ∀ released, row.releasedAtMicros = some released →
          b.controller.startedAtUnixMicros ≤ released := by
  constructor
  · intro h
    have hbelow := h restartedTurns (by decide +kernel)
      ⟨sampleLeases.2.value, "default", sampleSelector, 2, sampleLeases.2⟩ (by decide +kernel)
      ⟨sampleLeases.1.value, sampleSelector, "default", "1.63.0",
        ⟨30, 1300000001000, some 1, some 2⟩, true⟩ (by decide +kernel) rfl
      ⟨sampleLeases.1, sampleSelector, "default", "1.63.0", 1, ⟨10, 500, 501⟩,
        some ⟨20, 500, 501⟩, 1300000001, some 1300000001000, some 1300000002000, some "idle"⟩
      (by decide +kernel)
    exact absurd hbelow (by decide)
  · intro h
    have hborn := h (sampleTurn sampleLeases.1 1 9000) (by decide +kernel)
      ⟨sampleLeases.1.value, sampleSelector, "default", "1.63.0", ⟨30, 9000, some 1, some 2⟩, true⟩
      (by decide +kernel)
      ⟨sampleLeases.1, sampleSelector, "default", "1.63.0", 1, ⟨10, 500, 501⟩,
        some ⟨20, 500, 501⟩, 1, some 1000, some 2000, some "idle"⟩
      (by decide +kernel) 2000 rfl
    exact absurd hborn (by decide)

end SessionOwnerSystem

end Unlinger
