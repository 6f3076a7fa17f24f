import Unlinger.Core.Helpers.Execute
import Unlinger.Daemon.Helpers.Store

/-!
# Journalling how an action ended

An action is prepared before its signal is sent or its artifact removed,
and completed after. The two are stamped with two samples of the wall
clock, and the tables want them in order. This module says exactly when a
performed action can be journalled, and that a completion is recorded once.
-/

namespace Unlinger

variable {s s' : Store} {t : Nat} {ι δ : Type}

/-! ## The sequences fit -/

namespace Store

/-- The sequence of every journalled action fits the column. -/
structure Sequenced (s : Store) : Prop where
  actions : ∀ id r, s.actions.get id = some r → r.sequence < 2 ^ 63
  artifactActions : ∀ id r, s.artifactActions.get id = some r → r.sequence < 2 ^ 63

theorem sequenced_insert {rows : Table (JournalRow ι δ)} {attemptId : Nat} {new : JournalRow ι δ}
    (h : ∀ id r, rows.get id = some r → r.sequence < 2 ^ 63) (hnew : s.Prepares attemptId new) :
    ∀ id r, (rows.insert new).get id = some r → r.sequence < 2 ^ 63 := by
  intro id r hr
  rw [Table.get_insert] at hr
  split_ifs at hr with hid
  · rw [← Option.some.inj hr]
    exact hnew.sequence
  · exact h id r hr

theorem sequenced_completes {rows rows' : Table (JournalRow ι δ)}
    (h : ∀ id r, rows.get id = some r → r.sequence < 2 ^ 63) (hdone : Completes rows rows') :
    ∀ id r, rows'.get id = some r → r.sequence < 2 ^ 63 := by
  intro id r hr
  obtain ⟨old, hold, hsequence⟩ := hdone.sequence id r hr
  rw [hsequence]
  exact h id old hold

/-- What an operation does keeps the sequences. -/
theorem Sequenced.effect {op : StoreOp} (hs : s.Sequenced) (h : s.Effect op s') : s'.Sequenced := by
  cases h with
  | prepared h => exact ⟨sequenced_insert hs.actions h, hs.artifactActions⟩
  | preparedArtifact h hvalid => exact ⟨hs.actions, sequenced_insert hs.artifactActions h⟩
  | completedAction h => exact ⟨sequenced_completes hs.actions h, hs.artifactActions⟩
  | completedArtifact h => exact ⟨hs.actions, sequenced_completes hs.artifactActions h⟩
  | recovered hone huncertain hstate h =>
      exact ⟨sequenced_completes hs.actions (completeUnknown_completes huncertain.actions_ok),
        sequenced_completes hs.artifactActions
          (completeUnknown_completes huncertain.artifactActions_ok)⟩
  | pruned hok h =>
      have hshrinks := prune_shrinks h
      exact ⟨fun id r hr => hs.actions id r (hshrinks.actions id r hr),
        fun id r hr => hs.artifactActions id r (hshrinks.artifactActions id r hr)⟩
  | _ => exact ⟨hs.actions, hs.artifactActions⟩

theorem Reachable.sequenced (h : s.Reachable) : s.Sequenced := by
  induction h with
  | empty token => constructor <;> simp [Store.empty]
  | perform op hs hop ih => exact ih.effect (perform_effect hs.sound.oneOpen hop)

end Store

/-! ## One table -/

/-- One row of a table got its end, and nothing else changed. -/
structure RecordsEnd (rows rows' : Table (JournalRow ι δ)) (id : Nat) (r : JournalRow ι δ) (t : Nat)
    (d : δ) : Prop where
  lastId : rows'.lastId = rows.lastId
  others : ∀ i, i ≠ id → rows'.get i = rows.get i
  row : ∃ r', rows'.get id = some r' ∧ r'.completed = some (t, d) ∧ r'.attemptId = r.attemptId ∧
    r'.sequence = r.sequence ∧ r'.preparedAt = r.preparedAt ∧ r'.intent = r.intent

/-- The handle of a row. -/
def JournalRow.handle (r : JournalRow ι δ) (id : Nat) : PreparedActionHandle :=
  ⟨id, r.attemptId, r.sequence⟩

variable [DecidableEq δ] {rows rows' : Table (JournalRow ι δ)} {table action : String}
  {name : δ → String} {id : Nat} {r : JournalRow ι δ} {d : δ}

/-- The function an open row is completed by. -/
def completing (table : String) (handle : PreparedActionHandle) (t : Nat) (d : δ) (i : Nat)
    (r : JournalRow ι δ) : Except StoreError (JournalRow ι δ) :=
  if i = handle.id ∧ r.completed.isNone then r.complete table t d else .ok r

theorem completeRow_open (hr : rows.get id = some r) (hopen : r.completed = none) :
    completeRow rows table action name (r.handle id) t d
      = rows.update (completing table (r.handle id) t d) := by
  unfold completeRow
  simp only [JournalRow.handle, hr, found, require, and_self, if_true, hopen, bind, Except.bind]
  rfl

/-- **An open row is completed exactly when its clock did not step back.** -/
theorem completeRow_ok_iff (hr : rows.get id = some r) (hopen : r.completed = none) :
    (∃ rows', completeRow rows table action name (r.handle id) t d = .ok rows') ↔
      r.preparedAt ≤ t := by
  rw [completeRow_open hr hopen, Table.update_ok_iff]
  constructor
  · intro hall
    obtain ⟨r', hr'⟩ := hall id r hr
    rw [completing, if_pos ⟨rfl, by simp [hopen]⟩] at hr'
    exact (complete_eq_ok.1 hr').1
  · intro hle i x hx
    unfold completing
    split_ifs with hi
    · obtain rfl : x = r := by
        rw [hi.1] at hx
        exact Option.some.inj (hx.symm.trans hr)
      exact ⟨_, complete_eq_ok.2 ⟨hle, rfl⟩⟩
    · exact ⟨x, rfl⟩

/-- What completing an open row leaves. -/
theorem completeRow_records (hr : rows.get id = some r) (hopen : r.completed = none)
    (h : completeRow rows table action name (r.handle id) t d = .ok rows') :
    RecordsEnd rows rows' id r t d := by
  rw [completeRow_open hr hopen] at h
  have hget : ∀ i x, rows'.get i = some x ↔
      ∃ w, rows.get i = some w ∧ completing table (r.handle id) t d i w = .ok x :=
    fun _ _ => Table.get_update h
  refine ⟨Table.lastId_update h, fun i hi => ?_, ?_⟩
  · have hkept : ∀ x : JournalRow ι δ, completing table (r.handle id) t d i x = .ok x := by
      intro x
      exact if_neg fun hc => hi hc.1
    refine Option.ext fun x => ?_
    rw [hget i x]
    constructor
    · rintro ⟨old, hold, hx⟩
      rw [hkept old] at hx
      rw [← Except.ok.inj hx]
      exact hold
    · intro hx
      exact ⟨x, hx, hkept x⟩
  · obtain ⟨r', hr'⟩ := Table.update_ok_iff.1 ⟨rows', h⟩ id r hr
    have hrow := (hget id r').2 ⟨r, hr, hr'⟩
    rw [completing, if_pos ⟨rfl, by simp [hopen]⟩] at hr'
    obtain ⟨hle, heq⟩ := complete_eq_ok.1 hr'
    refine ⟨r', hrow, ?_⟩
    rw [heq]
    exact ⟨rfl, rfl, rfl, rfl, rfl⟩

/-- A row that ended takes the same end again and refuses another. -/
theorem completeRow_again {t' : Nat} {d' : δ} (h : RecordsEnd rows rows' id r t d) :
    completeRow rows' table action name (r.handle id) t' d'
      = if d = d' then .ok rows'
        else .error (.invalid (action ++ " has conflicting disposition: stored " ++ name d
          ++ ", requested " ++ name d')) := by
  obtain ⟨r', hget, hdone, hattempt, hsequence, -⟩ := h.row
  unfold completeRow
  simp only [JournalRow.handle, hget, found, require, hattempt, hsequence, and_self, if_true, hdone,
    bind, Except.bind]
  by_cases hd : d = d'
  · rw [if_pos hd, if_pos hd]
    rfl
  · rw [if_neg hd, if_neg hd]

/-! ## One completion -/

/-- A completion was journalled: the row got exactly this end and nothing
else of the store changed; the same end is taken again, and another
refused. -/
def CompletesRow (complete : Store → PreparedActionHandle → Nat → δ → Except StoreError Store)
    (rowsIn : Store → Table (JournalRow ι δ)) (put : Store → Table (JournalRow ι δ) → Store)
    (s : Store) (id : Nat) (r : JournalRow ι δ) (t : Nat) (d : δ) : Prop :=
  ∃ s', complete s (r.handle id) t d = .ok s' ∧ s' = put s (rowsIn s') ∧
    RecordsEnd (rowsIn s) (rowsIn s') id r t d ∧
    (∀ t' < 2 ^ 63, complete s' (r.handle id) t' d = .ok s') ∧
    ∀ t' d', d ≠ d' → ∃ e, complete s' (r.handle id) t' d' = .error e

/-- **A completion is journalled exactly when its clock did not step
back.** -/
theorem completesRow_iff {complete : Store → PreparedActionHandle → Nat → δ → Except StoreError Store}
    {rowsIn : Store → Table (JournalRow ι δ)} {put : Store → Table (JournalRow ι δ) → Store}
    {stamp number : String}
    (hcomplete : ∀ s h t d, complete s h t d = do
      let at_ ← sqliteMillis t stamp
      let _ ← sqliteMillis h.sequence number
      let rows ← completeRow (rowsIn s) table action name h at_ d
      return put s rows)
    (hrows : ∀ s rows, rowsIn (put s rows) = rows)
    (hput : ∀ s rows rows', put (put s rows) rows' = put s rows')
    (hr : (rowsIn s).get id = some r) (hopen : r.completed = none) (hseq : r.sequence < 2 ^ 63)
    (ht : t < 2 ^ 63) : CompletesRow complete rowsIn put s id r t d ↔ r.preparedAt ≤ t := by
  have hrun : ∀ s t d s', t < 2 ^ 63 → (complete s (r.handle id) t d = .ok s' ↔
      ∃ rows, completeRow (rowsIn s) table action name (r.handle id) t d = .ok rows ∧
        s' = put s rows) := by
    intro s t d s' ht
    simp only [hcomplete, bind_eq_ok, sqliteMillis_eq_ok, pure_eq_ok]
    constructor
    · rintro ⟨_, ⟨-, rfl⟩, _, -, rows, hrow, hs'⟩
      exact ⟨rows, hrow, hs'.symm⟩
    · rintro ⟨rows, hrow, hs'⟩
      exact ⟨t, ⟨ht, rfl⟩, r.sequence, ⟨hseq, rfl⟩, rows, hrow, hs'.symm⟩
  constructor
  · rintro ⟨s', hok, -⟩
    obtain ⟨rows, hrow, -⟩ := (hrun s t d s' ht).1 hok
    exact (completeRow_ok_iff hr hopen).1 ⟨rows, hrow⟩
  · intro hle
    have hok : ∃ rows, completeRow (rowsIn s) table action name (r.handle id) t d = .ok rows :=
      (completeRow_ok_iff hr hopen).2 hle
    obtain ⟨rows, hrow⟩ := hok
    have hends := completeRow_records hr hopen hrow
    refine ⟨put s rows, (hrun s t d _ ht).2 ⟨rows, hrow, rfl⟩, by rw [hrows],
      by rw [hrows]; exact hends, fun t' ht' => ?_, fun t' d' hd => ?_⟩
    · refine (hrun _ t' d _ ht').2 ⟨rows, ?_, (hput s rows rows).symm⟩
      rw [hrows, completeRow_again hends, if_pos rfl]
    · -- whatever the time, the stored disposition is another
      cases hagain : complete (put s rows) (r.handle id) t' d' with
      | error e => exact ⟨e, rfl⟩
      | ok s'' =>
          rw [hcomplete] at hagain
          simp only [bind_eq_ok, hrows] at hagain
          obtain ⟨_, -, _, -, rows', hrow', -⟩ := hagain
          rw [completeRow_again hends, if_neg hd] at hrow'
          cases hrow'

/-! ## Every reachable store -/

namespace Store

/-- **A performed action can be journalled exactly when the clock has not
stepped back behind its preparation**, be it a signal or a removal. -/
theorem journalled_iff_inOrder {id : Nat} (h : s.Reachable) (ht : t < 2 ^ 63) :
    (∀ r d, s.actions.get id = some r → r.completed = none →
      (CompletesRow completeCleanupAction Store.actions (fun s rows => { s with actions := rows })
        s id r t d ↔ r.preparedAt ≤ t)) ∧
    ∀ r d, s.artifactActions.get id = some r → r.completed = none →
      (CompletesRow completeCleanupArtifactAction Store.artifactActions
        (fun s rows => { s with artifactActions := rows }) s id r t d ↔ r.preparedAt ≤ t) := by
  have hfits := h.sequenced
  constructor
  · intro r d hr hopen
    exact completesRow_iff (fun _ _ _ _ => rfl) (fun _ _ => rfl) (fun _ _ _ => rfl) hr hopen
      (hfits.actions id r hr) ht
  · intro r d hr hopen
    exact completesRow_iff (fun _ _ _ _ => rfl) (fun _ _ => rfl) (fun _ _ _ => rfl) hr hopen
      (hfits.artifactActions id r hr) ht

/-- A worker began at 10 and prepared a signal at 12. -/
def signalling : Store :=
  built [.beginCleanupAttempt 10 sampleReport "epoch",
    .prepareCleanupAction ⟨1, "incident"⟩ 0 12 ⟨.primaryTerm, 101, "browser", .term⟩]

/-- The prepared signal. -/
def signallingRow : ActionRow := ⟨1, 0, 12, ⟨.primaryTerm, 101, "browser", .term⟩, none, by simp⟩

theorem signalling_get : signalling.actions.get 1 = some signallingRow := by
  decide +kernel

/-- The signal was delivered, the clock stepped back by a millisecond, and
the delivery cannot be journalled. -/
theorem delivered_not_journalled : ¬ ∀ (s : Store) (id t : Nat) (r : ActionRow)
    (d : SignalDisposition), s.Reachable → t < 2 ^ 63 → s.actions.get id = some r →
    r.completed = none → CompletesRow completeCleanupAction Store.actions
      (fun s rows => { s with actions := rows }) s id r t d := by
  intro hall
  obtain ⟨s', hok, -⟩ := hall signalling 1 11 signallingRow .delivered built_reachable (by decide)
    signalling_get rfl
  have hfails : (signalling.completeCleanupAction (signallingRow.handle 1) 11
      .delivered).toOption.isNone = true := by
    decide +kernel
  rw [hok] at hfails
  cases hfails

/-- A millisecond later it can. -/
theorem journalled_iff_inOrder_signalling : signalling.Reachable ∧
    CompletesRow completeCleanupAction Store.actions (fun s rows => { s with actions := rows })
      signalling 1 signallingRow 13 .delivered :=
  ⟨built_reachable, ((journalled_iff_inOrder built_reachable (by decide)).1 signallingRow .delivered
    signalling_get rfl).2 (by decide)⟩

end Store

end Unlinger
