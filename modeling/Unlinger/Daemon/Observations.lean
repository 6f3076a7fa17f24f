import Unlinger.Common.RunLength
import Unlinger.Core.Helpers.Execute
import Unlinger.Daemon.Helpers.Store

/-!
# Observations as spans

An observation that says what the incident's newest event says extends it,
and any other is a new event; the events of a cleanup come between. Over a
run whose times do not go back, and which prunes nothing, the events of an
incident are a run-length encoding of what was recorded of it.
-/

namespace Unlinger

open RunLength

/-- The semantic comparison is one of equal parts. -/
theorem observationsSemanticallyEqual_alike : Alike observationsSemanticallyEqual where
  refl r := by simp [observationsSemanticallyEqual]
  symm a b h := by
    simp only [observationsSemanticallyEqual, Bool.and_eq_true, beq_iff_eq] at h ⊢
    obtain ⟨⟨⟨⟨⟨⟨⟨⟨⟨h₁, h₂⟩, h₃⟩, h₄⟩, h₅⟩, h₆⟩, h₇⟩, h₈⟩, h₉⟩, h₁₀⟩ := h
    exact ⟨⟨⟨⟨⟨⟨⟨⟨⟨h₁.symm, h₂.symm⟩, h₃.symm⟩, h₄.symm⟩, h₅.symm⟩, h₆.symm⟩, h₇.symm⟩, h₈.symm⟩,
      h₉.symm⟩, h₁₀.symm⟩
  trans a b c h h' := by
    simp only [observationsSemanticallyEqual, Bool.and_eq_true, beq_iff_eq] at h h' ⊢
    obtain ⟨⟨⟨⟨⟨⟨⟨⟨⟨h₁, h₂⟩, h₃⟩, h₄⟩, h₅⟩, h₆⟩, h₇⟩, h₈⟩, h₉⟩, h₁₀⟩ := h
    simpa only [h₁, h₂, h₃, h₄, h₅, h₆, h₇, h₈, h₉, h₁₀] using h'

/-- An event as what it stands for. -/
def EventRow.item (e : EventRow) : Item ObservationRecord :=
  match e.payload with
  | .observation report => .span ⟨e.firstOccurredAt, e.occurredAt, e.observationCount, report⟩
  | .cleanup _ => .mark e.occurredAt

theorem EventRow.item_time (e : EventRow) : e.item.time = e.occurredAt := by
  unfold EventRow.item
  cases e.payload with
  | observation report => rfl
  | cleanup receipt => rfl

theorem EventRow.item_extend {e : EventRow} {t : Nat} (previous : ObservationRecord)
    {report : ObservationRecord} (h : e.occurredAt ≤ t) :
    (e.extend t report h).item = .span
      (Span.extend ⟨e.firstOccurredAt, e.occurredAt, e.observationCount, previous⟩ t report) := by
  unfold EventRow.item EventRow.extend Span.extend
  rfl

/-- The newest of events in order is the last. -/
theorem latestOf_eq_getLast? {events : List (Nat × EventRow)}
    (h : events.Pairwise fun a b => a.2.occurredAt ≤ b.2.occurredAt) :
    latestOf events = events.getLast? := by
  induction events using List.reverseRecOn with
  | nil => rfl
  | append_singleton events e ih =>
      obtain ⟨hinit, -, hle⟩ := List.pairwise_append.1 h
      have hlatest : latestOf events = events.getLast? := ih hinit
      unfold latestOf at hlatest ⊢
      rw [List.foldl_append, hlatest, List.getLast?_concat]
      cases hlast : events.getLast? with
      | none => rfl
      | some b =>
          have hb : b.2.occurredAt ≤ e.2.occurredAt :=
            hle b (List.mem_of_getLast? hlast) e List.mem_cons_self
          exact if_pos hb

namespace Store

variable {s s' : Store} {i : String} {t : Nat}

/-! ## The events of an incident -/

/-- The events of an incident, as they are numbered. -/
def rowsFor (s : Store) (i : String) : List (Nat × EventRow) :=
  s.events.entries.filter fun e => e.2.incidentId == i

/-- The events of an incident by time, and by number where the time is the
same. -/
def incidentEvents (s : Store) (i : String) : List (Nat × EventRow) :=
  (s.rowsFor i).insertionSort fun a b =>
    a.2.occurredAt < b.2.occurredAt ∨ a.2.occurredAt = b.2.occurredAt ∧ a.1 ≤ b.1

/-- What the events of an incident stand for. -/
def itemsFor (s : Store) (i : String) : List (Item ObservationRecord) :=
  (s.rowsFor i).map fun e => e.2.item

/-- Rows numbered as they happened, none of them after `now`. -/
structure InOrder (rows : List (Nat × EventRow)) (now : Nat) : Prop where
  sorted : rows.Pairwise fun a b => a.2.occurredAt ≤ b.2.occurredAt
  before : ∀ e ∈ rows, e.2.occurredAt ≤ now

theorem InOrder.mono {rows : List (Nat × EventRow)} {now now' : Nat} (h : InOrder rows now)
    (hle : now ≤ now') : InOrder rows now' :=
  ⟨h.sorted, fun e he => le_trans (h.before e he) hle⟩

/-- A row that happens last is in order. -/
theorem InOrder.concat {rows : List (Nat × EventRow)} {now : Nat} {e : Nat × EventRow}
    (h : InOrder rows now) (hnow : now ≤ e.2.occurredAt) :
    InOrder (rows ++ [e]) e.2.occurredAt := by
  have hbefore : ∀ x ∈ rows, x.2.occurredAt ≤ e.2.occurredAt :=
    fun x hx => le_trans (h.before x hx) hnow
  refine ⟨List.pairwise_append.2 ⟨h.sorted, List.pairwise_singleton _ _, fun x hx y hy => ?_⟩,
    fun x hx => ?_⟩
  · obtain rfl := List.mem_singleton.1 hy
    exact hbefore x hx
  · rcases List.mem_append.1 hx with hx | hx
    · exact hbefore x hx
    · obtain rfl := List.mem_singleton.1 hx
      exact Nat.le_refl _

/-- Rows in order without the last are in order. -/
theorem InOrder.init {rows : List (Nat × EventRow)} {now : Nat} {e : Nat × EventRow}
    (h : InOrder (rows ++ [e]) now) : InOrder rows e.2.occurredAt := by
  obtain ⟨hrows, -, hle⟩ := List.pairwise_append.1 h.sorted
  exact ⟨hrows, fun x hx => hle x hx e List.mem_cons_self⟩

theorem rowsFor_ids (s : Store) (i : String) : (s.rowsFor i).Pairwise fun a b => a.1 < b.1 :=
  s.events.rows.sorted.filter _

/-- Events numbered as they happened are by time as they stand. -/
theorem InOrder.incidentEvents_eq {now : Nat} (h : InOrder (s.rowsFor i) now) :
    s.incidentEvents i = s.rowsFor i := by
  unfold incidentEvents
  refine List.Pairwise.insertionSort_eq ?_
  refine (h.sorted.and (s.rowsFor_ids i)).imp fun {a b} hab => ?_
  rcases Nat.lt_or_eq_of_le hab.1 with hlt | heq
  · exact Or.inl hlt
  · exact Or.inr ⟨heq, Nat.le_of_lt hab.2⟩

/-- An appended event is one of its incident. -/
theorem rowsFor_insert {e : EventRow} (hevents : s'.events = s.events.insert e) :
    s'.rowsFor i
      = if e.incidentId = i then s.rowsFor i ++ [(s.events.nextId, e)] else s.rowsFor i := by
  unfold rowsFor
  rw [hevents, Table.entries_insert, List.filter_append]
  by_cases hi : e.incidentId = i
  · simp [hi]
  · simp [hi]

/-- Two rows of one number are one. -/
theorem rowsFor_unique {e e' : Nat × EventRow} (he : e ∈ s.rowsFor i)
    (he' : e' ∈ s.events.entries) (hid : e.1 = e'.1) : e = e' := by
  have hget := Table.mem_entries.1 (List.mem_filter.1 he).1
  rw [hid, Table.mem_entries.1 he'] at hget
  exact Prod.ext hid (Option.some.inj hget).symm

/-! ## One observation -/

/-- The row of a number goes on. -/
def extending (id t : Nat) (report : ObservationRecord) (j : Nat) (e : EventRow) : EventRow :=
  if hi : j = id ∧ e.occurredAt ≤ t then e.extend t report hi.2 else e

/-- Extending one row leaves it where it is, and every other row as it
was. -/
theorem rowsFor_extending {id : Nat} {report : ObservationRecord}
    (hevents : s'.events.entries
      = s.events.entries.map fun e => (e.1, extending id t report e.1 e.2)) (j : String) :
    s'.rowsFor j = (s.rowsFor j).map fun e => (e.1, extending id t report e.1 e.2) := by
  unfold rowsFor
  rw [hevents, List.filter_map]
  congr 1
  refine List.filter_congr fun e _ => ?_
  simp only [Function.comp, extending]
  split_ifs <;> rfl

theorem extending_of_ne {id : Nat} {report : ObservationRecord} {e : Nat × EventRow}
    (hne : e.1 ≠ id) : (e.1, extending id t report e.1 e.2) = e := by
  unfold extending
  rw [dif_neg fun hc => hne hc.1]

/-- Extending an event of one incident changes no other incident. -/
theorem rowsFor_extend_other {id : Nat} {latest : EventRow} {report : ObservationRecord} {j : String}
    (hlatest : (id, latest) ∈ s.rowsFor j)
    (hevents : s'.events.entries
      = s.events.entries.map fun e => (e.1, extending id t report e.1 e.2)) (hi : i ≠ j) :
    s'.rowsFor i = s.rowsFor i := by
  rw [rowsFor_extending hevents]
  refine (List.map_congr_left fun e he => ?_).trans (List.map_id _)
  refine extending_of_ne fun hid => hi ?_
  have hsame := rowsFor_unique he (List.mem_filter.1 hlatest).1 hid
  have hown : e.2.incidentId = i := by simpa using (List.mem_filter.1 he).2
  have hother : latest.incidentId = j := by simpa using (List.mem_filter.1 hlatest).2
  rw [← hown, hsame]
  exact hother

/-- Extending the last event of an incident changes that row alone. -/
theorem rowsFor_extend_last {init : List (Nat × EventRow)} {id : Nat} {latest : EventRow}
    {report : ObservationRecord} (hlast : s.rowsFor i = init ++ [(id, latest)])
    (hle : latest.occurredAt ≤ t)
    (hevents : s'.events.entries
      = s.events.entries.map fun e => (e.1, extending id t report e.1 e.2)) :
    s'.rowsFor i = init ++ [(id, latest.extend t report hle)] := by
  have hids := rowsFor_ids s i
  rw [hlast] at hids
  obtain ⟨-, -, hlt⟩ := List.pairwise_append.1 hids
  rw [rowsFor_extending hevents, hlast, List.map_append]
  congr 1
  · refine (List.map_congr_left fun e he => ?_).trans (List.map_id init)
    exact extending_of_ne (Nat.ne_of_lt (hlt e he (id, latest) List.mem_cons_self))
  · rw [List.map_singleton, extending, dif_pos ⟨rfl, hle⟩]

theorem insertEvent_row {attemptId : Option Nat} {incidentId : String} {state : IncidentState}
    {payload : EventPayload} {eventId : Nat}
    (h : s.insertEvent attemptId t incidentId state payload = .ok (s', eventId)) :
    ∃ e : EventRow, e.incidentId = incidentId ∧ e.payload = payload ∧ e.firstOccurredAt = t ∧
      e.occurredAt = t ∧ e.observationCount = 1 ∧ s'.events = s.events.insert e := by
  simp only [insertEvent, bind_eq_ok, sqliteMillis_eq_ok, pure_eq_ok] at h
  obtain ⟨at_, ⟨-, rfl⟩, heq⟩ := h
  obtain ⟨rfl, rfl⟩ := Prod.mk.inj heq
  exact ⟨_, rfl, rfl, rfl, rfl, rfl, rfl⟩

/-- **What recording an observation does**: it appends an event, or extends
the newest one of its incident, which says the same. -/
inductive Records (s : Store) (t : Nat) (report : ObservationRecord) (s' : Store) : Prop
  | appended {e : EventRow} (hevents : s'.events = s.events.insert e)
      (hincident : e.incidentId = report.incidentId) (hitem : e.item = .single t report)
      (hat : e.occurredAt = t)
      (hnew : ∀ id latest previous, latestOf (s.rowsFor report.incidentId) = some (id, latest) →
        latest.payload = .observation previous →
        ¬ (latest.occurredAt ≤ t ∧ observationsSemanticallyEqual previous report = true))
  | extended {id : Nat} {latest : EventRow} {previous : ObservationRecord}
      (hlatest : latestOf (s.rowsFor report.incidentId) = some (id, latest))
      (hpayload : latest.payload = .observation previous) (hle : latest.occurredAt ≤ t)
      (hsame : observationsSemanticallyEqual previous report = true)
      (hevents : s'.events.entries
        = s.events.entries.map fun e => (e.1, extending id t report e.1 e.2))

theorem upsertObservationSpan_records {report : ObservationRecord} {eventId : Nat}
    (h : s.upsertObservationSpan t report = .ok (s', eventId)) : s.Records t report s' := by
  have happended : s.insertEvent none t report.incidentId report.state (.observation report)
      = .ok (s', eventId) → (∀ id latest previous,
        latestOf (s.rowsFor report.incidentId) = some (id, latest) →
        latest.payload = .observation previous →
        ¬ (latest.occurredAt ≤ t ∧ observationsSemanticallyEqual previous report = true)) →
      s.Records t report s' := by
    intro hins hnew
    obtain ⟨e, hincident, hpayload, hfirst, hat, hcount, hevents⟩ := insertEvent_row hins
    refine .appended hevents hincident ?_ hat hnew
    simp [EventRow.item, hpayload, hfirst, hat, hcount, Item.single]
  simp only [upsertObservationSpan, bind_eq_ok, sqliteMillis_eq_ok] at h
  obtain ⟨at_, ⟨-, rfl⟩, h⟩ := h
  split at h
  · rename_i hnone
    refine happended h fun id latest previous hlatest => ?_
    rw [rowsFor, hnone] at hlatest
    cases hlatest
  · rename_i id latest hlatest
    split at h
    · rename_i receipt hcleanup
      refine happended h fun id' latest' previous hlatest' hpayload => ?_
      obtain ⟨rfl, rfl⟩ := Prod.mk.inj (Option.some.inj (hlatest.symm.trans hlatest'))
      rw [hcleanup] at hpayload
      cases hpayload
    · rename_i previous hpayload
      split_ifs at h with hgoes
      · simp only [bind_eq_ok, pure_eq_ok] at h
        obtain ⟨events, hup, heq⟩ := h
        obtain ⟨rfl, -⟩ := Prod.mk.inj heq
        exact .extended hlatest hpayload hgoes.1 hgoes.2
          (Table.entries_update (g := extending id at_ report) hup)
      · refine happended h fun id' latest' previous' hlatest' hpayload' => ?_
        obtain ⟨rfl, rfl⟩ := Prod.mk.inj (Option.some.inj (hlatest.symm.trans hlatest'))
        rw [hpayload] at hpayload'
        obtain rfl := EventPayload.observation.inj hpayload'
        exact hgoes

/-- Another incident's events stay as they are. -/
theorem Records.other {report : ObservationRecord} (h : s.Records t report s')
    (hi : i ≠ report.incidentId) : s'.rowsFor i = s.rowsFor i := by
  cases h with
  | appended hevents hincident _ _ _ =>
      rw [rowsFor_insert hevents, if_neg fun hc => hi (hc.symm.trans hincident)]
  | extended hlatest _ _ _ hevents => exact rowsFor_extend_other (latestOf_mem hlatest) hevents hi

/-- **An observation is taken as the encoding takes a value.** -/
theorem Records.own {report : ObservationRecord} {now : Nat} (h : s.Records t report s')
    (hord : InOrder (s.rowsFor report.incidentId) now) (hnow : now ≤ t) :
    s'.itemsFor report.incidentId
        = record observationsSemanticallyEqual (s.itemsFor report.incidentId) (.value t report) ∧
      InOrder (s'.rowsFor report.incidentId) t := by
  have hnewest := latestOf_eq_getLast? hord.sorted
  cases h with
  | @appended e hevents hincident hitem hat hnew =>
      have hrows : s'.rowsFor report.incidentId
          = s.rowsFor report.incidentId ++ [(s.events.nextId, e)] := by
        rw [rowsFor_insert hevents, if_pos hincident]
      refine ⟨?_, ?_⟩
      · have hrecord : record observationsSemanticallyEqual (s.itemsFor report.incidentId)
            (.value t report) = s.itemsFor report.incidentId ++ [.single t report] := by
          refine record_value_append fun x hx hgo => ?_
          rw [itemsFor, List.getLast?_map, Option.map_eq_some_iff] at hx
          obtain ⟨⟨id, latest⟩, hlatest, hx⟩ := hx
          cases hpayload : latest.payload with
          | cleanup receipt => simp [EventRow.item, hpayload] at hx
          | observation previous =>
              simp only [EventRow.item, hpayload, Item.span.injEq] at hx
              subst hx
              exact hnew id latest previous (hnewest.trans hlatest) hpayload hgo
        rw [hrecord, itemsFor, hrows, List.map_append]
        simp [itemsFor, hitem]
      · rw [hrows]
        have hconcat := hord.concat (e := (s.events.nextId, e)) (hnow.trans_eq hat.symm)
        rwa [hat] at hconcat
  | @extended id latest previous hlatest hpayload hle hsame hevents =>
      rw [hnewest] at hlatest
      obtain ⟨init, hrows⟩ := List.getLast?_eq_some_iff.1 hlatest
      have hown := rowsFor_extend_last hrows hle hevents
      have hitem : latest.item = .span ⟨latest.firstOccurredAt, latest.occurredAt,
          latest.observationCount, previous⟩ := by rw [EventRow.item, hpayload]
      refine ⟨?_, ?_⟩
      · rw [itemsFor, hown, itemsFor, hrows, List.map_append, List.map_append]
        simp only [List.map_cons, List.map_nil, hitem, EventRow.item_extend previous]
        exact (record_value_extend hle hsame).symm
      · rw [hown]
        rw [hrows] at hord
        exact hord.init.concat hle

/-! ## A run -/

/-- The events of an incident encode what was recorded, up to `now`. -/
structure Encoded (s : Store) (i : String) (log : List (Entry ObservationRecord)) (now : Nat) :
    Prop where
  encodes : Encodes observationsSemanticallyEqual (s.itemsFor i) log
  inOrder : InOrder (s.rowsFor i) now

/-- What a batch recorded of an incident. -/
def observed (i : String) (t : Nat) (reports : List IncidentReport) :
    List (Entry ObservationRecord) :=
  (reports.filter fun r => r.incidentId == i).map fun r => .value t (.of r)

variable {log : List (Entry ObservationRecord)} {now : Nat}

theorem Encoded.congr (h : s.Encoded i log now) (hrows : s'.rowsFor i = s.rowsFor i)
    {now' : Nat} (hle : now ≤ now') : s'.Encoded i log now' := by
  refine ⟨?_, ?_⟩
  · rw [itemsFor, hrows]
    exact h.encodes
  · rw [hrows]
    exact h.inOrder.mono hle

/-- One observation, of this incident or another. -/
theorem Encoded.record {report : IncidentReport} {eventId : Nat} (h : s.Encoded i log now)
    (hok : s.recordObservation t report = .ok (s', eventId)) (hnow : now ≤ t) :
    s'.Encoded i (log ++ observed i t [report]) t := by
  have hrecords := upsertObservationSpan_records hok
  by_cases hi : report.incidentId = i
  · subst hi
    obtain ⟨hitems, hord⟩ := hrecords.own h.inOrder hnow
    have hlast : ∀ x ∈ (s.itemsFor report.incidentId).getLast?, x.time ≤ t := by
      intro x hx
      rw [itemsFor, List.getLast?_map] at hx
      obtain ⟨e, he, rfl⟩ := Option.map_eq_some_iff.1 hx
      rw [EventRow.item_time]
      exact le_trans (h.inOrder.before e (List.mem_of_getLast? he)) hnow
    have hencodes := h.encodes.record observationsSemanticallyEqual_alike
      (e := .value t (ObservationRecord.of report)) hlast
    refine ⟨?_, hord⟩
    rw [show observed report.incidentId t [report] = [.value t (.of report)] by simp [observed]]
    exact hitems ▸ hencodes
  · rw [show observed i t [report] = [] by simp [observed, hi], List.append_nil]
    exact h.congr (hrecords.other (Ne.symm hi)) hnow

/-- A batch, report by report. -/
theorem Encoded.recordAll {reports : List IncidentReport} {ids ids' : List Nat}
    (h : s.Encoded i log now) (hnow : now ≤ t)
    (hok : reports.foldlM (fun (recorded : Store × List Nat) report => do
      let (s, id) ← recorded.1.recordObservation t report
      return (s, recorded.2 ++ [id])) (s, ids) = .ok (s', ids')) :
    s'.Encoded i (log ++ observed i t reports) t := by
  induction reports generalizing s log now ids with
  | nil =>
      obtain ⟨rfl, -⟩ := Prod.mk.inj (Except.ok.inj hok)
      rw [show observed i t [] = [] from rfl, List.append_nil]
      exact h.congr rfl hnow
  | cons report reports ih =>
      simp only [List.foldlM_cons, bind_eq_ok, pure_eq_ok] at hok
      obtain ⟨⟨s₂, ids₂⟩, ⟨⟨s₁, id⟩, hfirst, heq⟩, hrest⟩ := hok
      obtain ⟨rfl, rfl⟩ := Prod.mk.inj heq
      have hall := ih (h.record hfirst hnow) (Nat.le_refl t) hrest
      have hsplit : observed i t (report :: reports)
          = observed i t [report] ++ observed i t reports := by
        simp only [observed, List.filter_cons, List.filter_nil]
        split_ifs <;> simp
      rwa [hsplit, ← List.append_assoc]

/-- The events of cleanups a step appended. -/
def appendedMarks (s s' : Store) (i : String) : List (Entry ObservationRecord) :=
  ((s'.rowsFor i).filter fun e => decide (s.events.lastId < e.1) && e.2.payload.isCleanup).map
    fun e => .mark e.2.occurredAt

/-- Where every cleanup event was there before, none was appended. -/
theorem appendedMarks_eq_nil (h : ∀ id e, e.payload.isCleanup = true →
    s'.events.get id = some e → s.events.get id = some e) : s.appendedMarks s' i = [] := by
  unfold appendedMarks
  rw [List.map_eq_nil_iff, List.filter_eq_nil_iff]
  intro e he
  simp only [Bool.and_eq_true, decide_eq_true_eq, not_and]
  intro hnew hcleanup
  have hget := Table.mem_entries.1 (List.mem_filter.1 he).1
  exact absurd (s.events.bounded e.1 e.2 (h e.1 e.2 hcleanup hget)) (Nat.not_le_of_lt hnew)

/-- A cleanup event ends a span. -/
theorem Encoded.mark {e : EventRow} (h : s.Encoded i log now)
    (hevents : s'.events = s.events.insert e) (hcleanup : e.payload.isCleanup = true)
    (hnow : now ≤ e.occurredAt) :
    s'.Encoded i (log ++ s.appendedMarks s' i) e.occurredAt := by
  have hrows := rowsFor_insert (i := i) hevents
  have hold : ∀ x ∈ s.rowsFor i, ¬ s.events.lastId < x.1 := by
    intro x hx
    exact Nat.not_lt_of_le (s.events.bounded x.1 x.2 (Table.mem_entries.1 (List.mem_filter.1 hx).1))
  have hnone : (s.rowsFor i).filter (fun e =>
      decide (s.events.lastId < e.1) && e.2.payload.isCleanup) = [] := by
    rw [List.filter_eq_nil_iff]
    intro x hx
    simp [hold x hx]
  by_cases hi : e.incidentId = i
  · rw [if_pos hi] at hrows
    have hmarks : s.appendedMarks s' i = [.mark e.occurredAt] := by
      rw [appendedMarks, hrows, List.filter_append, hnone]
      simp [hcleanup, Table.nextId]
    have hitem : e.item = .mark e.occurredAt := by
      unfold EventRow.item
      cases hpayload : e.payload with
      | observation report =>
          rw [hpayload] at hcleanup
          cases hcleanup
      | cleanup receipt => rfl
    rw [hmarks]
    refine ⟨?_, ?_⟩
    · have hencodes := h.encodes.append (Covers.mark e.occurredAt) (x := .mark e.occurredAt)
        (fun y _ => by cases y <;> exact id)
      rw [itemsFor, hrows, List.map_append, List.map_singleton, hitem]
      exact hencodes
    · rw [hrows]
      exact h.inOrder.concat (e := (s.events.nextId, e)) hnow
  · rw [if_neg hi] at hrows
    rw [show s.appendedMarks s' i = [] by rw [appendedMarks, hrows, hnone]; rfl, List.append_nil]
    exact h.congr hrows hnow

end Store

/-- When an operation stamps the events it adds. -/
def StoreOp.eventTime : StoreOp → Option Nat
  | .recordObservation at_ _ => some at_
  | .recordObservationBatch at_ _ => some at_
  | .beginCleanupAttempt at_ _ _ => some at_
  | .completeCleanupAttempt _ at_ _ => some at_
  | .recoverIncompleteAttempts at_ => some at_
  | _ => none

/-- The operation deletes events. -/
def StoreOp.prunes : StoreOp → Bool
  | .prune _ _ _ => true
  | _ => false

/-- The observations of an incident an operation records. -/
def StoreOp.observed (i : String) : StoreOp → List (Entry ObservationRecord)
  | .recordObservation at_ report => Store.observed i at_ [report]
  | .recordObservationBatch at_ reports => Store.observed i at_ reports
  | _ => []

namespace Store

variable {s s' : Store} {i : String} {t : Nat} {log : List (Entry ObservationRecord)} {now : Nat}
  {op : StoreOp}

/-- What an operation recorded of an incident: its observations, and the
events of cleanups it appended. One that failed recorded nothing. -/
def recordedBy (i : String) (s : Store) (op : StoreOp) : List (Entry ObservationRecord) :=
  match s.perform op with
  | .error _ => []
  | .ok s' => op.observed i ++ s.appendedMarks s' i

theorem recordedBy_ok (h : s.perform op = .ok s') :
    s.recordedBy i op = op.observed i ++ s.appendedMarks s' i := by
  rw [recordedBy, h]

theorem recordedBy_error {err : StoreError} (h : s.perform op = .error err) :
    s.recordedBy i op = [] := by
  rw [recordedBy, h]

/-- What operations recorded, one after another. -/
def recordedOver (i : String) : Store → List StoreOp → List (Entry ObservationRecord)
  | _, [] => []
  | s, op :: ops => s.recordedBy i op ++ recordedOver i (s.committed op) ops

/-- The event of a settled attempt. -/
theorem SettledAs.mark {attemptId : Nat} {receipt : CleanupReceipt} {rows : SettledRows}
    (h : s.SettledAs attemptId t receipt rows) :
    rows.event.payload.isCleanup = true ∧ some t = some rows.event.occurredAt :=
  ⟨by rw [h.eventPayload]; rfl, by rw [h.eventTime]⟩

/-- An operation that records no observation and prunes nothing leaves the
events, or appends the event of a cleanup. -/
theorem Effect.events_cases (h : s.Effect op s') (hobserves : op.observes = false)
    (hprunes : op.prunes = false) :
    s'.events = s.events ∨ ∃ e, s'.events = s.events.insert e ∧ e.payload.isCleanup = true ∧
      op.eventTime = some e.occurredAt := by
  cases h with
  | observed _ hop =>
      rw [hobserves] at hop
      cases hop
  | pruned _ _ => cases hprunes
  | began h => exact Or.inr ⟨_, rfl, h.eventPayload, congrArg some h.eventTime.symm⟩
  | completed h => exact Or.inr ⟨_, rfl, h.settled.mark⟩
  | recovered _ _ _ h => exact Or.inr ⟨_, rfl, h.settled.mark⟩
  | _ => exact Or.inl rfl

/-- Recording observations changes no cleanup event. -/
theorem Effect.keeps_cleanups (h : s.Effect op s') (hobserves : op.observes = true) {id : Nat}
    {e : EventRow} (hcleanup : e.payload.isCleanup = true) (he : s'.events.get id = some e) :
    s.events.get id = some e := by
  cases h with
  | same => exact he
  | observed h _ => exact (h.cleanups id e hcleanup).1 he
  | _ => cases hobserves

/-- **One step is encoded**, at a time that does not go back. -/
theorem Encoded.step (hone : s.AtMostOneOpen) (h : s.Encoded i log now)
    (hprunes : op.prunes = false) (htime : ∀ t ∈ op.eventTime, now ≤ t) :
    (s.committed op).Encoded i (log ++ s.recordedBy i op) (op.eventTime.getD now) := by
  rcases committed_cases s op with ⟨s', hok, heq⟩ | ⟨err, herr, heq⟩
  · have heffect := perform_effect hone hok
    rw [heq, recordedBy_ok hok]
    by_cases hobserves : op.observes = true
    · have hnone : s.appendedMarks s' i = [] :=
        appendedMarks_eq_nil fun _ _ hcleanup he => heffect.keeps_cleanups hobserves hcleanup he
      rw [hnone, List.append_nil]
      cases op with
      | recordObservation at_ report =>
          obtain ⟨⟨_, _⟩, hrecord, rfl⟩ := map_eq_ok.1 hok
          exact h.record hrecord (htime at_ rfl)
      | recordObservationBatch at_ reports =>
          obtain ⟨⟨_, _⟩, hrecord, rfl⟩ := map_eq_ok.1 hok
          exact h.recordAll (htime at_ rfl) hrecord
      | _ => cases hobserves
    · have hobserved : op.observed i = [] := by
        cases op with
        | recordObservation at_ report => exact absurd rfl hobserves
        | recordObservationBatch at_ reports => exact absurd rfl hobserves
        | _ => rfl
      rw [hobserved, List.nil_append]
      rcases heffect.events_cases (Bool.eq_false_of_not_eq_true hobserves) hprunes with
        hsame | ⟨e, hevents, hcleanup, hat⟩
      · have hrows : s'.rowsFor i = s.rowsFor i := by rw [rowsFor, rowsFor, hsame]
        have hnone : s.appendedMarks s' i = [] := by
          refine appendedMarks_eq_nil fun id e _ he => ?_
          rwa [hsame] at he
        rw [hnone, List.append_nil]
        refine h.congr hrows ?_
        cases hop : op.eventTime with
        | none => exact Nat.le_refl _
        | some t => exact htime t hop
      · rw [hat]
        exact h.mark hevents hcleanup (htime e.occurredAt hat)
  · rw [heq, recordedBy_error herr, List.append_nil]
    refine h.congr rfl ?_
    cases hop : op.eventTime with
    | none => exact Nat.le_refl _
    | some t => exact htime t hop

/-- **A run is encoded**, step by step. -/
theorem Encoded.run {ops : List StoreOp} (hs : s.Reachable) (h : s.Encoded i log now)
    (hprunes : ∀ op ∈ ops, op.prunes = false)
    (htimes : (now :: ops.filterMap StoreOp.eventTime).Pairwise (· ≤ ·)) :
    ∃ now', (ops.foldl committed s).Encoded i (log ++ s.recordedOver i ops) now' := by
  induction ops generalizing s log now with
  | nil => exact ⟨now, by rw [recordedOver, List.append_nil]; exact h⟩
  | cons op ops ih =>
      have hreach : (s.committed op).Reachable := by
        rcases committed_cases s op with ⟨s', hok, heq⟩ | ⟨_, -, heq⟩
        · rw [heq]
          exact hs.perform op hok
        · rw [heq]
          exact hs
      have htime : ∀ t ∈ op.eventTime, now ≤ t := by
        intro t ht
        refine (List.pairwise_cons.1 htimes).1 t ?_
        exact List.mem_filterMap.2 ⟨op, List.mem_cons_self, ht⟩
      have hrest : (op.eventTime.getD now :: ops.filterMap StoreOp.eventTime).Pairwise (· ≤ ·) := by
        cases hop : op.eventTime with
        | none => simpa [List.filterMap_cons, hop] using htimes
        | some t =>
            rw [List.filterMap_cons, hop] at htimes
            exact (List.pairwise_cons.1 htimes).2
      have hstep := h.step hs.sound.oneOpen (hprunes op List.mem_cons_self) htime
      obtain ⟨now', hrun⟩ := ih hreach hstep (fun x hx => hprunes x (List.mem_cons_of_mem op hx)) hrest
      exact ⟨now', by rw [recordedOver, ← List.append_assoc]; exact hrun⟩

/-- **The history of an incident is a run-length encoding of what was
recorded of it**: from any store that has no event of it, over any
operations whose times do not go back and which prune nothing. Operations
that fail record nothing and change nothing. -/
theorem observations_encode {ops : List StoreOp} (hs : s.Reachable)
    (hnew : ∀ id e, s.events.get id = some e → e.incidentId ≠ i)
    (hprunes : ∀ op ∈ ops, op.prunes = false)
    (htimes : (ops.filterMap StoreOp.eventTime).Pairwise (· ≤ ·)) :
    Encodes observationsSemanticallyEqual
        (((ops.foldl committed s).incidentEvents i).map fun e => e.2.item) (s.recordedOver i ops) ∧
      ((((ops.foldl committed s).incidentEvents i).map fun e => e.2.item).map Item.count).sum
        = (s.recordedOver i ops).countP Entry.isValue ∧
      ∀ (x : Store) op err, x.perform op = .error err → x.committed op = x := by
  have hempty : s.rowsFor i = [] := by
    rw [rowsFor, List.filter_eq_nil_iff]
    intro e he
    simpa using hnew e.1 e.2 (Table.mem_entries.1 he)
  have hstart : s.Encoded i [] 0 := by
    refine ⟨?_, ?_, ?_⟩
    · rw [itemsFor, hempty]
      exact encodes_nil
    · rw [hempty]
      exact List.Pairwise.nil
    · rw [hempty]
      simp
  obtain ⟨now', hrun⟩ := hstart.run hs hprunes
    (List.pairwise_cons.2 ⟨fun _ _ => Nat.zero_le _, htimes⟩)
  rw [List.nil_append] at hrun
  rw [hrun.inOrder.incidentEvents_eq]
  refine ⟨hrun.encodes, hrun.encodes.count_sum, fun x op err herr => ?_⟩
  rw [committed, herr]
  rfl

/-- Two like observations, a cleanup that is recovered, and the same again. -/
def observedRun : List StoreOp :=
  [.recordObservation 10 sampleReport, .recordObservationBatch 20 [sampleReport],
    .beginCleanupAttempt 30 sampleReport "epoch", .recoverIncompleteAttempts 30,
    .recordObservation 30 sampleReport]

/-- They are kept as a span of two, two marks, and a span of one. -/
theorem observations_encode_sample :
    Encodes observationsSemanticallyEqual
      (((observedRun.foldl committed (empty sampleToken)).incidentEvents "incident").map
        fun e => e.2.item)
      ((empty sampleToken).recordedOver "incident" observedRun) ∧
    ((observedRun.foldl committed (empty sampleToken)).incidentEvents "incident").map
      (fun e => (e.2.firstOccurredAt, e.2.occurredAt, e.2.item.count))
      = [(10, 20, 2), (30, 30, 0), (30, 30, 0), (30, 30, 1)] := by
  have hprunes : ∀ op ∈ observedRun, op.prunes = false := by decide
  have htimes : (observedRun.filterMap StoreOp.eventTime).Pairwise (· ≤ ·) := by decide
  obtain ⟨hencodes, -, -⟩ := observations_encode (i := "incident") (Reachable.empty sampleToken)
    (fun _ _ he => by cases he) hprunes htimes
  exact ⟨hencodes, by decide +kernel⟩

end Store

end Unlinger
