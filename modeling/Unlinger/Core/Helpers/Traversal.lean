import Mathlib.Data.List.Sort
import Unlinger.Common.Chain
import Unlinger.Core.Helpers.Lineage

/-!
# What the walks of the graph find

The three walks over the parent relation, each with the argument that
ends it. Downwards, a process is queued as the child of its one parent
only, so what waits and what is not yet queued together shrink with every
step; when the queue is empty the pids seen are closed under children.
Upwards, the pids met are distinct and all but the last have a record.
-/

namespace Unlinger

namespace ProcessGraph

open Chain

variable {g : ProcessGraph} {pid root : Pid} {fuel fuel' : Nat} {queue seen found : List Pid}

/-- The parent of a process. -/
def parentOf (g : ProcessGraph) (pid : Pid) : Option Pid :=
  (g.get pid).map ProcessRecord.parentPid

/-- Every process stands under its own pid. -/
def Keyed (g : ProcessGraph) : Prop := ∀ pid p, g.get pid = some p → p.pid = pid

theorem parentOf_isSome : (g.parentOf pid).isSome = (g.get pid).isSome := Option.isSome_map

theorem mem_childrenOf (hkeyed : g.Keyed) {child : Pid} :
    child ∈ g.childrenOf pid ↔ g.parentOf child = some pid := by
  simp only [childrenOf, processes, List.mem_map, List.mem_filter, OrdMap.mem_values, beq_iff_eq,
    parentOf, Option.map_eq_some_iff]
  constructor
  · rintro ⟨p, ⟨⟨k, hk⟩, hparent⟩, rfl⟩
    have hpid : p.pid = k := hkeyed k p hk
    exact ⟨p, by rw [hpid]; exact hk, hparent⟩
  · rintro ⟨p, hp, hparent⟩
    exact ⟨p, ⟨⟨child, hp⟩, hparent⟩, hkeyed child p hp⟩

/-! ## Downwards -/

/-- The processes no pid seen has queued. -/
def unqueued (g : ProcessGraph) (seen : List Pid) : Nat :=
  g.processes.countP fun p => decide (p.parentPid ∉ seen)

theorem unqueued_le : g.unqueued seen ≤ g.processes.length := List.countP_le_length

/-- A pid seen for the first time queues its children. -/
theorem unqueued_cons (h : pid ∉ seen) :
    g.unqueued (pid :: seen) + (g.childrenOf pid).length = g.unqueued seen := by
  unfold unqueued childrenOf
  rw [List.length_map]
  induction g.processes with
  | nil => rfl
  | cons p ps ih =>
      simp only [List.countP_cons, List.filter_cons, List.mem_cons, not_or] at ih ⊢
      by_cases hp : p.parentPid = pid
      · simp only [hp, h, not_true_eq_false, false_and, decide_false, Bool.false_eq_true, if_false,
          beq_self_eq_true, if_true, List.length_cons, not_false_eq_true, decide_true] at ih ⊢
        omega
      · by_cases hs : p.parentPid ∈ seen
        · simp only [hp, hs, not_true_eq_false, and_false, decide_false, Bool.false_eq_true,
            if_false, beq_iff_eq] at ih ⊢
          omega
        · simp only [hp, hs, not_false_eq_true, and_self, decide_true, if_true, beq_iff_eq,
            if_false] at ih ⊢
          omega

/-- What the walk downwards keeps: it has seen pids from which the root is
reached, found the processes among them, and its queue holds every child
it has yet to see. -/
structure Descending (g : ProcessGraph) (root : Pid) (queue seen found : List Pid) : Prop where
  nodup : found.Nodup
  found : ∀ q, q ∈ found ↔ q ∈ seen ∧ (g.get q).isSome = true
  reaches : ∀ q, q ∈ seen ∨ q ∈ queue → Leads g.parentOf q root
  root : root ∈ seen ∨ root ∈ queue
  closed : ∀ q child, g.parentOf child = some q → q ∈ seen → child ∈ seen ∨ child ∈ queue

/-- A pid seen before leaves the queue. -/
theorem Descending.skip (h : g.Descending root (pid :: queue) seen found) (hmet : pid ∈ seen) :
    g.Descending root queue seen found := by
  have hdrop : ∀ q, q ∈ seen ∨ q ∈ pid :: queue → q ∈ seen ∨ q ∈ queue := by
    intro q hq
    rcases hq with hq | hq
    · exact Or.inl hq
    · rcases List.mem_cons.1 hq with rfl | hq
      · exact Or.inl hmet
      · exact Or.inr hq
  refine ⟨h.nodup, h.found, fun q hq => h.reaches q ?_, hdrop root h.root, fun q child hq hs =>
    hdrop child (h.closed q child hq hs)⟩
  exact hq.imp id (List.mem_cons_of_mem pid)

/-- A pid seen for the first time queues its children. -/
theorem Descending.visit (hkeyed : g.Keyed) (h : g.Descending root (pid :: queue) seen found)
    (hnew : pid ∉ seen) :
    g.Descending root (queue ++ g.childrenOf pid) (pid :: seen)
      (if (g.get pid).isSome then pid :: found else found) := by
  have hpid : Leads g.parentOf pid root := h.reaches pid (Or.inr List.mem_cons_self)
  have hmove : ∀ q, q ∈ seen ∨ q ∈ pid :: queue →
      q ∈ pid :: seen ∨ q ∈ queue ++ g.childrenOf pid := by
    intro q hq
    rcases hq with hq | hq
    · exact Or.inl (List.mem_cons_of_mem pid hq)
    · rcases List.mem_cons.1 hq with rfl | hq
      · exact Or.inl List.mem_cons_self
      · exact Or.inr (List.mem_append_left _ hq)
  refine ⟨?_, fun q => ?_, fun q hq => ?_, hmove root h.root, fun q child hq hs => ?_⟩
  · split_ifs
    · refine List.nodup_cons.2 ⟨fun hin => hnew ?_, h.nodup⟩
      exact ((h.found pid).1 hin).1
    · exact h.nodup
  · by_cases hsome : (g.get pid).isSome = true
    · rw [if_pos hsome, List.mem_cons, List.mem_cons, h.found q]
      constructor
      · rintro (rfl | ⟨hs, hq⟩)
        · exact ⟨Or.inl rfl, hsome⟩
        · exact ⟨Or.inr hs, hq⟩
      · rintro ⟨rfl | hs, hq⟩
        · exact Or.inl rfl
        · exact Or.inr ⟨hs, hq⟩
    · rw [if_neg hsome, List.mem_cons, h.found q]
      constructor
      · rintro ⟨hs, hq⟩
        exact ⟨Or.inr hs, hq⟩
      · rintro ⟨rfl | hs, hq⟩
        · exact absurd hq hsome
        · exact ⟨hs, hq⟩
  · rcases hq with hq | hq
    · rcases List.mem_cons.1 hq with rfl | hq
      · exact hpid
      · exact h.reaches q (Or.inl hq)
    · rcases List.mem_append.1 hq with hq | hq
      · exact h.reaches q (Or.inr (List.mem_cons_of_mem pid hq))
      · exact Leads.head ((mem_childrenOf hkeyed).1 hq) hpid
  · rcases List.mem_cons.1 hs with rfl | hs
    · exact Or.inr (List.mem_append_right _ ((mem_childrenOf hkeyed).2 hq))
    · exact hmove child (h.closed q child hq hs)

/-- With nothing queued, every pid from which the root is reached was
seen. -/
theorem Descending.complete (h : g.Descending root [] seen found) {q : Pid} :
    q ∈ found ↔ (g.get q).isSome = true ∧ Leads g.parentOf q root := by
  rw [h.found q]
  constructor
  · rintro ⟨hs, hq⟩
    exact ⟨hq, h.reaches q (Or.inl hs)⟩
  · rintro ⟨hq, hleads⟩
    refine ⟨?_, hq⟩
    refine hleads.mem_of_closed (S := (· ∈ seen)) ?_ fun u v huv hv => ?_
    · exact h.root.resolve_right List.not_mem_nil
    · exact (h.closed v u huv hv).resolve_right List.not_mem_nil

/-- **The walk downwards is exact**, given a step for everything that
waits or may come to wait. -/
theorem descendants_exact (hkeyed : g.Keyed) (h : g.Descending root queue seen found)
    (hfuel : queue.length + g.unqueued seen ≤ fuel) :
    (descendants g fuel queue seen found).Nodup ∧ ∀ q, q ∈ descendants g fuel queue seen found ↔
      (g.get q).isSome = true ∧ Leads g.parentOf q root := by
  induction fuel generalizing queue seen found with
  | zero =>
      obtain rfl : queue = [] := List.length_eq_zero_iff.1 (by omega)
      exact ⟨h.nodup, fun q => h.complete⟩
  | succ fuel ih =>
      cases queue with
      | nil => exact ⟨h.nodup, fun q => h.complete⟩
      | cons pid queue =>
          rw [List.length_cons] at hfuel
          unfold descendants
          by_cases hmet : pid ∈ seen
          · rw [if_pos hmet]
            exact ih (h.skip hmet) (by omega)
          · rw [if_neg hmet]
            refine ih (h.visit hkeyed hmet) ?_
            have hrest := unqueued_cons (g := g) hmet
            rw [List.length_append]
            omega

/-- The walk downwards has ended by then: more steps change nothing. -/
theorem descendants_fuel (hfuel : queue.length + g.unqueued seen ≤ fuel)
    (hfuel' : queue.length + g.unqueued seen ≤ fuel') :
    descendants g fuel queue seen found = descendants g fuel' queue seen found := by
  induction fuel generalizing fuel' queue seen found with
  | zero =>
      obtain rfl : queue = [] := List.length_eq_zero_iff.1 (by omega)
      cases fuel' <;> rfl
  | succ fuel ih =>
      cases queue with
      | nil => cases fuel' <;> rfl
      | cons pid queue =>
          rw [List.length_cons] at hfuel hfuel'
          obtain ⟨fuel'', rfl⟩ : ∃ n, fuel' = n + 1 := ⟨fuel' - 1, by omega⟩
          unfold descendants
          by_cases hmet : pid ∈ seen
          · rw [if_pos hmet, if_pos hmet]
            exact ih (by omega) (by omega)
          · have hrest := unqueued_cons (g := g) hmet
            rw [if_neg hmet, if_neg hmet]
            refine ih ?_ ?_ <;> rw [List.length_append] <;> omega

theorem descending_start : g.Descending root [root] [] [] where
  nodup := List.nodup_nil
  found := by simp
  reaches := by
    intro q hq
    obtain rfl : q = root := by simpa using hq
    exact Leads.refl
  root := Or.inr List.mem_cons_self
  closed := by simp

theorem start_fuel (h : g.processes.length + 2 ≤ fuel) :
    [root].length + g.unqueued [] ≤ fuel := by
  have hle : g.unqueued [] ≤ g.processes.length := unqueued_le
  rw [List.length_singleton]
  omega

/-- The descendants of a pid are in strict order. -/
theorem descendantPids_sorted (hkeyed : g.Keyed) : (g.descendantPids root).Pairwise (· < ·) := by
  have hstart : g.Descending root [root] [] [] := descending_start
  have hnodup := (descendants_exact hkeyed hstart (start_fuel (Nat.le_refl _))).1
  have hle : (g.descendantPids root).Pairwise (· ≤ ·) := List.pairwise_insertionSort _ _
  have hne : (g.descendantPids root).Nodup :=
    (List.perm_insertionSort _ _).nodup_iff.2 hnodup
  exact hle.imp₂ (fun _ _ h hn => lt_of_le_of_ne h hn) hne

/-- The descendants of a pid are the processes it is reached from. -/
theorem mem_descendantPids_iff (hkeyed : g.Keyed) :
    pid ∈ g.descendantPids root ↔ (g.get pid).isSome = true ∧ Leads g.parentOf pid root := by
  rw [descendantPids, List.mem_insertionSort]
  exact (descendants_exact hkeyed descending_start (start_fuel (Nat.le_refl _))).2 pid

/-! ## Upwards -/

/-- What the walk upwards keeps: the pids met are distinct, and where it
goes on from one of them all have a record. -/
structure Ascending (g : ProcessGraph) (cursor : Option Pid) (seen : List Pid) : Prop where
  nodup : seen.Nodup
  recorded : cursor.isSome = true → ∀ q ∈ seen, (g.get q).isSome = true

variable {cursor : Option Pid}

theorem ascending_start : g.Ascending cursor [] := ⟨List.nodup_nil, by simp⟩

/-- A pid met for the first time is passed. -/
theorem Ascending.visit (h : g.Ascending (some pid) seen) (hnew : pid ∉ seen) :
    g.Ascending (g.parentOf pid) (pid :: seen) := by
  refine ⟨List.nodup_cons.2 ⟨hnew, h.nodup⟩, fun hsome q hq => ?_⟩
  rcases List.mem_cons.1 hq with rfl | hq
  · rwa [parentOf_isSome] at hsome
  · exact h.recorded rfl q hq

/-- A walk upwards that goes on has steps left. -/
theorem Ascending.pos (h : g.Ascending (some pid) seen)
    (hfuel : g.processes.length + 2 ≤ fuel + seen.length) : 0 < fuel := by
  have hle := length_le_processes h.nodup (h.recorded rfl)
  omega

/-- **The walk upwards is exact**: distinct pids of the chain in order,
none of them `0`, and the chain goes on with nothing, with `0` or with a
pid met before. -/
theorem ancestors_exact (h : g.Ascending cursor seen)
    (hfuel : g.processes.length + 2 ≤ fuel + seen.length) :
    Places g.parentOf cursor (ancestors g fuel cursor seen) ∧
      (ancestors g fuel cursor seen).Nodup ∧
      (∀ q ∈ ancestors g fuel cursor seen, q ≠ 0 ∧ q ∉ seen) ∧
      ∀ q, cursor.bind (after g.parentOf (ancestors g fuel cursor seen).length) = some q →
        q = 0 ∨ q ∈ seen ∨ q ∈ ancestors g fuel cursor seen := by
  induction fuel generalizing cursor seen with
  | zero =>
      cases cursor with
      | none => exact ⟨Places.nil, List.nodup_nil, by simp [ancestors], by simp⟩
      | some pid => exact absurd (h.pos hfuel) (Nat.lt_irrefl 0)
  | succ fuel ih =>
      cases cursor with
      | none => exact ⟨Places.nil, List.nodup_nil, by simp [ancestors], by simp⟩
      | some pid =>
          unfold ancestors
          by_cases hstop : pid = 0 ∨ pid ∈ seen
          · rw [if_pos hstop]
            refine ⟨Places.nil, List.nodup_nil, by simp, fun q hq => ?_⟩
            obtain rfl : pid = q := Option.some.inj hq
            exact hstop.imp id Or.inl
          · rw [if_neg hstop]
            obtain ⟨hzero, hnew⟩ := not_or.1 hstop
            obtain ⟨hplaces, hnodup, hfresh, hend⟩ := ih (h.visit hnew) (by simp; omega)
            refine ⟨hplaces.cons, List.nodup_cons.2 ⟨fun hin => ?_, hnodup⟩, fun q hq => ?_,
              fun q hq => ?_⟩
            · exact (hfresh pid hin).2 List.mem_cons_self
            · rcases List.mem_cons.1 hq with rfl | hq
              · exact ⟨hzero, hnew⟩
              · exact ⟨(hfresh q hq).1, fun hs => (hfresh q hq).2 (List.mem_cons_of_mem pid hs)⟩
            · rcases hend q hq with hq | hq | hq
              · exact Or.inl hq
              · rcases List.mem_cons.1 hq with rfl | hq
                · exact Or.inr (Or.inr List.mem_cons_self)
                · exact Or.inr (Or.inl hq)
              · exact Or.inr (Or.inr (List.mem_cons_of_mem pid hq))

/-- The walk upwards has ended by then. -/
theorem ancestors_fuel (h : g.Ascending cursor seen)
    (hfuel : g.processes.length + 2 ≤ fuel + seen.length)
    (hfuel' : g.processes.length + 2 ≤ fuel' + seen.length) :
    ancestors g fuel cursor seen = ancestors g fuel' cursor seen := by
  induction fuel generalizing fuel' cursor seen with
  | zero =>
      cases cursor with
      | none => cases fuel' <;> rfl
      | some pid => exact absurd (h.pos hfuel) (Nat.lt_irrefl 0)
  | succ fuel ih =>
      cases cursor with
      | none => cases fuel' <;> rfl
      | some pid =>
          obtain ⟨fuel'', rfl⟩ := Nat.exists_eq_add_of_le' (h.pos hfuel')
          unfold ancestors
          by_cases hstop : pid = 0 ∨ pid ∈ seen
          · rw [if_pos hstop, if_pos hstop]
          · rw [if_neg hstop, if_neg hstop]
            have hrest : ancestors g fuel (g.parentOf pid) (pid :: seen)
                = ancestors g fuel'' (g.parentOf pid) (pid :: seen) :=
              ih (h.visit (not_or.1 hstop).2) (by simp; omega) (by simp; omega)
            exact congrArg (pid :: ·) hrest

/-- The pids above a process are the first of its chain, distinct and not
`0`; what comes next is nothing, `0` or one of them. -/
theorem ancestorPids_exact (pid : Pid) :
    Places g.parentOf (g.parentOf pid) (g.ancestorPids pid) ∧ (g.ancestorPids pid).Nodup ∧
      0 ∉ g.ancestorPids pid ∧
      ∀ q, after g.parentOf ((g.ancestorPids pid).length + 1) pid = some q →
        q = 0 ∨ q ∈ g.ancestorPids pid := by
  have hstart : g.Ascending (g.parentOf pid) [] := ascending_start
  obtain ⟨hplaces, hnodup, hfresh, hend⟩ := ancestors_exact hstart (Nat.le_refl _)
  refine ⟨hplaces, hnodup, fun hzero => (hfresh 0 hzero).1 rfl, fun q hq => ?_⟩
  exact (hend q hq).imp id fun h => h.resolve_left List.not_mem_nil

/-- **Who is above a process**: those its chain comes to before it comes to
`0`. -/
theorem mem_ancestorPids_iff {above : Pid} (hzero : above ≠ 0) :
    above ∈ g.ancestorPids pid ↔ ∃ n, after g.parentOf (n + 1) pid = some above ∧
      ∀ k ≤ n, after g.parentOf (k + 1) pid ≠ some 0 := by
  obtain ⟨hplaces, -, hnonzero, hend⟩ := ancestorPids_exact (g := g) pid
  constructor
  · intro h
    obtain ⟨⟨i, hi⟩, rfl⟩ := List.mem_iff_get.1 h
    refine ⟨i, hplaces i hi, fun k hk hk0 => hnonzero ?_⟩
    have hk' : k < (g.ancestorPids pid).length := Nat.lt_of_le_of_lt hk hi
    rw [Option.some.inj (hk0.symm.trans (hplaces k hk'))]
    exact List.get_mem _ _
  · rintro ⟨n, hn, havoid⟩
    by_cases hlt : n < (g.ancestorPids pid).length
    · rw [Option.some.inj (hn.symm.trans (hplaces n hlt))]
      exact List.get_mem _ _
    · -- the chain goes on past the list, so it came back to it
      have hle : (g.ancestorPids pid).length ≤ n := Nat.le_of_not_lt hlt
      obtain ⟨q, hq, -⟩ := exists_after_of_le hn (Nat.succ_le_succ hle)
      rcases hend q hq with rfl | hback
      · exact absurd hq (havoid _ hle)
      · exact hplaces.mem_of_returns ⟨q, hback, hq⟩ hn

/-- **Above and below agree** where no chain from one to the other passes
`0`. -/
theorem mem_ancestorPids_iff_mem_descendantPids (hkeyed : g.Keyed) {above : Pid} (hzero : above ≠ 0)
    (hne : pid ≠ above) (hpid : (g.get pid).isSome = true)
    (havoid : ∀ k n, k < n → after g.parentOf n pid = some above →
      after g.parentOf (k + 1) pid ≠ some 0) :
    above ∈ g.ancestorPids pid ↔ pid ∈ g.descendantPids above := by
  rw [mem_ancestorPids_iff hzero, mem_descendantPids_iff hkeyed]
  constructor
  · rintro ⟨n, hn, -⟩
    exact ⟨hpid, n + 1, hn⟩
  · rintro ⟨-, n, hn⟩
    cases n with
    | zero => exact absurd (Option.some.inj hn) hne
    | succ n => exact ⟨n, hn, fun k hk => havoid k (n + 1) (Nat.lt_succ_of_le hk) hn⟩

/-! ## Cycles -/

/-- A lineage that comes back was there before. -/
theorem revisits_of_cycles {n : Nat} (hcursor : cursor = after g.up n root)
    (hseen : ∀ q ∈ seen, ∃ i < n, after g.up i root = some q)
    (h : cycles g fuel cursor seen = true) : Revisits g.up root := by
  induction fuel generalizing cursor seen n with
  | zero => cases h
  | succ fuel ih =>
      cases cursor with
      | none => cases h
      | some current =>
          unfold cycles at h
          by_cases hmet : current ∈ seen
          · obtain ⟨i, hi, hq⟩ := hseen current hmet
            exact ⟨i, n, current, hi, hq, hcursor.symm⟩
          · rw [if_neg hmet] at h
            refine ih (n := n + 1) ?_ (fun q hq => ?_) h
            · rw [after_concat, ← hcursor]
              rfl
            · rcases List.mem_cons.1 hq with rfl | hq
              · exact ⟨n, Nat.lt_succ_self n, hcursor.symm⟩
              · obtain ⟨i, hi, hq⟩ := hseen q hq
                exact ⟨i, Nat.lt_succ_of_lt hi, hq⟩

/-- **A lineage has a cycle where it comes to a pid twice.** -/
theorem lineageHasCycle_iff : g.lineageHasCycle pid = true ↔ Revisits g.up pid := by
  constructor
  · exact revisits_of_cycles (n := 0) rfl (by simp)
  · intro hback
    by_contra hno
    exact not_revisits_of_acc (lineageEnds (Bool.eq_false_of_not_eq_true hno)) hback

/-- The walk for a cycle has ended by then. -/
theorem cycles_fuel (h : g.Ascending cursor seen)
    (hfuel : g.processes.length + 2 ≤ fuel + seen.length)
    (hfuel' : g.processes.length + 2 ≤ fuel' + seen.length) :
    cycles g fuel cursor seen = cycles g fuel' cursor seen := by
  induction fuel generalizing fuel' cursor seen with
  | zero =>
      cases cursor with
      | none => cases fuel' <;> rfl
      | some pid => exact absurd (h.pos hfuel) (Nat.lt_irrefl 0)
  | succ fuel ih =>
      cases cursor with
      | none => cases fuel' <;> rfl
      | some pid =>
          obtain ⟨fuel'', rfl⟩ := Nat.exists_eq_add_of_le' (h.pos hfuel')
          unfold cycles
          by_cases hmet : pid ∈ seen
          · rw [if_pos hmet, if_pos hmet]
          · rw [if_neg hmet, if_neg hmet]
            have hup : g.Ascending (g.up pid) (pid :: seen) := by
              refine ⟨List.nodup_cons.2 ⟨hmet, h.nodup⟩, fun hsome q hq => ?_⟩
              rcases List.mem_cons.1 hq with rfl | hq
              · obtain ⟨parent, hparent⟩ := Option.isSome_iff_exists.1 hsome
                obtain ⟨p, hp, -⟩ := Option.bind_eq_some_iff.1 hparent
                rw [hp]
                rfl
              · exact h.recorded rfl q hq
            exact ih hup (by simp; omega) (by simp; omega)

end ProcessGraph

end Unlinger
