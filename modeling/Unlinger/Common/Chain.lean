import Mathlib.Tactic.Common

/-!
# Chains of a partial step

A step that may be missing, followed again and again: what comes after `n`
steps, what leads where, and what comes back to itself. A chain is settled
by where it stands, so two places of it that agree agree for ever.
-/

namespace Unlinger

namespace Chain

variable {α : Type} {next : α → Option α} {x y z : α} {i j m n : Nat}

/-- Where `n` steps lead, if they are there. -/
def after (next : α → Option α) : Nat → α → Option α
  | 0, x => some x
  | n + 1, x => (next x).bind (after next n)

/-- Some number of steps leads from `x` to `y`; none leads to `x` itself. -/
def Leads (next : α → Option α) (x y : α) : Prop := ∃ n, after next n x = some y

/-- The chain of `x` comes to one place twice. -/
def Revisits (next : α → Option α) (x : α) : Prop :=
  ∃ i j y, i < j ∧ after next i x = some y ∧ after next j x = some y

@[simp] theorem after_zero : after next 0 x = some x := rfl

theorem after_succ : after next (n + 1) x = (next x).bind (after next n) := rfl

@[simp] theorem after_one : after next 1 x = next x := by
  cases h : next x <;> simp [after, h]

/-- So many steps, and then so many more. -/
theorem after_add : after next (m + n) x = (after next m x).bind (after next n) := by
  induction m generalizing x with
  | zero => rw [Nat.zero_add, after_zero, Option.bind_some]
  | succ m ih =>
      rw [Nat.succ_add, after_succ, after_succ]
      cases next x with
      | none => rfl
      | some y => exact ih

/-- The last step of a chain. -/
theorem after_concat : after next (n + 1) x = (after next n x).bind next := by
  rw [after_add]
  congr 1
  exact funext fun y => after_one

/-- A chain that is there has every place before. -/
theorem exists_after_of_le (h : after next n x = some y) (hle : m ≤ n) :
    ∃ z, after next m x = some z ∧ after next (n - m) z = some y := by
  obtain ⟨k, rfl⟩ := Nat.exists_eq_add_of_le hle
  rw [after_add] at h
  obtain ⟨z, hz, hy⟩ := Option.bind_eq_some_iff.1 h
  exact ⟨z, hz, by rwa [Nat.add_sub_cancel_left]⟩

/-- Two places that agree agree after any number of further steps. -/
theorem after_add_congr (h : after next i x = after next j x) :
    after next (i + n) x = after next (j + n) x := by
  rw [after_add, after_add, h]

/-- **Induction along what leads to a place**: a set that holds the place,
and with a point everything one step before it, holds all that leads
there. -/
theorem Leads.mem_of_closed {S : α → Prop} (h : Leads next x y) (hy : S y)
    (hclosed : ∀ u v, next u = some v → S v → S u) : S x := by
  obtain ⟨n, hn⟩ := h
  induction n generalizing x with
  | zero =>
      obtain rfl := Option.some.inj hn
      exact hy
  | succ n ih =>
      obtain ⟨z, hz, hrest⟩ := Option.bind_eq_some_iff.1 hn
      exact hclosed x z hz (ih hrest)

theorem Leads.refl : Leads next x x := ⟨0, rfl⟩

theorem Leads.head (hstep : next x = some y) (h : Leads next y z) : Leads next x z := by
  obtain ⟨n, hn⟩ := h
  exact ⟨n + 1, by rw [after_succ, hstep]; exact hn⟩

/-- A place whose chain ends does not come back to itself. -/
theorem after_ne_of_acc (h : Acc (fun y x => next x = some y) x) (hm : 0 < m) :
    after next m x ≠ some x := by
  induction h with
  | intro x _ ih =>
      intro hloop
      obtain ⟨k, rfl⟩ := Nat.exists_eq_add_of_le' hm
      obtain ⟨y, hy, hback⟩ := Option.bind_eq_some_iff.1 hloop
      refine ih y hy ?_
      rw [after_concat, hback]
      exact hy

theorem acc_after (h : Acc (fun y x => next x = some y) x) (hy : after next n x = some y) :
    Acc (fun y x => next x = some y) y := by
  induction n generalizing x with
  | zero =>
      obtain rfl := Option.some.inj hy
      exact h
  | succ n ih =>
      obtain ⟨z, hz, hrest⟩ := Option.bind_eq_some_iff.1 hy
      exact ih (h.inv hz) hrest

/-- A chain that ends comes to no place twice. -/
theorem not_revisits_of_acc (h : Acc (fun y x => next x = some y) x) : ¬ Revisits next x := by
  rintro ⟨i, j, y, hij, hi, hj⟩
  obtain ⟨z, hz, hloop⟩ := exists_after_of_le hj (Nat.le_of_lt hij)
  obtain rfl := Option.some.inj (hi.symm.trans hz)
  exact after_ne_of_acc (acc_after h hi) (Nat.sub_pos_of_lt hij) hloop

/-! ## The places of a chain, one after another -/

/-- The list holds the first places of a chain that starts at `start`. -/
def Places (next : α → Option α) (start : Option α) (places : List α) : Prop :=
  ∀ i (h : i < places.length), start.bind (after next i) = some (places.get ⟨i, h⟩)

theorem Places.nil {start : Option α} : Places next start [] := fun _ h => absurd h (Nat.not_lt_zero _)

theorem Places.cons {places : List α} (h : Places next (next x) places) :
    Places next (some x) (x :: places) := by
  intro i hi
  cases i with
  | zero => rfl
  | succ i => exact h i (Nat.lt_of_succ_lt_succ hi)

/-- **A chain that came back holds all it will ever come to**: where the
places are followed by one of them, every later place is one of them. -/
theorem Places.mem_of_returns {start : Option α} {places : List α}
    (h : Places next start places)
    (hback : ∃ y ∈ places, start.bind (after next places.length) = some y)
    (hn : start.bind (after next n) = some z) : z ∈ places := by
  obtain ⟨y, hy, hlast⟩ := hback
  obtain ⟨⟨i, hi⟩, rfl⟩ := List.mem_iff_get.1 hy
  cases start with
  | none => cases hn
  | some x =>
      have hagree : after next places.length x = after next i x :=
        hlast.trans (h i hi).symm
      -- by the place: past the return, it is one that came before
      induction n using Nat.strongRecOn with
      | ind n ih =>
          by_cases hlt : n < places.length
          · have hz : some z = some (places.get ⟨n, hlt⟩) := hn.symm.trans (h n hlt)
            rw [Option.some.inj hz]
            exact List.get_mem places _
          · obtain ⟨k, rfl⟩ := Nat.exists_eq_add_of_le (Nat.le_of_not_lt hlt)
            have hi' : i + k < places.length + k := Nat.add_lt_add_right hi k
            refine ih (i + k) hi' ?_
            rw [← hn]
            exact (after_add_congr hagree).symm

end Chain

end Unlinger
