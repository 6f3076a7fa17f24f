import Mathlib.Tactic.Common

/-!
# Fallible computations

Guards and lookups that fail with an error of their own, and how to read
back what a computation that succeeded has passed.
-/

namespace Unlinger

variable {ε α β γ : Type}

/-- Go on only where `p` holds. -/
def require (p : Prop) [Decidable p] (err : ε) : Except ε Unit :=
  if p then .ok () else .error err

/-- The value, or the error where there is none. -/
def found (o : Option α) (err : ε) : Except ε α :=
  match o with
  | some a => .ok a
  | none => .error err

theorem require_eq_ok {p : Prop} [Decidable p] {err : ε} {u : Unit} :
    require p err = .ok u ↔ p := by
  unfold require
  split_ifs with h
  · simp [h]
  · simp [h]

theorem found_eq_ok {o : Option α} {err : ε} {a : α} : found o err = .ok a ↔ o = some a := by
  cases o with
  | none => simp [found]
  | some b => simp [found]

theorem ok_bind {a : α} {f : α → Except ε β} : ((.ok a : Except ε α) >>= f) = f a := rfl

theorem error_bind {err : ε} {f : α → Except ε β} : ((.error err : Except ε α) >>= f) = .error err :=
  rfl

/-- A sequence whose second part cannot fail. -/
theorem bind_pure_eq_map {x : Except ε α} {f : α → β} : (x >>= fun a => pure (f a)) = x.map f := by
  cases x with
  | error err => rfl
  | ok a => rfl

/-- A sequence succeeded with what its second part made of its first. -/
theorem bind_eq_ok {x : Except ε α} {f : α → Except ε β} {b : β} :
    (x >>= f) = .ok b ↔ ∃ a, x = .ok a ∧ f a = .ok b := by
  cases x with
  | error err => simp [bind, Except.bind]
  | ok a => simp [bind, Except.bind]

/-- A sequence failed in one of its parts. -/
theorem bind_eq_error {x : Except ε α} {f : α → Except ε β} {err : ε} :
    (x >>= f) = .error err ↔ x = .error err ∨ ∃ a, x = .ok a ∧ f a = .error err := by
  cases x with
  | error e => simp [bind, Except.bind]
  | ok a => simp [bind, Except.bind]

theorem pure_eq_error {a : α} {err : ε} : (pure a : Except ε α) = .error err ↔ False := by
  simp [pure, Except.pure]

theorem pure_eq_ok {a b : α} : (pure a : Except ε α) = .ok b ↔ a = b := by
  simp [pure, Except.pure]

/-- The value there is passes a test. -/
theorem any_toOption {x : Except ε α} {p : α → Bool} :
    x.toOption.any p = true ↔ ∃ a, x = .ok a ∧ p a = true := by
  cases x with
  | error err => simp [Except.toOption]
  | ok a => simp [Except.toOption]

/-- A list is mapped exactly when every element is. -/
theorem mapM_ok_iff {f : α → Except ε β} {xs : List α} :
    (∃ ys, xs.mapM f = .ok ys) ↔ ∀ x ∈ xs, ∃ y, f x = .ok y := by
  induction xs with
  | nil => simp [pure_eq_ok]
  | cons x xs ih =>
      simp only [List.mapM_cons, bind_eq_ok, pure_eq_ok, List.forall_mem_cons, ← ih]
      constructor
      · rintro ⟨ys, y, hy, tail, htail, -⟩
        exact ⟨⟨y, hy⟩, tail, htail⟩
      · rintro ⟨⟨y, hy⟩, tail, htail⟩
        exact ⟨y :: tail, y, hy, tail, htail, rfl⟩

/-- Some image passes a test exactly when some element passes the test
that tells of it. -/
theorem mapM_any {f : α → Except ε β} {p : α → Bool} {q : β → Bool} {xs : List α} {ys : List β}
    (hf : ∀ x ∈ xs, ∀ y, f x = .ok y → q y = p x) (h : xs.mapM f = .ok ys) : ys.any q = xs.any p := by
  induction xs generalizing ys with
  | nil =>
      rw [List.mapM_nil, pure_eq_ok] at h
      subst h
      rfl
  | cons x xs ih =>
      simp only [List.mapM_cons, bind_eq_ok, pure_eq_ok] at h
      obtain ⟨y, hy, tail, htail, rfl⟩ := h
      have hhead : q y = p x := hf x (by simp) y hy
      rw [List.any_cons, List.any_cons, hhead,
        ih (fun x hx => hf x (List.mem_cons_of_mem _ hx)) htail]

/-- Where every element is selected and mapped, the images of the first
ones stand beside them. -/
theorem mapM_take {f : β → Except ε γ} {g : α → Option β} {R : α → γ → Prop} {xs : List α}
    (h : ∀ x ∈ xs, ∃ b c, g x = some b ∧ f b = .ok c ∧ R x c) (n : Nat) :
    ∃ ys, ((xs.filterMap g).take n).mapM f = .ok ys ∧ List.Forall₂ R (xs.take n) ys := by
  induction xs generalizing n with
  | nil => exact ⟨[], by simp [pure_eq_ok], by simp⟩
  | cons x xs ih =>
      obtain ⟨b, c, hb, hc, hR⟩ := h x (by simp)
      cases n with
      | zero => exact ⟨[], by simp [pure_eq_ok], by simp⟩
      | succ n =>
          obtain ⟨ys, hys, hall⟩ := ih (fun y hy => h y (List.mem_cons_of_mem _ hy)) n
          refine ⟨c :: ys, ?_, List.Forall₂.cons hR hall⟩
          rw [List.filterMap_cons_some hb, List.take_succ_cons, List.mapM_cons, bind_eq_ok]
          exact ⟨c, hc, bind_eq_ok.2 ⟨ys, hys, rfl⟩⟩

/-- What every step of a fold keeps, the fold keeps. -/
theorem foldlM_invariant {P : β → Prop} {f : β → α → Except ε β} {xs : List α} {b b' : β}
    (hstep : ∀ c x c', P c → f c x = .ok c' → P c') (hb : P b) (h : xs.foldlM f b = .ok b') :
    P b' := by
  induction xs generalizing b with
  | nil =>
      rw [List.foldlM_nil, pure_eq_ok] at h
      exact h ▸ hb
  | cons x xs ih =>
      rw [List.foldlM_cons, bind_eq_ok] at h
      obtain ⟨c, hc, hrest⟩ := h
      exact ih (hstep b x c hb hc) hrest

/-- A computation succeeded where its value's image did. -/
theorem map_eq_ok {x : Except ε α} {f : α → β} {b : β} :
    x.map f = .ok b ↔ ∃ a, x = .ok a ∧ f a = b := by
  cases x with
  | error err => simp [Except.map]
  | ok a => simp [Except.map]

/-- Renaming an error does not make a success. -/
theorem mapError_eq_ok {ε' : Type} {x : Except ε α} {f : ε → ε'} {a : α} :
    x.mapError f = .ok a ↔ x = .ok a := by
  cases x with
  | error err => simp [Except.mapError]
  | ok b => simp [Except.mapError]

end Unlinger
