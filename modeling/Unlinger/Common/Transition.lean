import Mathlib.Tactic.Common

/-!
# Runs under a condition

A system that takes one step after another, and runs all of whose steps
meet a condition on the state they start from. What such steps keep, such
runs keep. What a state owes to its past is said with `Since`: a step of
the run did something, and no step after it undid it.
-/

namespace Unlinger

namespace Transition

variable {σ α : Type} {step : σ → α → σ} {ok : σ → α → Prop} {s : σ} {steps : List α}

/-- Every step of the run meets its condition. -/
def Along (step : σ → α → σ) (ok : σ → α → Prop) : σ → List α → Prop
  | _, [] => True
  | s, a :: steps => ok s a ∧ Along step ok (step s a) steps

instance Along.decidable [∀ s a, Decidable (ok s a)] :
    ∀ s steps, Decidable (Along step ok s steps)
  | _, [] => .isTrue trivial
  | s, a :: steps =>
      have := Along.decidable (step s a) steps
      inferInstanceAs (Decidable (ok s a ∧ Along step ok (step s a) steps))

/-- **The invariant rule**: what every step under the condition keeps, a
run under the condition keeps. -/
theorem Along.invariant {P : σ → Prop} (hstep : ∀ s a, P s → ok s a → P (step s a)) (hs : P s)
    (h : Along step ok s steps) : P (steps.foldl step s) := by
  induction steps generalizing s with
  | nil => exact hs
  | cons a steps ih => exact ih (hstep s a hs h.1) h.2

/-- A run under a condition is one under whatever its steps then meet. -/
theorem Along.imp {ok' : σ → α → Prop} (h : Along step ok s steps)
    (himp : ∀ s, ∀ a ∈ steps, ok s a → ok' s a) : Along step ok' s steps := by
  induction steps generalizing s with
  | nil => trivial
  | cons a steps ih =>
      refine ⟨himp s a List.mem_cons_self h.1, ih h.2 fun s' b hb => ?_⟩
      exact himp s' b (List.mem_cons_of_mem a hb)

/-- A run under two conditions is one under each. -/
theorem along_and {ok' : σ → α → Prop} :
    Along step (fun s a => ok s a ∧ ok' s a) s steps
      ↔ Along step ok s steps ∧ Along step ok' s steps := by
  induction steps generalizing s with
  | nil => simp [Along]
  | cons a steps ih =>
      simp only [Along, ih]
      tauto

theorem along_singleton {a : α} : Along step ok s [a] ↔ ok s a := and_iff_left trivial

/-- A run under the condition in two parts. -/
theorem along_append {steps' : List α} :
    Along step ok s (steps ++ steps') ↔
      Along step ok s steps ∧ Along step ok (steps.foldl step s) steps' := by
  induction steps generalizing s with
  | nil => exact (and_iff_right trivial).symm
  | cons a steps ih => exact (and_congr_right fun _ => ih).trans and_assoc.symm

/-- The beginning of a run under the condition is one. -/
theorem Along.take (h : Along step ok s steps) (n : Nat) : Along step ok s (steps.take n) := by
  induction n generalizing s steps with
  | zero => trivial
  | succ n ih =>
      cases steps with
      | nil => trivial
      | cons a steps => exact ⟨h.1, ih h.2⟩

/-! ## The past of a run -/

section Past

variable {did keeps : List α → α → Prop} {a : α}

/-- Some step of the run `did`, and every later one `keeps`; both are told
of a step together with the steps before it. -/
def Since (did keeps : List α → α → Prop) (steps : List α) : Prop :=
  ∃ before a after, steps = before ++ a :: after ∧ did before a ∧
    ∀ middle b rest, after = middle ++ b :: rest → keeps (before ++ a :: middle) b

/-- One more step either does it itself, or keeps what was done. -/
theorem since_concat :
    Since did keeps (steps ++ [a]) ↔ did steps a ∨ (Since did keeps steps ∧ keeps steps a) := by
  constructor
  · rintro ⟨before, b, after, heq, hdid, hkeeps⟩
    rcases List.eq_nil_or_concat after with rfl | ⟨after', c, rfl⟩
    · obtain ⟨rfl, hb⟩ := List.append_inj' heq rfl
      obtain rfl := List.singleton_inj.1 hb
      exact Or.inl hdid
    · have hsplit : steps ++ [a] = (before ++ b :: after') ++ [c] := by simpa using heq
      obtain ⟨rfl, hc⟩ := List.append_inj' hsplit rfl
      obtain rfl := List.singleton_inj.1 hc
      refine Or.inr ⟨⟨before, b, after', rfl, hdid, fun middle d rest hafter => ?_⟩, ?_⟩
      · exact hkeeps middle d (rest ++ [a]) (by simp [hafter])
      · exact hkeeps after' a [] (by simp)
  · rintro (hdid | ⟨⟨before, b, after, rfl, hdid, hkeeps⟩, hlast⟩)
    · exact ⟨steps, a, [], rfl, hdid, fun middle b rest h => by simp at h⟩
    · refine ⟨before, b, after ++ [a], by simp, hdid, fun middle c rest hafter => ?_⟩
      rcases List.eq_nil_or_concat rest with rfl | ⟨rest', d, rfl⟩
      · obtain ⟨rfl, hc⟩ := List.append_inj' hafter rfl
        obtain rfl := List.singleton_inj.1 hc
        exact hlast
      · have hsplit : after ++ [a] = (middle ++ c :: rest') ++ [d] := by simpa using hafter
        obtain ⟨rfl, -⟩ := List.append_inj' hsplit rfl
        exact hkeeps middle c rest' rfl

end Past

end Transition

end Unlinger
