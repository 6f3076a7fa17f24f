import Unlinger.Common.Interaction

/-!
# Runs taken apart

A run of a sequence is a run of its first part and then one of what
follows; a run of a program that begins with a call begins with that call
and its answer. The same for evaluations.
-/

namespace Unlinger

namespace Interaction

variable {C D : Type} {R : C → Type} {S : D → Type} {ε δ α β : Type}

theorem runs_pure {a : α} {es : Trace R} {o : Except ε α} :
    Runs (pure a : Prog R ε α) es o ↔ es = [] ∧ o = .ok a := by
  constructor
  · intro h
    cases h
    exact ⟨rfl, rfl⟩
  · rintro ⟨rfl, rfl⟩
    exact Runs.ret

theorem runs_throw {e : ε} {es : Trace R} {o : Except ε α} :
    Runs (Prog.throw e : Prog R ε α) es o ↔ es = [] ∧ o = .error e := by
  constructor
  · intro h
    cases h
    exact ⟨rfl, rfl⟩
  · rintro ⟨rfl, rfl⟩
    exact Runs.throw

theorem runs_call {c : C} {k : R c → Prog R ε α} {es : Trace R} {o : Except ε α} :
    Runs (.call c k) es o ↔ ∃ r ys, es = ⟨c, r⟩ :: ys ∧ Runs (k r) ys o := by
  constructor
  · intro h
    cases h with
    | call h => exact ⟨_, _, rfl, h⟩
  · rintro ⟨r, ys, rfl, h⟩
    exact Runs.call h

/-- A program that begins with a call. -/
theorem runs_ask {c : C} {f : R c → Prog R ε α} {es : Trace R} {o : Except ε α} :
    Runs (Prog.ask c >>= f) es o ↔ ∃ r ys, es = ⟨c, r⟩ :: ys ∧ Runs (f r) ys o :=
  runs_call (k := f)

/-- **A sequence**: the first part ran to a value, or ended the whole. -/
theorem runs_bind {p : Prog R ε α} {f : α → Prog R ε β} {es : Trace R} {o : Except ε β} :
    Runs (p >>= f) es o ↔
      (∃ a xs ys, es = xs ++ ys ∧ Runs p xs (.ok a) ∧ Runs (f a) ys o) ∨
        ∃ e, o = .error e ∧ Runs p es (.error e) := by
  change Runs (p.bind f) es o ↔ _
  induction p generalizing es with
  | ret a =>
    constructor
    · intro h
      exact Or.inl ⟨a, [], es, rfl, Runs.ret, h⟩
    · rintro (⟨b, xs, ys, rfl, hp, hf⟩ | ⟨e, -, hp⟩)
      · cases hp
        exact hf
      · cases hp
  | throw e =>
    constructor
    · intro h
      cases h
      exact Or.inr ⟨e, rfl, Runs.throw⟩
    · rintro (⟨b, xs, ys, rfl, hp, -⟩ | ⟨e', rfl, hp⟩)
      · cases hp
      · cases hp
        exact Runs.throw
  | call c k ih =>
    constructor
    · intro h
      obtain ⟨r, zs, rfl, hrest⟩ := runs_call.mp h
      rcases (ih r).mp hrest with ⟨a, xs, ys, rfl, hp, hf⟩ | ⟨e, rfl, hp⟩
      · exact Or.inl ⟨a, ⟨c, r⟩ :: xs, ys, rfl, Runs.call hp, hf⟩
      · exact Or.inr ⟨e, rfl, Runs.call hp⟩
    · rintro (⟨a, xs, ys, rfl, hp, hf⟩ | ⟨e, rfl, hp⟩)
      · obtain ⟨r, zs, rfl, hrest⟩ := runs_call.mp hp
        exact Runs.call ((ih r).mpr (Or.inl ⟨a, zs, ys, rfl, hrest, hf⟩))
      · obtain ⟨r, zs, rfl, hrest⟩ := runs_call.mp hp
        exact Runs.call ((ih r).mpr (Or.inr ⟨e, rfl, hrest⟩))

/-- A sequence that came to a value. -/
theorem runs_bind_ok {p : Prog R ε α} {f : α → Prog R ε β} {es : Trace R} {b : β} :
    Runs (p >>= f) es (.ok b) ↔
      ∃ a xs ys, es = xs ++ ys ∧ Runs p xs (.ok a) ∧ Runs (f a) ys (.ok b) := by
  rw [runs_bind]
  constructor
  · rintro (h | ⟨e, ho, -⟩)
    · exact h
    · cases ho
  · exact Or.inl

/-- Where an answer is none, the program ends. -/
theorem runs_orThrow {g : δ → ε} {x : Except δ α} {f : α → Prog R ε β} {es : Trace R}
    {o : Except ε β} :
    Runs (Prog.orThrow g x >>= f) es o ↔
      (∃ a, x = .ok a ∧ Runs (f a) es o) ∨ ∃ d, x = .error d ∧ es = [] ∧ o = .error (g d) := by
  cases x with
  | ok a =>
    change Runs (f a) es o ↔ _
    simp
  | error d =>
    change Runs (Prog.throw (g d)) es o ↔ _
    rw [runs_throw]
    simp

/-- How the run ended, as a value. -/
theorem runs_attempt {p : Prog R ε α} {es : Trace R} {o : Except δ (Except ε α)} :
    Runs (p.attempt : Prog R δ (Except ε α)) es o ↔ ∃ v, o = .ok v ∧ Runs p es v := by
  induction p generalizing es with
  | ret a =>
    constructor
    · intro h
      cases h
      exact ⟨.ok a, rfl, Runs.ret⟩
    · rintro ⟨v, rfl, h⟩
      cases h
      exact Runs.ret
  | throw e =>
    constructor
    · intro h
      cases h
      exact ⟨.error e, rfl, Runs.throw⟩
    · rintro ⟨v, rfl, h⟩
      cases h
      exact Runs.ret
  | call c k ih =>
    constructor
    · intro h
      obtain ⟨r, ys, rfl, hrest⟩ := runs_call.mp h
      obtain ⟨v, rfl, hv⟩ := (ih r).mp hrest
      exact ⟨v, rfl, Runs.call hv⟩
    · rintro ⟨v, rfl, h⟩
      obtain ⟨r, ys, rfl, hrest⟩ := runs_call.mp h
      exact Runs.call ((ih r).mpr ⟨v, rfl, hrest⟩)

/-- Every call of a run is one the program can come to. -/
theorem Prog.Only.runs {P : C → Prop} {p : Prog R ε α} {es : Trace R} {o : Except ε α}
    (h : p.Only P) (hr : Runs p es o) : ∀ e ∈ es, P e.call := by
  have hsat : Sat (fun _ _ => True) p [] fun t _ => ∃ ys, t = [] ++ ys ∧ ∀ e ∈ ys, P e.call :=
    Sat.ofOnly h fun _ _ _ => trivial
  obtain ⟨ys, hys, hall⟩ := (hsat.sound hr).2
  simp only [List.nil_append] at hys
  subst hys
  exact hall

/-! ## Evaluations -/

variable {answer : Trace R → (c : C) → R c} {t : Trace R}

/-- Every call of an evaluation is answered by the surroundings. -/
theorem runWith_answered (answer : Trace R → (c : C) → R c) (p : Prog R ε α) (t : Trace R) :
    ∃ es, (p.runWith answer t).1 = t ++ es ∧
      ∀ before e after, es = before ++ e :: after → e = ⟨e.call, answer (t ++ before) e.call⟩ := by
  induction p generalizing t with
  | ret a => exact ⟨[], (List.append_nil t).symm, by simp⟩
  | throw e => exact ⟨[], (List.append_nil t).symm, by simp⟩
  | call c k ih =>
    obtain ⟨es, htrace, hes⟩ := ih (answer t c) (t ++ [⟨c, answer t c⟩])
    refine ⟨⟨c, answer t c⟩ :: es, by simpa [Prog.runWith] using htrace, fun before e after h => ?_⟩
    rcases List.cons_eq_append_iff.mp h with ⟨rfl, hcons⟩ | ⟨before, rfl, rest⟩
    · obtain ⟨rfl, -⟩ := List.cons.inj hcons
      simp
    · have hlater := hes before e after rest
      rwa [List.append_assoc] at hlater

/-- A sequence whose first part came to a value. -/
theorem runWith_bind {p : Prog R ε α} {f : α → Prog R ε β} {t' : Trace R} {a : α}
    (h : p.runWith answer t = (t', .ok a)) :
    (p >>= f).runWith answer t = (f a).runWith answer t' := by
  change (p.bind f).runWith answer t = _
  induction p generalizing t with
  | ret b =>
    obtain ⟨rfl, hb⟩ := Prod.mk.inj h
    obtain rfl := Except.ok.inj hb
    rfl
  | throw e => exact absurd (Prod.mk.inj h).2 nofun
  | call c k ih => exact ih _ h

/-- A sequence its first part ended. -/
theorem runWith_bind_error {p : Prog R ε α} {f : α → Prog R ε β} {t' : Trace R} {e : ε}
    (h : p.runWith answer t = (t', .error e)) :
    (p >>= f).runWith answer t = (t', .error e) := by
  change (p.bind f).runWith answer t = _
  induction p generalizing t with
  | ret b => exact absurd (Prod.mk.inj h).2 nofun
  | throw e' =>
    obtain ⟨rfl, he⟩ := Prod.mk.inj h
    obtain rfl := Except.error.inj he
    rfl
  | call c k ih => exact ih _ h

end Interaction

end Unlinger
