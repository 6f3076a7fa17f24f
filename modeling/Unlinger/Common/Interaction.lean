import Mathlib.Data.List.Basic
import Mathlib.Tactic.Common

/-!
# Interacting programs, their runs, and triples over traces

A program talks to surroundings it does not control: it makes calls, and
each call is answered by anything of the call's answer type. `Prog` is
the tree of what the program does next for every answer, `Runs` is one
path down that tree, and the trace records the calls with the answers
they were given. A statement about every run is a statement about every
behaviour of the surroundings.

`Sat` is the triple the proofs use: from the trace `t`, every call the
program makes is allowed by the guard `G` at the trace it is made at, and
every outcome satisfies the postcondition. The guard is what makes a
safety property ("this call only ever happens after that one") local to
the call that could break it.
-/

namespace Unlinger

namespace Interaction

variable {C : Type} {R : C → Type} {ε α β : Type}

/-- A program making calls `c : C` answered in `R c`, ending in a value
or in an error. -/
inductive Prog (R : C → Type) (ε α : Type) : Type
  /-- The program ends with a value. -/
  | ret (a : α) : Prog R ε α
  /-- The program ends with an error. -/
  | throw (e : ε) : Prog R ε α
  /-- The program makes a call and goes on with its answer. -/
  | call (c : C) (k : R c → Prog R ε α) : Prog R ε α

/-- One call together with the answer it was given. -/
structure Event (R : C → Type) where
  call : C
  answer : R call

/-- What a run did, oldest call first. -/
abbrev Trace (R : C → Type) := List (Event R)

namespace Prog

/-- Sequencing: an error ends the program. -/
def bind : Prog R ε α → (α → Prog R ε β) → Prog R ε β
  | .ret a, f => f a
  | .throw e, _ => .throw e
  | .call c k, f => .call c fun r => bind (k r) f

instance : Monad (Prog R ε) where
  pure := .ret
  bind := .bind

/-- Make one call and return its answer. -/
def ask (c : C) : Prog R ε (R c) := .call c .ret

/-- End with an error where the answer is one, after rewriting it. -/
def orThrow {δ : Type} (f : δ → ε) : Except δ α → Prog R ε α
  | .ok a => .ret a
  | .error d => .throw (f d)

/-- Carry a program out over other calls: each of its calls is answered by
a program of its own. How it ended is handed on as a value. -/
def handle {D δ : Type} {S : D → Type} (h : (c : C) → Prog S δ (R c)) :
    Prog R ε α → Prog S δ (Except ε α)
  | .ret a => .ret (.ok a)
  | .throw e => .ret (.error e)
  | .call c k => (h c).bind fun r => handle h (k r)

/-- The program, with how it ended as its value. -/
def attempt {δ : Type} (p : Prog R ε α) : Prog R δ (Except ε α) := p.handle ask

/-- Every call the program can come to is one of `P`. -/
def Only (P : C → Prop) : Prog R ε α → Prop
  | .ret _ | .throw _ => True
  | .call c k => P c ∧ ∀ r, Only P (k r)

/-- Every error the program can end with is one of `E`. -/
def Throws (E : ε → Prop) : Prog R ε α → Prop
  | .ret _ => True
  | .throw e => E e
  | .call _ k => ∀ r, Throws E (k r)

/-- Run against surroundings given as a function of the trace so far. -/
def runWith (answer : Trace R → (c : C) → R c) : Prog R ε α → Trace R → Trace R × Except ε α
  | .ret a, t => (t, .ok a)
  | .throw e, t => (t, .error e)
  | .call c k, t => runWith answer (k (answer t c)) (t ++ [⟨c, answer t c⟩])

end Prog

/-! ## Runs -/

/-- A run of a program: the calls made, with their answers, and how the
program ended. -/
inductive Runs : Prog R ε α → Trace R → Except ε α → Prop
  | ret {a : α} : Runs (.ret a) [] (.ok a)
  | throw {e : ε} : Runs (.throw e) [] (.error e)
  | call {c : C} {k : R c → Prog R ε α} {r : R c} {es : Trace R} {o : Except ε α} :
      Runs (k r) es o → Runs (.call c k) (⟨c, r⟩ :: es) o

/-- What an evaluation computes is a run, after the trace it began at. -/
theorem runs_runWith (answer : Trace R → (c : C) → R c) :
    ∀ (p : Prog R ε α) (t : Trace R),
      ∃ es, (p.runWith answer t).1 = t ++ es ∧ Runs p es (p.runWith answer t).2 := by
  intro p
  induction p with
  | ret a => exact fun t => ⟨[], (List.append_nil t).symm, Runs.ret⟩
  | throw e => exact fun t => ⟨[], (List.append_nil t).symm, Runs.throw⟩
  | call c k ih =>
      intro t
      obtain ⟨es, htr, hrun⟩ := ih (answer t c) (t ++ [⟨c, answer t c⟩])
      exact ⟨⟨c, answer t c⟩ :: es, by simpa [Prog.runWith] using htr, Runs.call hrun⟩

/-- An evaluation from the empty trace is a run, trace and all. -/
theorem runs_of_runWith {answer : Trace R → (c : C) → R c} {p : Prog R ε α} {es : Trace R}
    {o : Except ε α} (h : p.runWith answer [] = (es, o)) : Runs p es o := by
  obtain ⟨es', htr, hrun⟩ := runs_runWith answer p []
  rw [h, List.nil_append] at htr
  rw [h] at hrun
  subst htr
  exact hrun

/-! ## Triples -/

/-- Every call of the program from trace `t` on is allowed by `G`, and
every outcome satisfies `Q`. -/
def Sat (G : Trace R → C → Prop) : Prog R ε α → Trace R → (Trace R → Except ε α → Prop) → Prop
  | .ret a, t, Q => Q t (.ok a)
  | .throw e, t, Q => Q t (.error e)
  | .call c k, t, Q => G t c ∧ ∀ r, Sat G (k r) (t ++ [⟨c, r⟩]) Q

/-- Every call of `es`, made after `t`, was allowed at the trace it was
made at. -/
def Guarded (G : Trace R → C → Prop) (t es : Trace R) : Prop :=
  ∀ pre e post, es = pre ++ e :: post → G (t ++ pre) e.call

variable {G G' : Trace R → C → Prop} {t : Trace R}

@[simp] theorem guarded_nil : Guarded G t [] := by
  intro pre e post h
  simp at h

theorem guarded_cons {e : Event R} {es : Trace R} (he : G t e.call)
    (h : Guarded G (t ++ [e]) es) : Guarded G t (e :: es) := by
  intro pre e' post heq
  cases pre with
  | nil =>
      obtain ⟨rfl, -⟩ := List.cons.inj heq
      simpa using he
  | cons x pre =>
      obtain ⟨rfl, hes⟩ := List.cons.inj heq
      simpa using h pre e' post hes

/-- **Triples speak about every run.** -/
theorem Sat.sound {p : Prog R ε α} {Q : Trace R → Except ε α → Prop} {es : Trace R}
    {o : Except ε α} (h : Sat G p t Q) (hr : Runs p es o) :
    Guarded G t es ∧ Q (t ++ es) o := by
  induction hr generalizing t with
  | ret => exact ⟨guarded_nil, by simpa [Sat] using h⟩
  | throw => exact ⟨guarded_nil, by simpa [Sat] using h⟩
  | call _ ih =>
      obtain ⟨hg, hk⟩ := h
      obtain ⟨hes, hQ⟩ := ih (hk _)
      exact ⟨guarded_cons hg hes, by simpa using hQ⟩

@[simp] theorem sat_ret {a : α} {Q : Trace R → Except ε α → Prop} :
    Sat G (.ret a) t Q ↔ Q t (.ok a) := Iff.rfl

@[simp] theorem sat_pure {a : α} {Q : Trace R → Except ε α → Prop} :
    Sat G (pure a) t Q ↔ Q t (.ok a) := Iff.rfl

@[simp] theorem sat_throw {e : ε} {Q : Trace R → Except ε α → Prop} :
    Sat G (.throw e) t Q ↔ Q t (.error e) := Iff.rfl

/-- The postcondition of a first part whose value a second part goes on
with: an error ends the run. -/
def thenSat (G : Trace R → C → Prop) (f : α → Prog R ε β) (Q : Trace R → Except ε β → Prop) :
    Trace R → Except ε α → Prop
  | t, .ok a => Sat G (f a) t Q
  | t, .error e => Q t (.error e)

@[simp] theorem thenSat_ok {f : α → Prog R ε β} {Q : Trace R → Except ε β → Prop} {a : α} :
    thenSat G f Q t (.ok a) ↔ Sat G (f a) t Q := Iff.rfl

@[simp] theorem thenSat_error {f : α → Prog R ε β} {Q : Trace R → Except ε β → Prop} {e : ε} :
    thenSat G f Q t (.error e) ↔ Q t (.error e) := Iff.rfl

/-- **Sequencing**: the first part's triple with the second part's as its
postcondition. -/
theorem sat_bind {p : Prog R ε α} {f : α → Prog R ε β} {Q : Trace R → Except ε β → Prop} :
    Sat G (p >>= f) t Q ↔ Sat G p t (thenSat G f Q) := by
  change Sat G (p.bind f) t Q ↔ _
  induction p generalizing t with
  | ret a => exact Iff.rfl
  | throw e => exact Iff.rfl
  | call c k ih =>
      exact and_congr Iff.rfl (forall_congr' fun r => ih r)

/-- A call: the guard must allow it, and what follows must hold for every
answer. -/
@[simp] theorem sat_ask {c : C} {Q : Trace R → Except ε (R c) → Prop} :
    Sat G (Prog.ask c : Prog R ε (R c)) t Q ↔ G t c ∧ ∀ r, Q (t ++ [⟨c, r⟩]) (.ok r) := Iff.rfl

@[simp] theorem sat_orThrow_ok {δ : Type} {f : δ → ε} {a : α}
    {Q : Trace R → Except ε α → Prop} :
    Sat G (Prog.orThrow f (.ok a)) t Q ↔ Q t (.ok a) := Iff.rfl

@[simp] theorem sat_orThrow_error {δ : Type} {f : δ → ε} {d : δ}
    {Q : Trace R → Except ε α → Prop} :
    Sat G (Prog.orThrow f (.error d)) t Q ↔ Q t (.error (f d)) := Iff.rfl

/-- **Consequence**: weaken the postcondition. -/
theorem Sat.mono {p : Prog R ε α} {Q Q' : Trace R → Except ε α → Prop} (h : Sat G p t Q)
    (hQ : ∀ t o, Q t o → Q' t o) : Sat G p t Q' := by
  induction p generalizing t with
  | ret a => exact hQ _ _ h
  | throw e => exact hQ _ _ h
  | call c k ih => exact ⟨h.1, fun r => ih r (h.2 r)⟩

/-- The sequencing rule as it is used: a triple for the first part, then
one for each of its values, and what an error carries. -/
theorem Sat.bind {p : Prog R ε α} {f : α → Prog R ε β} {P : Trace R → Except ε α → Prop}
    {Q : Trace R → Except ε β → Prop} (h : Sat G p t P)
    (hok : ∀ t a, P t (.ok a) → Sat G (f a) t Q)
    (herr : ∀ t e, P t (.error e) → Q t (.error e)) : Sat G (p >>= f) t Q := by
  refine sat_bind.2 (h.mono fun t o ho => ?_)
  cases o with
  | ok a => exact hok t a ho
  | error e => exact herr t e ho

/-- The trace only grows. -/
theorem Sat.grows {p : Prog R ε α} {Q : Trace R → Except ε α → Prop} (h : Sat G p t Q) :
    Sat G p t fun t' o => t <+: t' ∧ Q t' o := by
  induction p generalizing t with
  | ret a => exact ⟨List.prefix_rfl, h⟩
  | throw e => exact ⟨List.prefix_rfl, h⟩
  | call c k ih =>
      refine ⟨h.1, fun r => (ih r (h.2 r)).mono fun t' o ho => ⟨?_, ho.2⟩⟩
      exact (List.prefix_append t _).trans ho.1

/-- How a program ended, as a value. -/
theorem sat_attempt {δ : Type} {p : Prog R ε α} {Q : Trace R → Except δ (Except ε α) → Prop} :
    Sat G (p.attempt : Prog R δ (Except ε α)) t Q ↔ Sat G p t fun t o => Q t (.ok o) := by
  induction p generalizing t with
  | ret a => exact Iff.rfl
  | throw e => exact Iff.rfl
  | call c k ih => exact and_congr Iff.rfl (forall_congr' fun r => ih r)

/-! ## Programs of some calls only -/

section Only

variable {P : C → Prop}

theorem Prog.Only.bind {p : Prog R ε α} {f : α → Prog R ε β} (h : p.Only P)
    (hf : ∀ a, (f a).Only P) : (p >>= f).Only P := by
  change (Prog.bind p f).Only P
  induction p with
  | ret a => exact hf a
  | throw e => exact trivial
  | call c k ih => exact ⟨h.1, fun r => ih r (h.2 r)⟩

theorem Prog.Only.ask {c : C} {f : R c → Prog R ε β} (h : P c) (hf : ∀ r, (f r).Only P) :
    (Prog.ask c >>= f).Only P := ⟨h, hf⟩

/-- More calls are allowed. -/
theorem Prog.Only.mono {P' : C → Prop} {p : Prog R ε α} (h : p.Only P) (himp : ∀ c, P c → P' c) :
    p.Only P' := by
  induction p with
  | ret a => exact trivial
  | throw e => exact trivial
  | call c k ih => exact ⟨himp c h.1, fun r => ih r (h.2 r)⟩

theorem Prog.only_pure {a : α} : (pure a : Prog R ε α).Only P := trivial

theorem Prog.only_throw {e : ε} : (Prog.throw e : Prog R ε α).Only P := trivial

theorem Prog.only_orThrow {δ : Type} {g : δ → ε} {x : Except δ α} :
    (Prog.orThrow g x : Prog R ε α).Only P := by
  cases x with
  | ok a => exact trivial
  | error d => exact trivial

/-- A program carried out over calls of `P` makes no others. -/
theorem Prog.Only.handle {D δ : Type} {S : D → Type} {P : D → Prop}
    {h : (c : C) → Prog S δ (R c)} (hP : ∀ c, (h c).Only P) (p : Prog R ε α) :
    (p.handle h).Only P := by
  induction p with
  | ret a => exact trivial
  | throw e => exact trivial
  | call c k ih => exact Prog.Only.bind (hP c) ih

theorem Prog.Only.attempt {δ : Type} {p : Prog R ε α} (h : p.Only P) :
    (p.attempt : Prog R δ (Except ε α)).Only P := by
  induction p with
  | ret a => exact trivial
  | throw e => exact trivial
  | call c k ih => exact ⟨h.1, fun r => ih r (h.2 r)⟩

/-- **A program of calls the guard always allows** satisfies it, and only
adds such calls to the trace. -/
theorem Sat.ofOnly {p : Prog R ε α} (h : p.Only P) (hG : ∀ t c, P c → G t c) :
    Sat G p t fun t' _ => ∃ es, t' = t ++ es ∧ ∀ e ∈ es, P e.call := by
  induction p generalizing t with
  | ret a => exact ⟨[], (List.append_nil t).symm, by simp⟩
  | throw e => exact ⟨[], (List.append_nil t).symm, by simp⟩
  | call c k ih =>
      refine ⟨hG t c h.1, fun r => (ih r (h.2 r)).mono ?_⟩
      rintro t' o ⟨es, rfl, hes⟩
      refine ⟨⟨c, r⟩ :: es, by simp, ?_⟩
      rintro e he
      rcases List.mem_cons.1 he with rfl | he
      · exact h.1
      · exact hes e he

end Only

/-! ## Programs of some errors only -/

section Throws

variable {E : ε → Prop}

theorem Prog.Throws.bind {p : Prog R ε α} {f : α → Prog R ε β} (h : p.Throws E)
    (hf : ∀ a, (f a).Throws E) : (p >>= f).Throws E := by
  change (Prog.bind p f).Throws E
  induction p with
  | ret a => exact hf a
  | throw e => exact h
  | call c k ih => exact fun r => ih r (h r)

theorem Prog.Throws.ask {c : C} {f : R c → Prog R ε β} (hf : ∀ r, (f r).Throws E) :
    (Prog.ask c >>= f).Throws E := hf

theorem Prog.throws_orThrow {δ : Type} {g : δ → ε} {x : Except δ α} (h : ∀ d, E (g d)) :
    (Prog.orThrow g x : Prog R ε α).Throws E := by
  cases x with
  | ok a => exact trivial
  | error d => exact h d

/-- What is known of the errors holds of every end. -/
theorem Sat.throws {p : Prog R ε α} {Q : Trace R → Except ε α → Prop} (h : Sat G p t Q)
    (hE : p.Throws E) : Sat G p t fun t' o => Q t' o ∧ ∀ e, o = .error e → E e := by
  induction p generalizing t with
  | ret a => exact ⟨h, fun e he => by cases he⟩
  | throw e =>
      refine ⟨h, fun e' he => ?_⟩
      cases he
      exact hE
  | call c k ih => exact ⟨h.1, fun r => ih r (h.2 r) (hE r)⟩

end Throws

/-! ## Postconditions of values -/

/-- A postcondition of the value alone: an error owes nothing. -/
def OnOk (P : Trace R → α → Prop) : Trace R → Except ε α → Prop
  | t, .ok a => P t a
  | _, .error _ => True

/-- Sequencing where an error owes nothing. -/
theorem Sat.andThen {p : Prog R ε α} {f : α → Prog R ε β} {P : Trace R → α → Prop}
    {Q : Trace R → β → Prop} (h : Sat G p t (OnOk P))
    (hok : ∀ t a, P t a → Sat G (f a) t (OnOk Q)) : Sat G (p >>= f) t (OnOk Q) :=
  Sat.bind h hok fun _ _ _ => trivial

/-- **Consequence**, for a postcondition of the value. -/
theorem Sat.imp {p : Prog R ε α} {P Q : Trace R → α → Prop} (h : Sat G p t (OnOk P))
    (hPQ : ∀ t a, P t a → Q t a) : Sat G p t (OnOk Q) := by
  refine h.mono fun t' o ho => ?_
  cases o with
  | ok a => exact hPQ t' a ho
  | error e => trivial

/-- A program that goes on where an answer is no error. -/
theorem Sat.okThen {δ : Type} {g : δ → ε} {x : Except δ α} {f : α → Prog R ε β}
    {Q : Trace R → β → Prop} (hok : ∀ a, x = .ok a → Sat G (f a) t (OnOk Q)) :
    Sat G (Prog.orThrow g x >>= f) t (OnOk Q) := by
  cases x with
  | ok a => exact hok a rfl
  | error d => exact trivial

/-- A call whose answer may be an error, which ends the program. -/
theorem Sat.askThen {δ : Type} {c : C} {g : δ → ε} {x : R c → Except δ α} {f : α → Prog R ε β}
    {Q : Trace R → β → Prop} (hG : G t c)
    (hok : ∀ r a, x r = .ok a → Sat G (f a) (t ++ [⟨c, r⟩]) (OnOk Q)) :
    Sat G ((Prog.ask c >>= fun r => Prog.orThrow g (x r)) >>= f) t (OnOk Q) :=
  ⟨hG, fun r => Sat.okThen (hok r)⟩

/-- A first part of calls the guard always allows: what follows goes on
from a trace that only such calls were added to. -/
theorem Sat.onlyThen {P : C → Prop} {p : Prog R ε α} {f : α → Prog R ε β}
    {Q : Trace R → β → Prop} (h : p.Only P) (hG : ∀ t c, P c → G t c)
    (hok : ∀ es a, (∀ e ∈ es, P e.call) → Sat G (f a) (t ++ es) (OnOk Q)) :
    Sat G (p >>= f) t (OnOk Q) := by
  refine Sat.bind (Sat.ofOnly h hG) ?_ fun _ _ _ => trivial
  rintro t' a ⟨es, rfl, hes⟩
  exact hok es a hes

/-- A postcondition of the value, and one of the error. -/
def Ends (E : Trace R → ε → Prop) (P : Trace R → α → Prop) : Trace R → Except ε α → Prop
  | t, .ok a => P t a
  | t, .error e => E t e

/-- Sequencing where both parts owe the same of an error. -/
theorem Sat.endsThen {E : Trace R → ε → Prop} {p : Prog R ε α} {f : α → Prog R ε β}
    {P : Trace R → α → Prop} {Q : Trace R → β → Prop} (h : Sat G p t (Ends E P))
    (hok : ∀ t a, P t a → Sat G (f a) t (Ends E Q)) : Sat G (p >>= f) t (Ends E Q) :=
  Sat.bind h hok fun _ _ he => he

/-- A program that starts with a call. -/
theorem Sat.ask {c : C} {f : R c → Prog R ε β} {Q : Trace R → Except ε β → Prop} (hG : G t c)
    (h : ∀ r, Sat G (f r) (t ++ [⟨c, r⟩]) Q) : Sat G (Prog.ask c >>= f) t Q :=
  sat_bind.2 ⟨hG, h⟩

/-- A program that ends where an answer is an error. -/
theorem Sat.orThrow {δ : Type} {g : δ → ε} {x : Except δ α} {f : α → Prog R ε β}
    {Q : Trace R → Except ε β → Prop} (hok : ∀ a, x = .ok a → Sat G (f a) t Q)
    (herr : ∀ d, x = .error d → Q t (.error (g d))) : Sat G (Prog.orThrow g x >>= f) t Q := by
  cases x with
  | ok a => exact hok a rfl
  | error d => exact herr d rfl

/-- A call whose answer may be an error, which ends the program there. -/
theorem Sat.askOrThrow {δ : Type} {c : C} {g : δ → ε} {x : R c → Except δ α} {f : α → Prog R ε β}
    {Q : Trace R → Except ε β → Prop} (hG : G t c)
    (hok : ∀ r a, x r = .ok a → Sat G (f a) (t ++ [⟨c, r⟩]) Q)
    (herr : ∀ r d, x r = .error d → Q (t ++ [⟨c, r⟩]) (.error (g d))) :
    Sat G ((Prog.ask c >>= fun r => Prog.orThrow g (x r)) >>= f) t Q :=
  ⟨hG, fun r => Sat.orThrow (hok r) (herr r)⟩

end Interaction

end Unlinger
