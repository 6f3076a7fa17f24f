import Mathlib.Logic.Relation
import Unlinger.Common.Runs

/-!
# Programs that are cut short

A program makes its calls to a state that outlives it, and may be cut
after any of them: by a crash, or because nobody runs it any further.
`Cut` is a program run up to some point, `Ran` one that came to its end,
and `Serves` says how a call is answered and what it leaves.

`Upholds` is the judgement of both. Its crash condition holds of every
state the program can be cut at, its postcondition where the program ends.
Programs that uphold a condition from every state of it keep it however
often they are started and cut: `invariant_of_upholds`, and for a recovery
that is itself cut, `invariant_of_cuts`.
-/

namespace Unlinger

namespace Crash

open Interaction

variable {C : Type} {R : C → Type} {σ ε α β : Type}

/-- How a call is answered at a state, and the state it leaves. -/
abbrev Serves {C : Type} (R : C → Type) (σ : Type) := σ → (c : C) → R c → σ → Prop

/-- The program was run up to some point. -/
inductive Cut (S : Serves R σ) : Prog R ε α → σ → σ → Prop
  | here {p : Prog R ε α} {s : σ} : Cut S p s s
  | call {c : C} {k : R c → Prog R ε α} {r : R c} {s s' s'' : σ} :
      S s c r s' → Cut S (k r) s' s'' → Cut S (.call c k) s s''

/-- The program was run to its end. -/
inductive Ran (S : Serves R σ) : Prog R ε α → σ → Except ε α → σ → Prop
  | ret {a : α} {s : σ} : Ran S (.ret a) s (.ok a) s
  | throw {e : ε} {s : σ} : Ran S (.throw e) s (.error e) s
  | call {c : C} {k : R c → Prog R ε α} {r : R c} {s s' s'' : σ} {o : Except ε α} :
      S s c r s' → Ran S (k r) s' o s'' → Ran S (.call c k) s o s''

variable {S S' : Serves R σ}

/-- A run to the end is one way to be cut. -/
theorem Ran.cut {p : Prog R ε α} {s s' : σ} {o : Except ε α} (h : Ran S p s o s') :
    Cut S p s s' := by
  induction h with
  | ret => exact .here
  | throw => exact .here
  | call hserve _ ih => exact .call hserve ih

/-- A program cut in its second part was cut. -/
theorem Ran.cutAfter {p : Prog R ε α} {f : α → Prog R ε β} {a : α} {s s' s'' : σ}
    (hran : Ran S p s (.ok a) s') (hcut : Cut S (f a) s' s'') : Cut S (p >>= f) s s'' := by
  generalize ho : (Except.ok a : Except ε α) = o at hran
  induction hran with
  | ret =>
      obtain rfl := Except.ok.inj ho
      exact hcut
  | throw => cases ho
  | call hserve _ ih => exact .call hserve (ih hcut ho)

/-- A program cut in its first part was cut. -/
theorem Cut.before {p : Prog R ε α} {f : α → Prog R ε β} {s s' : σ} (h : Cut S p s s') :
    Cut S (p >>= f) s s' := by
  induction h with
  | here => exact .here
  | call hserve _ ih => exact .call hserve ih

/-- Where every call is answered somehow, a program comes to its end. -/
theorem exists_ran (htotal : ∀ s c, ∃ r s', S s c r s') (p : Prog R ε α) (s : σ) :
    ∃ o s', Ran S p s o s' := by
  induction p generalizing s with
  | ret a => exact ⟨_, s, .ret⟩
  | throw e => exact ⟨_, s, .throw⟩
  | call c k ih =>
      obtain ⟨r, s', hserve⟩ := htotal s c
      obtain ⟨o, s'', hran⟩ := ih r s'
      exact ⟨o, s'', .call hserve hran⟩

/-- A program run for so many calls against a service that computes. -/
def cutAfter (serve : σ → (c : C) → R c × σ) : Nat → Prog R ε α → σ → σ
  | n + 1, .call c k, s => cutAfter serve n (k (serve s c).1) (serve s c).2
  | _, _, s => s

theorem cut_cutAfter {serve : σ → (c : C) → R c × σ}
    (h : ∀ s c, S s c (serve s c).1 (serve s c).2) (n : Nat) (p : Prog R ε α) (s : σ) :
    Cut S p s (cutAfter serve n p s) := by
  induction n generalizing p s with
  | zero => exact .here
  | succ n ih =>
      cases p with
      | ret a => exact .here
      | throw e => exact .here
      | call c k => exact .call (h s c) (ih _ _)

/-- Does the program end well within so many calls, against a service that
computes? -/
def endsWell (serve : σ → (c : C) → R c × σ) : Nat → Prog R ε α → σ → Bool
  | _, .ret _, _ => true
  | _, .throw _, _ => false
  | 0, .call _ _, _ => false
  | n + 1, .call c k, s => endsWell serve n (k (serve s c).1) (serve s c).2

theorem ran_of_endsWell {serve : σ → (c : C) → R c × σ}
    (h : ∀ s c, S s c (serve s c).1 (serve s c).2) {n : Nat} {p : Prog R ε α} {s : σ}
    (hends : endsWell serve n p s = true) : ∃ a s', Ran S p s (.ok a) s' := by
  induction n generalizing p s with
  | zero =>
      cases p with
      | ret a => exact ⟨a, s, .ret⟩
      | throw e => cases hends
      | call c k => cases hends
  | succ n ih =>
      cases p with
      | ret a => exact ⟨a, s, .ret⟩
      | throw e => cases hends
      | call c k =>
          obtain ⟨a, s', hran⟩ := ih hends
          exact ⟨a, s', .call (h s c) hran⟩

/-! ## The judgement -/

/-- Wherever the program is cut, `I` holds; where it ends, `Q` does too. -/
def Upholds (S : Serves R σ) (I : σ → Prop) :
    Prog R ε α → σ → (Except ε α → σ → Prop) → Prop
  | .ret a, s, Q => I s ∧ Q (.ok a) s
  | .throw e, s, Q => I s ∧ Q (.error e) s
  | .call c k, s, Q => I s ∧ ∀ r s', S s c r s' → Upholds S I (k r) s' Q

variable {I I' : σ → Prop} {s s' : σ}

/-- The crash condition holds to begin with. -/
theorem Upholds.here {p : Prog R ε α} {Q : Except ε α → σ → Prop} (h : Upholds S I p s Q) :
    I s := by
  cases p with
  | ret a => exact h.1
  | throw e => exact h.1
  | call c k => exact h.1

/-- **Every cut** is at a state of the crash condition. -/
theorem Upholds.cut {p : Prog R ε α} {Q : Except ε α → σ → Prop} (h : Upholds S I p s Q)
    (hcut : Cut S p s s') : I s' := by
  induction hcut with
  | here => exact h.here
  | call hserve _ ih => exact ih (h.2 _ _ hserve)

/-- **Every end** is one of the postcondition. -/
theorem Upholds.ran {p : Prog R ε α} {Q : Except ε α → σ → Prop} {o : Except ε α}
    (h : Upholds S I p s Q) (hran : Ran S p s o s') : Q o s' := by
  induction hran with
  | ret => exact h.2
  | throw => exact h.2
  | call hserve _ ih => exact ih (h.2 _ _ hserve)

/-- Nothing is asked of the program. -/
theorem upholds_trivial (p : Prog R ε α) (s : σ) :
    Upholds S (fun _ => True) p s fun _ _ => True := by
  induction p generalizing s with
  | ret a => exact ⟨trivial, trivial⟩
  | throw e => exact ⟨trivial, trivial⟩
  | call c k ih => exact ⟨trivial, fun r s' _ => ih r s'⟩

/-- **Consequence.** -/
theorem Upholds.mono {p : Prog R ε α} {Q Q' : Except ε α → σ → Prop} (h : Upholds S I p s Q)
    (hI : ∀ s, I s → I' s) (hQ : ∀ o s, Q o s → Q' o s) : Upholds S I' p s Q' := by
  induction p generalizing s with
  | ret a => exact ⟨hI _ h.1, hQ _ _ h.2⟩
  | throw e => exact ⟨hI _ h.1, hQ _ _ h.2⟩
  | call c k ih => exact ⟨hI _ h.1, fun r s' hserve => ih r (h.2 r s' hserve)⟩

/-- Consequence for the postcondition alone. -/
theorem Upholds.post {p : Prog R ε α} {Q Q' : Except ε α → σ → Prop} (h : Upholds S I p s Q)
    (hQ : ∀ o s, I s → Q o s → Q' o s) : Upholds S I p s Q' := by
  induction p generalizing s with
  | ret a => exact ⟨h.1, hQ _ _ h.1 h.2⟩
  | throw e => exact ⟨h.1, hQ _ _ h.1 h.2⟩
  | call c k ih => exact ⟨h.1, fun r s' hserve => ih r (h.2 r s' hserve)⟩

/-- What a postcondition may be told: the program came there. -/
theorem Upholds.reaches {p : Prog R ε α} {Q : Except ε α → σ → Prop} (h : Upholds S I p s Q) :
    Upholds S I p s fun o s' => Ran S p s o s' ∧ Q o s' := by
  induction p generalizing s with
  | ret a => exact ⟨h.1, .ret, h.2⟩
  | throw e => exact ⟨h.1, .throw, h.2⟩
  | call c k ih =>
      refine ⟨h.1, fun r s' hserve => ?_⟩
      exact (ih r (h.2 r s' hserve)).mono (fun _ hs => hs) fun o s'' ho =>
        ⟨.call hserve ho.1, ho.2⟩

/-- **Sequencing.** -/
theorem Upholds.bind {p : Prog R ε α} {f : α → Prog R ε β} {P : Except ε α → σ → Prop}
    {Q : Except ε β → σ → Prop} (h : Upholds S I p s P)
    (hok : ∀ a s, P (.ok a) s → Upholds S I (f a) s Q)
    (herr : ∀ e s, I s → P (.error e) s → Q (.error e) s) : Upholds S I (p >>= f) s Q := by
  change Upholds S I (p.bind f) s Q
  induction p generalizing s with
  | ret a => exact hok a s h.2
  | throw e => exact ⟨h.1, herr e s h.1 h.2⟩
  | call c k ih => exact ⟨h.1, fun r s' hserve => ih r (h.2 r s' hserve)⟩

/-- A program that begins with a call. -/
theorem Upholds.ask {c : C} {f : R c → Prog R ε β} {Q : Except ε β → σ → Prop} (hI : I s)
    (h : ∀ r s', S s c r s' → Upholds S I (f r) s' Q) : Upholds S I (Prog.ask c >>= f) s Q :=
  ⟨hI, h⟩

/-- How a program ended, as a value. -/
theorem upholds_attempt {δ : Type} {p : Prog R ε α} {Q : Except δ (Except ε α) → σ → Prop} :
    Upholds S I (p.attempt : Prog R δ (Except ε α)) s Q ↔ Upholds S I p s fun o => Q (.ok o) := by
  induction p generalizing s with
  | ret a => exact Iff.rfl
  | throw e => exact Iff.rfl
  | call c k ih =>
      exact and_congr Iff.rfl (forall_congr' fun r => forall_congr' fun s' =>
        forall_congr' fun _ => ih r)

/-- And what follows, whichever way it ended. -/
theorem Upholds.attempt {δ : Type} {p : Prog R ε α} {f : Except ε α → Prog R δ β}
    {P : Except ε α → σ → Prop} {Q : Except δ β → σ → Prop} (h : Upholds S I p s P)
    (hnext : ∀ o s, I s → P o s → Upholds S I (f o) s Q) :
    Upholds S I ((p.attempt : Prog R δ (Except ε α)) >>= f) s Q := by
  have hended : Upholds S I (p.attempt : Prog R δ (Except ε α)) s
      fun o s' => ∃ r, o = .ok r ∧ I s' ∧ P r s' :=
    upholds_attempt.2 (h.post fun o s' hs' ho => ⟨o, rfl, hs', ho⟩)
  refine hended.bind (fun r s' hr => ?_) fun e s' _ he => ?_
  · obtain ⟨r', hr', hs', hP⟩ := hr
    obtain rfl := Except.ok.inj hr'
    exact hnext r s' hs' hP
  · obtain ⟨r, hr, -⟩ := he
    cases hr

/-- **A program of calls that keep an assertion** keeps it. -/
theorem Upholds.only {P : C → Prop} {J : σ → Prop} {p : Prog R ε α} (h : p.Only P)
    (hkeep : ∀ s c r s', P c → J s → S s c r s' → J s') (hI : ∀ s, J s → I s) (hs : J s) :
    Upholds S I p s fun _ => J := by
  induction p generalizing s with
  | ret a => exact ⟨hI s hs, hs⟩
  | throw e => exact ⟨hI s hs, hs⟩
  | call c k ih =>
      exact ⟨hI s hs, fun r s' hserve => ih r (h.2 r) (hkeep s c r s' h.1 hs hserve)⟩

/-! ## Runs of many programs -/

section Systems

variable {ι : Type} {p : ι → Prog R ε α}

/-- One of the programs was started, and run up to some point. -/
def Started (S : Serves R σ) (p : ι → Prog R ε α) (s s' : σ) : Prop := ∃ i, Cut S (p i) s s'

/-- **Programs that each uphold a condition** uphold it however often they
are started and wherever they are cut. -/
theorem invariant_of_upholds
    (h : ∀ i s, I s → Upholds S I (p i) s fun _ _ => True)
    (hrun : Relation.ReflTransGen (Started S p) s s') (hs : I s) : I s' := by
  induction hrun with
  | refl => exact hs
  | tail _ hstep ih =>
      obtain ⟨i, hcut⟩ := hstep
      exact (h i _ ih).cut hcut

/-- **Recovery may be cut too**, any number of times. -/
theorem invariant_of_cuts {q : Prog R ε α} (h : ∀ s, I s → Upholds S I q s fun _ _ => True)
    (hcuts : Relation.ReflTransGen (Cut S q) s s') (hs : I s) : I s' :=
  invariant_of_upholds (p := fun _ : Unit => q) (fun _ s hs => h s hs)
    (hcuts.lift id fun _ _ hcut => ⟨(), hcut⟩) hs

end Systems

end Crash

end Unlinger
