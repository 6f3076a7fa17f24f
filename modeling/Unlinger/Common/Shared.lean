import Mathlib.Data.List.Forall2
import Mathlib.Data.List.Infix
import Unlinger.Common.Interaction

/-!
# Programs over a state that others change too

A program makes its calls to a state, and between any two of them somebody
else may take a step. `World` says how a call is answered and what the
others may do, both told of everything that happened before; `Interleaved` is
one interleaving, and its moves are recorded with the state before and
after each.

`Triple` is the judgement of rely and guarantee: an assertion about the
moves so far and the state, which must be stable under what the others do
wherever they get to move.
-/

namespace Unlinger

namespace Shared

open Interaction

/-- One step: a call of the program with its answer, or somebody else's. -/
structure Move {C : Type} (R : C → Type) (σ : Type) where
  event : Option (Event R)
  before : σ
  after : σ

/-- How calls are answered, and what the others may do. -/
structure World {C : Type} (R : C → Type) (σ : Type) where
  serves : List (Move R σ) → σ → (c : C) → R c → σ → Prop
  others : List (Move R σ) → σ → σ → Prop

variable {C : Type} {R : C → Type} {σ ε α β : Type} {W : World R σ}

/-- One interleaving of a program with the others, after the moves of
`past` and from a state: its moves, how the program ended, and the state
at the end. -/
inductive Interleaved (W : World R σ) :
    List (Move R σ) → σ → Prog R ε α → List (Move R σ) → Except ε α → σ → Prop
  | ret {past : List (Move R σ)} {s : σ} {a : α} : Interleaved W past s (.ret a) [] (.ok a) s
  | throw {past : List (Move R σ)} {s : σ} {e : ε} : Interleaved W past s (.throw e) [] (.error e) s
  | own {past ms : List (Move R σ)} {s s' s'' : σ} {c : C} {k : R c → Prog R ε α} {r : R c}
      {o : Except ε α} : W.serves past s c r s' →
      Interleaved W (past ++ [⟨some ⟨c, r⟩, s, s'⟩]) s' (k r) ms o s'' →
      Interleaved W past s (.call c k) (⟨some ⟨c, r⟩, s, s'⟩ :: ms) o s''
  | other {past ms : List (Move R σ)} {s s' s'' : σ} {p : Prog R ε α} {o : Except ε α} :
      W.others past s s' → Interleaved W (past ++ [⟨none, s, s'⟩]) s' p ms o s'' →
      Interleaved W past s p (⟨none, s, s'⟩ :: ms) o s''

variable {past ms : List (Move R σ)} {s s' : σ}

/-- A sequence: the first part came to a value, or ended the whole. -/
theorem Interleaved.bind {p : Prog R ε α} {f : α → Prog R ε β} {o : Except ε β}
    (h : Interleaved W past s (p >>= f) ms o s') :
    (∃ a xs ys s₁, ms = xs ++ ys ∧ Interleaved W past s p xs (.ok a) s₁ ∧
        Interleaved W (past ++ xs) s₁ (f a) ys o s') ∨
      ∃ e, o = .error e ∧ Interleaved W past s p ms (.error e) s' := by
  change Interleaved W past s (p.bind f) ms o s' at h
  generalize hq : p.bind f = q at h
  induction h generalizing p with
  | @ret past s b =>
    cases p with
    | ret a =>
      change f a = .ret b at hq
      exact Or.inl ⟨a, [], [], s, rfl, .ret, by rw [hq]; exact .ret⟩
    | throw e => cases hq
    | call c k => cases hq
  | @throw past s e =>
    cases p with
    | ret a =>
      change f a = .throw e at hq
      exact Or.inl ⟨a, [], [], s, rfl, .ret, by rw [hq]; exact .throw⟩
    | throw e' =>
      cases hq
      exact Or.inr ⟨e, rfl, .throw⟩
    | call c k => cases hq
  | @own past ms s s₁ s₂ c k r o hserve hrest ih =>
    cases p with
    | ret a =>
      change f a = .call c k at hq
      refine Or.inl ⟨a, [], _, s, rfl, .ret, ?_⟩
      rw [hq, List.append_nil]
      exact .own hserve hrest
    | throw e => cases hq
    | call c' k' =>
      cases hq
      rcases ih rfl with ⟨a, xs, ys, s₃, rfl, hp, hf⟩ | ⟨e, rfl, hp⟩
      · refine Or.inl ⟨a, _ :: xs, ys, s₃, rfl, .own hserve hp, ?_⟩
        rwa [List.append_assoc] at hf
      · exact Or.inr ⟨e, rfl, .own hserve hp⟩
  | @other past ms s s₁ s₂ q o hother hrest ih =>
    subst hq
    rcases ih rfl with ⟨a, xs, ys, s₃, rfl, hp, hf⟩ | ⟨e, rfl, hp⟩
    · refine Or.inl ⟨a, _ :: xs, ys, s₃, rfl, .other hother hp, ?_⟩
      rwa [List.append_assoc] at hf
    · exact Or.inr ⟨e, rfl, .other hother hp⟩

/-- Every call of a history was served, at the state it was made in, and
is one the program can come to. -/
theorem Interleaved.served {P : C → Prop} {p : Prog R ε α} {o : Except ε α} (hp : p.Only P)
    (h : Interleaved W past s p ms o s') : ∀ m ∈ ms, ∀ e, m.event = some e →
      P e.call ∧ ∃ before, W.serves before m.before e.call e.answer m.after := by
  induction h with
  | ret => simp
  | throw => simp
  | @own past ms s s₁ s₂ c k r o hserve hrest ih =>
    intro m hm e he
    rcases List.mem_cons.mp hm with rfl | hm
    · obtain rfl := Option.some.inj he
      exact ⟨hp.1, past, hserve⟩
    · exact ih (hp.2 r) m hm e he
  | @other past ms s s₁ s₂ q o hother hrest ih =>
    intro m hm e he
    rcases List.mem_cons.mp hm with rfl | hm
    · cases he
    · exact ih hp m hm e he

/-- Run among others, with what they do before a call, the answers and what
these leave given as functions of what happened and of the state. -/
def playAmong (others : List (Move R σ) → σ → C → Option σ)
    (answer : List (Move R σ) → σ → (c : C) → R c) (leaves : σ → (c : C) → R c → σ) :
    Prog R ε α → List (Move R σ) → σ → List (Move R σ) × Except ε α × σ
  | .ret a, _, s => ([], .ok a, s)
  | .throw e, _, s => ([], .error e, s)
  | .call c k, past, s =>
      match others past s c with
      | none =>
          let m : Move R σ := ⟨some ⟨c, answer past s c⟩, s, leaves s c (answer past s c)⟩
          let rest := playAmong others answer leaves (k (answer past s c)) (past ++ [m]) m.after
          (m :: rest.1, rest.2)
      | some s' =>
          let past' := past ++ [⟨none, s, s'⟩]
          let m : Move R σ := ⟨some ⟨c, answer past' s' c⟩, s', leaves s' c (answer past' s' c)⟩
          let rest := playAmong others answer leaves (k (answer past' s' c)) (past' ++ [m]) m.after
          (⟨none, s, s'⟩ :: m :: rest.1, rest.2)

/-- Run among nobody else. -/
def play (answer : List (Move R σ) → σ → (c : C) → R c) (leaves : σ → (c : C) → R c → σ) :
    Prog R ε α → List (Move R σ) → σ → List (Move R σ) × Except ε α × σ :=
  playAmong (fun _ _ _ => none) answer leaves

/-- **What was played is a history**, where the world serves so and lets the
others do so, as long as `I` holds of what happened. -/
theorem history_playAmong {I : List (Move R σ) → Prop}
    {others : List (Move R σ) → σ → C → Option σ} {answer : List (Move R σ) → σ → (c : C) → R c}
    {leaves : σ → (c : C) → R c → σ}
    (hothers : ∀ past s c s', I past → others past s c = some s' →
      W.others past s s' ∧ I (past ++ [⟨none, s, s'⟩]))
    (hserves : ∀ past s c, I past →
      W.serves past s c (answer past s c) (leaves s c (answer past s c)) ∧
        I (past ++ [⟨some ⟨c, answer past s c⟩, s, leaves s c (answer past s c)⟩]))
    (p : Prog R ε α) {past : List (Move R σ)} (hI : I past) (s : σ) :
    Interleaved W past s p (playAmong others answer leaves p past s).1
      (playAmong others answer leaves p past s).2.1
      (playAmong others answer leaves p past s).2.2 := by
  induction p generalizing past s with
  | ret a => exact .ret
  | throw e => exact .throw
  | call c k ih =>
    unfold playAmong
    cases hacts : others past s c with
    | none => exact .own (hserves past s c hI).1 (ih _ (hserves past s c hI).2 _)
    | some s' =>
      obtain ⟨hother, hI'⟩ := hothers past s c s' hI hacts
      exact .other hother (.own (hserves _ s' c hI').1 (ih _ (hserves _ s' c hI').2 _))

theorem history_play {I : List (Move R σ) → Prop} {answer : List (Move R σ) → σ → (c : C) → R c}
    {leaves : σ → (c : C) → R c → σ}
    (h : ∀ past s c, I past → W.serves past s c (answer past s c) (leaves s c (answer past s c)) ∧
      I (past ++ [⟨some ⟨c, answer past s c⟩, s, leaves s c (answer past s c)⟩]))
    (p : Prog R ε α) {past : List (Move R σ)} (hI : I past) (s : σ) :
    Interleaved W past s p (play answer leaves p past s).1 (play answer leaves p past s).2.1
      (play answer leaves p past s).2.2 :=
  history_playAmong (fun _ _ _ _ _ hnone => by cases hnone) h p hI s

/-! ## Assertions and triples -/

/-- An assertion about the moves so far and the state. -/
abbrev Assertion {C : Type} (R : C → Type) (σ : Type) := List (Move R σ) → σ → Prop

/-- What the others do leaves it true. -/
def Stable (W : World R σ) (P : Assertion R σ) : Prop :=
  ∀ past s s', P past s → W.others past s s' → P (past ++ [⟨none, s, s'⟩]) s'

/-- From the assertion, every history of the program ends as it says. -/
def Triple (W : World R σ) (P : Assertion R σ) (p : Prog R ε α)
    (Q : Except ε α → Assertion R σ) : Prop :=
  ∀ past s ms o s', P past s → Interleaved W past s p ms o s' → Q o (past ++ ms) s'

variable {P P' : Assertion R σ} {Q Q' : Except ε α → Assertion R σ}

theorem Triple.ret {a : α} (hQ : Stable W (Q (.ok a)))
    (h : ∀ past s, P past s → Q (.ok a) past s) : Triple W P (.ret a) Q := by
  intro past s ms o s' hP hist
  replace hP := h past s hP
  generalize hp : (Prog.ret a : Prog R ε α) = p at hist
  induction hist with
  | ret =>
    cases hp
    rwa [List.append_nil]
  | throw => cases hp
  | own => cases hp
  | other hother _ ih =>
    have hrest := ih (hQ _ _ _ hP hother) hp
    rwa [List.append_assoc] at hrest

theorem Triple.throw {e : ε} (hQ : Stable W (Q (.error e)))
    (h : ∀ past s, P past s → Q (.error e) past s) : Triple W P (.throw e) Q := by
  intro past s ms o s' hP hist
  replace hP := h past s hP
  generalize hp : (Prog.throw e : Prog R ε α) = p at hist
  induction hist with
  | ret => cases hp
  | throw =>
    cases hp
    rwa [List.append_nil]
  | own => cases hp
  | other hother _ ih =>
    have hrest := ih (hQ _ _ _ hP hother) hp
    rwa [List.append_assoc] at hrest

/-- **A call**: the others may move before it is made, and what follows
goes on from what its answer leaves. -/
theorem Triple.call {c : C} {k : R c → Prog R ε α} {M : R c → Assertion R σ} (hP : Stable W P)
    (hserve : ∀ past s r s', P past s → W.serves past s c r s' →
      M r (past ++ [⟨some ⟨c, r⟩, s, s'⟩]) s')
    (hk : ∀ r, Triple W (M r) (k r) Q) : Triple W P (.call c k) Q := by
  intro past s ms o s' hs hist
  generalize hp : Prog.call c k = p at hist
  induction hist with
  | ret => cases hp
  | throw => cases hp
  | own hserved hrest _ =>
    cases hp
    have hend := hk _ _ _ _ _ _ (hserve _ _ _ _ hs hserved) hrest
    rwa [List.append_assoc] at hend
  | other hother _ ih =>
    have hrest := ih (hP _ _ _ hs hother) hp
    rwa [List.append_assoc] at hrest

/-- The same of a program that begins with a call. -/
theorem Triple.ask {c : C} {f : R c → Prog R ε α} {M : R c → Assertion R σ} (hP : Stable W P)
    (hserve : ∀ past s r s', P past s → W.serves past s c r s' →
      M r (past ++ [⟨some ⟨c, r⟩, s, s'⟩]) s')
    (hf : ∀ r, Triple W (M r) (f r) Q) : Triple W P (Prog.ask c >>= f) Q :=
  Triple.call hP hserve hf

/-- **Sequencing.** -/
theorem Triple.bind {p : Prog R ε α} {f : α → Prog R ε β} {M : Except ε α → Assertion R σ}
    {Q : Except ε β → Assertion R σ} (hp : Triple W P p M)
    (hf : ∀ a, Triple W (M (.ok a)) (f a) Q)
    (herr : ∀ e past s, M (.error e) past s → Q (.error e) past s) :
    Triple W P (p >>= f) Q := by
  intro past s ms o s' hs hist
  rcases hist.bind with ⟨a, xs, ys, s₁, rfl, h₁, h₂⟩ | ⟨e, rfl, h⟩
  · have hmid := hp _ _ _ _ _ hs h₁
    have hend := hf a _ _ _ _ _ hmid h₂
    rwa [List.append_assoc] at hend
  · exact herr e _ _ (hp _ _ _ _ _ hs h)

/-- **Consequence.** -/
theorem Triple.mono {p : Prog R ε α} (h : Triple W P p Q) (hP : ∀ past s, P' past s → P past s)
    (hQ : ∀ o past s, Q o past s → Q' o past s) : Triple W P' p Q' := by
  intro past s ms o s' hs hist
  exact hQ _ _ _ (h _ _ _ _ _ (hP _ _ hs) hist)

/-- A program that ends where an answer is an error. -/
theorem Triple.orThrow {δ : Type} {g : δ → ε} {x : Except δ β} {f : β → Prog R ε α}
    (hok : ∀ b, x = .ok b → Triple W P (f b) Q)
    (herr : ∀ d, x = .error d → Triple W P (.throw (g d)) Q) :
    Triple W P (Prog.orThrow g x >>= f) Q := by
  cases x with
  | ok b => exact hok b rfl
  | error d => exact herr d rfl

/-- The program makes calls of `G` only, and comes to a value. -/
def Yields (G : C → Prop) : Prog R ε α → Prop
  | .ret _ => True
  | .throw _ => False
  | .call c k => G c ∧ ∀ r, Yields G (k r)

theorem Yields.bind {G : C → Prop} {p : Prog R ε α} {f : α → Prog R ε β} (h : Yields G p)
    (hf : ∀ a, Yields G (f a)) : Yields G (p >>= f) := by
  change Yields G (p.bind f)
  induction p with
  | ret a => exact hf a
  | throw e => exact h.elim
  | call c k ih => exact ⟨h.1, fun r => ih r (h.2 r)⟩

theorem Yields.ask {G : C → Prop} {c : C} {f : R c → Prog R ε β} (h : G c)
    (hf : ∀ r, Yields G (f r)) : Yields G (Prog.ask c >>= f) := ⟨h, hf⟩

theorem Yields.only {G G' : C → Prop} {p : Prog R ε α} (h : Yields G p) (hG : ∀ c, G c → G' c) :
    p.Only G' := by
  induction p with
  | ret a => exact trivial
  | throw e => exact trivial
  | call c k ih => exact ⟨hG c h.1, fun r => ih r (h.2 r)⟩

/-- **A program of calls that keep an assertion**, and what follows it. -/
theorem Triple.yields {G : C → Prop} {p : Prog R ε β} {f : β → Prog R ε α} (h : Yields G p)
    (hP : Stable W P)
    (hkeep : ∀ past s c r s', G c → P past s → W.serves past s c r s' →
      P (past ++ [⟨some ⟨c, r⟩, s, s'⟩]) s')
    (hf : ∀ b, Triple W P (f b) Q) : Triple W P (p >>= f) Q := by
  change Triple W P (p.bind f) Q
  induction p with
  | ret b => exact hf b
  | throw e => exact h.elim
  | call c k ih =>
    exact Triple.call hP (fun past s r s' hs hserve => hkeep past s c r s' h.1 hs hserve)
      fun r => ih r (h.2 r)

/-! ## What was seen -/

/-- Moves of these kinds were made, in this order. -/
def Saw (kinds : List (Move R σ → Prop)) (past : List (Move R σ)) : Prop :=
  ∃ seen, List.Sublist seen past ∧ List.Forall₂ (fun kind m => kind m) kinds seen

variable {kinds : List (Move R σ → Prop)}

theorem saw_nil (past : List (Move R σ)) : Saw [] past := ⟨[], List.nil_sublist past, .nil⟩

/-- What was seen stays seen. -/
theorem Saw.later (h : Saw kinds past) (m : Move R σ) : Saw kinds (past ++ [m]) := by
  obtain ⟨seen, hsub, hkinds⟩ := h
  exact ⟨seen, hsub.trans (List.sublist_append_left past [m]), hkinds⟩

/-- One more kind is seen. -/
theorem Saw.snoc (h : Saw kinds past) {kind : Move R σ → Prop} {m : Move R σ} (hm : kind m) :
    Saw (kinds ++ [kind]) (past ++ [m]) := by
  obtain ⟨seen, hsub, hkinds⟩ := h
  refine ⟨seen ++ [m], hsub.append (List.Sublist.refl [m]), ?_⟩
  exact List.rel_append hkinds (List.Forall₂.cons hm .nil)

end Shared

end Unlinger
