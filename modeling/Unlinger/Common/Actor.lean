import Unlinger.Common.Interaction
import Unlinger.Common.Transition

/-!
# The tasks of an actor

An actor takes calls, and each call is a task: a program whose calls are
accesses of the actor's own fields, or awaits. A task that accesses fields
goes on undisturbed until it awaits something or ends; at an await any
other task may go on. What is awaited happens whenever the surroundings
choose, and what they answer depends on the shared state and on a choice
of theirs.

Two rules come with it. What every program guarantees of its calls from
its own past alone, it guarantees beside any other tasks
(`tasks_sat`, and `Keeping.move` for what it owes at its end). Where one
call is made after another, a task may also count on the shared state,
which is its own until it ends (`Alone.run`).
-/

namespace Unlinger

namespace Interaction

/-- An actor and its surroundings. -/
structure Actor {C : Type} (R : C → Type) (σ κ χ ω : Type) where
  program : κ → Prog R Empty Unit
  /-- The call accesses the actor's own fields. -/
  access : C → Bool
  answer : σ → (c : C) → χ → R c
  step : σ → Event R → σ
  /-- The calls of the actor that are made along with it. -/
  spawns : Event R → List κ
  /-- What happens to the shared state besides. -/
  outside : σ → ω → σ
  /-- No task survives it. -/
  ends : ω → Bool

/-- A task: the call it is, what it did, and what is left of it. -/
structure Task {C : Type} (R : C → Type) (κ : Type) where
  call : κ
  done : Trace R
  rest : Prog R Empty Unit

/-- Nothing is left of the program. -/
def Prog.ended {C : Type} {R : C → Type} {ε α : Type} : Prog R ε α → Bool
  | .call _ _ => false
  | _ => true

/-- The call a program makes next. -/
def Prog.next {C : Type} {R : C → Type} {ε α : Type} : Prog R ε α → Option C
  | .call c _ => some c
  | _ => none

/-- What can happen next: a call is made, a task goes on, or something
happens outside. -/
inductive Move (κ χ ω : Type)
  | begin (call : κ)
  | go (task : Nat) (choice : χ)
  | outside (o : ω)

/-- An actor in the middle of its work. -/
structure Tasks {C : Type} (R : C → Type) (σ κ : Type) where
  shared : σ
  tasks : List (Task R κ)
  /-- The task that made the last access. -/
  running : Option Nat

namespace Actor

variable {C : Type} {R : C → Type} {σ κ χ ω : Type} (a : Actor R σ κ χ ω)

/-- A call that was just made. -/
def started (k : κ) : Task R κ := ⟨k, [], a.program k⟩

/-- The event a task comes to when it goes on. -/
def event (s : Tasks R σ κ) (i : Nat) (x : χ) : Option (Event R) :=
  (s.tasks[i]?.bind fun t => t.rest.next).map fun c => ⟨c, a.answer s.shared c x⟩

/-- One move. A task that has ended does not go on. -/
def move (s : Tasks R σ κ) : Move κ χ ω → Tasks R σ κ
  | .begin k => { s with tasks := s.tasks ++ [a.started k] }
  | .go i x =>
      match s.tasks[i]? with
      | some ⟨k, done, .call c f⟩ =>
          let r := a.answer s.shared c x
          { shared := a.step s.shared ⟨c, r⟩
            tasks := s.tasks.set i ⟨k, done ++ [⟨c, r⟩], f r⟩ ++ (a.spawns ⟨c, r⟩).map a.started
            running := if a.access c then some i else s.running }
      | _ => s
  | .outside o =>
      { shared := a.outside s.shared o
        tasks := if a.ends o then s.tasks.map fun t => { t with rest := .ret () } else s.tasks
        running := if a.ends o then none else s.running }

/-- No other task is between two accesses. -/
def Yielded (s : Tasks R σ κ) (i : Nat) : Prop :=
  ∀ j ∈ s.running, j = i ∨ ∀ t ∈ s.tasks[j]?, ∀ c ∈ t.rest.next, a.access c = false

instance Yielded.decidable (s : Tasks R σ κ) (i : Nat) : Decidable (a.Yielded s i) := by
  unfold Yielded
  infer_instance

/-- A task goes on where it is not over, and comes to an access only when
no other is between two. -/
def May (s : Tasks R σ κ) : Move κ χ ω → Prop
  | .go i _ => ∃ t ∈ s.tasks[i]?, ∃ c ∈ t.rest.next, a.access c = true → a.Yielded s i
  | _ => True

instance May.decidable (s : Tasks R σ κ) (m : Move κ χ ω) : Decidable (a.May s m) := by
  cases m with
  | go i x =>
      unfold May
      infer_instance
  | begin k => exact .isTrue trivial
  | outside o => exact .isTrue trivial

variable {a} {s : Tasks R σ κ} {i : Nat} {x : χ} {e : Event R} {t : Task R κ}

/-- What comes of a task that comes to an event. -/
theorem event_eq_some :
    a.event s i x = some e ↔ ∃ k done c f, s.tasks[i]? = some ⟨k, done, .call c f⟩ ∧
      e = ⟨c, a.answer s.shared c x⟩ := by
  unfold event
  rw [Option.map_eq_some_iff]
  constructor
  · rintro ⟨c, hc, rfl⟩
    obtain ⟨⟨k, done, rest⟩, ht, hnext⟩ := Option.bind_eq_some_iff.1 hc
    cases rest with
    | call c' f =>
        obtain rfl := Option.some.inj hnext
        exact ⟨k, done, c', f, ht, rfl⟩
    | ret v => cases hnext
    | throw e => cases hnext
  · rintro ⟨k, done, c, f, ht, rfl⟩
    refine ⟨c, ?_, rfl⟩
    rw [ht]
    rfl

theorem move_go {k : κ} {done : Trace R} {c : C} {f : R c → Prog R Empty Unit}
    (ht : s.tasks[i]? = some ⟨k, done, .call c f⟩) :
    a.move s (.go i x) =
      { shared := a.step s.shared ⟨c, a.answer s.shared c x⟩
        tasks := s.tasks.set i ⟨k, done ++ [⟨c, a.answer s.shared c x⟩], f (a.answer s.shared c x)⟩
          ++ (a.spawns ⟨c, a.answer s.shared c x⟩).map a.started
        running := if a.access c then some i else s.running } := by
  unfold move
  simp only [ht]

/-- A task goes on, or its move changes nothing. -/
theorem move_go_cases (s : Tasks R σ κ) (i : Nat) (x : χ) :
    (∃ k done c f, s.tasks[i]? = some ⟨k, done, .call c f⟩) ∨ a.move s (.go i x) = s := by
  cases hi : s.tasks[i]? with
  | none =>
      right
      simp only [move, hi]
  | some t =>
      obtain ⟨k, done, rest⟩ := t
      cases rest with
      | call c f => exact Or.inl ⟨k, done, c, f, rfl⟩
      | ret v =>
          right
          simp only [move, hi]
      | throw e => exact e.elim

/-! ## What a program guarantees of itself -/

variable {G : κ → Trace R → C → Prop} {ms : List (Move κ χ ω)}

/-- Every task guarantees its calls from its own past. -/
def Guaranteed (G : κ → Trace R → C → Prop) (s : Tasks R σ κ) : Prop :=
  ∀ t ∈ s.tasks, Sat (G t.call) t.rest t.done fun _ _ => True

theorem guaranteed_started (h : ∀ k, Sat (G k) (a.program k) [] fun _ _ => True) (ks : List κ) :
    ∀ t ∈ ks.map a.started, Sat (G t.call) t.rest t.done fun _ _ => True := by
  intro t ht
  obtain ⟨k, -, rfl⟩ := List.mem_map.1 ht
  exact h k

theorem Guaranteed.move (h : ∀ k, Sat (G k) (a.program k) [] fun _ _ => True)
    (hs : Guaranteed G s) (m : Move κ χ ω) : Guaranteed G (a.move s m) := by
  cases m with
  | begin k =>
      intro t ht
      rcases List.mem_append.1 ht with ht | ht
      · exact hs t ht
      · exact guaranteed_started h [k] t ht
  | go i x =>
      rcases move_go_cases (a := a) s i x with ⟨k, done, c, f, hi⟩ | hsame
      · rw [move_go hi]
        intro t ht
        rcases List.mem_append.1 ht with ht | ht
        · rcases List.mem_or_eq_of_mem_set ht with ht | rfl
          · exact hs t ht
          · exact (hs _ (List.mem_of_getElem? hi)).2 _
        · exact guaranteed_started h _ t ht
      · rw [hsame]
        exact hs
  | outside o =>
      intro t ht
      unfold Actor.move at ht
      dsimp only at ht
      split_ifs at ht with hends
      · obtain ⟨u, -, rfl⟩ := List.mem_map.1 ht
        trivial
      · exact hs t ht

/-- **Beside any other tasks**, whatever they do and however their moves
are mixed, a task guarantees its calls. -/
theorem tasks_sat (h : ∀ k, Sat (G k) (a.program k) [] fun _ _ => True) (hs : Guaranteed G s) :
    Guaranteed G (ms.foldl a.move s) := by
  induction ms generalizing s with
  | nil => exact hs
  | cons m ms ih => exact ih (hs.move h m)

/-- The call a task comes to is guaranteed. -/
theorem Guaranteed.event (hs : Guaranteed G s) (hi : s.tasks[i]? = some t)
    (he : a.event s i x = some e) : G t.call t.done e.call := by
  obtain ⟨k, done, c, f, hi', rfl⟩ := event_eq_some.1 he
  obtain rfl := Option.some.inj (hi.symm.trans hi')
  exact (hs _ (List.mem_of_getElem? hi)).1

/-! ## One move, task by task -/

/-- The tasks after one goes on: itself, the others as they were, and the
ones it started. -/
theorem go_task {k : κ} {done : Trace R} {c : C} {f : R c → Prog R Empty Unit} {j : Nat}
    {u : Task R κ} (hi : s.tasks[i]? = some ⟨k, done, .call c f⟩)
    (hu : (a.move s (.go i x)).tasks[j]? = some u) :
    (j = i ∧ u = ⟨k, done ++ [⟨c, a.answer s.shared c x⟩], f (a.answer s.shared c x)⟩) ∨
    (j ≠ i ∧ s.tasks[j]? = some u) ∨
    (s.tasks.length ≤ j ∧ ∃ k' ∈ a.spawns ⟨c, a.answer s.shared c x⟩, u = a.started k') := by
  have hlen : i < s.tasks.length := (List.getElem?_eq_some_iff.1 hi).1
  rw [move_go hi] at hu
  dsimp only at hu
  by_cases hj : j < s.tasks.length
  · rw [List.getElem?_append_left (by rw [List.length_set]; exact hj)] at hu
    by_cases hij : i = j
    · subst hij
      rw [List.getElem?_set_self hlen] at hu
      exact Or.inl ⟨rfl, (Option.some.inj hu).symm⟩
    · rw [List.getElem?_set_ne hij] at hu
      exact Or.inr (Or.inl ⟨Ne.symm hij, hu⟩)
  · have hge : s.tasks.length ≤ j := by omega
    rw [List.getElem?_append_right (by rw [List.length_set]; exact hge)] at hu
    obtain ⟨k', hk', rfl⟩ := List.mem_map.1 (List.mem_of_getElem? hu)
    exact Or.inr (Or.inr ⟨hge, k', hk', rfl⟩)

/-- The task itself, once it went on. -/
theorem go_self {k : κ} {done : Trace R} {c : C} {f : R c → Prog R Empty Unit}
    (hi : s.tasks[i]? = some ⟨k, done, .call c f⟩) :
    (a.move s (.go i x)).tasks[i]? =
      some ⟨k, done ++ [⟨c, a.answer s.shared c x⟩], f (a.answer s.shared c x)⟩ := by
  have hlen : i < s.tasks.length := (List.getElem?_eq_some_iff.1 hi).1
  rw [move_go hi]
  dsimp only
  rw [List.getElem?_append_left (by rw [List.length_set]; exact hlen), List.getElem?_set_self hlen]

/-- The other tasks stay as they are. -/
theorem go_other {j : Nat} {u : Task R κ} (hne : j ≠ i) (hj : s.tasks[j]? = some u) :
    (a.move s (.go i x)).tasks[j]? = some u := by
  rcases move_go_cases (a := a) s i x with ⟨k, done, c, f, hi⟩ | hsame
  · have hlen : j < s.tasks.length := (List.getElem?_eq_some_iff.1 hj).1
    rw [move_go hi]
    dsimp only
    rw [List.getElem?_append_left (by rw [List.length_set]; exact hlen),
      List.getElem?_set_ne (Ne.symm hne)]
    exact hj
  · rw [hsame]
    exact hj

/-- The tasks after a call is made. -/
theorem begin_task {k : κ} {j : Nat} {u : Task R κ}
    (hu : (a.move s (.begin k)).tasks[j]? = some u) :
    s.tasks[j]? = some u ∨ (s.tasks.length ≤ j ∧ u = a.started k) := by
  have hu' : (s.tasks ++ [a.started k])[j]? = some u := hu
  by_cases hj : j < s.tasks.length
  · rw [List.getElem?_append_left hj] at hu'
    exact Or.inl hu'
  · have hge : s.tasks.length ≤ j := by omega
    rw [List.getElem?_append_right hge] at hu'
    exact Or.inr ⟨hge, List.mem_singleton.1 (List.mem_of_getElem? hu')⟩

/-- The tasks after something happened outside: as they were, or over. -/
theorem outside_task {o : ω} {j : Nat} {u : Task R κ}
    (hu : (a.move s (.outside o)).tasks[j]? = some u) :
    ∃ v, s.tasks[j]? = some v ∧ u.call = v.call ∧ u.done = v.done ∧
      (u.rest.ended = false → u = v ∧ a.ends o = false) := by
  unfold Actor.move at hu
  dsimp only at hu
  split_ifs at hu with hends
  · rw [List.getElem?_map, Option.map_eq_some_iff] at hu
    obtain ⟨v, hv, rfl⟩ := hu
    exact ⟨v, hv, rfl, rfl, fun hopen => by cases hopen⟩
  · rw [Bool.not_eq_true] at hends
    exact ⟨u, hu, rfl, rfl, fun _ => ⟨rfl, hends⟩⟩

/-- The calls and what was done stay, and what was done goes on. -/
theorem move_grows (m : Move κ χ ω) {j : Nat} {t : Task R κ} (ht : s.tasks[j]? = some t) :
    ∃ u, (a.move s m).tasks[j]? = some u ∧ u.call = t.call ∧ t.done <+: u.done := by
  have hlen : j < s.tasks.length := (List.getElem?_eq_some_iff.1 ht).1
  cases m with
  | begin k =>
      refine ⟨t, ?_, rfl, List.prefix_rfl⟩
      show (s.tasks ++ [a.started k])[j]? = some t
      rw [List.getElem?_append_left hlen]
      exact ht
  | go i x =>
      by_cases hij : j = i
      · subst hij
        rcases move_go_cases (a := a) s j x with ⟨k, done, c, f, hi⟩ | hsame
        · obtain rfl := Option.some.inj (ht.symm.trans hi)
          exact ⟨_, go_self hi, rfl, List.prefix_append _ _⟩
        · rw [hsame]
          exact ⟨t, ht, rfl, List.prefix_rfl⟩
      · exact ⟨t, go_other hij ht, rfl, List.prefix_rfl⟩
  | outside o =>
      unfold Actor.move
      dsimp only
      split_ifs with hends
      · refine ⟨{ t with rest := .ret () }, ?_, rfl, List.prefix_rfl⟩
        rw [List.getElem?_map, ht, Option.map_some]
      · exact ⟨t, ht, rfl, List.prefix_rfl⟩

/-! ## What a program owes at its end -/

/-- Every task that is not over guarantees its calls, and what it owes at
its end. -/
def Keeping (G : κ → Trace R → C → Prop) (Q : κ → Trace R → Prop) (s : Tasks R σ κ) : Prop :=
  ∀ t ∈ s.tasks, t.rest.ended = false → Sat (G t.call) t.rest t.done fun u _ => Q t.call u

section Keeping

variable {Q : κ → Trace R → Prop}

/-- The call a task comes to is guaranteed, and so is what is left. -/
theorem Keeping.next {k : κ} {done : Trace R} {c : C} {f : R c → Prog R Empty Unit}
    (hs : Keeping G Q s) (hi : s.tasks[i]? = some ⟨k, done, .call c f⟩) :
    G k done c ∧ ∀ r, Sat (G k) (f r) (done ++ [⟨c, r⟩]) fun u _ => Q k u :=
  hs _ (List.mem_of_getElem? hi) rfl

/-- A task that ends with its next event owes nothing more. -/
theorem Keeping.ended {k : κ} {done : Trace R} {c : C} {f : R c → Prog R Empty Unit} {r : R c}
    (hs : Keeping G Q s) (hi : s.tasks[i]? = some ⟨k, done, .call c f⟩)
    (hended : (f r).ended = true) : Q k (done ++ [⟨c, r⟩]) := by
  have hrest := (hs.next hi).2 r
  cases hf : f r with
  | call c' f' =>
      rw [hf] at hended
      cases hended
  | ret v =>
      rw [hf] at hrest
      exact hrest
  | throw e => exact e.elim

theorem Keeping.move (h : ∀ k, Sat (G k) (a.program k) [] fun u _ => Q k u)
    (hs : Keeping G Q s) (m : Move κ χ ω) : Keeping G Q (a.move s m) := by
  have hstarted : ∀ k, (a.started k).rest.ended = false →
      Sat (G (a.started k).call) (a.started k).rest (a.started k).done
        fun u _ => Q (a.started k).call u := fun k _ => h k
  intro t ht hopen
  obtain ⟨j, hj⟩ := List.mem_iff_getElem?.1 ht
  cases m with
  | begin k =>
      rcases begin_task hj with hold | ⟨-, rfl⟩
      · exact hs t (List.mem_of_getElem? hold) hopen
      · exact hstarted k hopen
  | go i x =>
      rcases move_go_cases (a := a) s i x with ⟨k, done, c, f, hi⟩ | hsame
      · rcases go_task hi hj with ⟨-, rfl⟩ | ⟨-, hold⟩ | ⟨-, k', -, rfl⟩
        · exact (hs.next hi).2 _
        · exact hs t (List.mem_of_getElem? hold) hopen
        · exact hstarted k' hopen
      · rw [hsame] at hj
        exact hs t (List.mem_of_getElem? hj) hopen
  | outside o =>
      obtain ⟨v, hv, -, -, hsame⟩ := outside_task hj
      obtain ⟨rfl, -⟩ := hsame hopen
      exact hs t (List.mem_of_getElem? hv) hopen

end Keeping

/-! ## What a program counts on alone -/

/-- The triple of a program nothing else happens beside: it is told of the
shared state and of the program's own past. -/
def Triple (a : Actor R σ κ χ ω) {ε α : Type} (G : σ → Trace R → C → Prop) :
    Prog R ε α → σ → Trace R → (σ → Trace R → α → Prop) → Prop
  | .ret v, s, t, Q => Q s t v
  | .throw _, _, _, _ => True
  | .call c k, s, t, Q => G s t c ∧ ∀ x, Triple a G (k (a.answer s c x))
      (a.step s ⟨c, a.answer s c x⟩) (t ++ [⟨c, a.answer s c x⟩]) Q

section Triple

variable {ε α β : Type} {G G' : σ → Trace R → C → Prop} {s : σ} {t : Trace R} {p : Prog R ε α}

/-- Sequencing. -/
theorem triple_bind {f : α → Prog R ε β} {Q : σ → Trace R → β → Prop} :
    a.Triple G (p >>= f) s t Q ↔ a.Triple G p s t fun s' t' v => a.Triple G (f v) s' t' Q := by
  change a.Triple G (p.bind f) s t Q ↔ _
  induction p generalizing s t with
  | ret v => exact Iff.rfl
  | throw e => exact Iff.rfl
  | call c k ih => exact and_congr Iff.rfl (forall_congr' fun x => ih _)

/-- A call, and what follows it. -/
theorem triple_ask {c : C} {f : R c → Prog R ε β} {Q : σ → Trace R → β → Prop} :
    a.Triple G (Prog.ask c >>= f) s t Q ↔ G s t c ∧ ∀ x, a.Triple G (f (a.answer s c x))
      (a.step s ⟨c, a.answer s c x⟩) (t ++ [⟨c, a.answer s c x⟩]) Q := Iff.rfl

/-- **Consequence**, for the guard and the postcondition; the past a
program began with stays the beginning of its past. -/
theorem Triple.weaken {Q Q' : σ → Trace R → α → Prop} (h : a.Triple G p s t Q)
    (hG : ∀ s' t' c, t <+: t' → G s' t' c → G' s' t' c)
    (hQ : ∀ s' t' v, t <+: t' → Q s' t' v → Q' s' t' v) : a.Triple G' p s t Q' := by
  induction p generalizing s t with
  | ret v => exact hQ _ _ _ List.prefix_rfl h
  | throw e => trivial
  | call c k ih =>
      refine ⟨hG _ _ _ List.prefix_rfl h.1, fun x => ?_⟩
      have hpast : t <+: t ++ [⟨c, a.answer s c x⟩] := List.prefix_append t _
      exact ih _ (h.2 x) (fun s' t' c hp => hG s' t' c (hpast.trans hp))
        fun s' t' v hp => hQ s' t' v (hpast.trans hp)

theorem Triple.mono {Q Q' : σ → Trace R → α → Prop} (h : a.Triple G p s t Q)
    (hQ : ∀ s' t' v, Q s' t' v → Q' s' t' v) : a.Triple G p s t Q' :=
  h.weaken (fun _ _ _ _ hc => hc) fun s' t' v _ hv => hQ s' t' v hv

/-- Sequencing, as it is used. -/
theorem Triple.bind {f : α → Prog R ε β} {P : σ → Trace R → α → Prop}
    {Q : σ → Trace R → β → Prop} (h : a.Triple G p s t P)
    (hf : ∀ s' t' v, P s' t' v → a.Triple G (f v) s' t' Q) : a.Triple G (p >>= f) s t Q :=
  triple_bind.2 (h.mono hf)

end Triple

/-! ## One call after another -/

/-- No call is made before the one before it has ended. -/
def Serial (s : Tasks R σ κ) : Move κ χ ω → Prop
  | .begin _ => ∀ t ∈ s.tasks, t.rest.ended = true
  | _ => True

instance Serial.decidable (s : Tasks R σ κ) (m : Move κ χ ω) : Decidable (Serial s m) := by
  cases m with
  | begin k =>
      unfold Serial
      infer_instance
  | go i x => exact .isTrue trivial
  | outside o => exact .isTrue trivial

/-- At most one task is not over, and it counts on the shared state; where
all are over the invariant holds. -/
structure Alone (a : Actor R σ κ χ ω) (I : σ → Prop) (G : κ → σ → Trace R → C → Prop)
    (Q : κ → σ → Trace R → Prop) (s : Tasks R σ κ) : Prop where
  one : ∀ (i j : Nat) (t u : Task R κ), s.tasks[i]? = some t → s.tasks[j]? = some u →
    t.rest.ended = false → u.rest.ended = false → i = j
  task : ∀ t ∈ s.tasks, t.rest.ended = false →
    a.Triple (G t.call) t.rest s.shared t.done fun s' t' _ => Q t.call s' t'
  idle : (∀ t ∈ s.tasks, t.rest.ended = true) → I s.shared

section Alone

variable {I : σ → Prop} {G : κ → σ → Trace R → C → Prop} {Q : κ → σ → Trace R → Prop}
  {cond : Tasks R σ κ → κ → Prop} {s : Tasks R σ κ}

/-- Where nothing goes on, the invariant is all there is. -/
theorem alone_idle (hidle : ∀ t ∈ s.tasks, t.rest.ended = true) (hI : I s.shared) :
    Alone a I G Q s := by
  have hno : ∀ t ∈ s.tasks, t.rest.ended ≠ false := by
    intro t ht hopen
    rw [hidle t ht] at hopen
    cases hopen
  exact ⟨fun i j t u ht _ hopen => absurd hopen (hno t (List.mem_of_getElem? ht)),
    fun t ht hopen => absurd hopen (hno t ht), fun _ => hI⟩

/-- The one task that is not over, after whatever it did. -/
theorem alone_task {k : κ} {done : Trace R} {rest : Prog R Empty Unit}
    (hi : s.tasks[i]? = some ⟨k, done, rest⟩)
    (hother : ∀ (j : Nat) t, s.tasks[j]? = some t → j ≠ i → t.rest.ended = true)
    (htask : a.Triple (G k) rest s.shared done fun s' t' _ => Q k s' t')
    (hQ : ∀ s' t', Q k s' t' → I s') : Alone a I G Q s := by
  have honly : ∀ (j : Nat) t, s.tasks[j]? = some t → t.rest.ended = false → j = i := by
    intro j t ht hopen
    by_contra hne
    rw [hother j t ht hne] at hopen
    cases hopen
  refine ⟨fun j j' t u ht hu hopen hopen' => ?_, fun t ht hopen => ?_, fun hidle => ?_⟩
  · rw [honly j t ht hopen, honly j' u hu hopen']
  · obtain ⟨j, hj⟩ := List.mem_iff_getElem?.1 ht
    obtain rfl := honly j t hj hopen
    obtain rfl := Option.some.inj (hj.symm.trans hi)
    exact htask
  · have hended := hidle _ (List.mem_of_getElem? hi)
    cases rest with
    | ret v => exact hQ _ _ htask
    | throw e => exact e.elim
    | call c f => cases hended

/-- **One move of a serial run.** -/
theorem Alone.move {m : Move κ χ ω} (hspawns : ∀ e, a.spawns e = [])
    (hends : ∀ o, a.ends o = true)
    (hbegin : ∀ s k, I s.shared → cond s k →
      a.Triple (G k) (a.program k) s.shared [] fun s' t' _ => Q k s' t')
    (hQ : ∀ k s' t', Q k s' t' → I s')
    (hG : ∀ k s' t' c o, G k s' t' c → I (a.outside s' o))
    (hI : ∀ s' o, I s' → I (a.outside s' o)) (hs : Alone a I G Q s) (hserial : Serial s m)
    (hcond : ∀ k, m = .begin k → cond s k) : Alone a I G Q (a.move s m) := by
  cases m with
  | begin k =>
      have hidle : ∀ t ∈ s.tasks, t.rest.ended = true := hserial
      have hlast : (s.tasks ++ [a.started k])[s.tasks.length]? = some (a.started k) :=
        List.getElem?_concat_length
      refine alone_task hlast (fun j t ht hne => ?_)
        (hbegin s k (hs.idle hidle) (hcond k rfl)) (hQ k)
      have ht' : (s.tasks ++ [a.started k])[j]? = some t := ht
      rw [List.getElem?_append] at ht'
      split_ifs at ht' with hj
      · exact hidle t (List.mem_of_getElem? ht')
      · have hj' : j - s.tasks.length ≠ 0 := by omega
        rw [List.getElem?_singleton, if_neg hj'] at ht'
        cases ht'
  -- nobody else is open, so the task's own triple carries the state on
  | go i x =>
      rcases move_go_cases (a := a) s i x with ⟨k, done, c, f, hi⟩ | hsame
      · rw [move_go hi, hspawns, List.map_nil, List.append_nil]
        obtain ⟨-, hnext⟩ := hs.task _ (List.mem_of_getElem? hi) rfl
        have hlen : i < s.tasks.length := (List.getElem?_eq_some_iff.1 hi).1
        refine alone_task (List.getElem?_set_self hlen) (fun j t ht hne => ?_) (hnext x) (hQ k)
        rw [List.getElem?_set_ne (Ne.symm hne)] at ht
        by_contra hopen
        rw [Bool.not_eq_true] at hopen
        exact hne (hs.one j i t _ ht hi hopen rfl)
      · rw [hsame]
        exact hs
  | outside o =>
      have hall : ∀ t ∈ (a.move s (.outside o)).tasks, t.rest.ended = true := by
        intro t ht
        unfold Actor.move at ht
        dsimp only at ht
        rw [hends, if_pos rfl] at ht
        obtain ⟨u, -, rfl⟩ := List.mem_map.1 ht
        rfl
      refine alone_idle hall ?_
      by_cases hidle : ∀ t ∈ s.tasks, t.rest.ended = true
      · exact hI _ o (hs.idle hidle)
      · -- a task it cuts short left the state as its guard has it
        rw [not_forall] at hidle
        obtain ⟨t, hidle⟩ := hidle
        rw [Classical.not_imp, Bool.not_eq_true] at hidle
        obtain ⟨ht, hopen⟩ := hidle
        have htriple := hs.task t ht hopen
        cases hrest : t.rest with
        | call c f =>
            rw [hrest] at htriple
            exact hG _ _ _ _ o htriple.1
        | ret v =>
            rw [hrest] at hopen
            cases hopen
        | throw e => exact e.elim

/-- **A serial run.** -/
theorem Alone.run (hspawns : ∀ e, a.spawns e = []) (hends : ∀ o, a.ends o = true)
    (hbegin : ∀ s k, I s.shared → cond s k →
      a.Triple (G k) (a.program k) s.shared [] fun s' t' _ => Q k s' t')
    (hQ : ∀ k s' t', Q k s' t' → I s')
    (hG : ∀ k s' t' c o, G k s' t' c → I (a.outside s' o))
    (hI : ∀ s' o, I s' → I (a.outside s' o)) (hs : Alone a I G Q s)
    (h : Transition.Along a.move
      (fun s m => Serial s m ∧ ∀ k, m = .begin k → cond s k) s ms) :
    Alone a I G Q (ms.foldl a.move s) := by
  refine h.invariant (P := Alone a I G Q) (fun s m hs hm => ?_) hs
  exact hs.move hspawns hends hbegin hQ hG hI hm.1 hm.2

/-- A task that is not over has been there since before the last call was
made. -/
theorem open_before (hspawns : ∀ e, a.spawns e = []) (hends : ∀ o, a.ends o = true)
    (hno : ∀ k, .begin k ∉ ms) {j : Nat} {t : Task R κ}
    (ht : (ms.foldl a.move s).tasks[j]? = some t) (hopen : t.rest.ended = false) :
    ∃ u, s.tasks[j]? = some u ∧ u.rest.ended = false := by
  induction ms generalizing s with
  | nil => exact ⟨t, ht, hopen⟩
  | cons m ms ih =>
      obtain ⟨u, hu, hu'⟩ := ih (fun k hk => hno k (List.mem_cons_of_mem m hk)) ht
      cases m with
      | begin k => exact absurd List.mem_cons_self (hno k)
      | go i x =>
          rcases move_go_cases (a := a) s i x with ⟨k, done, c, f, hi⟩ | hsame
          · rw [move_go hi, hspawns, List.map_nil, List.append_nil] at hu
            by_cases hij : i = j
            · subst hij
              exact ⟨_, hi, rfl⟩
            · rw [List.getElem?_set_ne hij] at hu
              exact ⟨u, hu, hu'⟩
          · rw [hsame] at hu
            exact ⟨u, hu, hu'⟩
      | outside o =>
          unfold Actor.move at hu
          dsimp only at hu
          rw [hends, if_pos rfl] at hu
          obtain ⟨v, -, rfl⟩ := List.mem_map.1 (List.mem_of_getElem? hu)
          cases hu'

/-- The call a task comes to is allowed. -/
theorem Alone.event (hs : Alone a I G Q s) (hi : s.tasks[i]? = some t)
    (he : a.event s i x = some e) : G t.call s.shared t.done e.call := by
  obtain ⟨k, done, c, f, hi', rfl⟩ := event_eq_some.1 he
  obtain rfl := Option.some.inj (hi.symm.trans hi')
  exact (hs.task _ (List.mem_of_getElem? hi) rfl).1

end Alone

end Actor

end Interaction

end Unlinger
