import Mathlib.Algebra.GroupWithZero.Nat
import Mathlib.Data.List.Chain

/-!
# Run-length encoding with marks

Values that come one after another, each at its time, kept as spans of
like values: a span knows when it began and ended, how many values it
stands for, and the newest of them. Marks come between the values and end
a span. An encoding is told by what it expands to, group by group, and by
its spans being as long as they can be.
-/

namespace Unlinger

namespace RunLength

variable {α : Type}

/-- What comes: a value, or a mark. -/
inductive Entry (α : Type)
  | value (t : Nat) (a : α)
  | mark (t : Nat)

/-- When it came. -/
def Entry.time : Entry α → Nat
  | .value t _ => t
  | .mark t => t

/-- It is a value. -/
def Entry.isValue : Entry α → Bool
  | .value _ _ => true
  | .mark _ => false

/-- Like values in a row. -/
structure Span (α : Type) where
  first : Nat
  last : Nat
  count : Nat
  latest : α

/-- What is kept: a span, or a mark. -/
inductive Item (α : Type)
  | span (s : Span α)
  | mark (t : Nat)

/-- When it ended. -/
def Item.time : Item α → Nat
  | .span s => s.last
  | .mark t => t

/-- How many values it stands for. -/
def Item.count : Item α → Nat
  | .span s => s.count
  | .mark _ => 0

/-- A span of one value. -/
def Item.single (t : Nat) (a : α) : Item α := .span ⟨t, t, 1, a⟩

/-- One more value of a span. -/
def Span.extend (s : Span α) (t : Nat) (a : α) : Span α := ⟨s.first, t, s.count + 1, a⟩

variable (same : α → α → Bool)

/-- Take one more entry: a value like the newest of the last span extends
it, and everything else is appended. -/
def record (items : List (Item α)) : Entry α → List (Item α)
  | .mark t => items ++ [.mark t]
  | .value t a =>
      match items.getLast? with
      | some (.span s) =>
          if s.last ≤ t ∧ same s.latest a = true then items.dropLast ++ [.span (s.extend t a)]
          else items ++ [.single t a]
      | _ => items ++ [.single t a]

/-- The entries an item stands for. -/
inductive Covers : Item α → List (Entry α) → Prop
  | mark (t : Nat) : Covers (.mark t) [.mark t]
  | span {s : Span α} {members : List (Nat × α)} (hcount : members.length = s.count)
      (hfirst : members.head?.map Prod.fst = some s.first)
      (hlast : members.getLast?.map Prod.fst = some s.last)
      (hsame : ∀ m ∈ members, same m.2 s.latest = true) :
      Covers (.span s) (members.map fun m => .value m.1 m.2)

/-- Two spans that should have been one. -/
def Mergeable : Item α → Item α → Prop
  | .span s, .span s' => same s.latest s'.latest = true
  | _, _ => False

/-- **An encoding of what came**: the items, each with its entries, are
what came in order, and no two spans next to each other are alike. -/
structure Encodes (items : List (Item α)) (log : List (Entry α)) : Prop where
  expands : ∃ parts : List (Item α × List (Entry α)), parts.map Prod.fst = items ∧
    (parts.map Prod.snd).flatten = log ∧ ∀ p ∈ parts, Covers same p.1 p.2
  maximal : items.IsChain fun x y => ¬ Mergeable same x y

/-- The test tells alike as an equivalence does. -/
structure Alike : Prop where
  refl : ∀ a, same a a = true
  symm : ∀ a b, same a b = true → same b a = true
  trans : ∀ a b c, same a b = true → same b c = true → same a c = true

variable {same} {items : List (Item α)} {log : List (Entry α)} {e : Entry α}

/-- A value that does not go on with the last span is appended. -/
theorem record_value_append {t : Nat} {a : α}
    (h : ∀ s, items.getLast? = some (.span s) → ¬ (s.last ≤ t ∧ same s.latest a = true)) :
    record same items (.value t a) = items ++ [.single t a] := by
  simp only [record]
  split
  · rename_i s hs
    rw [if_neg (h s hs)]
  · rfl

/-- A value that goes on with the last span extends it. -/
theorem record_value_extend {init : List (Item α)} {s : Span α} {t : Nat} {a : α}
    (hlast : s.last ≤ t) (hsame : same s.latest a = true) :
    record same (init ++ [.span s]) (.value t a) = init ++ [.span (s.extend t a)] := by
  unfold record
  rw [List.getLast?_concat, List.dropLast_concat]
  exact if_pos ⟨hlast, hsame⟩

theorem encodes_nil : Encodes same ([] : List (Item α)) [] :=
  ⟨⟨[], rfl, rfl, by simp⟩, List.IsChain.nil⟩

theorem covers_single (halike : Alike same) {t : Nat} {a : α} :
    Covers same (.single t a) [.value t a] := by
  have hmembers : ∀ m ∈ [(t, a)], same m.2 a = true := by
    intro m hm
    obtain rfl := List.mem_singleton.1 hm
    exact halike.refl a
  have hspan : Covers same (.span ⟨t, t, 1, a⟩) ([(t, a)].map fun m => .value m.1 m.2) :=
    Covers.span rfl rfl rfl hmembers
  exact hspan

/-- A span takes one more value like its newest. -/
theorem Covers.extend (halike : Alike same) {s : Span α} {group : List (Entry α)} {t : Nat} {a : α}
    (h : Covers same (.span s) group) (hsame : same s.latest a = true) :
    Covers same (.span (s.extend t a)) (group ++ [.value t a]) := by
  cases h with
  | span hcount hfirst hlast hall =>
      rename_i members
      rw [show [Entry.value t a] = [(t, a)].map fun m => Entry.value m.1 m.2 from rfl,
        ← List.map_append]
      refine Covers.span ?_ ?_ ?_ fun m hm => ?_
      · rw [List.length_append, hcount]
        rfl
      · cases members with
        | nil => cases hfirst
        | cons m members => exact hfirst
      · rw [List.getLast?_append]
        rfl
      · rcases List.mem_append.1 hm with hm | hm
        · exact halike.trans _ _ _ (hall m hm) hsame
        · obtain rfl := List.mem_singleton.1 hm
          exact halike.refl a

/-- An item is appended with its entries, where it does not belong to the
last span. -/
theorem Encodes.append (h : Encodes same items log) {x : Item α} {group : List (Entry α)}
    (hx : Covers same x group) (hlast : ∀ y ∈ items.getLast?, ¬ Mergeable same y x) :
    Encodes same (items ++ [x]) (log ++ group) := by
  obtain ⟨parts, hitems, hlog, hcovers⟩ := h.expands
  refine ⟨⟨parts ++ [(x, group)], by simp [hitems], by simp [hlog], fun p hp => ?_⟩, ?_⟩
  · rcases List.mem_append.1 hp with hp | hp
    · exact hcovers p hp
    · obtain rfl := List.mem_singleton.1 hp
      exact hx
  · rw [List.isChain_append]
    refine ⟨h.maximal, List.IsChain.singleton x, fun y hy z hz => ?_⟩
    obtain rfl : x = z := by simpa using hz
    exact hlast y hy

/-- The last span goes on. -/
theorem Encodes.extend (halike : Alike same) {init : List (Item α)} {s : Span α} {t : Nat} {a : α}
    (h : Encodes same (init ++ [.span s]) log) (hsame : same s.latest a = true) :
    Encodes same (init ++ [.span (s.extend t a)]) (log ++ [.value t a]) := by
  obtain ⟨parts, hitems, hlog, hcovers⟩ := h.expands
  obtain ⟨before, lastPart, rfl, hbefore, hspan⟩ := List.map_eq_append_iff.1 hitems
  obtain ⟨⟨x, group⟩, rfl, hx⟩ := List.map_eq_singleton_iff.1 hspan
  obtain rfl : x = .span s := hx
  have hgroup : Covers same (.span s) group := hcovers (.span s, group) (by simp)
  refine ⟨⟨before ++ [(.span (s.extend t a), group ++ [.value t a])], by simp [hbefore], ?_,
    fun p hp => ?_⟩, ?_⟩
  · rw [← hlog]
    simp
  · rcases List.mem_append.1 hp with hp | hp
    · exact hcovers p (List.mem_append_left _ hp)
    · obtain rfl := List.mem_singleton.1 hp
      exact hgroup.extend halike hsame
  · -- a span before that is like the new value was like the one it continues
    obtain ⟨hinit, -, hjoin⟩ := List.isChain_append.1 h.maximal
    rw [List.isChain_append]
    refine ⟨hinit, List.IsChain.singleton _, fun y hy z hz => ?_⟩
    obtain rfl : Item.span (s.extend t a) = z := by simpa using hz
    have hno := hjoin y hy (.span s) (by simp)
    cases y with
    | mark u => exact id
    | span s' =>
        intro hmerge
        exact hno (halike.trans _ _ _ hmerge (halike.symm _ _ hsame))

/-- **What comes next is encoded**, as long as it is not before what came
last. -/
theorem Encodes.record (halike : Alike same) (h : Encodes same items log)
    (hle : ∀ x ∈ items.getLast?, x.time ≤ e.time) :
    Encodes same (record same items e) (log ++ [e]) := by
  cases e with
  | mark t =>
      refine h.append (Covers.mark t) fun y _ => ?_
      cases y <;> exact id
  | value t a =>
      by_cases hgoes : ∃ init s, items = init ++ [.span s] ∧ s.last ≤ t ∧ same s.latest a = true
      · obtain ⟨init, s, rfl, hlast, hsame⟩ := hgoes
        rw [record_value_extend hlast hsame]
        exact h.extend halike hsame
      · have hno : ∀ s, items.getLast? = some (.span s) →
            ¬ (s.last ≤ t ∧ same s.latest a = true) := by
          intro s hs hgo
          obtain ⟨init, rfl⟩ := List.getLast?_eq_some_iff.1 hs
          exact hgoes ⟨init, s, rfl, hgo⟩
        rw [record_value_append hno]
        refine h.append (covers_single halike) fun y hy => ?_
        cases y with
        | mark u => exact id
        | span s => exact fun hmerge => hno s hy ⟨hle (.span s) hy, hmerge⟩

theorem Covers.count_eq {x : Item α} {group : List (Entry α)} (h : Covers same x group) :
    x.count = group.countP Entry.isValue := by
  cases h with
  | mark t => rfl
  | @span s members hcount _ _ _ =>
      have hall : (members.map fun m => Entry.value m.1 m.2).countP Entry.isValue
          = members.length := by
        rw [List.countP_map]
        exact List.countP_eq_length.2 fun _ _ => rfl
      exact hcount.symm.trans hall.symm

/-- The counts add up to the values that came. -/
theorem Encodes.count_sum (h : Encodes same items log) :
    (items.map Item.count).sum = log.countP Entry.isValue := by
  obtain ⟨parts, rfl, rfl, hcovers⟩ := h.expands
  clear h
  induction parts with
  | nil => rfl
  | cons p parts ih =>
      have hrest := ih fun q hq => hcovers q (List.mem_cons_of_mem p hq)
      have hhead := (hcovers p List.mem_cons_self).count_eq
      rw [List.map_cons, List.map_cons, List.sum_cons, List.map_cons, List.flatten_cons,
        List.countP_append, hrest, hhead]

end RunLength

end Unlinger
