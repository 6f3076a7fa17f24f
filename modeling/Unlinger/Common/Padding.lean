import Mathlib.Data.List.DropRight
import Mathlib.Data.List.Lex
import Mathlib.Order.Lattice

/-!
# Lists padded at the end

Lists over an order with a least element, each read as if that element
went on behind its end. Padded to a common length they compare position
by position; trimmed of the least elements at their ends they compare
the same way, whatever their lengths are.
-/

namespace Unlinger

namespace Padding

variable {α : Type} {z : α} {n : Nat}

theorem rightpad_nil : ([] : List α).rightpad n z = List.replicate n z := by
  simp [List.rightpad]

theorem rightpad_cons {a : α} {l : List α} :
    (a :: l).rightpad (n + 1) z = a :: l.rightpad n z := by
  simp [List.rightpad]

variable [LinearOrder α]

/-- Without the `z`s at the end; one stays where there is nothing else. -/
def trimEnd (z : α) (l : List α) : List α :=
  if l.rdropWhile (· == z) = [] then l.take 1 else l.rdropWhile (· == z)

/-- Padding adds nothing the trimming would leave. -/
theorem rdropWhile_replicate (l : List α) (k : Nat) :
    (l ++ List.replicate k z).rdropWhile (· == z) = l.rdropWhile (· == z) := by
  induction k with
  | zero => simp
  | succ k ih =>
    rw [List.replicate_succ', ← List.append_assoc,
      List.rdropWhile_concat_pos (· == z) _ z (by simp), ih]

/-- What the trimming takes away is `z`s. -/
theorem exists_replicate (l : List α) :
    ∃ k, l = l.rdropWhile (· == z) ++ List.replicate k z := by
  have hall : ∀ x ∈ l.rtakeWhile (· == z), x = z := by
    intro x hx
    simpa using List.mem_rtakeWhile_imp hx
  refine ⟨(l.rtakeWhile (· == z)).length, ?_⟩
  rw [← List.eq_replicate_of_mem hall, List.rdropWhile_append_rtakeWhile]

/-- The same with one kept. -/
theorem exists_replicate_trimEnd (l : List α) : ∃ k, l = trimEnd z l ++ List.replicate k z := by
  obtain ⟨k, hk⟩ := exists_replicate (z := z) l
  unfold trimEnd
  by_cases hnil : l.rdropWhile (· == z) = []
  · rw [if_pos hnil]
    rw [hnil, List.nil_append] at hk
    refine ⟨k - 1, ?_⟩
    cases k with
    | zero => simp [hk]
    | succ k => simp [hk, List.replicate_succ]
  · rw [if_neg hnil]
    exact ⟨k, hk⟩

/-- Trimmed and padded again. -/
theorem rightpad_trimEnd {l : List α} (hl : l.length ≤ n) :
    (trimEnd z l).rightpad n z = l.rightpad n z := by
  obtain ⟨k, hk⟩ := exists_replicate_trimEnd (z := z) l
  have hlen : l.length = (trimEnd z l).length + k := by
    conv_lhs => rw [hk]
    simp
  rw [List.rightpad, List.rightpad]
  conv_rhs => rw [hk]
  rw [List.append_assoc, ← List.replicate_add, ← hk, hlen]
  congr 2
  omega

/-- The trimmed form is told by the padded one. -/
theorem trimEnd_eq_of_rightpad {l : List α} (hne : l ≠ []) :
    trimEnd z l = if (l.rightpad n z).rdropWhile (· == z) = [] then [z]
      else (l.rightpad n z).rdropWhile (· == z) := by
  rw [List.rightpad, rdropWhile_replicate, trimEnd]
  by_cases hnil : l.rdropWhile (· == z) = []
  · rw [if_pos hnil, if_pos hnil]
    obtain ⟨a, l, rfl⟩ := List.exists_cons_of_ne_nil hne
    have ha := (List.rdropWhile_eq_nil_iff.mp hnil) a (by simp)
    simpa using ha
  · rw [if_neg hnil, if_neg hnil]

/-- Trimmed forms are equal where padded ones are. -/
theorem trimEnd_eq_iff {a b : List α} (ha : a ≠ []) (hb : b ≠ []) (han : a.length ≤ n)
    (hbn : b.length ≤ n) : trimEnd z a = trimEnd z b ↔ a.rightpad n z = b.rightpad n z := by
  constructor
  · intro h
    rw [← rightpad_trimEnd han, ← rightpad_trimEnd hbn, h]
  · intro h
    rw [trimEnd_eq_of_rightpad (n := n) ha, trimEnd_eq_of_rightpad (n := n) hb, h]

section Order

theorem cons_le_cons_iff {x y : α} {a b : List α} :
    x :: a ≤ y :: b ↔ x < y ∨ x = y ∧ a ≤ b := by
  rw [← not_lt, List.cons_lt_cons_iff, ← not_lt]
  constructor
  · intro h
    rcases lt_trichotomy x y with hlt | heq | hgt
    · exact Or.inl hlt
    · exact Or.inr ⟨heq, fun hba => h (Or.inr ⟨heq.symm, hba⟩)⟩
    · exact absurd (Or.inl hgt) h
  · rintro (hlt | ⟨heq, hab⟩) (hgt | ⟨heq', hba⟩)
    · exact lt_asymm hlt hgt
    · exact absurd heq'.symm (ne_of_lt hlt)
    · exact absurd heq.symm (ne_of_lt hgt)
    · exact hab hba

variable (hz : ∀ a : α, z ≤ a)
include hz

/-- Nothing is below a list of least elements of its length. -/
theorem replicate_le {l : List α} (hl : l.length ≤ n) :
    List.replicate n z ≤ l.rightpad n z := by
  induction l generalizing n with
  | nil => rw [rightpad_nil]
  | cons a l ih =>
    obtain ⟨n, rfl⟩ : ∃ m, n = m + 1 := ⟨n - 1, by simp at hl; omega⟩
    rw [List.replicate_succ, rightpad_cons, cons_le_cons_iff]
    rcases lt_or_eq_of_le (hz a) with hlt | heq
    · exact Or.inl hlt
    · exact Or.inr ⟨heq, ih (by simpa using hl)⟩

/-- **Padding keeps the order**: a prefix is padded with the least. -/
theorem rightpad_le {a b : List α} (han : a.length ≤ n) (hbn : b.length ≤ n) (h : a ≤ b) :
    a.rightpad n z ≤ b.rightpad n z := by
  induction a generalizing b n with
  | nil =>
    rw [rightpad_nil]
    exact replicate_le hz hbn
  | cons x a ih =>
    obtain _ | ⟨y, b⟩ := b
    · exact absurd h (by simp)
    obtain ⟨n, rfl⟩ : ∃ m, n = m + 1 := ⟨n - 1, by simp at han; omega⟩
    rw [rightpad_cons, rightpad_cons, cons_le_cons_iff]
    rcases cons_le_cons_iff.mp h with hlt | ⟨heq, htail⟩
    · exact Or.inl hlt
    · exact Or.inr ⟨heq, ih (by simpa using han) (by simpa using hbn) htail⟩

/-- **Trimmed lists compare as padded ones.** One direction is the order
kept by padding; for the other, what is not below is above, and two lists
equal when padded are equal when trimmed. -/
theorem trimEnd_le_iff {a b : List α} (ha : a ≠ []) (hb : b ≠ []) (han : a.length ≤ n)
    (hbn : b.length ≤ n) : trimEnd z a ≤ trimEnd z b ↔ a.rightpad n z ≤ b.rightpad n z := by
  have hlen : ∀ l : List α, l.length ≤ n → (trimEnd z l).length ≤ n := by
    intro l hl
    obtain ⟨k, hk⟩ := exists_replicate_trimEnd (z := z) l
    have := congrArg List.length hk
    simp only [List.length_append, List.length_replicate] at this
    omega
  constructor
  · intro h
    rw [← rightpad_trimEnd han, ← rightpad_trimEnd hbn]
    exact rightpad_le hz (hlen a han) (hlen b hbn) h
  · intro h
    rcases le_total (trimEnd z a) (trimEnd z b) with hle | hge
    · exact hle
    · have hpad : b.rightpad n z ≤ a.rightpad n z := by
        rw [← rightpad_trimEnd han, ← rightpad_trimEnd hbn]
        exact rightpad_le hz (hlen b hbn) (hlen a han) hge
      rw [(trimEnd_eq_iff ha hb han hbn).mpr (le_antisymm h hpad)]

end Order

end Padding

end Unlinger
