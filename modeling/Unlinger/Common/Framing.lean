import Unlinger.Common.Text

/-!
# Parts that can be told apart again

Parts joined by an element none of them contains, and what this takes of
texts: the decimal digits of a number contain no punctuation, the bytes
of a UTF-8 text never are `0xff`, and either is read back.
-/

namespace Unlinger

namespace Framing

variable {α : Type} {sep : α}

/-- Every part, each with the terminator behind it. -/
def terminated (sep : α) (parts : List (List α)) : List α := parts.flatMap (· ++ [sep])

/-- A separator that the first of two parts does not contain. -/
theorem append_cons_inj {a b c d : List α} (ha : sep ∉ a) (hb : sep ∉ b) :
    a ++ sep :: c = b ++ sep :: d ↔ a = b ∧ c = d := by
  refine ⟨fun h => ?_, by rintro ⟨rfl, rfl⟩; rfl⟩
  induction a generalizing b with
  | nil =>
    cases b with
    | nil => simpa using h
    | cons y b =>
      obtain ⟨hhead, -⟩ := List.cons.inj h
      exact absurd (by simp [hhead]) hb
  | cons x a ih =>
    cases b with
    | nil =>
      obtain ⟨hhead, -⟩ := List.cons.inj h
      exact absurd (by simp [← hhead]) ha
    | cons y b =>
      obtain ⟨rfl, htail⟩ := List.cons.inj h
      obtain ⟨rfl, hrest⟩ := ih (fun hm => ha (by simp [hm])) (fun hm => hb (by simp [hm])) htail
      exact ⟨rfl, hrest⟩

/-- **Terminated parts are read back**: the stream tells every part and
how many there are. -/
theorem terminated_inj {xs ys : List (List α)} (hx : ∀ x ∈ xs, sep ∉ x) (hy : ∀ y ∈ ys, sep ∉ y) :
    terminated sep xs = terminated sep ys ↔ xs = ys := by
  refine ⟨fun h => ?_, by rintro rfl; rfl⟩
  induction xs generalizing ys with
  | nil =>
    cases ys with
    | nil => rfl
    | cons y ys => simp [terminated] at h
  | cons x xs ih =>
    cases ys with
    | nil => simp [terminated] at h
    | cons y ys =>
      have hcons : x ++ sep :: terminated sep xs = y ++ sep :: terminated sep ys := by
        simpa [terminated] using h
      obtain ⟨rfl, htail⟩ := (append_cons_inj (hx x (by simp)) (hy y (by simp))).mp hcons
      rw [ih (fun a ha => hx a (by simp [ha])) (fun a ha => hy a (by simp [ha])) htail]

end Framing

namespace Text

/-- The bytes of a text tell the text. -/
theorem bytes_inj {s t : String} : bytes s = bytes t ↔ s = t := by
  refine ⟨fun h => ?_, by rintro rfl; rfl⟩
  rw [← String.toByteArray_inj, ← String.utf8Encode_toList, ← String.utf8Encode_toList]
  exact congrArg List.toByteArray h

/-- A number below 255 is another byte than `0xff`. -/
theorem ofNat_ne_of_lt {n : Nat} (h : n < 255) : UInt8.ofNat n ≠ 0xff := by
  intro heq
  have := congrArg UInt8.toNat heq
  simp at this
  omega

/-- No character is encoded with the byte `0xff`. -/
theorem ne_of_mem_utf8EncodeChar {c : Char} {b : UInt8} (h : b ∈ String.utf8EncodeChar c) :
    b ≠ 0xff := by
  unfold String.utf8EncodeChar at h
  simp only at h
  split_ifs at h with h1 h2 h3
  · simp only [List.mem_singleton] at h
    exact h ▸ ofNat_ne_of_lt (by omega)
  · simp only [List.mem_cons, List.not_mem_nil, or_false] at h
    rcases h with rfl | rfl <;> exact ofNat_ne_of_lt (by omega)
  · simp only [List.mem_cons, List.not_mem_nil, or_false] at h
    rcases h with rfl | rfl | rfl <;> exact ofNat_ne_of_lt (by omega)
  · simp only [List.mem_cons, List.not_mem_nil, or_false] at h
    rcases h with rfl | rfl | rfl | rfl <;> exact ofNat_ne_of_lt (by omega)

/-- Nor is a text. -/
theorem notMem_bytes (s : String) : (0xff : UInt8) ∉ bytes s := by
  intro h
  obtain ⟨c, -, hc⟩ := List.mem_flatMap.mp h
  exact ne_of_mem_utf8EncodeChar hc rfl

/-- A number is read back from its digits. -/
theorem decimal_inj {m n : Nat} : (decimal m).toList = (decimal n).toList ↔ m = n := by
  refine ⟨fun h => ?_, by rintro rfl; rfl⟩
  simp only [decimal, Nat.toString_eq_repr, Nat.toList_repr] at h
  have hread := congrArg (fun cs => Nat.ofDigitChars 10 cs 0) h
  simpa using hread

/-- Digits are no punctuation. -/
theorem notMem_decimal {c : Char} (hc : c.isDigit = false) (n : Nat) : c ∉ (decimal n).toList := by
  intro h
  simp only [decimal, Nat.toString_eq_repr, Nat.toList_repr] at h
  have := Nat.isDigit_of_mem_toDigits (by decide) (by decide) h
  simp [hc] at this

/-- Reading goes on where it stopped. -/
theorem parseDigits_append (cs ds : List Char) (n : Nat) :
    parseDigits n (cs ++ ds) = parseDigits n cs >>= fun k => parseDigits k ds := by
  induction cs generalizing n with
  | nil => rfl
  | cons c cs ih =>
      rw [List.cons_append, parseDigits, parseDigits]
      split_ifs with hdigit hlarge
      · rfl
      · rfl
      · exact ih _

theorem digitChar_lt {n : Nat} (h : n < 10) :
    n.digitChar.isDigit = true ∧ n.digitChar.toNat - 48 = n := by
  revert n
  decide

/-- The digits of a number are read back. -/
theorem parseDigits_toDigits {n : Nat} (h : n < 2 ^ 64) :
    parseDigits 0 (Nat.toDigits 10 n) = .ok n := by
  induction n using Nat.strong_induction_on with
  | _ n ih =>
      rw [Nat.toDigits_eq_if (by decide)]
      split_ifs with hsmall
      · obtain ⟨hdigit, hvalue⟩ := digitChar_lt hsmall
        simp only [parseDigits, hdigit, hvalue, Bool.not_true, Bool.false_eq_true, if_false]
        rw [if_neg (by omega)]
        simp
      · have hdiv : n / 10 < n := Nat.div_lt_self (by omega) (by decide)
        obtain ⟨hdigit, hvalue⟩ := digitChar_lt (Nat.mod_lt n (by decide : 0 < 10))
        rw [parseDigits_append, ih (n / 10) hdiv (by omega)]
        have hsum : n / 10 * 10 + n % 10 = n := by omega
        change parseDigits (n / 10) [(n % 10).digitChar] = .ok n
        simp only [parseDigits, hdigit, hvalue, Bool.not_true, Bool.false_eq_true, if_false, hsum]
        rw [if_neg (by omega)]

/-- **A number's decimal is read back.** -/
theorem parseU64_decimal {n : Nat} (h : n < 2 ^ 64) : parseU64 (decimal n) = .ok n := by
  have hdigits : (decimal n).toList = Nat.toDigits 10 n := by
    simp [decimal, ToString.toString, Nat.repr]
  have hparse := parseDigits_toDigits h
  unfold parseU64
  rw [hdigits]
  have hall : ∀ c ∈ Nat.toDigits 10 n, c.isDigit = true := fun c hc =>
    Nat.isDigit_of_mem_toDigits (by decide) (by decide) hc
  cases hcs : Nat.toDigits 10 n with
  | nil =>
      have hpos : 0 < (Nat.toDigits 10 n).length := Nat.length_toDigits_pos
      rw [hcs] at hpos
      cases hpos
  | cons c cs =>
      rw [hcs] at hparse hall
      have hplus : c ≠ '+' := by
        rintro rfl
        have hdigit := hall '+' (List.mem_cons_self ..)
        revert hdigit
        decide
      split
      · cases ‹_›
      · rename_i heq
        exact absurd (List.cons.inj heq).1 hplus
      · exact hparse

end Text

end Unlinger
