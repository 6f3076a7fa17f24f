import Mathlib.Data.Nat.Bitwise

/-!
# Cyclic redundancy checks

The reflected check over a register of any width and any polynomial, fed
bit by bit, and a byte at a time from a table. A shift of the register is
linear in exclusive or, and a register whose low bits are clear only moves
down; so eight bits can be added at once, and what eight shifts make of
the low byte can be looked up.
-/

namespace Unlinger

namespace Crc

variable {w : Nat} (poly : BitVec w)

/-- One shift: the lowest bit drops out, and the polynomial is added where
it was set. -/
def shift (c : BitVec w) : BitVec w := (c >>> 1) ^^^ (if c.getLsbD 0 then poly else 0#w)

/-- So many shifts. -/
def shifts : Nat → BitVec w → BitVec w
  | 0, c => c
  | n + 1, c => shifts n (shift poly c)

/-- A bit in the lowest place. -/
def lowest (b : Bool) : BitVec w := if b then 1#w else 0#w

/-- One bit of the message. -/
def feedBit (c : BitVec w) (b : Bool) : BitVec w := shift poly (c ^^^ lowest b)

/-- Its bits, one after another. -/
def feedBits (c : BitVec w) (bs : List Bool) : BitVec w := bs.foldl (feedBit poly) c

/-- The bits of a byte, the lowest first. -/
def byteBits (byte : BitVec 8) : List Bool := (List.range 8).map byte.getLsbD

/-- A byte of the message. -/
def feedByte (c : BitVec w) (byte : BitVec 8) : BitVec w := feedBits poly c (byteBits byte)

/-- A byte of the message, with a table of what eight shifts do. -/
def tableStep (table : Nat → BitVec w) (c : BitVec w) (byte : BitVec 8) : BitVec w :=
  table ((c ^^^ byte.setWidth w).toNat % 256) ^^^ (c >>> 8)

variable {poly}

theorem getLsbD_shift {c : BitVec w} {i : Nat} :
    (shift poly c).getLsbD i = (c.getLsbD (i + 1) ^^ (c.getLsbD 0 && poly.getLsbD i)) := by
  rw [shift, BitVec.getLsbD_xor, BitVec.getLsbD_ushiftRight, Nat.add_comm]
  cases c.getLsbD 0 <;> simp

/-- **A shift is linear.** -/
theorem shift_xor (a b : BitVec w) : shift poly (a ^^^ b) = shift poly a ^^^ shift poly b := by
  apply BitVec.eq_of_getLsbD_eq
  intro i hi
  simp only [getLsbD_shift, BitVec.getLsbD_xor]
  cases a.getLsbD 0 <;> cases b.getLsbD 0 <;> cases a.getLsbD (i + 1) <;>
    cases b.getLsbD (i + 1) <;> cases poly.getLsbD i <;> rfl

theorem shifts_xor (n : Nat) (a b : BitVec w) :
    shifts poly n (a ^^^ b) = shifts poly n a ^^^ shifts poly n b := by
  induction n generalizing a b with
  | zero => rfl
  | succ n ih => rw [shifts, shift_xor, ih]; rfl

/-- A register whose low bits are clear only moves down. -/
theorem shifts_of_clear {n : Nat} {c : BitVec w} (h : ∀ i < n, c.getLsbD i = false) :
    shifts poly n c = c >>> n := by
  induction n generalizing c with
  | zero => simp [shifts]
  | succ n ih =>
    have hshift : shift poly c = c >>> 1 := by simp [shift, h 0 (by omega)]
    have hclear : ∀ i < n, (c >>> 1).getLsbD i = false := by
      intro i hi
      rw [BitVec.getLsbD_ushiftRight]
      exact h (1 + i) (by omega)
    rw [shifts, hshift, ih hclear, ← BitVec.shiftRight_add, Nat.add_comm]

/-! ## Bits at once -/

/-- What the first of several bits does when all are added at once. -/
theorem shift_cons {b : Bool} {bs : List Bool} (hlen : bs.length < w) :
    shift poly ((BitVec.ofBoolListLE (b :: bs)).setWidth w)
      = shift poly (lowest b) ^^^ (BitVec.ofBoolListLE bs).setWidth w := by
  have hw : 0 < w := by omega
  apply BitVec.eq_of_getLsbD_eq
  intro i hi
  have hbeyond : ¬ i + 1 < w → bs.getD i false = false := by
    intro hnot
    exact List.getD_eq_default _ _ (by omega)
  have hzero : (lowest b : BitVec w).getLsbD 0 = b := by cases b <;> simp [lowest, hw]
  have hsucc : (lowest b : BitVec w).getLsbD (i + 1) = false := by cases b <;> simp [lowest]
  rw [BitVec.getLsbD_xor, getLsbD_shift, getLsbD_shift, hzero, hsucc]
  simp only [BitVec.getLsbD_setWidth, BitVec.getLsbD_ofBoolListLE, List.getD_cons_zero,
    List.getD_cons_succ, hw, hi, decide_true, Bool.true_and]
  by_cases hnext : i + 1 < w
  · simp [hnext, Bool.xor_comm]
  · rw [hbeyond hnext]
    simp [hnext]

/-- **Bits fed one by one are bits added at once.** By induction on the
bits: what is left of them moves down by one with each shift. -/
theorem feedBits_eq {bs : List Bool} (hlen : bs.length ≤ w) (c : BitVec w) :
    feedBits poly c bs
      = shifts poly bs.length (c ^^^ (BitVec.ofBoolListLE bs).setWidth w) := by
  induction bs generalizing c with
  | nil => simp [feedBits, shifts, BitVec.ofBoolListLE]
  | cons b bs ih =>
    have hlt : bs.length < w := hlen
    show feedBits poly (feedBit poly c b) bs
      = shifts poly bs.length (shift poly (c ^^^ (BitVec.ofBoolListLE (b :: bs)).setWidth w))
    rw [ih (by omega), shift_xor, shift_cons hlt, ← BitVec.xor_assoc, ← shift_xor]
    rfl

theorem length_byteBits (byte : BitVec 8) : (byteBits byte).length = 8 := by simp [byteBits]

theorem ofBoolListLE_byteBits {byte : BitVec 8} :
    (BitVec.ofBoolListLE (byteBits byte)).setWidth w = byte.setWidth w := by
  apply BitVec.eq_of_getLsbD_eq
  intro i hi
  simp only [BitVec.getLsbD_setWidth, BitVec.getLsbD_ofBoolListLE]
  by_cases hbyte : i < 8
  · simp [byteBits, List.getD_eq_getElem?_getD, hbyte]
  · rw [BitVec.getLsbD_of_ge byte i (by omega), List.getD_eq_default _ _ (by simp [byteBits]; omega)]

theorem feedByte_eq (hw : 8 ≤ w) (c : BitVec w) (byte : BitVec 8) :
    feedByte poly c byte = shifts poly 8 (c ^^^ byte.setWidth w) := by
  rw [feedByte, feedBits_eq (by rw [length_byteBits]; exact hw), ofBoolListLE_byteBits,
    length_byteBits]

/-! ## The table -/

/-- The low byte of a register and the rest of it. -/
theorem split_low (x : BitVec w) :
    x = BitVec.ofNat w (x.toNat % 256) ^^^ ((x >>> 8) <<< 8) := by
  apply BitVec.eq_of_getLsbD_eq
  intro i hi
  have hmod : (x.toNat % 256).testBit i = (decide (i < 8) && x.getLsbD i) := by
    rw [show (256 : Nat) = 2 ^ 8 by rfl, Nat.testBit_mod_two_pow]
    rfl
  rw [BitVec.getLsbD_xor, BitVec.getLsbD_ofNat, hmod, BitVec.getLsbD_shiftLeft,
    BitVec.getLsbD_ushiftRight]
  by_cases hlow : i < 8
  · simp [hi, hlow]
  · simp [hi, hlow, show 8 + (i - 8) = i by omega]

/-- A byte does not reach the bits above it. -/
theorem xor_byte_shiftRight (c : BitVec w) (byte : BitVec 8) :
    (c ^^^ byte.setWidth w) >>> 8 = c >>> 8 := by
  apply BitVec.eq_of_getLsbD_eq
  intro i hi
  rw [BitVec.getLsbD_ushiftRight, BitVec.getLsbD_ushiftRight, BitVec.getLsbD_xor,
    BitVec.getLsbD_setWidth, BitVec.getLsbD_of_ge byte (8 + i) (by omega)]
  simp

/-- **The table method is the bitwise check**, for a table of what eight
shifts make of each byte. -/
theorem tableStep_eq {table : Nat → BitVec w} (hw : 8 ≤ w)
    (htable : ∀ i < 256, table i = shifts poly 8 (BitVec.ofNat w i)) (c : BitVec w)
    (byte : BitVec 8) : tableStep table c byte = feedByte poly c byte := by
  have hclear : ∀ i < 8, (((c ^^^ byte.setWidth w) >>> 8) <<< 8).getLsbD i = false := by
    intro i hi
    simp [BitVec.getLsbD_shiftLeft, hi]
  have hback : (((c ^^^ byte.setWidth w) >>> 8) <<< 8) >>> 8 = c >>> 8 := by
    rw [xor_byte_shiftRight]
    apply BitVec.eq_of_getLsbD_eq
    intro i hi
    simp only [BitVec.getLsbD_ushiftRight, BitVec.getLsbD_shiftLeft]
    by_cases hin : 8 + i < w
    · simp [hin]
    · simp [hin, BitVec.getLsbD_of_ge c (8 + i) (by omega)]
  rw [feedByte_eq hw, tableStep, htable _ (Nat.mod_lt _ (by decide))]
  conv_rhs => rw [split_low (c ^^^ byte.setWidth w)]
  rw [shifts_xor, shifts_of_clear hclear, hback]

end Crc

end Unlinger
