import Mathlib.Tactic.Common
import Unlinger.Common.Framing

/-!
# Decoding UTF-8

`String::from_utf8` and `String::from_utf8_lossy` of the standard library:
bytes are taken apart into characters and into sequences that are none,
each as long as it could still have become a character. Both read back
what was encoded, and the strict one accepts nothing else.
-/

namespace Unlinger

namespace Utf8

/-- A byte within a character. -/
def isTail (b : UInt8) : Bool := 0x80 ≤ b.toNat && b.toNat ≤ 0xbf

/-- May `b` be the second of three bytes that begin with `a`? -/
def second3 (a b : UInt8) : Bool :=
  if a.toNat = 0xe0 then 0xa0 ≤ b.toNat && b.toNat ≤ 0xbf
  else if a.toNat = 0xed then 0x80 ≤ b.toNat && b.toNat ≤ 0x9f
  else isTail b

/-- The same of four bytes. -/
def second4 (a b : UInt8) : Bool :=
  if a.toNat = 0xf0 then 0x90 ≤ b.toNat && b.toNat ≤ 0xbf
  else if a.toNat = 0xf4 then 0x80 ≤ b.toNat && b.toNat ≤ 0x8f
  else isTail b

/-- The last byte of a character of which `n` is known, and what follows. -/
def last (n : Nat) : List UInt8 → Option Char × List UInt8
  | [] => (none, [])
  | b :: bs => if isTail b then (some (Char.ofNat (n * 64 + b.toNat % 64)), bs) else (none, b :: bs)

/-- The last two bytes. -/
def lastTwo (n : Nat) : List UInt8 → Option Char × List UInt8
  | [] => (none, [])
  | b :: bs => if isTail b then last (n * 64 + b.toNat % 64) bs else (none, b :: bs)

/-- Three bytes, behind the first. -/
def three (a : UInt8) : List UInt8 → Option Char × List UInt8
  | [] => (none, [])
  | b :: bs =>
      if second3 a b then last (a.toNat % 16 * 64 + b.toNat % 64) bs else (none, b :: bs)

/-- Four bytes, behind the first. -/
def four (a : UInt8) : List UInt8 → Option Char × List UInt8
  | [] => (none, [])
  | b :: bs =>
      if second4 a b then lastTwo (a.toNat % 8 * 64 + b.toNat % 64) bs else (none, b :: bs)

/-- The character that begins with `a`, where there is one, and what
follows it, or what follows the broken sequence. -/
def next (a : UInt8) (bs : List UInt8) : Option Char × List UInt8 :=
  if a.toNat < 0x80 then (some (Char.ofNat a.toNat), bs)
  else if 0xc2 ≤ a.toNat && a.toNat ≤ 0xdf then last (a.toNat % 32) bs
  else if 0xe0 ≤ a.toNat && a.toNat ≤ 0xef then three a bs
  else if 0xf0 ≤ a.toNat && a.toNat ≤ 0xf4 then four a bs
  else (none, bs)

/-- Characters and broken sequences, for so many bytes at most. -/
def chunks : Nat → List UInt8 → List (Option Char)
  | 0, _ => []
  | _ + 1, [] => []
  | n + 1, a :: bs => (next a bs).1 :: chunks n (next a bs).2

/-- `String::from_utf8_lossy`. -/
def decodeLossy (bs : List UInt8) : String :=
  String.ofList ((chunks bs.length bs).map fun c => c.getD '\uFFFD')

/-- `str::from_utf8`. -/
def decode (bs : List UInt8) : Option String :=
  ((chunks bs.length bs).mapM id).map String.ofList

/-! ## What is encoded is decoded -/

theorem toNat_ofNat {n : Nat} (h : n < 256) : (UInt8.ofNat n).toNat = n := by
  rw [UInt8.toNat_ofNat']
  exact Nat.mod_eq_of_lt h

/-- A number within bounds. -/
theorem within {k l n : Nat} (h : k ≤ n ∧ n ≤ l) : (k ≤ n && n ≤ l) = true := by simpa using h

theorem outside {k l n : Nat} (h : n < k ∨ l < n) : ¬ (k ≤ n && n ≤ l) = true := by
  simp only [Bool.and_eq_true, decide_eq_true_eq]
  omega

theorem isTail_ofNat {n : Nat} : isTail (UInt8.ofNat (n % 64 + 0x80)) = true := by
  rw [isTail, toNat_ofNat (by omega)]
  simp only [Bool.and_eq_true, decide_eq_true_eq]
  omega

/-- The numbers characters have. -/
theorem toNat_valid (c : Char) : c.toNat < 0xd800 ∨ 0xdfff < c.toNat ∧ c.toNat < 0x110000 := c.valid

/-- An encoded character is read back. -/
theorem next_encode (c : Char) (rest : List UInt8) :
    ∃ a bs, String.utf8EncodeChar c = a :: bs ∧ next a (bs ++ rest) = (some c, rest) := by
  have hvalid := toNat_valid c
  have hback : Char.ofNat c.toNat = c := Char.ofNat_toNat c
  have hv : c.val.toNat = c.toNat := rfl
  generalize hn : c.toNat = n at hvalid hback hv
  unfold String.utf8EncodeChar
  simp only [hv]
  split_ifs with h1 h2 h3
  · refine ⟨_, _, rfl, ?_⟩
    rw [next, if_pos (by rw [toNat_ofNat (by omega)]; omega), toNat_ofNat (by omega), hback]
    rfl
  · have hlead : (UInt8.ofNat (n / 64 % 32 + 0xc0)).toNat = n / 64 + 0xc0 := by
      rw [toNat_ofNat (by omega)]
      omega
    refine ⟨_, _, rfl, ?_⟩
    rw [next, hlead, if_neg (by omega), if_pos (within (by omega))]
    show last _ (UInt8.ofNat (n % 64 + 0x80) :: rest) = _
    rw [last, if_pos isTail_ofNat, toNat_ofNat (by omega),
      show (n / 64 + 0xc0) % 32 * 64 + (n % 64 + 0x80) % 64 = n by omega, hback]
  · have hlead : (UInt8.ofNat (n / 4096 % 16 + 0xe0)).toNat = n / 4096 + 0xe0 := by
      rw [toNat_ofNat (by omega)]
      omega
    have hmiddle : (UInt8.ofNat (n / 64 % 64 + 0x80)).toNat = n / 64 % 64 + 0x80 :=
      toNat_ofNat (by omega)
    refine ⟨_, _, rfl, ?_⟩
    rw [next, hlead, if_neg (by omega), if_neg (outside (by omega)), if_pos (within (by omega))]
    show three _ (UInt8.ofNat (n / 64 % 64 + 0x80) :: UInt8.ofNat (n % 64 + 0x80) :: rest) = _
    have hsecond : second3 (UInt8.ofNat (n / 4096 % 16 + 0xe0)) (UInt8.ofNat (n / 64 % 64 + 0x80))
        = true := by
      rw [second3, hlead, isTail, hmiddle]
      split_ifs <;> simp <;> omega
    rw [three, if_pos hsecond, last, if_pos isTail_ofNat, hlead, hmiddle, toNat_ofNat (by omega),
      show ((n / 4096 + 0xe0) % 16 * 64 + (n / 64 % 64 + 0x80) % 64) * 64 + (n % 64 + 0x80) % 64 = n
        by omega, hback]
  · have hlead : (UInt8.ofNat (n / 262144 % 8 + 0xf0)).toNat = n / 262144 + 0xf0 := by
      rw [toNat_ofNat (by omega)]
      omega
    have hmiddle : (UInt8.ofNat (n / 4096 % 64 + 0x80)).toNat = n / 4096 % 64 + 0x80 :=
      toNat_ofNat (by omega)
    refine ⟨_, _, rfl, ?_⟩
    rw [next, hlead, if_neg (by omega), if_neg (outside (by omega)), if_neg (outside (by omega)),
      if_pos (within (by omega))]
    show four _ (UInt8.ofNat (n / 4096 % 64 + 0x80) :: UInt8.ofNat (n / 64 % 64 + 0x80) ::
      UInt8.ofNat (n % 64 + 0x80) :: rest) = _
    have hsecond : second4 (UInt8.ofNat (n / 262144 % 8 + 0xf0))
        (UInt8.ofNat (n / 4096 % 64 + 0x80)) = true := by
      rw [second4, hlead, isTail, hmiddle]
      split_ifs <;> simp <;> omega
    rw [four, if_pos hsecond, lastTwo, if_pos isTail_ofNat, last, if_pos isTail_ofNat, hlead,
      hmiddle, toNat_ofNat (by omega), toNat_ofNat (by omega),
      show (((n / 262144 + 0xf0) % 8 * 64 + (n / 4096 % 64 + 0x80) % 64) * 64
        + (n / 64 % 64 + 0x80) % 64) * 64 + (n % 64 + 0x80) % 64 = n by omega, hback]

/-- Encoded characters are the chunks of their encoding. -/
theorem chunks_encode (cs : List Char) {n : Nat}
    (hn : (cs.flatMap String.utf8EncodeChar).length ≤ n) :
    chunks n (cs.flatMap String.utf8EncodeChar) = cs.map some := by
  induction cs generalizing n with
  | nil => cases n <;> rfl
  | cons c cs ih =>
    obtain ⟨a, bs, hencode, hnext⟩ := next_encode c (cs.flatMap String.utf8EncodeChar)
    rw [List.flatMap_cons, hencode] at hn ⊢
    cases n with
    | zero => simp at hn
    | succ n =>
      have hlen : (cs.flatMap String.utf8EncodeChar).length ≤ n := by
        rw [List.length_append, List.length_cons] at hn
        omega
      rw [List.cons_append, chunks, hnext, ih hlen]
      rfl

theorem mapM_id_map_some (cs : List Char) : (cs.map some).mapM id = some cs := by
  induction cs with
  | nil => rfl
  | cons c cs ih => simp [List.mapM_cons, ih]

/-- **A text is decoded from its bytes.** -/
theorem decode_bytes (s : String) : decode (Text.bytes s) = some s := by
  rw [decode, Text.bytes, chunks_encode _ (le_refl _), mapM_id_map_some]
  simp

theorem decodeLossy_bytes (s : String) : decodeLossy (Text.bytes s) = s := by
  rw [decodeLossy, Text.bytes, chunks_encode _ (le_refl _), List.map_map]
  simp [Function.comp_def]

/-- Something is decoded from something. -/
theorem decodeLossy_ne_empty {bs : List UInt8} (h : bs ≠ []) : decodeLossy bs ≠ "" := by
  obtain ⟨a, bs, rfl⟩ := List.exists_cons_of_ne_nil h
  intro hempty
  have hlist := congrArg String.toList hempty
  simp [decodeLossy, chunks] at hlist

/-! ## Nothing else is -/

/-- A byte is told by its number. -/
theorem eq_ofNat {b : UInt8} {n : Nat} (h : b.toNat = n) : b = UInt8.ofNat n := by
  rw [← h, UInt8.ofNat_toNat]

/-- A character by its number. -/
theorem encode_ofNat {n : Nat} (h : n < 0xd800 ∨ 0xdfff < n ∧ n < 0x110000) :
    (Char.ofNat n).val.toNat = n := by
  have hvalid : n.isValidChar := h
  unfold Char.ofNat
  rw [dif_pos hvalid]
  rfl

theorem last_eq_some {n : Nat} {bs rest : List UInt8} {c : Char}
    (h : last n bs = (some c, rest)) :
    ∃ b, bs = b :: rest ∧ isTail b = true ∧ c = Char.ofNat (n * 64 + b.toNat % 64) := by
  obtain _ | ⟨b, bs⟩ := bs
  · cases h
  · rw [last] at h
    by_cases hb : isTail b = true
    · rw [if_pos hb] at h
      obtain ⟨hc, rfl⟩ := Prod.mk.inj h
      exact ⟨b, rfl, hb, (Option.some.inj hc).symm⟩
    · rw [if_neg hb] at h
      cases h

theorem lastTwo_eq_some {n : Nat} {bs rest : List UInt8} {c : Char}
    (h : lastTwo n bs = (some c, rest)) :
    ∃ b bs', bs = b :: bs' ∧ isTail b = true ∧ last (n * 64 + b.toNat % 64) bs' = (some c, rest) := by
  obtain _ | ⟨b, bs⟩ := bs
  · cases h
  · rw [lastTwo] at h
    by_cases hb : isTail b = true
    · rw [if_pos hb] at h
      exact ⟨b, bs, rfl, hb, h⟩
    · rw [if_neg hb] at h
      cases h

theorem three_eq_some {a : UInt8} {bs rest : List UInt8} {c : Char}
    (h : three a bs = (some c, rest)) :
    ∃ b bs', bs = b :: bs' ∧ second3 a b = true ∧
      last (a.toNat % 16 * 64 + b.toNat % 64) bs' = (some c, rest) := by
  obtain _ | ⟨b, bs⟩ := bs
  · cases h
  · rw [three] at h
    by_cases hb : second3 a b = true
    · rw [if_pos hb] at h
      exact ⟨b, bs, rfl, hb, h⟩
    · rw [if_neg hb] at h
      cases h

theorem four_eq_some {a : UInt8} {bs rest : List UInt8} {c : Char}
    (h : four a bs = (some c, rest)) :
    ∃ b bs', bs = b :: bs' ∧ second4 a b = true ∧
      lastTwo (a.toNat % 8 * 64 + b.toNat % 64) bs' = (some c, rest) := by
  obtain _ | ⟨b, bs⟩ := bs
  · cases h
  · rw [four] at h
    by_cases hb : second4 a b = true
    · rw [if_pos hb] at h
      exact ⟨b, bs, rfl, hb, h⟩
    · rw [if_neg hb] at h
      cases h

theorem isTail_iff {b : UInt8} : isTail b = true ↔ 0x80 ≤ b.toNat ∧ b.toNat ≤ 0xbf := by
  simp [isTail]

/-- What is read as a character is its encoding. -/
theorem encode_of_next {a : UInt8} {bs rest : List UInt8} {c : Char}
    (h : next a bs = (some c, rest)) : a :: bs = String.utf8EncodeChar c ++ rest := by
  have ha : a.toNat < 256 := a.toNat_lt
  unfold next at h
  split_ifs at h with h1 h2 h3 h4
  · obtain ⟨hc, rfl⟩ := Prod.mk.inj h
    obtain rfl := Option.some.inj hc
    unfold String.utf8EncodeChar
    simp only [encode_ofNat (Or.inl (by omega : a.toNat < 0xd800))]
    rw [if_pos (by omega), ← eq_ofNat rfl]
    rfl
  · simp only [Bool.and_eq_true, decide_eq_true_eq] at h2
    obtain ⟨b, rfl, hb, rfl⟩ := last_eq_some h
    rw [isTail_iff] at hb
    unfold String.utf8EncodeChar
    simp only [encode_ofNat (n := a.toNat % 32 * 64 + b.toNat % 64) (by omega)]
    rw [if_neg (by omega), if_pos (by omega), ← eq_ofNat (b := a) (by omega),
      ← eq_ofNat (b := b) (by omega)]
    rfl
  · simp only [Bool.and_eq_true, decide_eq_true_eq] at h3
    obtain ⟨b, _, rfl, hsecond, h⟩ := three_eq_some h
    obtain ⟨d, rfl, hd, rfl⟩ := last_eq_some h
    have hb : 0x80 ≤ b.toNat ∧ b.toNat ≤ 0xbf ∧ (a.toNat = 0xe0 → 0xa0 ≤ b.toNat) ∧
        (a.toNat = 0xed → b.toNat ≤ 0x9f) := by
      unfold second3 isTail at hsecond
      split_ifs at hsecond <;> simp only [Bool.and_eq_true, decide_eq_true_eq] at hsecond <;> omega
    rw [isTail_iff] at hd
    unfold String.utf8EncodeChar
    simp only [encode_ofNat (n := (a.toNat % 16 * 64 + b.toNat % 64) * 64 + d.toNat % 64) (by omega)]
    rw [if_neg (by omega), if_neg (by omega), if_pos (by omega), ← eq_ofNat (b := a) (by omega),
      ← eq_ofNat (b := b) (by omega), ← eq_ofNat (b := d) (by omega)]
    rfl
  · simp only [Bool.and_eq_true, decide_eq_true_eq] at h4
    obtain ⟨b, _, rfl, hsecond, h⟩ := four_eq_some h
    obtain ⟨d, _, rfl, hd, h⟩ := lastTwo_eq_some h
    obtain ⟨e, rfl, he, rfl⟩ := last_eq_some h
    have hb : 0x80 ≤ b.toNat ∧ b.toNat ≤ 0xbf ∧ (a.toNat = 0xf0 → 0x90 ≤ b.toNat) ∧
        (a.toNat = 0xf4 → b.toNat ≤ 0x8f) := by
      unfold second4 isTail at hsecond
      split_ifs at hsecond <;> simp only [Bool.and_eq_true, decide_eq_true_eq] at hsecond <;> omega
    rw [isTail_iff] at hd he
    unfold String.utf8EncodeChar
    simp only [encode_ofNat (n := ((a.toNat % 8 * 64 + b.toNat % 64) * 64 + d.toNat % 64) * 64
      + e.toNat % 64) (by omega)]
    rw [if_neg (by omega), if_neg (by omega), if_neg (by omega), ← eq_ofNat (b := a) (by omega),
      ← eq_ofNat (b := b) (by omega), ← eq_ofNat (b := d) (by omega), ← eq_ofNat (b := e) (by omega)]
    rfl
  · cases h

/-- Chunks that all are characters are the encoding of them. -/
theorem encode_of_chunks {n : Nat} {bs : List UInt8} {cs : List Char} (hn : bs.length ≤ n)
    (h : (chunks n bs).mapM id = some cs) : bs = cs.flatMap String.utf8EncodeChar := by
  induction n generalizing bs cs with
  | zero =>
    obtain rfl := List.length_eq_zero_iff.mp (by omega : bs.length = 0)
    obtain rfl := Option.some.inj h
    rfl
  | succ n ih =>
    obtain _ | ⟨a, bs⟩ := bs
    · obtain rfl := Option.some.inj h
      rfl
    · rw [chunks, List.mapM_cons] at h
      cases hnext : next a bs with
      | mk c rest =>
        rw [hnext] at h
        cases c with
        | none => simp at h
        | some c =>
          cases htail : (chunks n rest).mapM id with
          | none => simp [htail] at h
          | some ds =>
            simp [htail] at h
            have hencode := encode_of_next hnext
            have hlen : (a :: bs).length = (String.utf8EncodeChar c ++ rest).length := by
              rw [hencode]
            have hone : 0 < (String.utf8EncodeChar c).length := String.length_utf8EncodeChar c ▸
              Char.utf8Size_pos c
            rw [List.length_append, List.length_cons] at hlen
            simp only [List.length_cons] at hn
            rw [hencode, ih (by omega) htail, ← h, List.flatMap_cons]

/-- **Only the bytes of a text are decoded.** -/
theorem decode_eq_some {bs : List UInt8} {s : String} : decode bs = some s ↔ bs = Text.bytes s := by
  constructor
  · intro h
    obtain ⟨cs, hcs, rfl⟩ := Option.map_eq_some_iff.mp h
    rw [encode_of_chunks (le_refl _) hcs, Text.bytes, String.toList_ofList]
  · rintro rfl
    exact decode_bytes s

/-- Only the character zero is encoded with the byte zero. -/
theorem notMem_bytes_zero {s : String} (h : '\x00' ∉ s.toList) : (0 : UInt8) ∉ Text.bytes s := by
  intro hmem
  obtain ⟨c, hc, hzero⟩ := List.mem_flatMap.mp hmem
  have hne : ∀ n, 0 < n → n < 256 → UInt8.ofNat n ≠ 0 := by
    intro n hpos hlt heq
    have := congrArg UInt8.toNat heq
    rw [toNat_ofNat hlt] at this
    simp at this
    omega
  unfold String.utf8EncodeChar at hzero
  simp only at hzero
  split_ifs at hzero with h1 h2 h3
  · simp only [List.mem_singleton] at hzero
    by_cases hnat : c.val.toNat = 0
    · apply h
      have : c = '\x00' := Char.ext (UInt32.toNat_inj.mp hnat)
      rwa [this] at hc
    · exact hne _ (by omega) (by omega) hzero.symm
  · simp only [List.mem_cons, List.not_mem_nil, or_false] at hzero
    rcases hzero with hb | hb <;> exact hne _ (by omega) (by omega) hb.symm
  · simp only [List.mem_cons, List.not_mem_nil, or_false] at hzero
    rcases hzero with hb | hb | hb <;> exact hne _ (by omega) (by omega) hb.symm
  · simp only [List.mem_cons, List.not_mem_nil, or_false] at hzero
    rcases hzero with hb | hb | hb | hb <;> exact hne _ (by omega) (by omega) hb.symm

end Utf8

end Unlinger
