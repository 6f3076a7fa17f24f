import Unlinger.Common.Crc
import Unlinger.Common.Runs
import Unlinger.Daemon.Model.NodeCompileCache

/-!
# Cache files

What `validate_cache_file` accepts: the format of a file, stated on its
bytes, however the reads split them. The check it computes from a table is
the bitwise one.
-/

namespace Unlinger

open Interaction

namespace NodeCompileCache

/-! ## The check -/

/-- The bitwise check over bytes: each bit of each byte, the lowest first,
into the register. -/
def bitwiseCrc (crc : BitVec 32) (bytes : List UInt8) : BitVec 32 :=
  bytes.foldl (fun crc byte => Crc.feedByte polynomial.toBitVec crc byte.toBitVec) crc

/-- CRC-32: the register starts inverted and ends inverted. -/
def crc32 (bytes : List UInt8) : UInt32 := ⟨~~~ bitwiseCrc (~~~ 0#32) bytes⟩

/-- The check value of the digits. -/
example : crc32 [49, 50, 51, 52, 53, 54, 55, 56, 57] = 0xcbf43926 := by decide +kernel

theorem and_neg_lowest (c : BitVec 32) :
    polynomial.toBitVec &&& (0 - (c &&& 1#32)) = if c.getLsbD 0 then polynomial.toBitVec else 0#32 := by
  rw [BitVec.and_one_eq_setWidth_ofBool_getLsbD]
  cases c.getLsbD 0 <;> decide

theorem crcShifts_toBitVec (n : Nat) (crc : UInt32) :
    (crcShifts n crc).toBitVec = Crc.shifts polynomial.toBitVec n crc.toBitVec := by
  induction n generalizing crc with
  | zero => rfl
  | succ n ih =>
    have hshift : ((crc >>> 1) ^^^ (polynomial &&& (0 - (crc &&& 1)))).toBitVec
        = Crc.shift polynomial.toBitVec crc.toBitVec := by
      rw [Crc.shift, ← and_neg_lowest]
      rfl
    rw [crcShifts, ih, Crc.shifts, hshift]

/-- What the table holds. -/
theorem crcTable_getD {i : Nat} (hi : i < 256) :
    (crcTable.getD i 0).toBitVec
      = Crc.shifts polynomial.toBitVec 8 (BitVec.ofNat 32 i) := by
  have hget : crcTable.getD i 0 = crcShifts 8 (UInt32.ofNat i) := by
    simp [crcTable, List.getD_eq_getElem?_getD, hi]
  rw [hget, crcShifts_toBitVec]
  rfl

/-- **The table-driven check is the bitwise one.** -/
theorem updateCrc_toBitVec (crc : UInt32) (bytes : List UInt8) :
    (updateCrc crc bytes).toBitVec = bitwiseCrc crc.toBitVec bytes := by
  induction bytes generalizing crc with
  | nil => rfl
  | cons byte bytes ih =>
    have hindex : ((crc ^^^ byte.toUInt32) &&& 255).toNat
        = (crc.toBitVec ^^^ byte.toBitVec.setWidth 32).toNat % 256 := by
      rw [UInt32.toNat_and]
      exact Nat.and_two_pow_sub_one_eq_mod _ 8
    have hstep : (crcTable.getD ((crc ^^^ byte.toUInt32) &&& 255).toNat 0 ^^^ (crc >>> 8)).toBitVec
        = Crc.feedByte polynomial.toBitVec crc.toBitVec byte.toBitVec := by
      have htable := Crc.tableStep_eq (by decide) (fun i hi => crcTable_getD hi) crc.toBitVec
        byte.toBitVec
      rw [← htable, hindex]
      rfl
    show (updateCrc (crcTable.getD ((crc ^^^ byte.toUInt32) &&& 255).toNat 0 ^^^ (crc >>> 8))
      bytes).toBitVec = _
    rw [ih, hstep]
    rfl

theorem updateCrc_append (crc : UInt32) (xs ys : List UInt8) :
    updateCrc crc (xs ++ ys) = updateCrc (updateCrc crc xs) ys := List.foldl_append

theorem crc32_eq (bytes : List UInt8) : ~~~ updateCrc (~~~ 0) bytes = crc32 bytes := by
  apply UInt32.toBitVec_inj.mp
  rw [UInt32.toBitVec_not, updateCrc_toBitVec]
  rfl

/-! ## The format -/

/-- A cache file, by its bytes. -/
structure CacheFormat (content : List UInt8) : Prop where
  header : 20 ≤ content.length
  magic : word content 0 = magic
  length : (word content 2).toNat + 20 = content.length
  crc : word content 4 = crc32 (content.drop 20)

/-- The header's words are the file's. -/
theorem word_take {content : List UInt8} {index : Nat} (h : index ≤ 4) :
    word (content.take 20) index = word content index := by
  unfold word
  rw [List.drop_take, List.take_take, Nat.min_eq_left (by omega)]

/-! ## Reading a file -/

/-- What one event brought of the file. -/
def eventBytes : Event Answer → List UInt8
  | ⟨.read _, .bytes data _⟩ => data
  | _ => []

/-- What was read so far. -/
def bytesRead (t : Trace Answer) : List UInt8 := t.flatMap eventBytes

/-- The next piece of a file, of the size the reader likes, and at least
one byte of what there is. -/
def nextPiece (content : List UInt8) (size : Trace Answer → Nat) (t : Trace Answer) (n : Nat) :
    List UInt8 :=
  (content.drop (bytesRead t).length).take (min n (max 1 (size t)))

theorem length_nextPiece {content : List UInt8} {size : Trace Answer → Nat} {t : Trace Answer}
    {n : Nat} : (nextPiece content size t n).length ≤ n := by
  rw [nextPiece, List.length_take]
  omega

/-- A file that stays as it is, read in pieces, while nobody cancels and
the time is not up. -/
def fileAnswer (content : List UInt8) (size : Trace Answer → Nat) (t : Trace Answer) :
    (c : Call) → Answer c
  | .cancelled => false
  | .expired => false
  | .read n => .bytes (nextPiece content size t n) length_nextPiece
  | .openDirectory _ => .failed
  | .producer | .directoryMetadata _ | .pathMetadata _ | .metadata _ | .entryMetadata _ => none
  | .directoryNames => none
  | .openAt _ | .unlink _ => false

section Reading

variable {content : List UInt8} {size : Trace Answer → Nat} {t : Trace Answer}

/-- What is left of the file. -/
def remaining (content : List UInt8) (t : Trace Answer) : List UInt8 :=
  content.drop (bytesRead t).length

/-- What follows a piece. -/
theorem remaining_read {n : Nat} :
    remaining content (t ++ [⟨.read n, fileAnswer content size t (.read n)⟩])
      = (remaining content t).drop (nextPiece content size t n).length := by
  have hbytes : eventBytes ⟨.read n, fileAnswer content size t (.read n)⟩
      = nextPiece content size t n := rfl
  simp [remaining, bytesRead, hbytes, List.drop_drop]

theorem nextPiece_eq_take {n : Nat} :
    nextPiece content size t n
      = (remaining content t).take (nextPiece content size t n).length := by
  unfold nextPiece remaining
  rw [List.length_take]
  conv_lhs => rw [List.take_eq_take_min]

theorem nextPiece_eq_nil {n : Nat} (hn : 0 < n) :
    nextPiece content size t n = [] ↔ remaining content t = [] := by
  unfold nextPiece remaining
  rw [List.take_eq_nil_iff]
  constructor
  · rintro (hzero | hnil)
    · omega
    · exact hnil
  · exact Or.inr

theorem afterRead_bytes {again : Nat → List UInt8 → Scan (List UInt8)} {missing : Nat}
    {data piece : List UInt8} {hle : piece.length ≤ missing} :
    afterRead again missing data (.bytes piece hle) =
      if piece = [] then .throw (.failed .io)
      else again (missing - piece.length) (data ++ piece) := by
  cases piece <;> rfl

theorem afterBuffer_bytes {again : UInt32 → Scan UInt32} {crc : UInt32} {piece : List UInt8}
    {hle : piece.length ≤ 65536} :
    afterBuffer again crc (.bytes piece hle) =
      if piece = [] then pure crc else again (updateCrc crc piece) := by
  cases piece <;> rfl

/-- One round of `readExact` on a file. -/
theorem readExact_step {rounds missing : Nat} {data : List UInt8} (hmissing : missing ≠ 0) :
    (readExact (rounds + 1) missing data).runWith (fileAnswer content size) t =
      if nextPiece content size t missing = [] then
        (t ++ [⟨.read missing, fileAnswer content size t (.read missing)⟩], .error (.failed .io))
      else (readExact rounds (missing - (nextPiece content size t missing).length)
          (data ++ nextPiece content size t missing)).runWith (fileAnswer content size)
        (t ++ [⟨.read missing, fileAnswer content size t (.read missing)⟩]) := by
  have hround : (readExact (rounds + 1) missing data).runWith (fileAnswer content size) t
      = (afterRead (readExact rounds) missing data
          (.bytes (nextPiece content size t missing) length_nextPiece)).runWith
            (fileAnswer content size)
            (t ++ [⟨.read missing, fileAnswer content size t (.read missing)⟩]) := by
    rw [readExact, if_neg hmissing]
    rfl
  rw [hround, afterRead_bytes]
  by_cases hpiece : nextPiece content size t missing = []
  · rw [if_pos hpiece, if_pos hpiece]
    rfl
  · rw [if_neg hpiece, if_neg hpiece]

/-- **The header is read whole**, if the file has so many bytes left. The
rounds are counted down by bytes, of which each round brings one at
least. -/
theorem readExact_ok {rounds missing : Nat} {data : List UInt8}
    (henough : missing ≤ (remaining content t).length) (hrounds : missing < rounds) :
    ∃ t', (readExact rounds missing data).runWith (fileAnswer content size) t
        = (t', .ok (data ++ (remaining content t).take missing)) ∧
      remaining content t' = (remaining content t).drop missing := by
  induction rounds generalizing missing data t with
  | zero => omega
  | succ rounds ih =>
    by_cases hzero : missing = 0
    · subst hzero
      exact ⟨t, by rw [List.take_zero, List.append_nil]; rfl, by simp⟩
    · have hpiece : nextPiece content size t missing ≠ [] := by
        rw [Ne, nextPiece_eq_nil (by omega)]
        intro hnil
        rw [hnil, List.length_nil] at henough
        omega
      have hpos : 0 < (nextPiece content size t missing).length := List.length_pos_iff.mpr hpiece
      have hle : (nextPiece content size t missing).length ≤ missing := length_nextPiece
      rw [readExact_step hzero, if_neg hpiece]
      obtain ⟨t', hrun, hrest⟩ := @ih
        (t ++ [⟨.read missing, fileAnswer content size t (.read missing)⟩])
        (missing - (nextPiece content size t missing).length)
        (data ++ nextPiece content size t missing)
        (by rw [remaining_read, List.length_drop]; omega) (by omega)
      rw [remaining_read] at hrun hrest
      refine ⟨t', ?_, ?_⟩
      · rw [hrun, List.append_assoc]
        congr 3
        have htake := (List.take_add (l := remaining content t)
          (i := (nextPiece content size t missing).length)
          (j := missing - (nextPiece content size t missing).length)).symm
        rw [← nextPiece_eq_take] at htake
        rw [htake]
        congr 1
        omega
      · rw [hrest, List.drop_drop]
        congr 1
        omega

/-- Too short a file is an error. -/
theorem readExact_short {rounds missing : Nat} {data : List UInt8}
    (hshort : (remaining content t).length < missing)
    (hrounds : (remaining content t).length < rounds) :
    ∃ t', (readExact rounds missing data).runWith (fileAnswer content size) t
      = (t', .error (.failed .io)) := by
  induction rounds generalizing missing data t with
  | zero => omega
  | succ rounds ih =>
    rw [readExact_step (by omega)]
    by_cases hpiece : nextPiece content size t missing = []
    · exact ⟨_, if_pos hpiece⟩
    · have hpos : 0 < (nextPiece content size t missing).length := List.length_pos_iff.mpr hpiece
      have hle : (nextPiece content size t missing).length ≤ (remaining content t).length := by
        rw [nextPiece_eq_take, List.length_take]
        omega
      rw [if_neg hpiece]
      apply ih
      · rw [remaining_read, List.length_drop]
        omega
      · rw [remaining_read, List.length_drop]
        omega

/-- One round of `readPayload` on a file. -/
theorem readPayload_step {rounds : Nat} {crc : UInt32} :
    ∃ t', bytesRead t' = bytesRead t ∧
      (readPayload (rounds + 1) crc).runWith (fileAnswer content size) t =
        if nextPiece content size t' 65536 = [] then
          (t' ++ [⟨.read 65536, fileAnswer content size t' (.read 65536)⟩], .ok crc)
        else (readPayload rounds (updateCrc crc (nextPiece content size t' 65536))).runWith
          (fileAnswer content size)
          (t' ++ [⟨.read 65536, fileAnswer content size t' (.read 65536)⟩]) := by
  refine ⟨t ++ [⟨.cancelled, false⟩] ++ [⟨.expired, false⟩], by simp [bytesRead, eventBytes], ?_⟩
  generalize ht : t ++ [⟨.cancelled, false⟩] ++ [⟨.expired, false⟩] = t'
  have hround : (readPayload (rounds + 1) crc).runWith (fileAnswer content size) t
      = (afterBuffer (readPayload rounds) crc
          (.bytes (nextPiece content size t' 65536) length_nextPiece)).runWith
            (fileAnswer content size)
            (t' ++ [⟨.read 65536, fileAnswer content size t' (.read 65536)⟩]) := by
    subst ht
    rfl
  rw [hround, afterBuffer_bytes]
  by_cases hpiece : nextPiece content size t' 65536 = []
  · rw [if_pos hpiece, if_pos hpiece]
    rfl
  · rw [if_neg hpiece, if_neg hpiece]

/-- **The check runs over all that is left**, piece by piece. -/
theorem readPayload_ok {rounds : Nat} {crc : UInt32}
    (hrounds : (remaining content t).length < rounds) :
    ∃ t', (readPayload rounds crc).runWith (fileAnswer content size) t
      = (t', .ok (updateCrc crc (remaining content t))) := by
  induction rounds generalizing crc t with
  | zero => omega
  | succ rounds ih =>
    obtain ⟨t', hread, hstep⟩ := @readPayload_step content size t rounds crc
    have hsame : remaining content t' = remaining content t := by rw [remaining, hread]; rfl
    rw [hstep]
    by_cases hpiece : nextPiece content size t' 65536 = []
    · rw [if_pos hpiece]
      have hnil := (nextPiece_eq_nil (by decide)).mp hpiece
      rw [← hsame, hnil]
      exact ⟨_, rfl⟩
    · have hpos : 0 < (nextPiece content size t' 65536).length := List.length_pos_iff.mpr hpiece
      have hle : (nextPiece content size t' 65536).length ≤ (remaining content t').length := by
        rw [nextPiece_eq_take, List.length_take]
        omega
      rw [if_neg hpiece]
      rw [hsame] at hle
      obtain ⟨t'', hrun⟩ := @ih
        (t' ++ [⟨.read 65536, fileAnswer content size t' (.read 65536)⟩])
        (updateCrc crc (nextPiece content size t' 65536))
        (by rw [remaining_read, List.length_drop, hsame]; omega)
      refine ⟨t'', ?_⟩
      rw [hrun, ← updateCrc_append, remaining_read]
      congr 3
      have htake := List.take_append_drop (nextPiece content size t' 65536).length
        (remaining content t')
      rw [← nextPiece_eq_take] at htake
      rw [htake, hsame]

end Reading

/-! ## What is accepted -/

/-- **Cache-file validation accepts exactly the format**, however the
reads split the file; the table-driven check it computes is the bitwise
one, and goes on from where it stopped. -/
theorem validateCacheFile_format :
    (∀ (content : List UInt8) (size : Trace Answer → Nat) (rounds : Nat),
      content.length + 20 < rounds →
      (((validateCacheFile rounds content.length).runWith (fileAnswer content size) []).2 = .ok ()
        ↔ CacheFormat content)) ∧
    (∀ (crc : UInt32) (bytes : List UInt8),
      (updateCrc crc bytes).toBitVec = bitwiseCrc crc.toBitVec bytes) ∧
    ∀ (crc : UInt32) (xs ys : List UInt8),
      updateCrc crc (xs ++ ys) = updateCrc (updateCrc crc xs) ys := by
  refine ⟨?_, updateCrc_toBitVec, updateCrc_append⟩
  intro content size rounds hrounds
  have hall : remaining content [] = content := rfl
  by_cases hlen : 20 ≤ content.length
  · obtain ⟨t, hheader, hrest⟩ := @readExact_ok content size [] rounds 20 []
      (by rw [hall]; exact hlen) (by omega)
    rw [hall, List.nil_append] at hheader
    rw [hall] at hrest
    obtain ⟨t', hpayload⟩ := @readPayload_ok content size t rounds (~~~ 0)
      (by rw [hrest, List.length_drop]; omega)
    rw [hrest] at hpayload
    rw [validateCacheFile, runWith_bind hheader]
    simp only [word_take (show 0 ≤ 4 by omega), word_take (show 2 ≤ 4 by omega),
      word_take (show 4 ≤ 4 by omega)]
    by_cases hfields : word content 0 = magic ∧ (word content 2).toNat + 20 = content.length
    · have hcheck : (check (word content 0 = magic ∧ (word content 2).toNat + 20 = content.length)
          .unsafeShape).runWith (fileAnswer content size) t = (t, .ok ()) := by
        simp only [check, require, if_pos hfields]
        rfl
      rw [runWith_bind hcheck, runWith_bind hpayload, crc32_eq]
      by_cases hcrc : crc32 (content.drop 20) = word content 4
      · simp only [check, require, if_pos hcrc]
        exact iff_of_true rfl ⟨hlen, hfields.1, hfields.2, hcrc.symm⟩
      · simp only [check, require, if_neg hcrc]
        exact iff_of_false nofun fun hformat => hcrc hformat.crc.symm
    · have hcheck : (check (word content 0 = magic ∧ (word content 2).toNat + 20 = content.length)
          .unsafeShape).runWith (fileAnswer content size) t
          = (t, .error (.failed .unsafeShape)) := by
        simp only [check, require, if_neg hfields]
        rfl
      rw [runWith_bind_error hcheck]
      exact iff_of_false nofun fun hformat => hfields ⟨hformat.magic, hformat.length⟩
  · obtain ⟨t, hheader⟩ := @readExact_short content size [] rounds 20 []
      (by rw [hall]; omega) (by rw [hall]; omega)
    rw [validateCacheFile, runWith_bind_error hheader]
    exact iff_of_false nofun fun hformat => hlen hformat.header

/-- A file of nine bytes under a header. -/
def sampleFile : List UInt8 :=
  [0xb2, 0xdb, 0xdf, 0x8a, 0, 0, 0, 0, 9, 0, 0, 0, 0, 0, 0, 0, 0x26, 0x39, 0xf4, 0xcb,
    49, 50, 51, 52, 53, 54, 55, 56, 57]

/-- It is accepted, read in pieces that grow. -/
theorem validateCacheFile_format_sample :
    ((validateCacheFile 60 29).runWith (fileAnswer sampleFile List.length) []).2 = .ok () :=
  (validateCacheFile_format.1 sampleFile List.length 60 (by decide)).mpr
    ⟨by decide, by decide, by decide, by decide +kernel⟩

end NodeCompileCache

end Unlinger
