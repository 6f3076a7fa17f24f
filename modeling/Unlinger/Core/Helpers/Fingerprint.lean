import Unlinger.Common.Framing
import Unlinger.Core.Model.Fingerprint

/-!
# What the fingerprints are taken of

The byte stream a fingerprint hashes, and the hash of a stream. The
stream tells the parts it is made of; what is lost is lost in the hash.
-/

namespace Unlinger

open Framing

/-- The bytes that are hashed: every part with a step of `0xff` behind
it. -/
def fingerprintStream (parts : List (List UInt8)) : List UInt8 := terminated 0xff parts

/-- The hash of a stream. -/
def fnvHash (stream : List UInt8) : UInt64 := stream.foldl fnvStep fnvOffsetBasis

/-- The rows of a set of identities, as they are hashed. -/
def processSetRows (is : List ProcessIdentity) : List (List UInt8) :=
  ((is.map identityRow).insertionSort (· ≤ ·)).map Text.bytes

/-- The two streams do not happen to have one hash. -/
def NoCollision (x y : List UInt8) : Prop := fnvHash x = fnvHash y → x = y

/-- Its executable is known. -/
def ProcessIdentity.Known (i : ProcessIdentity) : Prop :=
  i.executableDevice.isSome ∧ i.executableInode.isSome

/-! ## The hash -/

theorem foldl_fingerprint (parts : List (List UInt8)) (hash : UInt64) :
    parts.foldl (fun hash part => fnvStep (part.foldl fnvStep hash) 0xff) hash
      = (fingerprintStream parts).foldl fnvStep hash := by
  induction parts generalizing hash with
  | nil => rfl
  | cons part parts ih =>
    rw [List.foldl_cons, ih]
    simp [fingerprintStream, terminated, List.foldl_append]

/-- A fingerprint is the hash of its stream, in hexadecimal. -/
theorem fingerprintParts_eq (parts : List (List UInt8)) :
    fingerprintParts parts
      = String.ofList (hexDigits 16 (fnvHash (fingerprintStream parts)).toNat) := by
  unfold fingerprintParts fnvHash
  rw [← foldl_fingerprint]

theorem hexDigit_inj {m n : Nat} (hm : m < 16) (hn : n < 16) (h : hexDigit m = hexDigit n) :
    m = n := by
  have hall : ∀ a b : Fin 16, hexDigit a = hexDigit b → a = b := by decide
  exact congrArg Fin.val (hall ⟨m, hm⟩ ⟨n, hn⟩ h)

theorem hexDigits_inj {digits m n : Nat} (hm : m < 16 ^ digits) (hn : n < 16 ^ digits)
    (h : hexDigits digits m = hexDigits digits n) : m = n := by
  induction digits generalizing m n with
  | zero => omega
  | succ digits ih =>
    obtain ⟨hinit, hlast⟩ := List.append_inj' h rfl
    have hdiv := ih (m := m / 16) (n := n / 16) (by rw [pow_succ] at hm; omega)
      (by rw [pow_succ] at hn; omega) hinit
    have hmod := hexDigit_inj (Nat.mod_lt m (by omega)) (Nat.mod_lt n (by omega))
      (by simpa using hlast)
    omega

/-- Equal fingerprints are equal hashes. -/
theorem fnvHash_of_fingerprintParts {xs ys : List (List UInt8)}
    (h : fingerprintParts xs = fingerprintParts ys) :
    fnvHash (fingerprintStream xs) = fnvHash (fingerprintStream ys) := by
  rw [fingerprintParts_eq, fingerprintParts_eq, String.ofList_inj] at h
  apply UInt64.toNat_inj.mp
  apply hexDigits_inj _ _ h
  · exact (fnvHash (fingerprintStream xs)).toNat_lt
  · exact (fnvHash (fingerprintStream ys)).toNat_lt

/-! ## The parts -/

/-- **The stream tells its texts.** -/
theorem fingerprintStream_inj {ss ts : List String} :
    fingerprintStream (ss.map Text.bytes) = fingerprintStream (ts.map Text.bytes) ↔ ss = ts := by
  have hbytes : ∀ us : List String, ∀ part ∈ us.map Text.bytes, (0xff : UInt8) ∉ part := by
    intro us part hpart
    obtain ⟨u, -, rfl⟩ := List.mem_map.mp hpart
    exact Text.notMem_bytes u
  unfold fingerprintStream
  rw [terminated_inj (hbytes ss) (hbytes ts)]
  refine ⟨fun h => ?_, fun h => by rw [h]⟩
  exact List.map_injective_iff.mpr (fun _ _ => Text.bytes_inj.mp) h

/-- A row tells the identity, its executable being known. -/
theorem identityRow_inj {i j : ProcessIdentity} (hi : i.Known) (hj : j.Known)
    (h : identityRow i = identityRow j) : i = j := by
  obtain ⟨ipid, istarted, idevice, iinode⟩ := i
  obtain ⟨jpid, jstarted, jdevice, jinode⟩ := j
  obtain ⟨hidevice, hiinode⟩ := hi
  obtain ⟨hjdevice, hjinode⟩ := hj
  obtain ⟨idevice, rfl⟩ := Option.isSome_iff_exists.mp hidevice
  obtain ⟨iinode, rfl⟩ := Option.isSome_iff_exists.mp hiinode
  obtain ⟨jdevice, rfl⟩ := Option.isSome_iff_exists.mp hjdevice
  obtain ⟨jinode, rfl⟩ := Option.isSome_iff_exists.mp hjinode
  have hcolon : ∀ n, ':' ∉ (Text.decimal n).toList := Text.notMem_decimal (by decide)
  have hlist := congrArg String.toList h
  simp only [identityRow, Option.getD_some, String.toList_append, List.append_assoc] at hlist
  rw [show ":".toList = [':'] from rfl] at hlist
  simp only [List.singleton_append] at hlist
  obtain ⟨hpid, hlist⟩ := (append_cons_inj (hcolon _) (hcolon _)).mp hlist
  obtain ⟨hstarted, hlist⟩ := (append_cons_inj (hcolon _) (hcolon _)).mp hlist
  obtain ⟨hdevice, hinode⟩ := (append_cons_inj (hcolon _) (hcolon _)).mp hlist
  rw [Text.decimal_inj.mp hpid, Text.decimal_inj.mp hstarted, Text.decimal_inj.mp hdevice,
    Text.decimal_inj.mp hinode]

/-- Rows that are a permutation of one another come from identities that
are. -/
theorem perm_of_map_identityRow {is js : List ProcessIdentity} (hi : ∀ i ∈ is, i.Known)
    (hj : ∀ j ∈ js, j.Known) (h : (is.map identityRow).Perm (js.map identityRow)) :
    is.Perm js := by
  induction is generalizing js with
  | nil =>
    have hnil := List.nil_perm.mp h
    rw [List.map_eq_nil_iff.mp hnil]
  | cons i is ih =>
    have hmem : identityRow i ∈ js.map identityRow := h.subset (by simp)
    obtain ⟨j, hjmem, hrow⟩ := List.mem_map.mp hmem
    obtain rfl := identityRow_inj (hj j hjmem) (hi i (by simp)) hrow
    obtain ⟨before, after, rfl⟩ := List.append_of_mem hjmem
    have hmiddle : (before ++ j :: after).Perm (j :: (before ++ after)) := List.perm_middle
    refine List.Perm.trans (List.Perm.cons j ?_) hmiddle.symm
    apply ih (fun k hk => hi k (by simp [hk]))
    · intro k hk
      exact hj k (hmiddle.symm.subset (by simp [hk]))
    · exact (List.perm_cons (identityRow j)).mp (h.trans (hmiddle.map identityRow))

/-- Sorted rows are equal where the rows are a permutation. -/
theorem insertionSort_eq_iff {rows rows' : List String} :
    rows.insertionSort (· ≤ ·) = rows'.insertionSort (· ≤ ·) ↔ rows.Perm rows' := by
  constructor
  · intro h
    exact ((List.perm_insertionSort _ rows).symm.trans (by rw [h])).trans
      (List.perm_insertionSort _ rows')
  · intro h
    refine @List.Perm.eq_of_pairwise _ (· ≤ ·) _ _ ?_ ?_ ?_ ?_
    · intro a b _ _ hab hba
      exact le_antisymm hab hba
    · exact List.pairwise_insertionSort _ rows
    · exact List.pairwise_insertionSort _ rows'
    · exact ((List.perm_insertionSort _ rows).trans h).trans (List.perm_insertionSort _ rows').symm

/-- **The stream of a set tells its members**, and nothing of their
order. -/
theorem processSetStream_inj {is js : List ProcessIdentity} (hi : ∀ i ∈ is, i.Known)
    (hj : ∀ j ∈ js, j.Known) :
    fingerprintStream (processSetRows is) = fingerprintStream (processSetRows js)
      ↔ is.Perm js := by
  unfold processSetRows
  rw [fingerprintStream_inj, insertionSort_eq_iff]
  exact ⟨perm_of_map_identityRow hi hj, fun h => h.map identityRow⟩

end Unlinger
