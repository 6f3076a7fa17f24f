import Unlinger.Core.Model.Process
import Mathlib.Data.List.Sort
import Mathlib.Data.String.Basic

/-!
# Fingerprints

The 64-bit FNV-1a fingerprints of `unlinger-core/src/fingerprint.rs`.
Every part ends with a step of `0xff`, a byte no UTF-8 text contains.
-/

namespace Unlinger

/-- The FNV-1a offset basis. -/
def fnvOffsetBasis : UInt64 := 0xcbf29ce484222325

/-- The FNV-1a prime. -/
def fnvPrime : UInt64 := 0x00000100000001b3

/-- One byte into the hash; multiplication wraps. -/
def fnvStep (hash : UInt64) (byte : UInt8) : UInt64 := (hash ^^^ byte.toUInt64) * fnvPrime

/-- One lower-case hexadecimal digit. -/
def hexDigit (n : Nat) : Char :=
  if n < 10 then Char.ofNat (48 + n) else Char.ofNat (87 + n)

/-- The low `digits` hexadecimal digits of a number, most significant
first. -/
def hexDigits : Nat → Nat → List Char
  | 0, _ => []
  | digits + 1, n => hexDigits digits (n / 16) ++ [hexDigit (n % 16)]

/-- The fingerprint of a list of parts. -/
def fingerprintParts (parts : List (List UInt8)) : String :=
  let hash := parts.foldl (fun hash part => fnvStep (part.foldl fnvStep hash) 0xff) fnvOffsetBasis
  String.ofList (hexDigits 16 hash.toNat)

/-- An identity as one row of text; a missing executable half is `0`. -/
def identityRow (i : ProcessIdentity) : String :=
  Text.decimal i.pid ++ ":" ++ Text.decimal i.startedAtUnixMicros ++ ":"
    ++ Text.decimal (i.executableDevice.getD 0) ++ ":" ++ Text.decimal (i.executableInode.getD 0)

/-- The fingerprint of one identity. -/
def fingerprintProcessIdentity (i : ProcessIdentity) : String :=
  fingerprintParts [Text.bytes (identityRow i)]

/-- The fingerprint of a set of identities: the rows are sorted first. -/
def fingerprintProcessSet (is : List ProcessIdentity) : String :=
  fingerprintParts (((is.map identityRow).insertionSort (· ≤ ·)).map Text.bytes)

end Unlinger
