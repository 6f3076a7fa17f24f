import Mathlib.Algebra.Group.Int.Defs
import Unlinger.Common.Utf8
import Unlinger.Core.Model.Session

/-!
# Process arguments

`parse_procargs2_task` of `unlinger-macos/src/lib.rs`: what the kernel
hands out about the arguments of a process, read from a buffer that holds
its environment behind them. The cursor of the source is what is left of
the buffer.
-/

namespace Unlinger

/-- `c_int::from_ne_bytes`, on machines with the lowest byte first. -/
def intFromBytes (bytes : List UInt8) : Int :=
  let n : Nat := bytes.foldr (fun b n => b.toNat + 256 * n) 0
  if n < 2 ^ 31 then (n : Int) else (n : Int) - 2 ^ 32

/-- What stands before the first NUL, and what follows it. -/
def untilNul : List UInt8 → Option (List UInt8 × List UInt8)
  | [] => none
  | b :: bs =>
      if b = 0 then some ([], bs)
      else (untilNul bs).map fun parts => (b :: parts.1, parts.2)

/-- So many arguments; the buffer must not end before them. -/
def takeArguments : Nat → List UInt8 → Option (List String × List UInt8)
  | 0, tail => some ([], tail)
  | n + 1, tail =>
      if tail.isEmpty then none
      else
        (untilNul tail).bind fun parts =>
          (takeArguments n parts.2).map fun rest =>
            (Utf8.decodeLossy parts.1 :: rest.1, rest.2)

/-- `split(|byte| *byte == 0)`. -/
def splitNul : List UInt8 → List (List UInt8)
  | [] => [[]]
  | b :: bs =>
      if b = 0 then [] :: splitNul bs
      else
        match splitNul bs with
        | [] => [[b]]
        | part :: parts => (b :: part) :: parts

/-- The name of the one variable that is read. -/
def sessionVariable : List UInt8 := Text.bytes "PLAYWRIGHT_CLI_SESSION="

/-- The task selector an entry of the environment holds. -/
def sessionEntry (entry : List UInt8) : Option String :=
  (sessionVariable.isPrefixOf? entry).bind fun value =>
    (Utf8.decode value).bind fun value => (taskIdFromSession value).map fun _ => value

/-- `parse_procargs2_task`. -/
def parseProcargs2Task (buffer : List UInt8) : Option (List String × Option String) :=
  if buffer.length < 4 then none
  else if intFromBytes (buffer.take 4) < 0 then none
  else
    (untilNul (buffer.drop 4)).bind fun path =>
      -- the padding: every NUL behind the path
      (takeArguments (intFromBytes (buffer.take 4)).toNat (path.2.dropWhile (· == 0))).map
        fun rest => (rest.1, (splitNul rest.2).findSome? sessionEntry)

end Unlinger
