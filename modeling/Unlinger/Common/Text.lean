import Mathlib.Algebra.Group.Nat.Defs
import Mathlib.Data.List.Infix

/-!
# Text

The string operations of the standard library the programs here use, on
characters: a string is its list of Unicode scalar values, and a byte
offset that falls behind ASCII characters is the same number of
characters. All of them compute.
-/

namespace Unlinger

namespace Text

/-- ASCII letters to lower case, every other character unchanged. -/
def toAsciiLowercase (cs : List Char) : List Char := cs.map Char.toLower

/-- Does `p` occur somewhere in `cs`? -/
def isInfix (p cs : List Char) : Bool := cs.tails.any p.isPrefixOf

/-- Does `s` start with `p`? -/
def startsWith (s p : String) : Bool := p.toList.isPrefixOf s.toList

/-- What follows the prefix `p`, where `s` starts with it. -/
def stripPrefix (s p : String) : Option String :=
  (p.toList.isPrefixOf? s.toList).map String.ofList

/-- The Unicode `White_Space` property. -/
def isWhitespace (c : Char) : Bool :=
  (9 ≤ c.toNat && c.toNat ≤ 13) || c.toNat == 0x20 || c.toNat == 0x85 || c.toNat == 0xa0
    || c.toNat == 0x1680 || (0x2000 ≤ c.toNat && c.toNat ≤ 0x200a) || c.toNat == 0x2028
    || c.toNat == 0x2029 || c.toNat == 0x202f || c.toNat == 0x205f || c.toNat == 0x3000

/-- A control character. -/
def isControl (c : Char) : Bool := c.toNat < 0x20 || (0x7f ≤ c.toNat && c.toNat ≤ 0x9f)

/-- Is there nothing but white space? This is `trim().is_empty()`. -/
def isBlank (s : String) : Bool := s.toList.all isWhitespace

/-- The bytes of the UTF-8 encoding. -/
def bytes (s : String) : List UInt8 := s.toList.flatMap String.utf8EncodeChar

/-- Split at every occurrence of a character, empty pieces kept. -/
def splitOn (sep : Char) : List Char → List (List Char)
  | [] => [[]]
  | c :: cs =>
      match splitOn sep cs with
      | [] => [[c]]
      | p :: ps => if c = sep then [] :: p :: ps else (c :: p) :: ps

/-- The final normal component of a path: empty and `.` components do
not count, and a path ending in `..` has none. -/
def fileName (path : String) : Option String :=
  match (((splitOn '/' path.toList).filter fun p => p != [] && p != ['.']).getLast?) with
  | none => none
  | some p => if p = ['.', '.'] then none else some (String.ofList p)

/-- A path from the root. -/
def isAbsolute (path : String) : Bool := startsWith path "/"

/-- The components of a path: the root, a leading `.`, and every piece
between slashes that is neither empty nor `.`. -/
def components (path : String) : List (List Char) :=
  let normal := fun ps : List (List Char) => ps.filter fun p => p != [] && p != ['.']
  if isAbsolute path then ['/'] :: normal (splitOn '/' path.toList)
  else
    match splitOn '/' path.toList with
    | ['.'] :: ps => ['.'] :: normal ps
    | ps => normal ps

/-- A path below another, component by component. -/
def pathStartsWith (path base : String) : Bool :=
  (components base).isPrefixOf (components path)

/-- A path followed by another; an absolute one takes its place. -/
def joinPath (base path : String) : String :=
  if isAbsolute path then path
  else if base = "" || base.toList.getLast? == some '/' then base ++ path
  else base ++ "/" ++ path

/-- A number in decimal. -/
def decimal (n : Nat) : String := toString n

/-- Every occurrence of `p`, from the left, becomes `r`; so many characters
still belong to the last one. -/
def replaceFrom (p r : List Char) : Nat → List Char → List Char
  | _, [] => []
  | skipped + 1, _ :: cs => replaceFrom p r skipped cs
  | 0, c :: cs =>
      if p.isPrefixOf (c :: cs) then r ++ replaceFrom p r (p.length - 1) cs
      else c :: replaceFrom p r 0 cs

/-- `str::replace`, of a pattern that is not empty. -/
def replace (s p r : String) : String :=
  String.ofList (replaceFrom p.toList r.toList 0 s.toList)

/-- The digits of a number that fits 64 bits, behind the ones already read. -/
def parseDigits (n : Nat) : List Char → Except String Nat
  | [] => .ok n
  | c :: cs =>
      if !c.isDigit then .error "invalid digit found in string"
      else if 2 ^ 64 ≤ n * 10 + (c.toNat - 48) then
        .error "number too large to fit in target type"
      else parseDigits (n * 10 + (c.toNat - 48)) cs

/-- `str::parse::<u64>`. -/
def parseU64 (s : String) : Except String Nat :=
  match s.toList with
  | [] => .error "cannot parse integer from empty string"
  | '+' :: c :: cs => parseDigits 0 (c :: cs)
  | cs => parseDigits 0 cs

end Text

end Unlinger
