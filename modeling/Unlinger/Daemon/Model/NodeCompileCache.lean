import Unlinger.Daemon.Model.ToolCache

/-!
# The node compile cache

The scan behind `remove_files`, from `unlinger-daemon/src/
node_compile_cache.rs`: how a bucket is opened and its plan frozen, how a
cache file is validated, and what is compared before a file is unlinked.
Every observation of the file system, the clock and the caller is a call
of its own, and any answer may come.

The loops that read a file end when the file does. They are given a number
of rounds, and a run that needs more is `unfinished`.
-/

namespace Unlinger

open Interaction

namespace NodeCompileCache

/-! ## The format -/

/-- `MAGIC`. -/
def magic : UInt32 := 0x8adfdbb2

/-- The polynomial of the check. -/
def polynomial : UInt32 := 0xedb88320

/-- `MAX_ENTRIES`. -/
def maxEntries : Nat := 65536

/-- `MAX_SCAN_BYTES`. -/
def maxScanBytes : Nat := 2 * 1024 * 1024 * 1024

/-- The inner loop of `crc_table`. -/
def crcShifts : Nat → UInt32 → UInt32
  | 0, crc => crc
  | bit + 1, crc => crcShifts bit ((crc >>> 1) ^^^ (polynomial &&& (0 - (crc &&& 1))))

/-- `CRC`, which is `crc_table()`. -/
def crcTable : List UInt32 := (List.range 256).map fun i => crcShifts 8 (UInt32.ofNat i)

/-- `update_crc`. -/
def updateCrc (crc : UInt32) (bytes : List UInt8) : UInt32 :=
  bytes.foldl (fun crc byte =>
    crcTable.getD ((crc ^^^ byte.toUInt32) &&& 255).toNat 0 ^^^ (crc >>> 8)) crc

/-- A number from its bytes, the lowest first. -/
def fromLeBytes (bytes : List UInt8) : UInt32 :=
  UInt32.ofNat (bytes.foldr (fun byte n => byte.toNat + 256 * n) 0)

/-- A word of the header. -/
def word (header : List UInt8) (index : Nat) : UInt32 :=
  fromLeBytes ((header.drop (index * 4)).take 4)

/-- `hex_name`. -/
def hexName (value : List UInt8) : Bool :=
  value.length == 8 && value.all fun b => (48 ≤ b && b ≤ 57) || (97 ≤ b && b ≤ 102)

/-- `is_ascii_alphanumeric`. -/
def isAlphanumeric (b : UInt8) : Bool :=
  (48 ≤ b && b ≤ 57) || (65 ≤ b && b ≤ 90) || (97 ≤ b && b ≤ 122)

/-- The name of a file its producer has not published yet. -/
def temporaryName (value : List UInt8) : Bool :=
  value.length == 15 && hexName (value.take 8) && value[8]? == some 46
    && (value.drop 9).all isAlphanumeric

/-- The order of names. -/
def bytesLe : List UInt8 → List UInt8 → Bool
  | [], _ => true
  | _ :: _, [] => false
  | a :: as, b :: bs => a < b || (a == b && bytesLe as bs)

/-! ## What is observed -/

/-- The metadata of a file or a directory. -/
structure Metadata where
  isFile : Bool
  isDir : Bool
  uid : Nat
  nlink : Nat
  mode : Nat
  identity : CacheFileIdentity
  deriving DecidableEq

/-- `safe_directory`. -/
def safeDirectory (euid : Nat) (file : Metadata) : Bool :=
  file.isDir && file.uid == euid && file.mode &&& 0o022 == 0

/-- `safe_file`. -/
def safeFile (euid : Nat) (file : Metadata) : Bool :=
  file.isFile && file.uid == euid && file.nlink == 1 && file.mode &&& 0o022 == 0

/-- `Identity::same_object`. -/
def sameObject (identity : CacheFileIdentity) (file : Metadata) : Bool :=
  identity.device == file.identity.device && identity.inode == file.identity.inode

/-- What the producer is recognised by. -/
structure ProducerBinding where
  device : Nat
  inode : Nat
  length : Nat
  modified : Int × Int
  deriving DecidableEq

/-- `ProducerBinding::capture`. -/
def ProducerBinding.capture (euid : Nat) (file : Option Metadata) : Option ProducerBinding :=
  file.bind fun file =>
    if !file.isFile || !(file.uid == 0 || file.uid == euid) || file.mode &&& 0o022 != 0 then none
    else some ⟨file.identity.device, file.identity.inode, file.identity.length,
      file.identity.modified⟩

/-- The directories above the files. -/
inductive Directory
  | temp
  | root
  | bucket
  deriving DecidableEq

/-- How a directory opens. -/
inductive Opening
  | opened
  | notFound
  | failed
  deriving DecidableEq

/-- What a read of at most so many bytes brings; no bytes at the end. -/
inductive ReadAnswer (size : Nat)
  | bytes (data : List UInt8) (le : data.length ≤ size)
  | interrupted
  | failed

/-- What is asked of the surroundings. The file opened last is the one
whose metadata and bytes are read. -/
inductive Call
  | cancelled
  | expired
  | producer
  | openDirectory (d : Directory)
  | directoryMetadata (d : Directory)
  | pathMetadata (d : Directory)
  | directoryNames
  | openAt (name : List UInt8)
  | metadata (name : List UInt8)
  | entryMetadata (name : List UInt8)
  | read (size : Nat)
  | unlink (name : List UInt8)

/-- What the answers are. -/
def Answer : Call → Type
  | .cancelled => Bool
  | .expired => Bool
  | .producer => Option Metadata
  | .openDirectory _ => Opening
  | .directoryMetadata _ => Option Metadata
  | .pathMetadata _ => Option Metadata
  | .directoryNames => Option (List (List UInt8))
  | .openAt _ => Bool
  | .metadata _ => Option Metadata
  | .entryMetadata _ => Option Metadata
  | .read size => ReadAnswer size
  | .unlink _ => Bool

/-- How a scan ends without a listing. -/
inductive ScanEnd
  | failed (error : NodeScanError)
  | unfinished

/-- The caller's rounds were too few. -/
inductive Unfinished
  | unfinished

/-- A scan, or a part of it. -/
abbrev Scan (α : Type) := Prog Answer ScanEnd α

/-- Go on where `p` holds. -/
def check (p : Prop) [Decidable p] (error : NodeScanError) : Scan Unit :=
  Prog.orThrow .failed (require p error)

/-- Go on with the value. -/
def obtained {α : Type} (o : Option α) (error : NodeScanError) : Scan α :=
  Prog.orThrow .failed (found o error)

/-! ## Validation -/

/-- What `read_exact` does with an answer: interrupted reads are made
again, and the end of the file is an error. -/
def afterRead (again : Nat → List UInt8 → Scan (List UInt8)) (missing : Nat) (data : List UInt8) :
    ReadAnswer missing → Scan (List UInt8)
  | .bytes [] _ => .throw (.failed .io)
  | .bytes (b :: bs) _ => again (missing - (b :: bs).length) (data ++ b :: bs)
  | .interrupted => again missing data
  | .failed => .throw (.failed .io)

/-- `read_exact`. -/
def readExact : Nat → Nat → List UInt8 → Scan (List UInt8)
  | 0, _, _ => .throw .unfinished
  | rounds + 1, missing, data =>
      if missing = 0 then pure data
      else Prog.ask (Call.read missing) >>= afterRead (readExact rounds) missing data

/-- What the check does with a buffer. -/
def afterBuffer (again : UInt32 → Scan UInt32) (crc : UInt32) : ReadAnswer 65536 → Scan UInt32
  | .bytes [] _ => pure crc
  | .bytes (b :: bs) _ => again (updateCrc crc (b :: bs))
  | .interrupted | .failed => .throw (.failed .io)

/-- The check over what follows the header, one buffer at a time. -/
def readPayload : Nat → UInt32 → Scan UInt32
  | 0, _ => .throw .unfinished
  | rounds + 1, crc => do
      let cancelled : Bool ← Prog.ask Call.cancelled
      check (cancelled = false) .unsafeShape
      let expired : Bool ← Prog.ask Call.expired
      check (expired = false) .unsafeShape
      Prog.ask (Call.read 65536) >>= afterBuffer (readPayload rounds) crc

/-- `validate_cache_file`. -/
def validateCacheFile (rounds length : Nat) : Scan Unit := do
  let header ← readExact rounds 20 []
  check (word header 0 = magic ∧ (word header 2).toNat + 20 = length) .unsafeShape
  let crc ← readPayload rounds (~~~ 0)
  check (~~~ crc = word header 4) .unsafeShape

/-! ## Scanning -/

variable (euid rounds : Nat)

/-- One published file: opened, validated, and found the same behind it. -/
def scanFile (name : List UInt8) (total : Nat) : Scan (CacheEntry × Nat) := do
  let isOpen : Bool ← Prog.ask (Call.openAt name)
  check (isOpen = true) .io
  let held : Option Metadata ← Prog.ask (Call.metadata name)
  let file ← obtained held .io
  check (safeFile euid file = true ∧ ¬ file.identity.length < 20) .unsafeShape
  check (total + file.identity.length < 2 ^ 64) .unsafeShape
  check (total + file.identity.length ≤ maxScanBytes) .unsafeShape
  validateCacheFile rounds file.identity.length
  let held : Option Metadata ← Prog.ask (Call.metadata name)
  let again ← obtained held .io
  check (file.identity = again.identity) .busy
  let linked : Option Metadata ← Prog.ask (Call.entryMetadata name)
  check (linked.any (fun current => safeFile euid current && current.identity == file.identity)
    = true) .busy
  return (⟨name, file.identity⟩, total + file.identity.length)

/-- A file not published yet is looked at and left alone. -/
def scanTemporary (name : List UInt8) : Scan Unit := do
  check (temporaryName name = true) .unsafeShape
  let linked : Option Metadata ← Prog.ask (Call.entryMetadata name)
  let file ← obtained linked .io
  check (safeFile euid file = true) .unsafeShape

/-- The names one after another. -/
def scanEach : List (List UInt8) → Nat → List CacheEntry → Scan (List CacheEntry)
  | [], _, result => pure result
  | name :: names, total, result => do
      let cancelled : Bool ← Prog.ask Call.cancelled
      check (cancelled = false) .unsafeShape
      let expired : Bool ← Prog.ask Call.expired
      check (expired = false) .unsafeShape
      if hexName name = true then
        let (entry, total) ← scanFile euid rounds name total
        scanEach names total (result ++ [entry])
      else
        scanTemporary euid name
        scanEach names total result

/-- `scan_entries`. -/
def scanEntries : Scan (List CacheEntry) := do
  let listed : Option (List (List UInt8)) ← Prog.ask Call.directoryNames
  let names ← obtained listed .io
  check (names.length ≤ maxEntries) .io
  scanEach euid rounds (names.insertionSort fun a b => bytesLe a b = true) 0 []

/-! ## The plan -/

end NodeCompileCache

/-- `NodeCompileCacheMaintenance`: what is bound, and the frozen files. -/
structure NodeCompileCacheMaintenance where
  binding : NodeCompileCache.ProducerBinding
  tempIdentity : CacheFileIdentity
  rootIdentity : CacheFileIdentity
  bucketIdentity : CacheFileIdentity
  entries : List CacheEntry

namespace NodeCompileCache

/-- Why no plan came about. -/
structure DiscoveryError where
  availability : ToolCacheAvailability
  reason : String
  deriving DecidableEq

/-- Planning ends without a plan. -/
inductive PlanEnd
  | refused (error : DiscoveryError)
  | unfinished

/-- The identity a directory is bound by. -/
def boundIdentity (m : NodeCompileCacheMaintenance) : Directory → CacheFileIdentity
  | .temp => m.tempIdentity
  | .root => m.rootIdentity
  | .bucket => m.bucketIdentity

variable {ε : Type}

/-- A directory is still the one bound. -/
def directoryCurrent (m : NodeCompileCacheMaintenance) (euid : Nat) (d : Directory) :
    Prog Answer ε Bool := do
  let file : Option Metadata ← Prog.ask (Call.pathMetadata d)
  return file.any fun file => safeDirectory euid file && sameObject (boundIdentity m d) file

/-- `bindings_current`; what is not the same ends it. -/
def bindingsCurrent (m : NodeCompileCacheMaintenance) (euid : Nat) : Prog Answer ε Bool := do
  let producer : Option Metadata ← Prog.ask Call.producer
  if ProducerBinding.capture euid producer ≠ some m.binding then return false
  let temp ← directoryCurrent m euid .temp
  if !temp then return false
  let root ← directoryCurrent m euid .root
  if !root then return false
  directoryCurrent m euid .bucket

variable (euid rounds : Nat)

/-- Refuse to plan. -/
def refuse {α : Type} (availability : ToolCacheAvailability) (reason : String) :
    Prog Answer PlanEnd α :=
  .throw (.refused ⟨availability, reason⟩)

/-- The texts a directory is refused with. -/
def Directory.subject : Directory → String
  | .temp => "Node default temporary root"
  | .root => "Node compile-cache root"
  | .bucket => "Node cache bucket"

/-- Open a directory and bind it. -/
def openBound (d : Directory) : Prog Answer PlanEnd CacheFileIdentity := do
  let opening : Opening ← Prog.ask (Call.openDirectory d)
  if opening = .notFound ∧ d ≠ .temp then refuse .absent (d.subject ++ " is absent")
  else if opening ≠ .opened then refuse .unavailable (d.subject ++ " could not be opened")
  else
    let held : Option Metadata ← Prog.ask (Call.directoryMetadata d)
    match held with
    | none => refuse .unavailable (d.subject ++ " metadata could not be read")
    | some file =>
        if !safeDirectory euid file then refuse .unavailable (d.subject ++ " has unsafe metadata")
        else return file.identity

/-- `open_at`: freeze the plan of a bucket. -/
def openPlan (binding : ProducerBinding) : Prog Answer PlanEnd NodeCompileCacheMaintenance := do
  let temp ← openBound euid .temp
  let root ← openBound euid .root
  let bucket ← openBound euid .bucket
  match ← (scanEntries euid rounds).attempt with
  | .error .unfinished => .throw .unfinished
  | .error (.failed _) => refuse .unavailable "Node cache bucket could not be scanned completely"
  | .ok entries =>
      let m : NodeCompileCacheMaintenance := ⟨binding, temp, root, bucket, entries⟩
      let current : Bool ← bindingsCurrent m euid
      if current then return m
      else refuse .unavailable "Node producer or cache identity changed while opening"

/-! ## Removal, call by call -/

/-- Metadata as `remove_files` looks at it. -/
def asCacheFile (file : Metadata) : CacheFileMetadata := ⟨safeFile euid file, file.identity⟩

/-- What each call of `remove_files` is made of. -/
def perform (m : NodeCompileCacheMaintenance) :
    (c : NodeCall) → Prog Answer Unfinished (NodeAnswer c)
  | .cancelled => Prog.ask Call.cancelled
  | .expired => Prog.ask Call.expired
  | .bindingsCurrent => bindingsCurrent m euid
  | .scanEntries => do
      match ← (scanEntries euid rounds).attempt with
      | .ok entries => return .ok entries
      | .error (.failed error) => return .error error
      | .error .unfinished => .throw .unfinished
  | .openAt name => Prog.ask (Call.openAt name)
  | .metadata name => do
      let file : Option Metadata ← Prog.ask (Call.metadata name)
      return file.map (asCacheFile euid)
  | .entryMetadata name => do
      let file : Option Metadata ← Prog.ask (Call.entryMetadata name)
      return file.map (asCacheFile euid)
  | .unlink name => Prog.ask (Call.unlink name)

/-- `remove_files`, over the calls of the file system. -/
def removeFiles (m : NodeCompileCacheMaintenance) : Prog Answer Unfinished NativeCacheResult := do
  match ← (Unlinger.removeFiles m.entries).handle (perform euid rounds m) with
  | .ok result => return result
  | .error error => nomatch error

end NodeCompileCache

end Unlinger
