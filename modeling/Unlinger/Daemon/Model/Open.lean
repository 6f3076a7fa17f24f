import Mathlib.Algebra.Group.Nat.Defs
import Unlinger.Common.Text

/-!
# Opening the store

`HistoryStore::open` of `unlinger-daemon/src/store.rs`: the files of the
database are looked at before SQLite may touch them, a corrupt database is
moved into a quarantine directory file by file, a fresh one is created in
its place, and the recovery is recorded in it.

The database directory is what one open finds and leaves. The look of
SQLite at what it finds, creating a directory, renaming a file and
committing a transaction are the steps of an open that last, one after
another; a crash cuts them. What SQLite says of the files it is shown, and
what it makes of the sidecars when it looks, is a parameter; the files are
regular, the user's own and private, so their metadata is not shown.
-/

namespace Unlinger

/-- The files of a SQLite database. -/
inductive Component
  | database | wal | shm | journal
  deriving DecidableEq

/-- What follows the database's path in a component's. -/
def Component.suffix : Component → String
  | .database => ""
  | .wal => "-wal"
  | .shm => "-shm"
  | .journal => "-journal"

/-- The components beside the database, in the order they are looked at. -/
def Component.sidecars : List Component := [.wal, .shm, .journal]

/-- The SQLite failures that are told apart. -/
inductive SqliteCode
  | databaseCorrupt | notADatabase | other
  deriving DecidableEq

/-- Why the store could not be opened. -/
inductive OpenError
  | unsafePath (message : String)
  | sqlite (code : SqliteCode)
  | corrupt (message : String)
  | unsupportedSchema (message : String)
  | range (message : String)
  | invalid (message : String)
  deriving DecidableEq

/-- Why a database was replaced. -/
inductive StorageRecoveryReason
  | integrityCheckFailed | requiredSchemaInvalid
  deriving DecidableEq

/-- A quarantine directory, by the stamp and the sequence in its name. -/
structure QuarantineName where
  stamp : Nat
  sequence : Nat
  deriving DecidableEq

/-- A row of `storage_recoveries`. -/
structure StorageRecoveryOccurrence where
  recoveryId : String
  occurredAt : Nat
  reason : StorageRecoveryReason
  quarantine : QuarantineName
  quarantinedSidecarCount : Nat
  deriving DecidableEq

/-- A file: one that was found, with some content, a database created
here, with the recoveries recorded in it, or a sidecar SQLite wrote
itself. -/
inductive File (κ : Type)
  | found (content : κ)
  | created (recoveries : List StorageRecoveryOccurrence)
  | own
  deriving DecidableEq

/-- The files that are there. -/
abbrev Files (κ : Type) := Component → Option (File κ)

/-- The directory of the database: its files, and the quarantine
directories with theirs. -/
structure DatabaseDirectory (κ : Type) where
  files : Files κ
  quarantines : QuarantineName → Option (Files κ)

/-- What SQLite makes of files it is shown: whether their database passes
the checks, the files as a connection leaves them that only reads, and
whether the database has a schema at all. -/
structure SqliteReader (κ : Type) where
  inspect : Files κ → Except OpenError Unit × Files κ
  versioned : Files κ → Bool

variable {κ : Type}

/-! ## Looking first -/

/-- Is there a database? A sidecar without one is refused. -/
def validateExistingStoreComponents (files : Files κ) : Except OpenError Bool :=
  if (files .database).isSome then .ok true
  else
    match Component.sidecars.find? fun c => (files c).isSome with
    | some c =>
        .error (.unsafePath ("SQLite " ++ c.suffix ++ " sidecar exists without its database"))
    | none => .ok false

/-- Look at the files, and have SQLite look at the database it finds; and
the files after that. -/
def preflightStoreFile (sqlite : SqliteReader κ) (files : Files κ) :
    Except OpenError Bool × Files κ :=
  match validateExistingStoreComponents files with
  | .error e => (.error e, files)
  | .ok false => (.ok false, files)
  | .ok true =>
      let (said, left) := sqlite.inspect files
      (said.map fun () => true, left)

/-- A database that fails so is replaced. -/
def isRecoverableCorruption : OpenError → Bool
  | .corrupt _ => true
  | .sqlite .databaseCorrupt => true
  | .sqlite .notADatabase => true
  | _ => false

/-- What is recorded of the failure. -/
def recoveryReason : OpenError → StorageRecoveryReason
  | .corrupt message =>
      if Text.isInfix "required schema".toList message.toList
          || Text.isInfix "application tables".toList message.toList then .requiredSchemaInvalid
      else .integrityCheckFailed
  | _ => .integrityCheckFailed

/-! ## Steps that last -/

/-- What survives a crash once it is done. -/
inductive DurableStep (κ : Type)
  /-- SQLite looked at the files and left these. -/
  | look (left : Files κ)
  | createDirectory (name : QuarantineName)
  | rename (component : Component) (name : QuarantineName)
  | initializeStoreFile
  | persistStorageRecovery (occurrence : StorageRecoveryOccurrence)

/-- One more recovery in a created database. -/
def File.record (occurrence : StorageRecoveryOccurrence) : File κ → File κ
  | .created recoveries => .created (recoveries ++ [occurrence])
  | .found content => .found content
  | .own => .own

namespace DatabaseDirectory

/-- Put or take away a file of a directory. -/
def setFile (files : Files κ) (c : Component) (file : Option (File κ)) : Files κ :=
  fun c' => if c' = c then file else files c'

/-- The files of a database that was just created: it is in WAL mode. -/
def freshFiles (files : Files κ) : Files κ
  | .database => some (.created [])
  | .wal | .shm => some .own
  | .journal => files .journal

/-- The directory after a step. -/
def apply (d : DatabaseDirectory κ) : DurableStep κ → DatabaseDirectory κ
  | .look left => { d with files := left }
  | .createDirectory name =>
      { d with quarantines := fun n => if n = name then some fun _ => none else d.quarantines n }
  | .rename c name =>
      { files := setFile d.files c none
        quarantines := fun n =>
          if n = name then (d.quarantines name).map fun files => setFile files c (d.files c)
          else d.quarantines n }
  | .initializeStoreFile => { d with files := freshFiles d.files }
  | .persistStorageRecovery occurrence =>
      let recorded := (d.files .database).map (File.record occurrence)
      { d with files := setFile d.files .database recorded }

/-- The first sequence whose directory is not there, of the `u16` ones. -/
@[irreducible] def freeSequence (d : DatabaseDirectory κ) (stamp : Nat) : Option Nat :=
  (List.range 65536).find? fun sequence => (d.quarantines ⟨stamp, sequence⟩).isNone

/-- The sidecars that are there. -/
def presentSidecars (files : Files κ) : List Component :=
  Component.sidecars.filter fun c => (files c).isSome

/-- The steps of a quarantine: every sidecar moves that is there by then. -/
def quarantineDatabase (d : DatabaseDirectory κ) (name : QuarantineName) : List (DurableStep κ) :=
  .createDirectory name :: .rename .database name ::
    (presentSidecars d.files).map fun c => .rename c name

/-- What is recorded of it. -/
def occurrenceOf (d : DatabaseDirectory κ) (e : OpenError) (name : QuarantineName) :
    StorageRecoveryOccurrence where
  recoveryId := "storage-recovery-" ++ Text.decimal name.stamp ++ "-" ++ Text.decimal name.sequence
  occurredAt := name.stamp
  reason := recoveryReason e
  quarantine := name
  quarantinedSidecarCount := (presentSidecars d.files).length

/-- The steps that replace a corrupt database, and how they end: a stamp
SQLite cannot hold is only found out when the recovery is recorded. -/
def replaceDatabase (d : DatabaseDirectory κ) (e : OpenError) (clock : Nat) :
    List (DurableStep κ) × Except OpenError Unit :=
  if clock < 2 ^ 64 then
    match d.freeSequence clock with
    | none =>
        ([], .error (.invalid "could not allocate a unique storage quarantine directory"))
    | some sequence =>
        let name : QuarantineName := ⟨clock, sequence⟩
        if clock < 2 ^ 63 then
          (d.quarantineDatabase name
            ++ [.initializeStoreFile, .persistStorageRecovery (d.occurrenceOf e name)], .ok ())
        else
          (d.quarantineDatabase name ++ [.initializeStoreFile],
            .error (.range "storage recovery timestamp overflowed i64"))
  else ([], .error (.range "storage recovery timestamp overflowed u64"))

/-- The directory after the look. -/
def looked (sqlite : SqliteReader κ) (d : DatabaseDirectory κ) : DatabaseDirectory κ :=
  { d with files := (preflightStoreFile sqlite d.files).2 }

/-- The steps after the look, in the directory it left. -/
def stepsAfter (sqlite : SqliteReader κ) (d : DatabaseDirectory κ) (said : Except OpenError Bool)
    (clock : Nat) : List (DurableStep κ) × Except OpenError Unit :=
  match said with
  -- a database is opened as it is, an empty file becomes one
  | .ok true => (if sqlite.versioned d.files then [] else [.initializeStoreFile], .ok ())
  | .ok false => ([.initializeStoreFile], .ok ())
  | .error e =>
      if isRecoverableCorruption e then d.replaceDatabase e clock else ([], .error e)

/-- **The steps of an open that last**, at a time of the wall clock, and how
it ends where no crash cuts it. The first is the look; where there is no
database to look at, it changes nothing. -/
def openSteps (sqlite : SqliteReader κ) (d : DatabaseDirectory κ) (clock : Nat) :
    List (DurableStep κ) × Except OpenError Unit :=
  let (said, left) := preflightStoreFile sqlite d.files
  let (steps, result) := (d.looked sqlite).stepsAfter sqlite said clock
  (.look left :: steps, result)

/-- The directory after an open that nothing cut. -/
def opened (sqlite : SqliteReader κ) (d : DatabaseDirectory κ) (clock : Nat) :
    DatabaseDirectory κ :=
  (d.openSteps sqlite clock).1.foldl apply d

/-- The recovery the store reports: the last recorded of the latest. -/
def latestStorageRecovery (d : DatabaseDirectory κ) : Option StorageRecoveryOccurrence :=
  match d.files .database with
  | some (.created recoveries) =>
      recoveries.foldl (fun latest o =>
        match latest with
        | none => some o
        | some l => if l.occurredAt ≤ o.occurredAt then some o else some l) none
  | _ => none

end DatabaseDirectory

end Unlinger
