import Mathlib.Algebra.GroupWithZero.Nat
import Unlinger.Common.Runs
import Unlinger.Daemon.Model.NodeCompileCache

/-!
# Runs of a scan and of a removal

What a run of `scan_entries` that came to a listing did for each of its
entries, and the shape of a run of `remove_files`: a scan that found the
frozen plan, and then, file by file, the checks and the unlink.
-/

namespace Unlinger

open Interaction

namespace NodeCompileCache

variable {α β ε : Type}

/-- A call that removes a file. -/
def IsUnlink : Call → Prop
  | .unlink _ => True
  | _ => False

/-- The name an event unlinks. -/
def unlinkedName : Event Answer → Option (List UInt8)
  | ⟨.unlink name, _⟩ => some name
  | _ => none

/-- The names a run tried to unlink, in order. -/
def unlinked (t : Trace Answer) : List (List UInt8) := t.filterMap unlinkedName

/-- Only an unlink names what was unlinked. -/
theorem unlinkedName_eq_none {e : Event Answer} (h : ¬ IsUnlink e.call) : unlinkedName e = none := by
  obtain ⟨c, r⟩ := e
  cases c with
  | unlink name => exact absurd trivial h
  | _ => rfl

theorem unlinked_eq_nil {t : Trace Answer} (h : ∀ e ∈ t, ¬ IsUnlink e.call) : unlinked t = [] :=
  List.filterMap_eq_nil_iff.mpr fun e he => unlinkedName_eq_none (h e he)

/-- The unlinked names of two parts follow each other. -/
theorem unlinked_append (s t : Trace Answer) : unlinked (s ++ t) = unlinked s ++ unlinked t :=
  List.filterMap_append

/-! ## Checks -/

/-- A check that goes on was met. -/
theorem runs_check {p : Prop} {_ : Decidable p} {error : NodeScanError} {f : Unit → Scan α}
    {es : Trace Answer} {a : α} :
    Runs (check p error >>= f) es (.ok a) ↔ p ∧ Runs (f ()) es (.ok a) := by
  unfold check require
  rw [runs_orThrow]
  constructor
  · rintro (⟨⟨⟩, hp, h⟩ | ⟨d, -, -, ho⟩)
    · refine ⟨?_, h⟩
      by_contra hnot
      rw [if_neg hnot] at hp
      cases hp
    · cases ho
  · rintro ⟨hp, h⟩
    exact Or.inl ⟨(), if_pos hp, h⟩

/-- A value that is gone on with was there. -/
theorem runs_obtained {x : Option β} {error : NodeScanError} {f : β → Scan α}
    {es : Trace Answer} {a : α} :
    Runs (obtained x error >>= f) es (.ok a) ↔ ∃ b, x = some b ∧ Runs (f b) es (.ok a) := by
  unfold obtained found
  rw [runs_orThrow]
  cases x with
  | none => simp
  | some b => simp

theorem only_check {P : Call → Prop} {p : Prop} {_ : Decidable p} {error : NodeScanError} :
    (check p error).Only P := Prog.only_orThrow

theorem only_obtained {P : Call → Prop} {x : Option β} {error : NodeScanError} :
    (obtained x error).Only P := Prog.only_orThrow

/-! ## A scan unlinks nothing -/

section Only

variable {euid rounds : Nat}

/-- Reading unlinks nothing. -/
theorem only_readExact {missing : Nat} {data : List UInt8} :
    (readExact rounds missing data).Only (¬ IsUnlink ·) := by
  induction rounds generalizing missing data with
  | zero => exact Prog.only_throw
  | succ rounds ih =>
    unfold readExact
    split
    · exact Prog.only_pure
    · refine Prog.Only.ask (by exact id) fun answer => ?_
      cases answer with
      | bytes data' hle =>
        cases data' with
        | nil => exact Prog.only_throw
        | cons b bs => exact ih
      | interrupted => exact ih
      | failed => exact Prog.only_throw

/-- Nor does reading on to the end. -/
theorem only_readPayload {crc : UInt32} : (readPayload rounds crc).Only (¬ IsUnlink ·) := by
  induction rounds generalizing crc with
  | zero => exact Prog.only_throw
  | succ rounds ih =>
    refine Prog.Only.ask (by exact id) fun cancelled => Prog.Only.bind only_check fun _ => ?_
    refine Prog.Only.ask (by exact id) fun expired => Prog.Only.bind only_check fun _ => ?_
    refine Prog.Only.ask (by exact id) fun answer => ?_
    cases answer with
    | bytes data hle =>
      cases data with
      | nil => exact Prog.only_pure
      | cons b bs => exact ih
    | interrupted => exact Prog.only_throw
    | failed => exact Prog.only_throw

/-- Nor does the look at a file. -/
theorem only_validateCacheFile {length : Nat} :
    (validateCacheFile rounds length).Only (¬ IsUnlink ·) :=
  Prog.Only.bind only_readExact fun _ => Prog.Only.bind only_check fun _ =>
    Prog.Only.bind only_readPayload fun _ => only_check

/-- The scan of a file unlinks nothing. -/
theorem only_scanFile {name : List UInt8} {total : Nat} :
    (scanFile euid rounds name total).Only (¬ IsUnlink ·) := by
  refine Prog.Only.ask (by exact id) fun isOpen => Prog.Only.bind only_check fun _ => ?_
  refine Prog.Only.ask (by exact id) fun held => Prog.Only.bind only_obtained fun file => ?_
  refine Prog.Only.bind only_check fun _ => Prog.Only.bind only_check fun _ => ?_
  refine Prog.Only.bind only_check fun _ => Prog.Only.bind only_validateCacheFile fun _ => ?_
  refine Prog.Only.ask (by exact id) fun held => Prog.Only.bind only_obtained fun again => ?_
  refine Prog.Only.bind only_check fun _ => Prog.Only.ask (by exact id) fun linked => ?_
  exact Prog.Only.bind only_check fun _ => Prog.only_pure

/-- Nor that of a temporary file. -/
theorem only_scanTemporary {name : List UInt8} :
    (scanTemporary euid name).Only (¬ IsUnlink ·) := by
  refine Prog.Only.bind only_check fun _ => Prog.Only.ask (by exact id) fun linked => ?_
  exact Prog.Only.bind only_obtained fun _ => only_check

/-- Nor that of the files one after another. -/
theorem only_scanEach {names : List (List UInt8)} {total : Nat} {result : List CacheEntry} :
    (scanEach euid rounds names total result).Only (¬ IsUnlink ·) := by
  induction names generalizing total result with
  | nil => exact Prog.only_pure
  | cons name names ih =>
    refine Prog.Only.ask (by exact id) fun cancelled => Prog.Only.bind only_check fun _ => ?_
    refine Prog.Only.ask (by exact id) fun expired => Prog.Only.bind only_check fun _ => ?_
    split
    · exact Prog.Only.bind only_scanFile fun _ => ih
    · exact Prog.Only.bind only_scanTemporary fun _ => ih

/-- Nor the whole scan. -/
theorem only_scanEntries : (scanEntries euid rounds).Only (¬ IsUnlink ·) :=
  Prog.Only.ask (by exact id) fun _ => Prog.Only.bind only_obtained fun _ =>
    Prog.Only.bind only_check fun _ => only_scanEach

/-- Looking whether the bindings are current unlinks nothing. -/
theorem only_bindingsCurrent {m : NodeCompileCacheMaintenance} :
    (bindingsCurrent m euid : Prog Answer ε Bool).Only (¬ IsUnlink ·) := by
  have hdirectory : ∀ d, (directoryCurrent m euid d : Prog Answer ε Bool).Only (¬ IsUnlink ·) :=
    fun d => Prog.Only.ask (by exact id) fun _ => Prog.only_pure
  refine Prog.Only.ask (by exact id) fun producer => ?_
  split_ifs
  · exact Prog.only_pure
  · refine Prog.Only.bind (hdirectory .temp) fun temp => ?_
    split_ifs
    · exact Prog.only_pure
    · refine Prog.Only.bind (hdirectory .root) fun root => ?_
      split_ifs
      · exact Prog.only_pure
      · exact hdirectory .bucket

end Only

/-! ## What a scan has done for an entry -/

/-- The file was opened and found safe, it passed validation, and behind
that it was found unchanged, through the open file and through the
directory. -/
structure Validated (euid rounds : Nat) (entry : CacheEntry) (t : Trace Answer) where
  file : Metadata
  again : Metadata
  linked : Metadata
  before : Trace Answer
  reads : Trace Answer
  after : Trace Answer
  trace : t = before ++ (⟨.openAt entry.name, true⟩ :: ⟨.metadata entry.name, some file⟩ :: reads)
    ++ (⟨.metadata entry.name, some again⟩ :: ⟨.entryMetadata entry.name, some linked⟩ :: after)
  passed : Runs (validateCacheFile rounds entry.identity.length) reads (.ok ())
  header : 20 ≤ entry.identity.length
  safeFile : safeFile euid file = true
  safeLinked : NodeCompileCache.safeFile euid linked = true
  fileIdentity : file.identity = entry.identity
  againIdentity : again.identity = entry.identity
  linkedIdentity : linked.identity = entry.identity

section Scan

variable {euid rounds : Nat} {entry : CacheEntry}

/-- The same within a longer trace. -/
def Validated.extend {t : Trace Answer} (h : Validated euid rounds entry t) (s u : Trace Answer) :
    Validated euid rounds entry (s ++ t ++ u) :=
  { h with
    before := s ++ h.before
    after := h.after ++ u
    trace := by
      conv_lhs => rw [h.trace]
      simp }

/-- A published file that a scan lists. -/
theorem runs_scanFile {name : List UInt8} {total total' : Nat} {es : Trace Answer}
    (h : Runs (scanFile euid rounds name total) es (.ok (entry, total'))) :
    entry.name = name ∧ Nonempty (Validated euid rounds entry es) ∧
      total' = total + entry.identity.length ∧ total' ≤ maxScanBytes := by
  replace h := runs_ask.mp h
  obtain ⟨isOpen, es, rfl, h⟩ := h
  replace h := runs_check.mp h
  obtain ⟨hopen, h⟩ := h
  replace h := runs_ask.mp h
  obtain ⟨held, es, rfl, h⟩ := h
  replace h := runs_obtained.mp h
  obtain ⟨file, hfile, h⟩ := h
  replace h := runs_check.mp h
  obtain ⟨hsafe, h⟩ := h
  replace h := runs_check.mp h
  obtain ⟨-, h⟩ := h
  replace h := runs_check.mp h
  obtain ⟨hbudget, h⟩ := h
  replace h := runs_bind_ok.mp h
  obtain ⟨⟨⟩, reads, es, rfl, hreads, h⟩ := h
  replace h := runs_ask.mp h
  obtain ⟨held', es, rfl, h⟩ := h
  replace h := runs_obtained.mp h
  obtain ⟨again, hagain, h⟩ := h
  replace h := runs_check.mp h
  obtain ⟨hsame, h⟩ := h
  replace h := runs_ask.mp h
  obtain ⟨linked, es, rfl, h⟩ := h
  replace h := runs_check.mp h
  obtain ⟨hlinked, h⟩ := h
  replace h := runs_pure.mp h
  obtain ⟨rfl, ho⟩ := h
  obtain ⟨hentry, htotal⟩ := Prod.mk.inj (Except.ok.inj ho)
  subst hentry htotal hopen hfile hagain
  change Option Metadata at linked
  obtain ⟨current, rfl, hcurrent⟩ : ∃ current, linked = some current ∧
      (safeFile euid current && current.identity == file.identity) = true := by
    cases linked with
    | none => simp at hlinked
    | some current => exact ⟨current, rfl, hlinked⟩
  simp only [Bool.and_eq_true, beq_iff_eq] at hcurrent
  refine ⟨rfl, ⟨⟨file, again, current, [], reads, [], by simp, hreads, ?_, hsafe.1, hcurrent.1, rfl,
    hsame.symm, hcurrent.2⟩⟩, rfl, hbudget⟩
  show 20 ≤ file.identity.length
  omega

/-- **A listing**: every entry bears a final name and was validated, and
together they keep within the budget. -/
theorem runs_scanEach {names : List (List UInt8)} {total : Nat} {result entries : List CacheEntry}
    {es : Trace Answer} (h : Runs (scanEach euid rounds names total result) es (.ok entries)) :
    ∃ listed, entries = result ++ listed ∧
      (∀ entry ∈ listed, hexName entry.name = true ∧ Nonempty (Validated euid rounds entry es)) ∧
      listed.length ≤ names.length ∧
      (total ≤ maxScanBytes →
        total + (listed.map fun entry => entry.identity.length).sum ≤ maxScanBytes) := by
  induction names generalizing total result es with
  | nil =>
    replace h := runs_pure.mp h
    obtain ⟨rfl, ho⟩ := h
    obtain rfl := Except.ok.inj ho
    exact ⟨[], by simp, by simp, by simp, by simp⟩
  | cons name names ih =>
    replace h := runs_ask.mp h
    obtain ⟨cancelled, es, rfl, h⟩ := h
    replace h := runs_check.mp h
    obtain ⟨-, h⟩ := h
    replace h := runs_ask.mp h
    obtain ⟨expired, es, rfl, h⟩ := h
    replace h := runs_check.mp h
    obtain ⟨-, h⟩ := h
    by_cases hhex : hexName name = true
    · rw [if_pos hhex] at h
      replace h := runs_bind_ok.mp h
      obtain ⟨⟨entry, total'⟩, xs, ys, rfl, hfile, h⟩ := h
      obtain ⟨hname, ⟨hvalid⟩, htotal, hbudget⟩ := runs_scanFile hfile
      obtain ⟨listed, rfl, hlisted, hlen, hsum⟩ := ih h
      refine ⟨entry :: listed, by simp, ?_, by simpa using hlen, fun _ => ?_⟩
      · intro other hother
        rcases List.mem_cons.mp hother with rfl | hother
        · exact ⟨hname ▸ hhex,
            ⟨by simpa using hvalid.extend [⟨.cancelled, cancelled⟩, ⟨.expired, expired⟩] ys⟩⟩
        · obtain ⟨hother, ⟨hvalid⟩⟩ := hlisted other hother
          exact ⟨hother, ⟨by
            simpa using hvalid.extend (⟨.cancelled, cancelled⟩ :: ⟨.expired, expired⟩ :: xs) []⟩⟩
      · have := hsum hbudget
        rw [List.map_cons, List.sum_cons]
        omega
    · rw [if_neg hhex] at h
      replace h := runs_bind_ok.mp h
      obtain ⟨⟨⟩, xs, ys, rfl, -, h⟩ := h
      obtain ⟨listed, rfl, hlisted, hlen, hsum⟩ := ih h
      refine ⟨listed, rfl, ?_, by simp; omega, hsum⟩
      intro other hother
      obtain ⟨hother, ⟨hvalid⟩⟩ := hlisted other hother
      exact ⟨hother, ⟨by
        simpa using hvalid.extend (⟨.cancelled, cancelled⟩ :: ⟨.expired, expired⟩ :: xs) []⟩⟩

/-- The same of the whole scan. -/
theorem runs_scanEntries {entries : List CacheEntry} {es : Trace Answer}
    (h : Runs (scanEntries euid rounds) es (.ok entries)) :
    (∀ entry ∈ entries, hexName entry.name = true ∧ Nonempty (Validated euid rounds entry es)) ∧
      entries.length ≤ maxEntries ∧
      (entries.map fun entry => entry.identity.length).sum ≤ maxScanBytes := by
  replace h := runs_ask.mp h
  obtain ⟨listing, es, rfl, h⟩ := h
  replace h := runs_obtained.mp h
  obtain ⟨names, -, h⟩ := h
  replace h := runs_check.mp h
  obtain ⟨hcount, h⟩ := h
  obtain ⟨listed, rfl, hlisted, hlen, hsum⟩ := runs_scanEach h
  refine ⟨?_, ?_, by simpa using hsum (Nat.zero_le _)⟩
  · intro entry hentry
    obtain ⟨hhex, ⟨hvalid⟩⟩ := hlisted entry hentry
    exact ⟨hhex, ⟨by simpa using hvalid.extend [⟨.directoryNames, listing⟩] []⟩⟩
  · rw [List.length_insertionSort] at hlen
    omega

end Scan

end NodeCompileCache

end Unlinger
