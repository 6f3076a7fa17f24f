import Unlinger.Daemon.Helpers.NodeCompileCache
import Unlinger.Daemon.CacheFormat

/-!
# Node cache removal is exact

`remove_files` over everything its surroundings may answer: what is
unlinked is the frozen plan, in order, each file right after it was
compared, and the outcome says what was done.
-/

namespace Unlinger

open Interaction

namespace NodeCompileCache

variable {euid rounds : Nat} {m : NodeCompileCacheMaintenance} {entry : CacheEntry}
  {entries : List CacheEntry} {count bytes : Nat} {es : Trace Answer}

/-! ## What is compared before a file is unlinked -/

/-- A directory as it was looked at: the one bound. -/
def IsBound (m : NodeCompileCacheMaintenance) (euid : Nat) (d : Directory)
    (file : Option Metadata) : Prop :=
  ∃ held, file = some held ∧ safeDirectory euid held = true
    ∧ sameObject (boundIdentity m d) held = true

/-- The producer and the three directories were found bound. -/
def BindingsChecked (m : NodeCompileCacheMaintenance) (euid : Nat) (t : Trace Answer) : Prop :=
  ∃ producer temp root bucket : Option Metadata,
    t = [⟨.producer, producer⟩, ⟨.pathMetadata .temp, temp⟩, ⟨.pathMetadata .root, root⟩,
      ⟨.pathMetadata .bucket, bucket⟩] ∧
    ProducerBinding.capture euid producer = some m.binding ∧
    IsBound m euid .temp temp ∧ IsBound m euid .root root ∧ IsBound m euid .bucket bucket

/-- Nobody had cancelled, the bindings were current, and the file was the
frozen one, through the open file and through the directory. -/
def Rechecked (m : NodeCompileCacheMaintenance) (euid : Nat) (entry : CacheEntry)
    (t : Trace Answer) : Prop :=
  ∃ (bindings : Trace Answer) (held linked : Metadata),
    t = ⟨.cancelled, false⟩ :: ⟨.expired, false⟩ :: (bindings ++
      [⟨.openAt entry.name, true⟩, ⟨.metadata entry.name, some held⟩,
        ⟨.entryMetadata entry.name, some linked⟩, ⟨.cancelled, false⟩]) ∧
    BindingsChecked m euid bindings ∧
    safeFile euid held = true ∧ held.identity = entry.identity ∧
    safeFile euid linked = true ∧ linked.identity = entry.identity

theorem BindingsChecked.noUnlink {t : Trace Answer} (h : BindingsChecked m euid t) :
    ∀ e ∈ t, ¬ IsUnlink e.call := by
  obtain ⟨producer, temp, root, bucket, rfl, -⟩ := h
  intro e he
  simp only [List.mem_cons, List.not_mem_nil, or_false] at he
  rcases he with rfl | rfl | rfl | rfl <;> exact id

theorem Rechecked.noUnlink {t : Trace Answer} (h : Rechecked m euid entry t) :
    ∀ e ∈ t, ¬ IsUnlink e.call := by
  obtain ⟨bindings, held, linked, rfl, hbindings, -⟩ := h
  intro e he
  simp only [List.mem_cons, List.mem_append, List.not_mem_nil, or_false] at he
  rcases he with rfl | rfl | he | rfl | rfl | rfl | rfl
  · exact id
  · exact id
  · exact hbindings.noUnlink e he
  all_goals exact id

theorem runs_directoryCurrent {ε : Type} {d : Directory} {o : Except ε Bool}
    (h : Runs (directoryCurrent m euid d : Prog Answer ε Bool) es o) :
    ∃ (file : Option Metadata) (b : Bool), es = [⟨.pathMetadata d, file⟩] ∧ o = .ok b ∧
      (b = true → IsBound m euid d file) := by
  replace h := runs_ask.mp h
  obtain ⟨file, es, rfl, h⟩ := h
  obtain ⟨rfl, rfl⟩ := runs_pure.mp h
  refine ⟨file, _, rfl, rfl, fun hb => ?_⟩
  change Option Metadata at file
  cases file with
  | none => simp at hb
  | some held =>
    simp only [Option.any_some, Bool.and_eq_true] at hb
    exact ⟨held, rfl, hb.1, hb.2⟩

/-- The bindings are compared one after another. -/
theorem runs_bindingsCurrent {ε : Type} {o : Except ε Bool}
    (h : Runs (bindingsCurrent m euid : Prog Answer ε Bool) es o) :
    ∃ b, o = .ok b ∧ (b = true → BindingsChecked m euid es) := by
  replace h := runs_ask.mp h
  obtain ⟨producer, es, rfl, h⟩ := h
  by_cases hproducer : ProducerBinding.capture euid producer = some m.binding
  swap
  · rw [if_pos hproducer] at h
    obtain ⟨-, rfl⟩ := runs_pure.mp h
    exact ⟨false, rfl, nofun⟩
  rw [if_neg (not_not_intro hproducer)] at h
  rcases runs_bind.mp h with ⟨temp, xs, ys, rfl, htemp, hrest⟩ | ⟨e, -, htemp⟩
  swap
  · obtain ⟨_, _, _, ho, _⟩ := runs_directoryCurrent htemp
    cases ho
  obtain ⟨tempFile, _, rfl, ho, htempBound⟩ := runs_directoryCurrent htemp
  obtain rfl := Except.ok.inj ho
  cases temp with
  | false =>
    obtain ⟨-, rfl⟩ := runs_pure.mp hrest
    exact ⟨false, rfl, nofun⟩
  | true =>
    rcases runs_bind.mp hrest with ⟨root, xs', ys', rfl, hroot, hlast⟩ | ⟨e, -, hroot⟩
    swap
    · obtain ⟨_, _, _, ho, _⟩ := runs_directoryCurrent hroot
      cases ho
    obtain ⟨rootFile, _, rfl, ho, hrootBound⟩ := runs_directoryCurrent hroot
    obtain rfl := Except.ok.inj ho
    cases root with
    | false =>
      obtain ⟨-, rfl⟩ := runs_pure.mp hlast
      exact ⟨false, rfl, nofun⟩
    | true =>
      obtain ⟨bucketFile, b, rfl, rfl, hbucketBound⟩ := runs_directoryCurrent hlast
      exact ⟨b, rfl, fun hb => ⟨producer, tempFile, rootFile, bucketFile, rfl, hproducer,
        htempBound rfl, hrootBound rfl, hbucketBound hb⟩⟩

/-! ## The loop -/

/-- What the loop did: it ended with the plan, it stopped before a file, or
an unlink failed. -/
inductive Removal (m : NodeCompileCacheMaintenance) (euid : Nat) :
    List CacheEntry → Nat → Nat → Trace Answer → NativeCacheResult → Prop
  | done {count bytes : Nat} : Removal m euid [] count bytes [] ⟨.completed, some count, some bytes⟩
  | stopped {entry : CacheEntry} {entries : List CacheEntry} {count bytes : Nat}
      {es : Trace Answer} : (∀ e ∈ es, ¬ IsUnlink e.call) →
      Removal m euid (entry :: entries) count bytes es (.unsuccessful .failed)
  | unknown {entry : CacheEntry} {entries : List CacheEntry} {count bytes : Nat}
      {checks : Trace Answer} : Rechecked m euid entry checks →
      Removal m euid (entry :: entries) count bytes (checks ++ [⟨.unlink entry.name, false⟩])
        (.unsuccessful .deliveryUnknown)
  | removed {entry : CacheEntry} {entries : List CacheEntry} {count bytes : Nat}
      {checks es : Trace Answer} {r : NativeCacheResult} : Rechecked m euid entry checks →
      Removal m euid entries (count + 1) (bytes + entry.identity.length) es r →
      Removal m euid (entry :: entries) count bytes (checks ++ ⟨.unlink entry.name, true⟩ :: es) r

/-- The loop goes on, or stops with a result. -/
theorem runs_stop {p : Prop} {_ : Decidable p} {a : NativeCacheResult}
    {rest : Prog NodeAnswer Empty NativeCacheResult}
    {o : Except Unfinished (Except Empty NativeCacheResult)}
    (h : Runs ((if p then pure a else rest).handle (perform euid rounds m)) es o) :
    p ∧ es = [] ∧ o = .ok (.ok a) ∨ ¬ p ∧ Runs (rest.handle (perform euid rounds m)) es o := by
  by_cases hp : p
  · rw [if_pos hp] at h
    obtain ⟨rfl, rfl⟩ := runs_pure.mp h
    exact Or.inl ⟨hp, rfl, rfl⟩
  · rw [if_neg hp] at h
    exact Or.inr ⟨hp, h⟩

/-- A file that is compared and found the frozen one. -/
theorem sameFile_of_any {file : Option Metadata} {identity : CacheFileIdentity}
    (h : ¬ (!((file.map (asCacheFile euid)).any fun file =>
      file.safe && file.identity == identity)) = true) :
    ∃ held, file = some held ∧ safeFile euid held = true ∧ held.identity = identity := by
  cases file with
  | none => simp at h
  | some held =>
    simp only [Option.map_some, Option.any_some, asCacheFile, Bool.not_eq_true,
      Bool.not_eq_false', Bool.and_eq_true, beq_iff_eq] at h
    exact ⟨held, rfl, h.1, h.2⟩

/-- **The loop**, file by file: by induction on what is left of the
plan. -/
theorem runs_removeEach {o : Except Unfinished (Except Empty NativeCacheResult)}
    (h : Runs ((removeEach entries count bytes).handle (perform euid rounds m)) es o) :
    ∃ r, o = .ok (.ok r) ∧ Removal m euid entries count bytes es r := by
  induction entries generalizing count bytes es with
  | nil =>
    obtain ⟨rfl, rfl⟩ := runs_pure.mp h
    exact ⟨_, rfl, Removal.done⟩
  | cons entry entries ih =>
    unfold removeEach at h
    replace h := runs_ask.mp h
    obtain ⟨(cancelled : Bool), es, rfl, h⟩ := h
    rcases runs_stop h with ⟨-, rfl, rfl⟩ | ⟨hcancelled, hclock⟩
    · exact ⟨_, rfl, Removal.stopped (by simp [IsUnlink])⟩
    replace hclock := runs_ask.mp hclock
    obtain ⟨(expired : Bool), es, rfl, hclock⟩ := hclock
    rcases runs_stop hclock with ⟨-, rfl, rfl⟩ | ⟨hexpired, hbind⟩
    · exact ⟨_, rfl, Removal.stopped (by simp [IsUnlink])⟩
    rcases runs_bind.mp hbind with ⟨(current : Bool), bindings, es, rfl, hcurrent, hopen⟩ | ⟨e, -, hbad⟩
    swap
    · obtain ⟨b, ho, -⟩ := runs_bindingsCurrent hbad
      cases ho
    have hquiet := only_bindingsCurrent.runs hcurrent
    obtain ⟨b, ho, hbindings⟩ := runs_bindingsCurrent hcurrent
    obtain rfl := Except.ok.inj ho
    rcases runs_stop hopen with ⟨-, rfl, rfl⟩ | ⟨hbound, hopen⟩
    · refine ⟨_, rfl, Removal.stopped ?_⟩
      simpa [IsUnlink] using hquiet
    replace hopen := runs_ask.mp hopen
    obtain ⟨(opened : Bool), es, rfl, hmeta⟩ := hopen
    rcases runs_stop hmeta with ⟨-, rfl, rfl⟩ | ⟨hopened, hmeta⟩
    · refine ⟨_, rfl, Removal.stopped ?_⟩
      simpa [IsUnlink, or_imp, forall_and] using hquiet
    replace hmeta := runs_ask.mp hmeta
    obtain ⟨held, es, rfl, hentry⟩ := hmeta
    rcases runs_stop hentry with ⟨-, rfl, rfl⟩ | ⟨hheld, hentry⟩
    · refine ⟨_, rfl, Removal.stopped ?_⟩
      simpa [IsUnlink, or_imp, forall_and] using hquiet
    replace hentry := runs_ask.mp hentry
    obtain ⟨linked, es, rfl, hpoll⟩ := hentry
    rcases runs_stop hpoll with ⟨-, rfl, rfl⟩ | ⟨hlinked, hpoll⟩
    · refine ⟨_, rfl, Removal.stopped ?_⟩
      simpa [IsUnlink, or_imp, forall_and] using hquiet
    replace hpoll := runs_ask.mp hpoll
    obtain ⟨(again : Bool), es, rfl, hunlink⟩ := hpoll
    rcases runs_stop hunlink with ⟨-, rfl, rfl⟩ | ⟨hagain, hunlink⟩
    · refine ⟨_, rfl, Removal.stopped ?_⟩
      simpa [IsUnlink, or_imp, forall_and] using hquiet
    replace hunlink := runs_ask.mp hunlink
    obtain ⟨(removed : Bool), es, rfl, hrest⟩ := hunlink
    obtain ⟨heldFile, rfl, hheldSafe, hheldIdentity⟩ := sameFile_of_any hheld
    obtain ⟨linkedFile, rfl, hlinkedSafe, hlinkedIdentity⟩ := sameFile_of_any hlinked
    -- every check passed, in the order they were made
    have hchecks : Rechecked m euid entry (⟨.cancelled, cancelled⟩ :: ⟨.expired, expired⟩ ::
        (bindings ++ [⟨.openAt entry.name, opened⟩, ⟨.metadata entry.name, some heldFile⟩,
          ⟨.entryMetadata entry.name, some linkedFile⟩, ⟨.cancelled, again⟩])) := by
      refine ⟨bindings, heldFile, linkedFile, ?_, hbindings (by simpa using hbound), hheldSafe,
        hheldIdentity, hlinkedSafe, hlinkedIdentity⟩
      rw [show cancelled = false by simpa using hcancelled,
        show expired = false by simpa using hexpired, show opened = true by simpa using hopened,
        show again = false by simpa using hagain]
    rcases runs_stop hrest with ⟨hfailed, rfl, rfl⟩ | ⟨hdone, hrest⟩
    · refine ⟨_, rfl, ?_⟩
      rw [show removed = false by simpa using hfailed]
      have hunknown : Removal m euid (entry :: entries) count bytes _
          (.unsuccessful .deliveryUnknown) := Removal.unknown hchecks
      simpa using hunknown
    · obtain ⟨r, rfl, hremoval⟩ := ih hrest
      refine ⟨r, rfl, ?_⟩
      rw [show removed = true by simpa using hdone]
      simpa using Removal.removed hchecks hremoval

/-! ## What the loop has done -/

/-- An unlink behind calls that are none. -/
theorem split_after {xs ys pre post : Trace Answer} {e : Event Answer}
    (hx : ∀ x ∈ xs, ¬ IsUnlink x.call) (he : IsUnlink e.call) (h : xs ++ ys = pre ++ e :: post) :
    ∃ rest, pre = xs ++ rest ∧ ys = rest ++ e :: post := by
  rcases List.append_eq_append_iff.mp h with ⟨rest, hpre, hys⟩ | ⟨rest, hxs, hrest⟩
  · exact ⟨rest, hpre, hys⟩
  · cases rest with
    | nil =>
      rw [List.nil_append] at hrest
      rw [List.append_nil] at hxs
      exact ⟨[], by simp [hxs], hrest.symm⟩
    | cons x rest =>
      obtain ⟨rfl, -⟩ := List.cons.inj hrest
      exact absurd he (hx e (by simp [hxs]))

variable {r : NativeCacheResult}

theorem unlinked_checks {checks : Trace Answer} {answer : Bool} (h : Rechecked m euid entry checks)
    (es : Trace Answer) :
    unlinked (checks ++ ⟨.unlink entry.name, answer⟩ :: es) = entry.name :: unlinked es := by
  rw [unlinked_append, unlinked_eq_nil h.noUnlink]
  rfl

/-- Entries are unlinked in the order of the plan, each once. -/
theorem Removal.inOrder (h : Removal m euid entries count bytes es r) :
    unlinked es <+: entries.map CacheEntry.name := by
  induction h with
  | done => exact List.nil_prefix
  | stopped hes =>
    rw [unlinked_eq_nil hes]
    exact List.nil_prefix
  | unknown hchecks =>
    rw [unlinked_checks hchecks]
    exact List.prefix_append [_] _
  | removed hchecks _ ih =>
    rw [unlinked_checks hchecks, List.map_cons, List.cons_prefix_cons]
    exact ⟨rfl, ih⟩

/-- Each is compared right before, and counted by those before it. -/
theorem Removal.rechecked (h : Removal m euid entries count bytes es r) {pre post : Trace Answer}
    {name : List UInt8} {answer : Bool} (hsplit : es = pre ++ ⟨.unlink name, answer⟩ :: post) :
    ∃ entry start checks, entries[(unlinked pre).length]? = some entry ∧ entry.name = name ∧
      pre = start ++ checks ∧ Rechecked m euid entry checks := by
  induction h generalizing pre with
  | done => simp at hsplit
  | stopped hes => exact absurd trivial (hes ⟨.unlink name, answer⟩ (by simp [hsplit]))
  | unknown hchecks =>
    obtain ⟨rest, rfl, hrest⟩ := split_after (e := ⟨.unlink name, answer⟩) hchecks.noUnlink trivial
      hsplit
    cases rest with
    | cons e rest => simp at hrest
    | nil =>
      obtain ⟨hevent, -⟩ := List.cons.inj hrest
      cases hevent
      refine ⟨_, [], _, ?_, rfl, rfl, by simpa using hchecks⟩
      simp [unlinked_eq_nil hchecks.noUnlink]
  | @removed entry entries count bytes checks es r hchecks hrest ih =>
    obtain ⟨rest, rfl, htail⟩ := split_after (e := ⟨.unlink name, answer⟩) hchecks.noUnlink trivial
      hsplit
    cases rest with
    | nil =>
      obtain ⟨hevent, -⟩ := List.cons.inj htail
      cases hevent
      refine ⟨_, [], _, ?_, rfl, rfl, by simpa using hchecks⟩
      simp [unlinked_eq_nil hchecks.noUnlink]
    | cons e rest =>
      obtain ⟨rfl, hes⟩ := List.cons.inj htail
      obtain ⟨other, start, checks', hother, hname, rfl, hchecks'⟩ := ih hes
      refine ⟨other, checks ++ ⟨.unlink entry.name, true⟩ :: start, checks', ?_, hname, by simp,
        hchecks'⟩
      rw [unlinked_checks hchecks]
      simpa using hother

/-- The name an event has removed. -/
def removedName : Event Answer → Option (List UInt8)
  | ⟨.unlink name, true⟩ => some name
  | _ => none

/-- The names whose unlink succeeded, in order. -/
def removedNames (t : Trace Answer) : List (List UInt8) := t.filterMap removedName

theorem removedNames_eq_nil {t : Trace Answer} (h : ∀ e ∈ t, ¬ IsUnlink e.call) :
    removedNames t = [] := by
  refine List.filterMap_eq_nil_iff.mpr fun e he => ?_
  obtain ⟨c, answer⟩ := e
  cases c with
  | unlink name => exact absurd trivial (h _ he)
  | _ => rfl

/-- What the outcome says was done. -/
theorem Removal.honest (h : Removal m euid entries count bytes es r) :
    r.outcome ≠ .busy ∧
      (r.outcome = .completed → removedNames es = entries.map CacheEntry.name ∧
        r.removedEntryCount = some (count + entries.length) ∧
        r.removedLogicalBytes
          = some (bytes + (entries.map fun entry => entry.identity.length).sum)) ∧
      (r.outcome ≠ .completed → r.removedEntryCount = none ∧ r.removedLogicalBytes = none) := by
  induction h with
  | done => exact ⟨nofun, fun _ => ⟨rfl, rfl, rfl⟩, fun h => absurd rfl h⟩
  | stopped _ => exact ⟨nofun, nofun, fun _ => ⟨rfl, rfl⟩⟩
  | unknown _ => exact ⟨nofun, nofun, fun _ => ⟨rfl, rfl⟩⟩
  | @removed entry entries count bytes checks es r hchecks _ ih =>
    obtain ⟨hbusy, hcompleted, hother⟩ := ih
    refine ⟨hbusy, fun hr => ?_, hother⟩
    obtain ⟨hnames, hcount, hbytes⟩ := hcompleted hr
    refine ⟨?_, ?_, ?_⟩
    · have hnone := removedNames_eq_nil hchecks.noUnlink
      unfold removedNames at hnone hnames ⊢
      rw [List.filterMap_append, hnone, List.nil_append, List.map_cons, ← hnames]
      rfl
    · rw [hcount, List.length_cons]
      congr 1
      omega
    · rw [hbytes, List.map_cons, List.sum_cons]
      congr 1
      omega

/-! ## The whole removal -/

/-- A rescan that is not told from the plan is the plan. -/
theorem eq_of_same {listed entries : List CacheEntry}
    (h : ¬ (listed.length ≠ entries.length ∨ (listed.zip entries).any (fun pair =>
      pair.1.name != pair.2.name || pair.1.identity != pair.2.identity) = true)) :
    listed = entries := by
  push Not at h
  obtain ⟨hlen, hsame⟩ := h
  induction listed generalizing entries with
  | nil => exact (List.length_eq_zero_iff.mp hlen.symm).symm
  | cons a listed ih =>
    obtain _ | ⟨b, entries⟩ := entries
    · simp at hlen
    · simp only [List.zip_cons_cons, List.any_cons, Bool.or_eq_false_iff, bne_eq_false_iff_eq,
        Bool.not_eq_true] at hsame
      obtain ⟨⟨hname, hidentity⟩, htail⟩ := hsame
      rw [ih (by simpa using hlen) (by simpa using htail)]
      obtain ⟨aname, aidentity⟩ := a
      obtain ⟨bname, bidentity⟩ := b
      subst hname hidentity
      rfl

/-- The runs of the scan within a removal. -/
theorem runs_rescan {r : Except NodeScanError (List CacheEntry)}
    (h : Runs (perform euid rounds m .scanEntries) es (.ok r)) :
    (∀ e ∈ es, ¬ IsUnlink e.call) ∧
      ∀ entries, r = .ok entries → Runs (scanEntries euid rounds) es (.ok entries) := by
  obtain ⟨v, xs, ys, rfl, hscan, hend⟩ := runs_bind_ok.mp h
  obtain ⟨v', hv, hrun⟩ := runs_attempt.mp hscan
  obtain rfl := Except.ok.inj hv
  have hquiet := only_scanEntries.runs hrun
  cases v with
  | ok entries =>
    obtain ⟨rfl, ho⟩ := runs_pure.mp hend
    rw [List.append_nil]
    refine ⟨hquiet, fun entries' hentries => ?_⟩
    obtain rfl := Except.ok.inj ho
    obtain rfl := Except.ok.inj hentries
    exact hrun
  | error e =>
    cases e with
    | failed error =>
      obtain ⟨rfl, ho⟩ := runs_pure.mp hend
      obtain rfl := Except.ok.inj ho
      rw [List.append_nil]
      exact ⟨hquiet, nofun⟩
    | unfinished =>
      obtain ⟨-, ho⟩ := runs_throw.mp hend
      cases ho

theorem only_rescan : (perform euid rounds m .scanEntries).Only (¬ IsUnlink ·) := by
  refine Prog.Only.bind only_scanEntries.attempt fun v => ?_
  rcases v with ⟨error⟩ | entries
  · cases error <;> exact trivial
  · exact trivial

/-- What a removal can come to before the loop: an end without counts. -/
def EndsEarly : Except Unfinished (Except Empty NativeCacheResult) → Prop
  | .ok (.ok r) => r = .unsuccessful .failed ∨ r = .unsuccessful .busy
  | _ => True

/-- **A removal**: it ends early and removes nothing, or it found the plan
in a full rescan and went through it. -/
theorem runs_handle_removeFiles {o : Except Unfinished (Except Empty NativeCacheResult)}
    (h : Runs ((Unlinger.removeFiles m.entries).handle (perform euid rounds m)) es o) :
    EndsEarly o ∧ (∀ e ∈ es, ¬ IsUnlink e.call) ∨
      ∃ before scan after r, es = before ++ scan ++ after ∧ o = .ok (.ok r) ∧
        (∀ e ∈ before, ¬ IsUnlink e.call) ∧
        Runs (scanEntries euid rounds) scan (.ok m.entries) ∧
        Removal m euid m.entries 0 0 after r := by
  unfold Unlinger.removeFiles at h
  replace h := runs_ask.mp h
  obtain ⟨(cancelled : Bool), es, rfl, h⟩ := h
  rcases runs_stop h with ⟨-, rfl, rfl⟩ | ⟨-, hbind⟩
  · exact Or.inl ⟨Or.inl rfl, by simp [IsUnlink]⟩
  rcases runs_bind.mp hbind with ⟨(current : Bool), bindings, es, rfl, hcurrent, hgo⟩ | ⟨e, -, hbad⟩
  swap
  · obtain ⟨b, ho, -⟩ := runs_bindingsCurrent hbad
    cases ho
  have hquiet := only_bindingsCurrent.runs hcurrent
  rcases runs_stop hgo with ⟨-, rfl, rfl⟩ | ⟨-, hscan⟩
  · exact Or.inl ⟨Or.inl rfl, by simpa [IsUnlink] using hquiet⟩
  rcases runs_bind.mp hscan with ⟨scanned, scan, es, rfl, hrescan, hloop⟩ | ⟨e, rfl, hbad⟩
  swap
  · refine Or.inl ⟨trivial, ?_⟩
    have hrest := only_rescan.runs hbad
    simpa [IsUnlink, or_imp, forall_and] using And.intro hquiet hrest
  obtain ⟨hscanQuiet, hscanned⟩ := runs_rescan hrescan
  have hbefore : ∀ e ∈ ⟨.cancelled, cancelled⟩ :: bindings, ¬ IsUnlink e.call := by
    simpa [IsUnlink] using hquiet
  have hall : ∀ e ∈ ⟨.cancelled, cancelled⟩ :: (bindings ++ (scan ++ [])), ¬ IsUnlink e.call := by
    simpa [IsUnlink, or_imp, forall_and] using And.intro hquiet hscanQuiet
  rcases scanned with error | listed
  · cases error with
    | busy =>
      obtain ⟨rfl, rfl⟩ := runs_pure.mp hloop
      exact Or.inl ⟨Or.inr rfl, hall⟩
    | unsafeShape =>
      obtain ⟨rfl, rfl⟩ := runs_pure.mp hloop
      exact Or.inl ⟨Or.inl rfl, hall⟩
    | io =>
      obtain ⟨rfl, rfl⟩ := runs_pure.mp hloop
      exact Or.inl ⟨Or.inl rfl, hall⟩
  · rcases runs_stop hloop with ⟨-, rfl, rfl⟩ | ⟨hsame, hloop⟩
    · exact Or.inl ⟨Or.inr rfl, hall⟩
    · have hlisted := eq_of_same hsame
      obtain ⟨r, rfl, hremoval⟩ := runs_removeEach hloop
      refine Or.inr ⟨_, scan, es, r, ?_, rfl, hbefore, hscanned m.entries (by rw [hlisted]), hremoval⟩
      simp

/-- A plan was frozen by a full scan. -/
theorem runs_openPlan {binding : ProducerBinding}
    (h : Runs (openPlan euid rounds binding) es (.ok m)) :
    ∃ before scan after, es = before ++ scan ++ after ∧
      Runs (scanEntries euid rounds) scan (.ok m.entries) := by
  obtain ⟨temp, xs, es, rfl, -, h⟩ := runs_bind_ok.mp h
  obtain ⟨root, ys, es, rfl, -, h⟩ := runs_bind_ok.mp h
  obtain ⟨bucket, zs, es, rfl, -, h⟩ := runs_bind_ok.mp h
  obtain ⟨v, scan, es, rfl, hscan, h⟩ := runs_bind_ok.mp h
  obtain ⟨v', hv, hrun⟩ := runs_attempt.mp hscan
  obtain rfl := Except.ok.inj hv
  rcases v with ⟨error⟩ | entries
  · cases error with
    | failed error =>
      obtain ⟨-, ho⟩ := runs_throw.mp h
      cases ho
    | unfinished =>
      obtain ⟨-, ho⟩ := runs_throw.mp h
      cases ho
  · obtain ⟨current, bindings, rest, rfl, -, h⟩ := runs_bind_ok.mp h
    cases current with
    | false =>
      obtain ⟨-, ho⟩ := runs_throw.mp h
      cases ho
    | true =>
      obtain ⟨rfl, ho⟩ := runs_pure.mp h
      obtain rfl := Except.ok.inj ho
      exact ⟨xs ++ ys ++ zs, scan, bindings, by simp, hrun⟩

/-- The run of a removal is that of `remove_files` over these calls. -/
theorem runs_removeFiles {o : Except Unfinished NativeCacheResult}
    (h : Runs (removeFiles euid rounds m) es o) :
    (∀ r, o = .ok r → r = .unsuccessful .failed ∨ r = .unsuccessful .busy) ∧
        (∀ e ∈ es, ¬ IsUnlink e.call) ∨
      ∃ before scan after r, es = before ++ scan ++ after ∧ o = .ok r ∧
        (∀ e ∈ before, ¬ IsUnlink e.call) ∧
        Runs (scanEntries euid rounds) scan (.ok m.entries) ∧
        Removal m euid m.entries 0 0 after r := by
  rcases runs_bind.mp h with ⟨v, xs, ys, rfl, hrun, hend⟩ | ⟨e, rfl, hrun⟩
  · rcases v with ⟨⟨⟩⟩ | r
    obtain ⟨rfl, rfl⟩ := runs_pure.mp hend
    rw [List.append_nil]
    rcases runs_handle_removeFiles hrun with ⟨hearly, hquiet⟩ | hremoval
    · refine Or.inl ⟨fun r' hr => ?_, hquiet⟩
      obtain rfl := Except.ok.inj hr
      exact hearly
    · obtain ⟨before, scan, after, r', rfl, ho, hremoval⟩ := hremoval
      obtain rfl := Except.ok.inj (Except.ok.inj ho)
      exact Or.inr ⟨before, scan, after, r, rfl, rfl, hremoval⟩
  · rcases runs_handle_removeFiles hrun with ⟨-, hquiet⟩ | hremoval
    · exact Or.inl ⟨nofun, hquiet⟩
    · obtain ⟨_, _, _, _, _, ho, _⟩ := hremoval
      cases ho

/-- A final name is no temporary one. -/
theorem temporaryName_of_hexName {name : List UInt8} (h : hexName name = true) :
    temporaryName name = false := by
  simp only [hexName, Bool.and_eq_true, beq_iff_eq] at h
  simp [temporaryName, h.1]

/-- **Node cache removal is exact and its outcomes are honest.** Whatever
the directory, the clock and the caller answer to the planning run and to
the removal: what is unlinked is the plan in its order, each file right
after the checks that found it the frozen one, behind a full rescan that
returned exactly the plan; and the outcome says what was done. -/
theorem removeFiles_exact {binding : ProducerBinding} {planRounds : Nat} {plan : Trace Answer}
    {o : Except Unfinished NativeCacheResult}
    (hplan : Runs (openPlan euid planRounds binding) plan (.ok m))
    (hrun : Runs (removeFiles euid rounds m) es o) :
    (∀ entry ∈ m.entries, hexName entry.name = true ∧
      Nonempty (Validated euid planRounds entry plan)) ∧
    unlinked es <+: m.entries.map CacheEntry.name ∧
    (∀ pre name answer post, es = pre ++ ⟨.unlink name, answer⟩ :: post →
      temporaryName name = false ∧
      (∃ entry start checks, m.entries[(unlinked pre).length]? = some entry ∧ entry.name = name ∧
        pre = start ++ checks ∧ Rechecked m euid entry checks) ∧
      ∃ before scan after, pre = before ++ scan ++ after ∧ unlinked (before ++ scan) = [] ∧
        Runs (scanEntries euid rounds) scan (.ok m.entries) ∧
        ∀ entry ∈ m.entries, Nonempty (Validated euid rounds entry scan)) ∧
    ∀ r, o = .ok r →
      (r.outcome = .busy → unlinked es = []) ∧
      (r.outcome = .completed →
        removedNames es = m.entries.map CacheEntry.name ∧
        r.removedEntryCount = some m.entries.length ∧
        r.removedLogicalBytes = some (m.entries.map fun entry => entry.identity.length).sum ∧
        m.entries.length < 2 ^ 64 ∧
        (m.entries.map fun entry => entry.identity.length).sum < 2 ^ 64) ∧
      (r.outcome ≠ .completed → r.removedEntryCount = none ∧ r.removedLogicalBytes = none) := by
  obtain ⟨before, scan, after, rfl, hscan⟩ := runs_openPlan hplan
  obtain ⟨hlisted, hcount, hsum⟩ := runs_scanEntries hscan
  have hplanned : ∀ entry ∈ m.entries, hexName entry.name = true ∧
      Nonempty (Validated euid planRounds entry (before ++ scan ++ after)) := by
    intro entry hentry
    obtain ⟨hhex, ⟨hvalid⟩⟩ := hlisted entry hentry
    exact ⟨hhex, ⟨hvalid.extend before after⟩⟩
  refine ⟨hplanned, ?_⟩
  -- an early end unlinks nothing; else there was a whole rescan that found the plan
  rcases runs_removeFiles hrun with ⟨hearly, hquiet⟩ | ⟨head, rescan, tail, r, rfl, rfl, hhead,
    hrescan, hremoval⟩
  · rw [unlinked_eq_nil hquiet]
    refine ⟨List.nil_prefix, ?_, fun r hr => ?_⟩
    · rintro pre name answer post rfl
      exact absurd trivial (hquiet ⟨.unlink name, answer⟩ (by simp))
    · rcases hearly r hr with rfl | rfl
      · exact ⟨fun _ => rfl, nofun, fun _ => ⟨rfl, rfl⟩⟩
      · exact ⟨fun _ => rfl, nofun, fun _ => ⟨rfl, rfl⟩⟩
  · have hquiet : ∀ e ∈ head ++ rescan, ¬ IsUnlink e.call := by
      intro e he
      rcases List.mem_append.mp he with he | he
      · exact hhead e he
      · exact only_scanEntries.runs hrescan e he
    -- behind the rescan the loop's own record says what was unlinked and checked
    have hvalidated := (runs_scanEntries hrescan).1
    obtain ⟨hbusy, hcompleted, hother⟩ := hremoval.honest
    refine ⟨?_, ?_, fun r' hr => ?_⟩
    · rw [unlinked_append, unlinked_eq_nil hquiet]
      exact hremoval.inOrder
    · intro pre name answer post hsplit
      obtain ⟨rest, rfl, htail⟩ := split_after (e := ⟨.unlink name, answer⟩) hquiet trivial hsplit
      obtain ⟨entry, start, checks, hentry, rfl, rfl, hchecks⟩ := hremoval.rechecked htail
      have hmem : entry ∈ m.entries := List.mem_of_getElem? hentry
      refine ⟨temporaryName_of_hexName (hplanned entry hmem).1, ⟨entry, head ++ rescan ++ start,
        checks, ?_, rfl, by simp, hchecks⟩, head, rescan, _, rfl, unlinked_eq_nil hquiet, hrescan,
        fun other hmem => (hvalidated other hmem).2⟩
      rw [unlinked_append, unlinked_eq_nil hquiet]
      exact hentry
    · obtain rfl := Except.ok.inj hr
      refine ⟨fun h => absurd h hbusy, fun h => ?_, hother⟩
      obtain ⟨hnames, hremoved, hbytes⟩ := hcompleted h
      refine ⟨?_, by simpa using hremoved, by simpa using hbytes, ?_, ?_⟩
      · have hnone := removedNames_eq_nil hquiet
        unfold removedNames at hnone hnames ⊢
        rw [List.filterMap_append, hnone, List.nil_append, hnames]
      · unfold maxEntries at hcount
        omega
      · unfold maxScanBytes at hsum
        omega

/-! ## A bucket that is written to -/

/-- Metadata of something of the user's own. -/
def sampleMetadata (isFile : Bool) (inode length : Nat) : Metadata where
  isFile := isFile
  isDir := !isFile
  uid := 501
  nlink := 1
  mode := 0o600
  identity := ⟨1, inode, length, (7, 0), (7, 0)⟩

/-- The names of two files without a payload. -/
def firstName : List UInt8 := [48, 49, 50, 51, 97, 98, 99, 100]

def secondName : List UInt8 := [52, 53, 54, 55, 97, 98, 99, 100]

/-- What is said of one of them, which may have been written to. -/
def entryMetadata (name : List UInt8) (written : Bool) : Metadata :=
  let file := sampleMetadata true (if name = firstName then 4 else 5) 20
  if written then { file with identity := { file.identity with modified := (8, 0) } } else file

/-- Somebody writes to the second file when the first was unlinked. -/
def writtenBy (t : Trace Answer) (name : List UInt8) : Bool :=
  name == secondName && !(unlinked t).isEmpty

/-- A bucket of these files. -/
def writtenBucket (t : Trace Answer) : (c : Call) → Answer c
  | .cancelled => false
  | .expired => false
  | .producer => some (sampleMetadata true 2 4096)
  | .openDirectory _ => Opening.opened
  | .directoryMetadata _ => some (sampleMetadata false 3 64)
  | .pathMetadata _ => some (sampleMetadata false 3 64)
  | .directoryNames => some [secondName, firstName]
  | .openAt _ => true
  | .metadata name => some (entryMetadata name (writtenBy t name))
  | .entryMetadata name => some (entryMetadata name (writtenBy t name))
  | .read size =>
      if h : size = 20 then
        .bytes [0xb2, 0xdb, 0xdf, 0x8a, 0, 0, 0, 0, 0, 0, 0, 0, 0, 0, 0, 0, 0, 0, 0, 0] (by simp [h])
      else .bytes [] (Nat.zero_le _)
  | .unlink _ => true

/-- What its producer is bound by. -/
def sampleBinding : ProducerBinding := ⟨1, 2, 4096, (7, 0)⟩

/-- The plan it gives. -/
def samplePlan : NodeCompileCacheMaintenance where
  binding := sampleBinding
  tempIdentity := ⟨1, 3, 64, (7, 0), (7, 0)⟩
  rootIdentity := ⟨1, 3, 64, (7, 0), (7, 0)⟩
  bucketIdentity := ⟨1, 3, 64, (7, 0), (7, 0)⟩
  entries := [⟨firstName, (entryMetadata firstName false).identity⟩,
    ⟨secondName, (entryMetadata secondName false).identity⟩]

/-- The removal of two files. -/
def writtenRun : Trace Answer × Except Unfinished NativeCacheResult :=
  (removeFiles 501 30 samplePlan).runWith writtenBucket []

/-- The first file is removed, the second was written to and stays, and
nothing is counted. -/
theorem removeFiles_exact_written :
    Runs (removeFiles 501 30 samplePlan) writtenRun.1 (.ok ⟨.failed, none, none⟩) ∧
      unlinked writtenRun.1 = [firstName] ∧
      unlinked writtenRun.1 <+: samplePlan.entries.map CacheEntry.name ∧
      ∀ pre name answer post, writtenRun.1 = pre ++ ⟨.unlink name, answer⟩ :: post →
        ∃ entry start checks, samplePlan.entries[(unlinked pre).length]? = some entry ∧
          entry.name = name ∧ pre = start ++ checks ∧ Rechecked samplePlan 501 entry checks := by
  have hplan : Runs (openPlan 501 30 sampleBinding)
      ((openPlan 501 30 sampleBinding).runWith writtenBucket []).1 (.ok samplePlan) :=
    runs_of_runWith rfl
  have hrun : Runs (removeFiles 501 30 samplePlan) writtenRun.1 (.ok ⟨.failed, none, none⟩) :=
    runs_of_runWith rfl
  obtain ⟨-, horder, hunlinks, -⟩ := removeFiles_exact hplan hrun
  refine ⟨hrun, by decide +kernel, horder, fun pre name answer post hpre => ?_⟩
  obtain ⟨-, hchecked, -⟩ := hunlinks pre name answer post hpre
  exact hchecked

end NodeCompileCache

end Unlinger
