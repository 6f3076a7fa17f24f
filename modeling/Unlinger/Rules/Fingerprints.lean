import Unlinger.Core.Helpers.Fingerprint
import Unlinger.Rules.Revalidation

/-!
# What equal fingerprints mean

The three fingerprints of a report are taken of its members, of its root
and of its session's rows. Where no two streams share a hash, equal
fingerprints mean equal members, equal roots and equal rows. The rows are
the profiles in lower case and in order; a session without a profile has
its root for a row, which the text of a profile can spell.
-/

namespace Unlinger

namespace Session

variable (s : Session)

/-- The identities of its members. -/
def identities : List ProcessIdentity := s.members.map ProcessRecord.identity

/-- What the fingerprint of the members is taken of. -/
def memberStream : List UInt8 := fingerprintStream (processSetRows s.identities)

/-- What the fingerprint of the root is taken of. -/
def rootStream : List UInt8 := fingerprintStream [Text.bytes (identityRow s.root.identity)]

/-- What the fingerprint of the session is taken of. -/
def rowStream : List UInt8 := fingerprintStream (s.rows.map Text.bytes)

/-- The profiles its browsers name, in lower case. -/
def profileRows : List String := s.profilePaths.map normalize

/-- The row of a session whose browsers name no profile. -/
def fallbackRow : String := s.pack.id ++ ":" ++ fingerprintProcessIdentity s.root.identity

/-- Every executable of the session is known. -/
structure Known : Prop where
  root : s.root.identity.Known
  members : ∀ i ∈ s.identities, i.Known

/-- Two sessions whose streams do not share a hash by accident. -/
structure Apart (t : Session) : Prop where
  members : NoCollision s.memberStream t.memberStream
  root : NoCollision s.rootStream t.rootStream
  rows : NoCollision s.rowStream t.rowStream

variable {s}

theorem rows_eq : s.rows = if s.profilePaths = [] then [s.fallbackRow]
    else s.profileRows.insertionSort (· ≤ ·) := by
  unfold rows
  by_cases hnil : s.profilePaths = []
  · rw [if_pos hnil, hnil]
    rfl
  · rw [if_neg hnil]
    split
    · rename_i hsorted
      have hlen := congrArg List.length hsorted
      rw [List.length_insertionSort] at hlen
      exact absurd (List.map_eq_nil_iff.mp (List.length_eq_zero_iff.mp hlen)) hnil
    · rfl

/-- Equal rows: equal profiles, or the root's row spelled by a profile. -/
theorem profileRows_of_rows {t : Session} (h : s.rows = t.rows) :
    s.profileRows.Perm t.profileRows ∨
      s.profileRows = [] ∧ t.profileRows = [s.fallbackRow] ∨
      t.profileRows = [] ∧ s.profileRows = [t.fallbackRow] := by
  have hone : ∀ {rows : List String} {row : String},
      rows.insertionSort (· ≤ ·) = [row] → rows = [row] := by
    intro rows row hsorted
    have hperm := (List.perm_insertionSort (· ≤ ·) rows).symm
    rw [hsorted] at hperm
    exact List.perm_singleton.mp hperm
  rw [rows_eq, rows_eq] at h
  by_cases hs : s.profilePaths = [] <;> by_cases ht : t.profilePaths = []
  · left
    rw [profileRows, profileRows, hs, ht]
  · rw [if_pos hs, if_neg ht] at h
    exact Or.inr (Or.inl ⟨by rw [profileRows, hs]; rfl, hone h.symm⟩)
  · rw [if_neg hs, if_pos ht] at h
    exact Or.inr (Or.inr ⟨by rw [profileRows, ht]; rfl, hone h⟩)
  · rw [if_neg hs, if_neg ht] at h
    exact Or.inl (insertionSort_eq_iff.mp h)

/-- The members of a session are those of its candidate. -/
theorem identities_of {g : ProcessGraph} {c : Candidate} (h : Session.of g c = some s) :
    s.identities = (s.candidate.memberPids.filterMap s.graph.get).map ProcessRecord.identity := by
  obtain ⟨root, -, rfl⟩ := Option.map_eq_some_iff.mp h
  rfl

theorem report_memberFingerprint {g : ProcessGraph} {c : Candidate} {a : Analyzer} {n : Nat}
    (h : Session.of g c = some s) :
    (a.report s n).memberFingerprint = fingerprintParts (processSetRows s.identities) := by
  rw [identities_of h]
  rfl

theorem report_identityFingerprint {a : Analyzer} {n : Nat} :
    (a.report s n).root.identityFingerprint
      = fingerprintParts [Text.bytes (identityRow s.root.identity)] := rfl

/-- Equal session fingerprints are equal hashes of the rows. -/
theorem fnvHash_of_fingerprint {t : Session} (h : s.fingerprint = t.fingerprint) :
    fnvHash s.rowStream = fnvHash t.rowStream := by
  apply fnvHash_of_fingerprintParts
  have hlist := congrArg String.toList h
  simp only [Session.fingerprint, String.toList_append, List.append_cancel_left_eq,
    String.toList_inj] at hlist
  exact hlist

end Session

/-- The reports of two sessions carry the same fingerprints. -/
structure SamePrints (r q : IncidentReport) : Prop where
  members : r.memberFingerprint = q.memberFingerprint
  root : r.root.identityFingerprint = q.root.identityFingerprint
  session : r.sessionFingerprint = q.sessionFingerprint

/-- **Fingerprint pre-images are canonical and injective.** The stream of
a set of identities tells the set, the stream of a list of texts tells the
list; so reports with equal fingerprints, whose streams do not collide,
have the same members and the same root, and the same profiles up to
spelling and order unless one session has none and the other's single
profile spells the row the first has in its place. -/
theorem fingerprints_canonical :
    (∀ is js : List ProcessIdentity, (∀ i ∈ is, i.Known) → (∀ j ∈ js, j.Known) →
      (fingerprintStream (processSetRows is) = fingerprintStream (processSetRows js)
        ↔ is.Perm js)) ∧
    (∀ ss ts : List String,
      fingerprintStream (ss.map Text.bytes) = fingerprintStream (ts.map Text.bytes) ↔ ss = ts) ∧
    ∀ (a b : Analyzer) (g h : ProcessGraph) (c d : Candidate) (s t : Session) (m n : Nat),
      Session.of g c = some s → Session.of h d = some t → s.Known → t.Known → s.Apart t →
      SamePrints (a.report s m) (b.report t n) →
      s.identities.Perm t.identities ∧ s.root.identity = t.root.identity ∧ s.rows = t.rows ∧
        (s.profileRows.Perm t.profileRows ∨
          s.profileRows = [] ∧ t.profileRows = [s.fallbackRow] ∨
          t.profileRows = [] ∧ s.profileRows = [t.fallbackRow]) := by
  refine ⟨fun is js => processSetStream_inj, fun ss ts => fingerprintStream_inj, ?_⟩
  intro a b g h c d s t m n hs ht hsknown htknown hapart hsame
  have hmembers : s.identities.Perm t.identities := by
    have hprints := hsame.members
    rw [Session.report_memberFingerprint hs, Session.report_memberFingerprint ht] at hprints
    exact (processSetStream_inj hsknown.members htknown.members).mp
      (hapart.members (fnvHash_of_fingerprintParts hprints))
  have hroot : s.root.identity = t.root.identity := by
    have hstream := hapart.root (fnvHash_of_fingerprintParts hsame.root)
    have hrow : [identityRow s.root.identity] = [identityRow t.root.identity] :=
      fingerprintStream_inj.mp hstream
    exact identityRow_inj hsknown.root htknown.root (List.singleton_inj.mp hrow)
  have hrows : s.rows = t.rows :=
    fingerprintStream_inj.mp (hapart.rows (Session.fnvHash_of_fingerprint hsame.session))
  exact ⟨hmembers, hroot, hrows, Session.profileRows_of_rows hrows⟩

/-! ## A profile that spells a root -/

/-- A stray browser that names this profile, or none. -/
def markedBrowser (profile : List String) : ProcessRecord :=
  sampleBrowser 101 1 ("--enable-features=playwright" :: profile)

/-- The profile spells the row of the session without one. -/
def spellingProfile : List String := ["--user-data-dir=playwright:0e6278884a05ffd6"]

/-- What the two sessions have in common, and what they do not. -/
def sharesRow (profile : List String) (s : Session) : Bool :=
  s.rows == ["playwright:0e6278884a05ffd6"] && s.profileRows == profile
    && s.identities == [sampleIdentity 101] && s.root.identity == sampleIdentity 101

/-- Sessions that share it have the same fingerprints, of the same
streams. -/
theorem samePrints_of_sharesRow {a b : Analyzer} {g h : ProcessGraph} {s t : Session}
    {m n : Nat} {profile profile' : List String} (hs : s ∈ a.sessions g) (ht : t ∈ b.sessions h)
    (hsrow : sharesRow profile s = true) (htrow : sharesRow profile' t = true) :
    s.Known ∧ t.Known ∧ s.Apart t ∧ SamePrints (a.report s m) (b.report t n) := by
  simp only [sharesRow, Bool.and_eq_true, beq_iff_eq] at hsrow htrow
  obtain ⟨⟨⟨hsrows, -⟩, hsmembers⟩, hsroot⟩ := hsrow
  obtain ⟨⟨⟨htrows, -⟩, htmembers⟩, htroot⟩ := htrow
  have hknown : ∀ u : Session, u.identities = [sampleIdentity 101] →
      u.root.identity = sampleIdentity 101 → u.Known := by
    intro u hmembers hroot
    have hsample : (sampleIdentity 101).Known := ⟨rfl, rfl⟩
    refine ⟨hroot ▸ hsample, fun i hi => ?_⟩
    rw [hmembers, List.mem_singleton] at hi
    exact hi ▸ hsample
  have hapart : s.Apart t := by
    refine ⟨fun _ => ?_, fun _ => ?_, fun _ => ?_⟩
    · rw [Session.memberStream, Session.memberStream, hsmembers, htmembers]
    · rw [Session.rootStream, Session.rootStream, hsroot, htroot]
    · rw [Session.rowStream, Session.rowStream, hsrows, htrows]
  obtain ⟨c, -, hc⟩ := List.mem_filterMap.mp hs
  obtain ⟨d, -, hd⟩ := List.mem_filterMap.mp ht
  refine ⟨hknown s hsmembers hsroot, hknown t htmembers htroot, hapart, ?_, ?_, ?_⟩
  · rw [Session.report_memberFingerprint hc, Session.report_memberFingerprint hd, hsmembers,
      htmembers]
  · rw [Session.report_identityFingerprint, Session.report_identityFingerprint, hsroot, htroot]
  · show s.fingerprint = t.fingerprint
    rw [Session.fingerprint, Session.fingerprint, hsrows, htrows]

/-- The session of the one browser, as the analyzer finds it. -/
theorem exists_sharesRow :
    (∃ g, ProcessGraph.fromSnapshot (sampleSnapshot [markedBrowser []]) = .ok g ∧
      ∃ s ∈ embeddedAnalyzer.sessions g, sharesRow [] s = true) ∧
    ∃ g, ProcessGraph.fromSnapshot (sampleSnapshot [markedBrowser spellingProfile]) = .ok g ∧
      ∃ s ∈ embeddedAnalyzer.sessions g,
        sharesRow ["playwright:0e6278884a05ffd6"] s = true := by
  have hread : ∀ (x : Snapshot) (profile : List String),
      ((ProcessGraph.fromSnapshot x).toOption.any fun g =>
        (embeddedAnalyzer.sessions g).any (sharesRow profile)) = true →
      ∃ g, ProcessGraph.fromSnapshot x = .ok g ∧
        ∃ s ∈ embeddedAnalyzer.sessions g, sharesRow profile s = true := by
    intro x profile hany
    cases hx : ProcessGraph.fromSnapshot x with
    | error e => simp [hx, Except.toOption] at hany
    | ok g =>
      simp only [hx, Except.toOption, Option.any_some, List.any_eq_true] at hany
      exact ⟨g, rfl, hany⟩
  exact ⟨hread _ _ (by decide +kernel), hread _ _ (by decide +kernel)⟩

/-- **Equal fingerprints, other profiles**: a browser without a profile
and the same browser on a profile named like its root's row. -/
theorem profiles_not_told :
    ¬ ∀ (a b : Analyzer) (x y : Snapshot) (g h : ProcessGraph) (s t : Session) (m n : Nat),
      ProcessGraph.fromSnapshot x = .ok g → ProcessGraph.fromSnapshot y = .ok h →
      s ∈ a.sessions g → t ∈ b.sessions h → s.Known → t.Known → s.Apart t →
      SamePrints (a.report s m) (b.report t n) →
      s.identities.Perm t.identities ∧ s.root.identity = t.root.identity ∧
        s.profileRows.Perm t.profileRows := by
  intro hclaim
  obtain ⟨⟨g, hg, s, hs, hsrow⟩, ⟨h, hh, t, ht, htrow⟩⟩ := exists_sharesRow
  obtain ⟨hsknown, htknown, hapart, hsame⟩ :=
    samePrints_of_sharesRow (m := 100000) (n := 100000) hs ht hsrow htrow
  obtain ⟨-, -, hperm⟩ := hclaim embeddedAnalyzer embeddedAnalyzer _ _ g h s t 100000 100000 hg hh
    hs ht hsknown htknown hapart hsame
  simp only [sharesRow, Bool.and_eq_true, beq_iff_eq] at hsrow htrow
  rw [hsrow.1.1.2, htrow.1.1.2] at hperm
  exact absurd hperm.length_eq (by decide)

/-- Two members in either order, and the two sessions above. -/
theorem fingerprints_canonical_marked :
    (fingerprintStream (processSetRows [sampleIdentity 2, sampleIdentity 10])
        = fingerprintStream (processSetRows [sampleIdentity 10, sampleIdentity 2])
      ↔ [sampleIdentity 2, sampleIdentity 10].Perm [sampleIdentity 10, sampleIdentity 2]) ∧
    ∃ g, ProcessGraph.fromSnapshot (sampleSnapshot [markedBrowser []]) = .ok g ∧
      ∃ h, ProcessGraph.fromSnapshot (sampleSnapshot [markedBrowser spellingProfile]) = .ok h ∧
        ∃ s ∈ embeddedAnalyzer.sessions g, ∃ t ∈ embeddedAnalyzer.sessions h,
          s.identities.Perm t.identities ∧ s.rows = t.rows := by
  have hknown : ∀ i, i = sampleIdentity 2 ∨ i = sampleIdentity 10 → i.Known := by
    rintro i (rfl | rfl) <;> exact ⟨rfl, rfl⟩
  refine ⟨fingerprints_canonical.1 _ _ (fun i hi => hknown i (by simpa using hi))
    (fun i hi => hknown i (Or.symm (by simpa using hi))), ?_⟩
  obtain ⟨⟨g, hg, s, hs, hsrow⟩, ⟨h, hh, t, ht, htrow⟩⟩ := exists_sharesRow
  obtain ⟨hsknown, htknown, hapart, hsame⟩ :=
    samePrints_of_sharesRow (m := 100000) (n := 100000) hs ht hsrow htrow
  obtain ⟨c, -, hc⟩ := List.mem_filterMap.mp hs
  obtain ⟨d, -, hd⟩ := List.mem_filterMap.mp ht
  obtain ⟨hmembers, -, hrows, -⟩ := fingerprints_canonical.2.2 embeddedAnalyzer embeddedAnalyzer g h
    c d s t 100000 100000 hc hd hsknown htknown hapart hsame
  exact ⟨g, hg, h, hh, s, hs, t, ht, hmembers, hrows⟩

end Unlinger
