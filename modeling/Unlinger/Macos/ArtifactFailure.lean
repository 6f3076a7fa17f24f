import Unlinger.Macos.Helpers.ArtifactFailure

/-!
# A removal that fails

`remove_exact` in a directory nobody else changes, with at most one call
amiss. Up to the second scan whatever fails leaves the artifact in its
place; behind it nothing is put back, and whatever fails leaves the
artifact in the quarantine.
-/

namespace Unlinger

open Interaction Shared

namespace Artifacts

variable {uid k : Nat} {frozen : FrozenRuntimeArtifact} {s s' : Profile} {entry : Entry}
  {quarantine : Name} {α : Type}

/-! ## What is frozen -/

/-- The open parent is safe. -/
def SafeParent (uid ownerUid : Nat) (parent : Entry) : Prop :=
  ¬ (parent.stat.mode &&& fileType ≠ directory ∨ parent.stat.uid ≠ ownerUid ∨ ownerUid ≠ uid
    ∨ parent.stat.mode &&& 0o077 ≠ 0) ∧ parent.hasAcl = false

/-- What `freeze` finds where nothing is amiss. -/
def frozenEntry (uid : Nat) (candidate : RuntimeArtifactCandidate) (parent : Entry) :
    Option Entry → ArtifactFreeze
  | none => .absent
  | some entry =>
      if entry.stat.mode &&& fileType = symbolicLink ∨ entry.hasAcl = true then .unsafeArtifact
      else freezeFile uid candidate parent.stat entry.stat

instance {uid ownerUid : Nat} {parent : Entry} : Decidable (SafeParent uid ownerUid parent) :=
  inferInstanceAs (Decidable (_ ∧ _))

/-- What `freeze` finds in the directory where nothing is amiss. -/
def frozenOf (uid : Nat) (candidate : RuntimeArtifactCandidate) (s : Profile) :
    ArtifactFreeze :=
  if Owned uid candidate ∧ SafeParent uid candidate.ownerUid s.parent then
    frozenEntry uid candidate s.parent (s.dir devtoolsActivePortName)
  else .unsafeArtifact

/-- The directory is this one. -/
def Still (s : Profile) : Assertion Answer Profile := fun _ x => x = s

theorem calm_ask {ε : Type} {c : Call} {f : Answer c → Prog Answer ε α}
    {Q : Except ε α → Assertion Answer Profile}
    (h : ∀ r, Right s c r → Triple calm (Still (leaves s c r)) (f r) Q) :
    Triple calm (Still s) (Prog.ask c >>= f) Q := by
  refine Triple.ask (fun _ _ _ _ h => h.elim) (M := fun r past x =>
    Right s c r ∧ Still (leaves s c r) past x) ?_ fun r => ?_
  · rintro past x r x' rfl ⟨hr, rfl⟩
    exact ⟨hr, rfl⟩
  · rintro past x ms o x' ⟨hr, hstill⟩ hist
    exact h r hr past x ms o x' hstill hist

/-- A file that was opened, where nothing is amiss with its access list. -/
theorem calm_acl {ε : Type} {file : File} {f : Except OpenFailure File → Prog Answer ε α}
    {Q : Except ε α → Assertion Answer Profile}
    (h : Triple calm (Still s)
      (f (if file.entry.hasAcl = true then .error .unsafeEntry else .ok file)) Q) :
    Triple calm (Still s)
      ((fdHasEmptyExtendedAcl file >>= fun r => pure (withoutAcl file r)) >>= f) Q := by
  refine calm_ask fun r hr => ?_
  by_cases hacl : file.entry.hasAcl = true
  · rw [if_pos hacl] at h
    obtain rfl : r = .ok () := by
      have hright : if file.entry.hasAcl = true then r = .ok () else IsError r .enoent := hr
      rwa [if_pos hacl] at hright
    refine calm_ask fun r hr => calm_ask fun r' hr' => ?_
    obtain rfl : r = (true, true) := hr
    obtain rfl : r' = true := hr'
    exact h
  · rw [if_neg hacl] at h
    obtain ⟨text, rfl⟩ := aclRight_none (Bool.eq_false_iff.mpr hacl) hr
    exact h

/-- What is frozen, in one look at the directory. -/
def Freezes (uid : Nat) (candidate : RuntimeArtifactCandidate) (s : Profile) :
    Except RuntimeFailure ArtifactFreeze → Assertion Answer Profile :=
  fun o _ _ => o = .ok (frozenOf uid candidate s)

theorem calm_ret {a : ArtifactFreeze} {candidate : RuntimeArtifactCandidate}
    (h : a = frozenOf uid candidate s) :
    Triple calm (Still s) (.ret a) (Freezes uid candidate s) :=
  Triple.ret (fun _ _ _ _ h => h.elim) fun _ _ _ => congrArg Except.ok h

/-- The open parent, where nothing is amiss. -/
theorem calm_openSafeParent {ε : Type} {path : String} {ownerUid : Nat}
    {f : Except OpenFailure File → Prog Answer ε α} {Q : Except ε α → Assertion Answer Profile}
    (h : Triple calm (Still s) (f (if SafeParent uid ownerUid s.parent then .ok ⟨s.parent⟩
      else .error .unsafeEntry)) Q) :
    Triple calm (Still s) (openSafeParent uid path ownerUid >>= f) Q := by
  refine calm_ask fun r hr => ?_
  obtain rfl : r = .ok ⟨s.parent⟩ := hr
  refine calm_ask fun r hr => ?_
  obtain rfl : r = .ok s.parent.stat := hr
  by_cases hbad : s.parent.stat.mode &&& fileType ≠ directory ∨ s.parent.stat.uid ≠ ownerUid
      ∨ ownerUid ≠ uid ∨ s.parent.stat.mode &&& 0o077 ≠ 0
  · rw [if_neg fun hsafe : SafeParent uid ownerUid s.parent => hsafe.1 hbad] at h
    change Triple calm (Still s) ((if _ then _ else _ : Prog Answer ε _).bind f) Q
    rw [if_pos hbad]
    exact h
  · change Triple calm (Still s) ((if _ then _ else _ : Prog Answer ε _).bind f) Q
    rw [if_neg hbad]
    refine calm_acl ?_
    by_cases hacl : s.parent.hasAcl = true
    · have hunsafe : ¬ SafeParent uid ownerUid s.parent := by
        intro hsafe
        rw [hsafe.2] at hacl
        cases hacl
      rw [if_pos hacl]
      rwa [if_neg hunsafe] at h
    · have hsafe : SafeParent uid ownerUid s.parent := ⟨hbad, Bool.eq_false_iff.mpr hacl⟩
      rw [if_neg hacl]
      rwa [if_pos hsafe] at h

/-- **What `freeze` finds.** -/
theorem freeze_calm (candidate : RuntimeArtifactCandidate) :
    Triple calm (Still s) (freeze uid candidate) (Freezes uid candidate s) := by
  unfold freeze
  by_cases howned : Owned uid candidate
  · rw [if_neg (not_not.mpr howned)]
    refine calm_openSafeParent ?_
    by_cases hsafe : SafeParent uid candidate.ownerUid s.parent
    · rw [if_pos hsafe]
      have hfound : frozenOf uid candidate s
          = frozenEntry uid candidate s.parent (s.dir devtoolsActivePortName) :=
        if_pos ⟨howned, hsafe⟩
      refine calm_ask fun r hr => ?_
      obtain rfl : r = .ok s.parent.stat := hr
      change Triple calm (Still s) _ _
      refine calm_ask fun r hr => ?_
      rcases hr with ⟨⟨text, rfl⟩, hnone⟩ | ⟨entry, hentry, hr⟩
      · exact calm_ret (s := s) (by rw [hfound, hnone]; rfl)
      · by_cases hlink : entry.stat.mode &&& fileType = symbolicLink
        · rw [if_pos hlink] at hr
          obtain ⟨text, rfl⟩ := hr
          exact calm_ret (s := s) (by rw [hfound, hentry, frozenEntry, if_pos (Or.inl hlink)])
        · rw [if_neg hlink] at hr
          subst hr
          change Triple calm (Still s) _ _
          refine calm_acl ?_
          by_cases hacl : entry.hasAcl = true
          · rw [if_pos hacl]
            exact calm_ret (by rw [hfound, hentry, frozenEntry, if_pos (Or.inr hacl)])
          · rw [if_neg hacl]
            refine calm_ask fun r hr => ?_
            obtain rfl : r = .ok entry.stat := hr
            refine calm_ret (s := s) ?_
            rw [hfound, hentry, frozenEntry, if_neg (not_or.mpr ⟨hlink, hacl⟩)]
    · rw [if_neg hsafe]
      exact calm_ret (if_neg fun h => hsafe h.2).symm
  · rw [if_pos howned]
    exact calm_ret (if_neg fun h => howned h.1).symm

/-- A directory in which the artifact was frozen. -/
structure Sound (uid : Nat) (frozen : FrozenRuntimeArtifact) (s : Profile) (entry : Entry) :
    Prop where
  owned : Owned uid frozen.candidate
  parent : SafeParent uid frozen.candidate.ownerUid s.parent
  there : s.dir devtoolsActivePortName = some entry
  acl : entry.hasAcl = false
  safe : safeCandidateMetadata uid entry.stat frozen.candidate.ownerUid s.parent.stat.device = true
  identity : frozen.identity = frozenIdentity s.parent.stat entry.stat

theorem sound_of_frozenOf {candidate : RuntimeArtifactCandidate}
    (h : frozenOf uid candidate s = .frozen frozen) :
    frozen.candidate = candidate ∧ ∃ entry, Sound uid frozen s entry := by
  rw [frozenOf] at h
  split at h
  · rename_i hsafe
    cases hentry : s.dir devtoolsActivePortName with
    | none =>
      rw [hentry] at h
      cases h
    | some entry =>
      rw [hentry, frozenEntry] at h
      split at h
      · cases h
      · rename_i hplain
        rw [freezeFile] at h
        split at h
        · rename_i hmetadata
          obtain rfl := ArtifactFreeze.frozen.inj h
          refine ⟨rfl, entry, hsafe.1, hsafe.2, hentry, ?_, hmetadata, rfl⟩
          exact Bool.eq_false_iff.mpr (not_or.mp hplain).2
        · cases h
  · cases h

section Sound

variable (h : Sound uid frozen s entry)
include h

theorem Sound.plain : Plain entry := by
  have hsafe := h.safe
  simp only [safeCandidateMetadata, Bool.and_eq_true, beq_iff_eq] at hsafe
  exact ⟨hsafe.1.1.1.1.1, h.acl⟩

/-- The owner is the one the candidate names. -/
theorem Sound.owner : frozen.identity.ownerUid = frozen.candidate.ownerUid := by
  have hsafe := h.safe
  simp only [safeCandidateMetadata, Bool.and_eq_true, beq_iff_eq] at hsafe
  rw [h.identity]
  exact hsafe.1.1.1.1.2

theorem Sound.same : sameCandidateIdentity uid entry.stat frozen.identity = true := by
  have hsafe := h.safe
  rw [← h.owner] at hsafe
  rw [sameCandidateIdentity, h.identity] at *
  simp only [frozenIdentity] at hsafe ⊢
  rw [hsafe]
  simp

theorem Sound.sameParent : SameParent s.parent.stat frozen.identity := by
  rw [h.identity]
  exact ⟨rfl, rfl, rfl, rfl⟩

end Sound

/-! ## One removal with one call amiss -/

/-- How a removal may end: in time, with the directory as it was where
nothing was removed, or too late, with neither. -/
def Settled (s : Profile) (d : ArtifactDisposition) : Assertion Answer Profile := fun past x =>
  (Timely past ∧ (d ≠ .removed → x = s)) ∨ (¬ Timely past ∧ d ≠ .removed ∧ x ≠ s)

/-- What a part of the removal owes. -/
def Finishes (s : Profile) (P : α → Assertion Answer Profile) :
    Except ArtifactDisposition α → Assertion Answer Profile
  | .ok a, past, x => P a past x
  | .error d, past, x => Settled s d past x

variable {P : α → Assertion Answer Profile}

/-- An early return before anything was moved. -/
theorem finishes_early {d : ArtifactDisposition} (hk : k < 2) :
    Triple oneFailure (At (Fallen k) s) (.throw d) (Finishes s P) :=
  alone_throw fun _ _ h => Or.inl ⟨h.1.timely_iff.mpr hk, fun _ => h.2⟩

/-- The same, with nothing amiss. -/
theorem finishes_going {d : ArtifactDisposition} :
    Triple oneFailure (At (Going k) s) (.throw d) (Finishes s P) :=
  alone_throw fun _ _ h => Or.inl ⟨h.1.timely, fun _ => h.2⟩

/-- An early return behind the second scan. -/
theorem finishes_late {d : ArtifactDisposition} (hd : d ≠ .removed) (hne : s' ≠ s) :
    Triple oneFailure (At (Fallen 2) s') (.throw d) (Finishes s P) := by
  refine alone_throw fun past x h => Or.inr ⟨fun htimely => ?_, hd, ?_⟩
  · exact absurd (h.1.timely_iff.mp htimely) (by decide)
  · rw [h.2]
    exact hne

theorem finishes_bind {β : Type} {A : Assertion Answer Profile} {M : β → Assertion Answer Profile}
    {p : Removal β} {f : β → Removal α} (hp : Triple oneFailure A p (Finishes s M))
    (hf : ∀ b, Triple oneFailure (M b) (f b) (Finishes s P)) :
    Triple oneFailure A (p >>= f) (Finishes s P) :=
  Triple.bind hp hf fun _ _ _ h => h

/-- The directory with the artifact in the quarantine. -/
def moved (s : Profile) (quarantine : Name) : Profile :=
  renamed s devtoolsActivePortName quarantine (.ok ())

section Moved

variable (hname : quarantine ≠ devtoolsActivePortName) (habsent : s.dir quarantine = none)
include hname habsent

omit habsent in
theorem moved_dir : (moved s quarantine).dir quarantine = s.dir devtoolsActivePortName :=
  renamed_target hname.symm

omit hname habsent in
theorem moved_canonical : (moved s quarantine).dir devtoolsActivePortName = none := renamed_source

/-- Moving it back leaves the directory as it was. -/
theorem moved_back :
    renamed (moved s quarantine) quarantine devtoolsActivePortName (.ok ()) = s := by
  have hdir : (renamed (moved s quarantine) quarantine devtoolsActivePortName (.ok ())).dir
      = s.dir := by
    funext name
    by_cases hc : name = devtoolsActivePortName
    · rw [hc, renamed_target hname, moved_dir hname]
    · by_cases hq : name = quarantine
      · rw [hq, renamed_source, habsent]
      · rw [renamed_other hq hc]
        exact renamed_other hc hq
  calc renamed (moved s quarantine) quarantine devtoolsActivePortName (.ok ())
      = ⟨s.parent, (renamed (moved s quarantine) quarantine devtoolsActivePortName (.ok ())).dir⟩ :=
        rfl
    _ = s := by rw [hdir]

omit hname habsent in
theorem moved_ne (hthere : s.dir devtoolsActivePortName = some entry) : moved s quarantine ≠ s := by
  intro heq
  have hnone : (moved s quarantine).dir devtoolsActivePortName = none := moved_canonical
  rw [heq, hthere] at hnone
  cases hnone

/-- **The entry goes back**, behind the call that was amiss. -/
theorem fallen_restoreQuarantinedEntry (hthere : s.dir devtoolsActivePortName = some entry)
    {f : Unit → Removal α} {Q : Except ArtifactDisposition α → Assertion Answer Profile}
    (hf : Triple oneFailure (At (Fallen k) s) (f ()) Q) :
    Triple oneFailure (At (Fallen k) (moved s quarantine))
      (restoreQuarantinedEntry quarantine >>= f) Q := by
  refine fallen_ask fun r hr => ?_
  rcases hr with ⟨rfl, -, -⟩ | ⟨-, hgone⟩ | ⟨-, -, other, hother⟩
  · have hback : leaves (moved s quarantine)
        (.renameatxNp quarantine devtoolsActivePortName .excl) (.ok ()) = s :=
      moved_back hname habsent
    rw [hback]
    exact hf
  · rw [moved_dir hname, hthere] at hgone
    cases hgone
  · rw [moved_canonical] at hother
    cases hother

theorem fallen_failAfterRestoring (hthere : s.dir devtoolsActivePortName = some entry)
    (hk : k < 2) (failure : ArtifactDisposition) :
    Triple oneFailure (At (Fallen k) (moved s quarantine))
      (failAfterRestoringQuarantinedEntry quarantine failure : Removal α) (Finishes s P) :=
  fallen_restoreQuarantinedEntry hname habsent hthere (finishes_early hk)

end Moved

section Sound

variable (h : Sound uid frozen s entry)
include h

/-- A look at the candidate, before anything was moved. -/
theorem going_inspectCandidate (hk : k < 2) :
    Triple oneFailure (At (Going k) s) (inspectCandidate uid frozen.identity)
      (Finishes s fun _ => At (Going k) s) := by
  refine going_openNamedCandidate h.there h.plain ?_ fun failure => ?_
  · refine going_ask (fun r hr => ?_) fun r hfailed _ => ?_
    · obtain rfl : r = .ok entry.stat := hr
      unfold demand
      change Triple oneFailure (At (Going k) s) (if _ then _ else _ : Removal Unit) _
      rw [if_pos h.same]
      exact alone_ret fun _ _ hs => hs
    · obtain ⟨error, rfl⟩ := hfailed
      exact finishes_early hk
  · cases failure <;> exact finishes_early hk

/-- The quarantine was named, and the artifact is in it. -/
def Moved (s : Profile) (quarantine : Name) : Assertion Answer Profile := fun past x =>
  (quarantine ≠ devtoolsActivePortName ∧ s.dir quarantine = none ∧
    ∃ component, quarantine = Text.bytes component) ∧ At (Going 1) (moved s quarantine) past x

/-- **The artifact goes to a quarantine**, or stays. -/
theorem going_quarantineCandidate (attempts : Nat) :
    Triple oneFailure (At (Going 1) s) (quarantineCandidate attempts) (Finishes s (Moved s)) := by
  induction attempts with
  | zero => exact finishes_going
  | succ attempts ih =>
    refine going_ask (fun r hr => ?_) fun r hfailed _ => ?_
    · obtain ⟨random, rfl⟩ := hr
      change Triple oneFailure (At (Going 1) s) _ _
      cases hrandom : randomQuarantineName (some random) with
      | none => exact finishes_going
      | some quarantine =>
        obtain ⟨hname, hcomponent⟩ := quarantine_of_random hrandom
        refine going_ask (fun r hr => ?_) fun r hfailed _ => ?_
        · rcases hr with ⟨rfl, -, habsent⟩ | ⟨-, hgone⟩ | ⟨⟨text, rfl⟩, -, -⟩
          · exact alone_ret fun _ _ hs => ⟨⟨hname, habsent rfl, hcomponent⟩, hs⟩
          · rw [h.there] at hgone
            cases hgone
          · exact ih
        · obtain ⟨error, rfl⟩ := hfailed
          change Triple oneFailure (At (Fallen 1) s)
            (if _ then _ else if _ then _ else _ : Removal Name) _
          split
          · refine ih.mono (fun _ _ hs => ?_) fun _ _ _ hs => hs
            exact ⟨Or.inr ⟨1, by decide, hs.1⟩, hs.2⟩
          · split
            · exact finishes_early (by decide)
            · exact finishes_early (by decide)
    · obtain rfl : r = none := hfailed
      exact finishes_early (by decide)

variable (hname : quarantine ≠ devtoolsActivePortName) (habsent : s.dir quarantine = none)
include hname

theorem Sound.quarantined : (moved s quarantine).dir quarantine = some entry := by
  rw [moved_dir hname, h.there]

variable (hmatches : statMatches frozen.identity entry.stat = true)
include habsent hmatches

/-- **What was moved is verified**, or goes back. -/
theorem going_verifyQuarantined :
    Triple oneFailure (At (Going 1) (moved s quarantine))
      (verifyQuarantined uid frozen.identity quarantine)
      (Finishes s fun _ => At (Going 1) (moved s quarantine)) := by
  have hback : ∀ failure, Triple oneFailure (At (Fallen 1) (moved s quarantine))
      (failAfterRestoringQuarantinedEntry quarantine failure : Removal Unit)
      (Finishes s fun _ => At (Going 1) (moved s quarantine)) :=
    fallen_failAfterRestoring hname habsent h.there (by decide)
  refine going_openNamedCandidate (h.quarantined hname) h.plain ?_ fun failure => ?_
  · refine going_ask (fun r hr => ?_) fun r hfailed _ => ?_
    · obtain rfl : r = .ok entry.stat := hr
      change Triple oneFailure (At (Going 1) (moved s quarantine))
        (if _ then _ else _ : Removal Unit) _
      rw [if_pos h.same]
      refine going_matches (h.quarantined hname) ?_ ?_
      · rw [if_pos hmatches]
        exact alone_ret fun _ _ hs => hs
      · exact hback .identityMismatch
    · obtain ⟨error, rfl⟩ := hfailed
      exact hback .rejected
  · cases failure with
    | absent => exact hback .identityMismatch
    | unsafeEntry => exact hback .unsafeArtifact
    | runtime error => exact hback .rejected

/-- **The frozen artifact goes back**, behind the call that was amiss. -/
theorem fallen_restoreQuarantinedExact :
    Triple oneFailure (At (Fallen k) (moved s quarantine))
      (restoreQuarantinedExact uid frozen.identity quarantine)
      (Finishes s fun _ => At (Fallen k) s) := by
  refine fallen_openNamedCandidate (h.quarantined hname) h.plain ?_
  refine fallen_ask fun r hr => ?_
  obtain rfl : r = .ok entry.stat := hr
  change Triple oneFailure (At (Fallen k) (moved s quarantine))
    (demand (sameCandidateIdentity uid entry.stat frozen.identity = true) _ >>= _) _
  rw [demand, if_pos h.same]
  refine fallen_matches (h.quarantined hname) ?_
  rw [hmatches, demand, if_pos rfl]
  refine fallen_restoreQuarantinedEntry hname habsent h.there ?_
  refine fallen_ask fun r hr => ?_
  obtain rfl : r = .ok entry.stat := hr
  change Triple oneFailure (At (Fallen k) s)
    (demand (sameCandidateIdentity uid entry.stat frozen.identity = true) _ >>= _) _
  rw [demand, if_pos h.same]
  refine fallen_matches h.there ?_
  rw [hmatches, demand, if_pos rfl]
  exact alone_ret fun _ _ hs => hs

omit habsent in
/-- **Behind the second scan**: the artifact is unlinked, or what is amiss
leaves it in the quarantine. -/
theorem going_unlinkQuarantined :
    Triple oneFailure (At (Going 2) (moved s quarantine))
      (unlinkQuarantined uid frozen.identity quarantine) (Finishes s (Settled s)) := by
  have hne : moved s quarantine ≠ s := moved_ne h.there
  have hthere := h.quarantined hname
  refine going_openNamedCandidate hthere h.plain ?_ fun failure => ?_
  · refine going_ask (fun r hr => ?_) fun r hfailed _ => ?_
    · obtain rfl : r = .ok entry.stat := hr
      change Triple oneFailure (At (Going 2) (moved s quarantine))
        (demand (sameCandidateIdentity uid entry.stat frozen.identity = true) _ >>= _) _
      rw [demand, if_pos h.same]
      refine going_matches hthere ?_ ?_
      · rw [hmatches, demand, if_pos rfl]
        refine going_ask (fun r hr => ?_) fun r hfailed hbad => ?_
        · rcases hr with ⟨⟨text, rfl⟩, -⟩ | ⟨other, hother, -⟩
          · refine going_ask (fun r hr => ?_) fun r hfailed _ => ?_
            · rcases hr with ⟨-, hgone⟩ | ⟨found, hfound, hr⟩
              · have hentry : (moved s quarantine).dir quarantine = none := hgone
                rw [hthere] at hentry
                cases hentry
              · have hentry : (moved s quarantine).dir quarantine = some found := hfound
                rw [hthere] at hentry
                obtain rfl := Option.some.inj hentry
                rw [if_neg (by rw [h.plain.1]; decide)] at hr
                subst hr
                exact alone_ret fun _ _ hs => Or.inl ⟨hs.1.timely, fun hd => absurd rfl hd⟩
            · obtain ⟨⟨errno, text⟩, rfl⟩ := hfailed
              cases errno <;> exact finishes_late nofun hne
          · have hcanonical : (moved s quarantine).dir devtoolsActivePortName = some other := hother
            rw [moved_canonical] at hcanonical
            cases hcanonical
        · obtain ⟨⟨errno, text⟩, rfl⟩ := hfailed
          cases errno with
          | enoent => exact absurd (Or.inl ⟨⟨text, rfl⟩, moved_canonical⟩) hbad
          | _ => exact finishes_late nofun hne
      · exact finishes_late nofun hne
    · obtain ⟨error, rfl⟩ := hfailed
      exact finishes_late nofun hne
  · cases failure <;> exact finishes_late nofun hne

/-- **The second scan**, and what follows it. -/
theorem going_removeQuarantined (hcomponent : ∃ component, quarantine = Text.bytes component) :
    Triple oneFailure (At (Going 1) (moved s quarantine)) (removeQuarantined uid frozen quarantine)
      (Finishes s (Settled s)) := by
  obtain ⟨component, hcomponent⟩ := hcomponent
  have hrestore : ∀ d : ArtifactDisposition, Triple oneFailure (At (Fallen 1) (moved s quarantine))
      (restoreQuarantinedExact uid frozen.identity quarantine >>= fun _ =>
        (.throw d : Removal ArtifactDisposition)) (Finishes s (Settled s)) :=
    fun d => finishes_bind (fallen_restoreQuarantinedExact h hname habsent hmatches)
      fun _ => finishes_early (by decide)
  have hdecode : Utf8.decode quarantine = some component := by
    rw [hcomponent, Utf8.decode_bytes]
  rw [removeQuarantined, hdecode]
  refine going_ask (fun r hr => ?_) fun r hfailed _ => ?_
  · obtain rfl : r = .ok false := hr
    exact going_unlinkQuarantined h hname hmatches
  · cases r with
    | error u => exact hrestore .unsafeArtifact
    | ok referenced =>
      cases referenced with
      | true => exact hrestore .referenced
      | false => exact absurd rfl hfailed

omit hname habsent hmatches

/-- The open parent, before anything was moved. -/
theorem going_openSafeParent {f : Except OpenFailure File → Removal α}
    {Q : Except ArtifactDisposition α → Assertion Answer Profile}
    (hright : Triple oneFailure (At (Going 0) s) (f (.ok ⟨s.parent⟩)) Q)
    (hfall : ∀ failure, Triple oneFailure (At (Fallen 0) s) (f (.error failure)) Q) :
    Triple oneFailure (At (Going 0) s)
      (openSafeParent uid frozen.candidate.profilePath frozen.candidate.ownerUid >>= f) Q := by
  refine going_ask (fun r hr => ?_) fun r hfailed _ => ?_
  · obtain rfl : r = .ok ⟨s.parent⟩ := hr
    refine going_ask (fun r hr => ?_) fun r hfailed _ => ?_
    · obtain rfl : r = .ok s.parent.stat := hr
      change Triple oneFailure (At (Going 0) s) ((if _ then _ else _ : Removal _).bind f) Q
      rw [if_neg h.parent.1]
      refine going_ask (fun r hr => ?_) fun r hfailed hbad => ?_
      · obtain ⟨text, rfl⟩ := aclRight_none h.parent.2 hr
        exact hright
      · obtain ⟨⟨errno, text⟩, rfl⟩ := hfailed
        cases errno with
        | enoent =>
          refine absurd ?_ hbad
          change if s.parent.hasAcl = true then _ else _
          rw [h.parent.2, if_neg (by decide)]
          exact ⟨text, rfl⟩
        | _ => exact hfall .unsafeEntry
    · obtain ⟨error, rfl⟩ := hfailed
      exact hfall _
  · obtain ⟨error, rfl⟩ := hfailed
    exact hfall (mapOpenError error)

/-- **The whole removal.** -/
theorem going_removeExact :
    Triple oneFailure (At (Going 0) s) (removeExact uid frozen) (Finishes s (Settled s)) := by
  have howned : Owned uid frozen.candidate ∧ frozen.identity.ownerUid = uid :=
    ⟨h.owned, h.owner.trans h.owned.2.2⟩
  rw [removeExact, demand, if_pos howned]
  refine going_openSafeParent h ?_ fun failure => finishes_early (by decide)
  refine going_ask (fun r hr => ?_) fun r hfailed _ => ?_
  · obtain rfl : r = .ok s.parent.stat := hr
    change Triple oneFailure (At (Going 0) s)
      (demand (SameParent s.parent.stat frozen.identity) _ >>= _) _
    rw [demand, if_pos h.sameParent]
    change Triple oneFailure (At (Going 0) s) (inspectCandidate uid frozen.identity >>= _) _
    refine finishes_bind (going_inspectCandidate (k := 0) h (by decide)) fun _ => ?_
    refine going_ask (fun r hr => ?_) fun r hfailed _ => ?_
    · obtain rfl : r = .ok false := hr
      change Triple oneFailure (At (Going 1) s) (inspectCandidate uid frozen.identity >>= _) _
      refine finishes_bind (going_inspectCandidate (k := 1) h (by decide)) fun _ => ?_
      refine going_matches h.there ?_ ?_
      · unfold demand
        split
        · rename_i hmatches
          change Triple oneFailure (At (Going 1) s) (quarantineCandidate quarantineAttempts >>= _) _
          refine finishes_bind (going_quarantineCandidate h quarantineAttempts) fun quarantine => ?_
          intro past x ms o x' hs hist
          obtain ⟨hname, habsent, hcomponent⟩ := hs.1
          exact finishes_bind (going_verifyQuarantined h hname habsent hmatches)
            (fun _ => going_removeQuarantined h hname habsent hmatches hcomponent)
            past x ms o x' hs.2 hist
        · exact finishes_going
      · exact finishes_early (by decide)
    · cases r with
      | error u => exact finishes_early (by decide)
      | ok referenced =>
        cases referenced with
        | true => exact finishes_early (by decide)
        | false => exact absurd rfl hfailed
  · obtain ⟨error, rfl⟩ := hfailed
    exact finishes_early (by decide)

end Sound

/-! ## What a failed removal leaves -/

/-- Where nothing was removed, the directory is as it was, and the
artifact is frozen again in it. -/
def InPlace (uid : Nat) (frozen : FrozenRuntimeArtifact) (s : Profile)
    (o : Except ArtifactDisposition ArtifactDisposition) (s' : Profile) : Prop :=
  returned o ≠ .removed → s' = s ∧ ∀ later o' s'',
    Interleaved calm [] s' (freeze uid frozen.candidate) later o' s'' → o' = .ok (.frozen frozen)

/-- **A failed removal leaves the artifact in place exactly where nothing
was amiss behind the second scan.** -/
theorem removeExact_inPlace_iff {s₁ : Profile} {frozenBy hist : List Step}
    {o : Except ArtifactDisposition ArtifactDisposition}
    (hfreeze : Interleaved calm [] s (freeze uid frozen.candidate) frozenBy (.ok (.frozen frozen))
      s₁)
    (h : Interleaved oneFailure [] s (removeExact uid frozen) hist o s') :
    InPlace uid frozen s o s' ↔ Timely hist := by
  have hfrozen : frozenOf uid frozen.candidate s = .frozen frozen :=
    (Except.ok.inj (freeze_calm frozen.candidate [] s _ _ _ rfl hfreeze)).symm
  obtain ⟨-, entry, hsound⟩ := sound_of_frozenOf hfrozen
  have hstart : At (Going 0) s [] s := ⟨Or.inl ⟨by simp, rfl⟩, rfl⟩
  have hend := going_removeExact hsound [] s hist o s' hstart h
  rw [List.nil_append] at hend
  have hsettled : Settled s (returned o) hist s' := by
    cases o with
    | ok d => exact hend
    | error d => exact hend
  rcases hsettled with ⟨htimely, hplace⟩ | ⟨hlate, hd, hne⟩
  · refine ⟨fun _ => htimely, fun _ hd => ?_⟩
    obtain rfl := hplace hd
    refine ⟨rfl, fun later o' s'' hlater => ?_⟩
    exact (freeze_calm frozen.candidate [] _ _ _ _ rfl hlater).trans (congrArg Except.ok hfrozen)
  · exact ⟨fun hplace => absurd (hplace hd).1 hne, fun htimely => absurd htimely hlate⟩

/-- The removal whose unlink fails does not leave the artifact in its
place. -/
theorem unlinkedFailing_strays : returned unlinkedFailing.2.1 = .rejected ∧
    unlinkedFailing.2.2.dir devtoolsActivePortName = none :=
  ⟨by decide +kernel, by decide +kernel⟩

theorem not_inPlace_unlinkedFailing :
    ¬ InPlace 501 sampleFrozen sampleProfile unlinkedFailing.2.1 unlinkedFailing.2.2 := by
  intro hplace
  obtain ⟨hrejected, hgone⟩ := unlinkedFailing_strays
  obtain ⟨hsame, -⟩ := hplace (by rw [hrejected]; decide)
  rw [hsame] at hgone
  exact absurd hgone (by decide)

/-- So what was amiss there came behind the second scan. -/
theorem removeExact_inPlace_iff_unlink :
    returned unlinkedFailing.2.1 = .rejected ∧ ¬ Timely unlinkedFailing.1 ∧
      ¬ InPlace 501 sampleFrozen sampleProfile unlinkedFailing.2.1 unlinkedFailing.2.2 :=
  ⟨unlinkedFailing_strays.1, fun htimely => not_inPlace_unlinkedFailing
    ((removeExact_inPlace_iff history_sampleFreeze history_unlinkedFailing).2 htimely),
    not_inPlace_unlinkedFailing⟩

/-- **A failed unlink strays**: the artifact stays in the quarantine, and
is not found where it was. -/
theorem failed_unlink_strays :
    (returned unlinkedFailing.2.1 = .rejected ∧
      unlinkedFailing.2.2.dir devtoolsActivePortName = none) ∧
    ¬ ∀ (uid : Nat) (frozen : FrozenRuntimeArtifact) (s s₁ s' : Profile) (frozenBy hist : List Step)
      (o : Except ArtifactDisposition ArtifactDisposition),
      Interleaved calm [] s (freeze uid frozen.candidate) frozenBy (.ok (.frozen frozen)) s₁ →
      Interleaved oneFailure [] s (removeExact uid frozen) hist o s' →
        InPlace uid frozen s o s' := by
  refine ⟨unlinkedFailing_strays, fun hclaim => ?_⟩
  exact not_inPlace_unlinkedFailing (hclaim 501 sampleFrozen sampleProfile _ _ _ _ _
    history_sampleFreeze history_unlinkedFailing)

end Artifacts

end Unlinger
