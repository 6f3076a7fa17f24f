import Unlinger.Macos.Helpers.Artifacts

/-!
# One call amiss

Rules for a program that runs alone, and of whose calls one may be amiss.
Up to that one it is `Calm`, behind it `Fallen`, and then every call is
right. `Going` is either, with the fall in time, which is before the second
scan was made.
-/

namespace Unlinger

open Interaction Shared

namespace Artifacts

/-- A scan was made. -/
def isScan (m : Step) : Bool :=
  match m.event with
  | some ⟨.referenceScan _ _ _, _⟩ => true
  | _ => false

/-- How many scans were made. -/
def scans (past : List Step) : Nat := past.countP isScan

/-- How many scans a call makes. -/
def scansOf : Call → Nat
  | .referenceScan _ _ _ => 1
  | _ => 0

/-- Nothing was amiss, and so many scans were made. -/
def Calm (k : Nat) (past : List Step) : Prop := (∀ m ∈ past, ¬ Adverse m) ∧ scans past = k

/-- Something was amiss, always behind so many scans. -/
def Fallen (k : Nat) (past : List Step) : Prop :=
  (∃ m ∈ past, Adverse m) ∧
    ∀ before m after, past = before ++ m :: after → Adverse m → scans before = k

/-- Nothing was amiss yet, or something was before the second scan. -/
def Going (k : Nat) (past : List Step) : Prop := Calm k past ∨ ∃ j < 2, Fallen j past

/-- What is amiss was so before the second scan was made. -/
def Timely (past : List Step) : Prop :=
  ∀ before m after, past = before ++ m :: after → Adverse m → scans before < 2

/-- A mood, in a state. -/
def At (mood : List Step → Prop) (s : Profile) : Assertion Answer Profile :=
  fun past x => mood past ∧ x = s

variable {past : List Step} {s s' : Profile} {k : Nat} {ε α : Type}

theorem scans_snoc {c : Call} {r : Answer c} :
    scans (past ++ [⟨some ⟨c, r⟩, s, s'⟩]) = scans past + scansOf c := by
  have hone : List.countP isScan [(⟨some ⟨c, r⟩, s, s'⟩ : Step)] = scansOf c := by
    cases c <;> rfl
  rw [scans, List.countP_append, hone]
  rfl

theorem not_adverse {c : Call} {r : Answer c} (h : Right s c r) :
    ¬ Adverse ⟨some ⟨c, r⟩, s, s'⟩ := by
  rintro ⟨e, he, hbad⟩
  obtain rfl := Option.some.inj he
  exact hbad h

theorem Calm.right (h : Calm k past) {c : Call} {r : Answer c} (hr : Right s c r) :
    Calm (k + scansOf c) (past ++ [⟨some ⟨c, r⟩, s, s'⟩]) := by
  refine ⟨fun m hm => ?_, by rw [scans_snoc, h.2]⟩
  rcases List.mem_append.mp hm with hm | hm
  · exact h.1 m hm
  · rw [List.mem_singleton.mp hm]
    exact not_adverse hr

theorem Calm.fall (h : Calm k past) {m : Step} (hm : Adverse m) : Fallen k (past ++ [m]) := by
  refine ⟨⟨m, by simp, hm⟩, fun before x after hpast hx => ?_⟩
  rcases List.eq_nil_or_concat after with rfl | ⟨after', y, rfl⟩
  · obtain ⟨rfl, -⟩ := List.append_inj' hpast rfl
    exact h.2
  · have hsplit : past ++ [m] = (before ++ x :: after') ++ [y] := by simpa using hpast
    obtain ⟨rfl, -⟩ := List.append_inj' hsplit rfl
    exact absurd hx (h.1 x (by simp))

theorem Fallen.right (h : Fallen k past) {m : Step} (hm : ¬ Adverse m) :
    Fallen k (past ++ [m]) := by
  obtain ⟨⟨x, hx, hadverse⟩, hall⟩ := h
  refine ⟨⟨x, List.mem_append_left _ hx, hadverse⟩, fun before y after hpast hy => ?_⟩
  rcases List.eq_nil_or_concat after with rfl | ⟨after', z, rfl⟩
  · obtain ⟨-, hlast⟩ := List.append_inj' hpast rfl
    obtain rfl := List.singleton_inj.mp hlast
    exact absurd hy hm
  · have hsplit : past ++ [m] = (before ++ y :: after') ++ [z] := by simpa using hpast
    obtain ⟨rfl, -⟩ := List.append_inj' hsplit rfl
    exact hall before y after' rfl hy

/-- Whether the fall was in time shows in the scans made before it. -/
theorem Fallen.timely_iff (h : Fallen k past) : Timely past ↔ k < 2 := by
  constructor
  · intro htimely
    obtain ⟨⟨m, hm, hadverse⟩, hall⟩ := h
    obtain ⟨before, after, rfl⟩ := List.append_of_mem hm
    rw [← hall before m after rfl hadverse]
    exact htimely before m after rfl hadverse
  · intro hk before m after hpast hadverse
    rw [h.2 before m after hpast hadverse]
    exact hk

theorem Going.timely (h : Going k past) : Timely past := by
  rcases h with h | ⟨j, hj, h⟩
  · rintro before m after rfl hadverse
    exact absurd hadverse (h.1 m (by simp))
  · exact h.timely_iff.mpr hj

/-! ## Rules -/

variable {Q : Except ε α → Assertion Answer Profile}

theorem stable_oneFailure (P : Assertion Answer Profile) : Stable oneFailure P :=
  fun _ _ _ _ h => h.elim

theorem alone_ret {P : Assertion Answer Profile} {a : α}
    (h : ∀ past s, P past s → Q (.ok a) past s) :
    Triple oneFailure P (.ret a) Q :=
  Triple.ret (stable_oneFailure _) h

theorem alone_throw {P : Assertion Answer Profile} {e : ε}
    (h : ∀ past s, P past s → Q (.error e) past s) : Triple oneFailure P (.throw e) Q :=
  Triple.throw (stable_oneFailure _) h

/-- A call, before anything was amiss or behind it. -/
theorem going_ask {c : Call} {f : Answer c → Prog Answer ε α}
    (hright : ∀ r, Right s c r →
      Triple oneFailure (At (Going (k + scansOf c)) (leaves s c r)) (f r) Q)
    (hfall : ∀ r, Failed c r → ¬ Right s c r →
      Triple oneFailure (At (Fallen k) (leaves s c r)) (f r) Q) :
    Triple oneFailure (At (Going k) s) (Prog.ask c >>= f) Q := by
  refine Triple.ask (stable_oneFailure _) (M := fun r past x =>
    (Right s c r ∧ At (Going (k + scansOf c)) (leaves s c r) past x) ∨
      (Failed c r ∧ ¬ Right s c r ∧ At (Fallen k) (leaves s c r) past x)) ?_ fun r => ?_
  · rintro past x r x' ⟨hmood, rfl⟩ ⟨hserved, rfl⟩
    by_cases hr : Right x c r
    · refine Or.inl ⟨hr, ?_, rfl⟩
      rcases hmood with hcalm | ⟨j, hj, hfallen⟩
      · exact Or.inl (hcalm.right hr)
      · exact Or.inr ⟨j, hj, hfallen.right (not_adverse hr)⟩
    · rcases hserved with hright | ⟨hfailed, hnone⟩
      · exact absurd hright hr
      · refine Or.inr ⟨hfailed, hr, ?_, rfl⟩
        rcases hmood with hcalm | ⟨j, -, ⟨m, hm, hadverse⟩, -⟩
        · exact hcalm.fall ⟨_, rfl, hr⟩
        · exact absurd hadverse (hnone m hm)
  · intro past x ms o x' hs hist
    rcases hs with ⟨hr, hmood⟩ | ⟨hfailed, hr, hmood⟩
    · exact hright r hr past x ms o x' hmood hist
    · exact hfall r hfailed hr past x ms o x' hmood hist

/-- A call behind the one that was amiss. -/
theorem fallen_ask {c : Call} {f : Answer c → Prog Answer ε α}
    (hright : ∀ r, Right s c r → Triple oneFailure (At (Fallen k) (leaves s c r)) (f r) Q) :
    Triple oneFailure (At (Fallen k) s) (Prog.ask c >>= f) Q := by
  refine Triple.ask (stable_oneFailure _) (M := fun r past x =>
    Right s c r ∧ At (Fallen k) (leaves s c r) past x) ?_ fun r => ?_
  · rintro past x r x' ⟨hfallen, rfl⟩ ⟨hserved, rfl⟩
    rcases hserved with hr | ⟨-, hnone⟩
    · exact ⟨hr, hfallen.right (not_adverse hr), rfl⟩
    · obtain ⟨m, hm, hadverse⟩ := hfallen.1
      exact absurd hadverse (hnone m hm)
  · rintro past x ms o x' ⟨hr, hmood⟩ hist
    exact hright r hr past x ms o x' hmood hist

/-- The entry is a file without an access list. -/
def Plain (entry : Entry) : Prop :=
  entry.stat.mode &&& fileType = regularFile ∧ entry.hasAcl = false

variable {name : Name} {entry : Entry} {expected : RuntimeArtifactIdentity}

theorem openRight_plain {r : Except SystemError File} (h : OpenRight s name r)
    (hname : s.dir name = some entry) (hplain : Plain entry) : r = .ok ⟨entry⟩ := by
  rcases h with ⟨-, hnone⟩ | ⟨found, hfound, hr⟩
  · rw [hname] at hnone
    cases hnone
  · rw [hname] at hfound
    obtain rfl := Option.some.inj hfound
    rwa [if_neg (by rw [hplain.1]; decide)] at hr

theorem statTold_some {r : Except SystemError Stat} (h : StatTold s name r)
    (hname : s.dir name = some entry) : r = .ok entry.stat := by
  rcases h with ⟨-, hnone⟩ | ⟨found, hfound, hr⟩
  · rw [hname] at hnone
    cases hnone
  · rw [hname] at hfound
    obtain rfl := Option.some.inj hfound
    exact hr

/-- No access list is reported as one that is not there. -/
theorem aclRight_none {file : File} (h : file.entry.hasAcl = false) {r : Except SystemError Unit}
    (hr : Right s (.aclGetFd file) r) : ∃ text, r = .error ⟨.enoent, text⟩ := by
  have hright : if file.entry.hasAcl = true then r = .ok () else IsError r .enoent := hr
  rwa [h, if_neg (by decide)] at hright

theorem going_openNamedCandidate {f : Except OpenFailure File → Prog Answer ε α}
    (hname : s.dir name = some entry) (hplain : Plain entry)
    (hright : Triple oneFailure (At (Going k) s) (f (.ok ⟨entry⟩)) Q)
    (hfall : ∀ failure, Triple oneFailure (At (Fallen k) s) (f (.error failure)) Q) :
    Triple oneFailure (At (Going k) s) (openNamedCandidate name >>= f) Q := by
  refine going_ask (fun r hr => ?_) fun r hfailed _ => ?_
  · obtain rfl := openRight_plain hr hname hplain
    refine going_ask (fun r hr => ?_) fun r hfailed hbad => ?_
    · obtain ⟨text, rfl⟩ := aclRight_none hplain.2 hr
      exact hright
    · obtain ⟨⟨errno, text⟩, rfl⟩ := hfailed
      cases errno with
      | enoent =>
        refine absurd ?_ hbad
        change if entry.hasAcl = true then _ else _
        rw [hplain.2, if_neg (by decide)]
        exact ⟨text, rfl⟩
      | _ => exact hfall .unsafeEntry
  · obtain ⟨error, rfl⟩ := hfailed
    exact hfall (mapOpenError error)

theorem fallen_openNamedCandidate {f : Except OpenFailure File → Prog Answer ε α}
    (hname : s.dir name = some entry) (hplain : Plain entry)
    (hright : Triple oneFailure (At (Fallen k) s) (f (.ok ⟨entry⟩)) Q) :
    Triple oneFailure (At (Fallen k) s) (openNamedCandidate name >>= f) Q := by
  refine fallen_ask fun r hr => ?_
  obtain rfl := openRight_plain hr hname hplain
  refine fallen_ask fun r hr => ?_
  obtain ⟨text, rfl⟩ := aclRight_none hplain.2 hr
  exact hright

theorem going_matches {f : Bool → Prog Answer ε α} (hname : s.dir name = some entry)
    (hright : Triple oneFailure (At (Going k) s) (f (statMatches expected entry.stat)) Q)
    (hfall : Triple oneFailure (At (Fallen k) s) (f false) Q) :
    Triple oneFailure (At (Going k) s) (fstatatNamedMatches name expected >>= f) Q := by
  refine going_ask (fun r hr => ?_) fun r hfailed _ => ?_
  · obtain rfl := statTold_some hr hname
    exact hright
  · obtain ⟨error, rfl⟩ := hfailed
    exact hfall

theorem fallen_matches {f : Bool → Prog Answer ε α} (hname : s.dir name = some entry)
    (hright : Triple oneFailure (At (Fallen k) s) (f (statMatches expected entry.stat)) Q) :
    Triple oneFailure (At (Fallen k) s) (fstatatNamedMatches name expected >>= f) Q := by
  refine fallen_ask fun r hr => ?_
  obtain rfl := statTold_some hr hname
  exact hright

/-! ## Concrete runs -/

/-- The sample directory, frozen. -/
def sampleFreeze : List Step × Except RuntimeFailure ArtifactFreeze × Profile :=
  play (fun _ => rightly) leaves (freeze 501 sampleFrozen.candidate) [] sampleProfile

theorem history_sampleFreeze : Interleaved calm [] sampleProfile (freeze 501 sampleFrozen.candidate)
    sampleFreeze.1 (.ok (.frozen sampleFrozen)) sampleFreeze.2.2 := by
  have hserves : ∀ past s c, True → calm.serves past s c (rightly s c)
      (leaves s c (rightly s c)) ∧ True :=
    fun _ s c _ => ⟨⟨right_rightly s c, rfl⟩, trivial⟩
  have hplayed : Interleaved calm [] sampleProfile (freeze 501 sampleFrozen.candidate)
      sampleFreeze.1 sampleFreeze.2.1 sampleFreeze.2.2 :=
    history_play (W := calm) (I := fun _ => True) hserves _ trivial _
  have hfrozen : sampleFreeze.2.1 = .ok (.frozen sampleFrozen) := by decide +kernel
  rwa [hfrozen] at hplayed

/-- One call fails, the first time it is made. -/
def failsOnce (failing : Call → Bool) (fails : (c : Call) → Answer c) (past : List Step)
    (s : Profile) (c : Call) : Answer c :=
  if failing c && !past.any fun m => m.event.any fun e => failing e.call then fails c
  else rightly s c

/-- What fails once is one failure. -/
theorem history_failsOnce {failing : Call → Bool} {fails : (c : Call) → Answer c}
    (hfails : ∀ c, failing c = true → Failed c (fails c)) {ε : Type} (p : Prog Answer ε α) :
    Interleaved oneFailure [] s p (play (failsOnce failing fails) leaves p [] s).1
      (play (failsOnce failing fails) leaves p [] s).2.1
      (play (failsOnce failing fails) leaves p [] s).2.2 := by
  refine history_play (W := oneFailure) (I := fun past =>
    (past.any fun m => m.event.any fun e => failing e.call) = false → ∀ m ∈ past, ¬ Adverse m)
    (fun past s c hI => ?_) p (fun _ m hm => absurd hm List.not_mem_nil) s
  by_cases hfirst : (failing c && !past.any fun m => m.event.any fun e => failing e.call) = true
  · have hanswer : failsOnce failing fails past s c = fails c := if_pos hfirst
    obtain ⟨hc, hnone⟩ := Bool.and_eq_true_iff.mp hfirst
    rw [Bool.not_eq_true'] at hnone
    rw [hanswer]
    refine ⟨⟨Or.inr ⟨hfails c hc, hI hnone⟩, rfl⟩, fun hany => ?_⟩
    simp [hc] at hany
  · have hanswer : failsOnce failing fails past s c = rightly s c := if_neg hfirst
    rw [hanswer]
    refine ⟨⟨Or.inl (right_rightly s c), rfl⟩, fun hany m hm => ?_⟩
    rw [List.any_append, Bool.or_eq_false_iff] at hany
    rcases List.mem_append.mp hm with hm | hm
    · exact hI hany.1 m hm
    · rw [List.mem_singleton.mp hm]
      exact not_adverse (right_rightly s c)

/-- An unlink fails with an error of the device. -/
def unlinkFails : (c : Call) → Answer c
  | .unlinkat _ => .error ⟨.other 5, "Input/output error"⟩
  | c => rightly sampleProfile c

/-- Is it an unlink? -/
def isUnlink : Call → Bool
  | .unlinkat _ => true
  | _ => false

/-- The removal of the sample artifact, whose unlink fails. -/
def unlinkedFailing : List Step × Except ArtifactDisposition ArtifactDisposition × Profile :=
  play (failsOnce isUnlink unlinkFails) leaves (removeExact 501 sampleFrozen) [] sampleProfile

theorem history_unlinkedFailing : Interleaved oneFailure [] sampleProfile
    (removeExact 501 sampleFrozen) unlinkedFailing.1 unlinkedFailing.2.1 unlinkedFailing.2.2 := by
  refine history_failsOnce (fun c hc => ?_) _
  cases c with
  | unlinkat name => exact ⟨_, rfl⟩
  | _ => cases hc

end Artifacts

end Unlinger
