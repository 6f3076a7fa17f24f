import Mathlib.Data.List.Dedup
import Unlinger.Rules.Model.Analyzer

/-!
# Where reports come from

Every report of an observation is the report of a session, every session
is a candidate with its root in the graph, and everything a session names
is a process of the snapshot.
-/

namespace Unlinger

variable {a : Analyzer} {s : Snapshot} {g : ProcessGraph} {c : Candidate} {session : Session}
  {reports : List IncidentReport} {r : IncidentReport}

/-! ## Graphs -/

theorem insertAll_lookup {m m' : OrdMap Pid ProcessRecord} {ps : List ProcessRecord}
    (h : ProcessGraph.insertAll m ps = .ok m') {pid : Pid} {p : ProcessRecord}
    (hp : m'.lookup pid = some p) : m.lookup pid = some p ∨ p ∈ ps ∧ p.pid = pid := by
  induction ps generalizing m with
  | nil =>
      cases h
      exact Or.inl hp
  | cons q qs ih =>
      unfold ProcessGraph.insertAll at h
      split_ifs at h
      rcases ih h with hold | ⟨hmem, hpid⟩
      · rw [OrdMap.lookup_insert] at hold
        by_cases hq : pid = q.pid
        · rw [if_pos hq] at hold
          obtain rfl := Option.some.inj hold
          exact Or.inr ⟨by simp, hq.symm⟩
        · rw [if_neg hq] at hold
          exact Or.inl hold
      · exact Or.inr ⟨by simp [hmem], hpid⟩

theorem fromSnapshot_ok (h : ProcessGraph.fromSnapshot s = .ok g) :
    ProcessGraph.insertAll OrdMap.empty s.processes = .ok g.table ∧ g.currentUid = s.currentUid := by
  unfold ProcessGraph.fromSnapshot at h
  cases hins : ProcessGraph.insertAll OrdMap.empty s.processes with
  | error e => simp [hins, bind, Except.bind] at h
  | ok m =>
      simp only [hins, bind, Except.bind, pure, Except.pure, Except.ok.injEq] at h
      subst h
      exact ⟨rfl, rfl⟩

/-- The graph of a snapshot holds the snapshot's processes under their
pids. -/
theorem get_mem (h : ProcessGraph.fromSnapshot s = .ok g) {pid : Pid} {p : ProcessRecord}
    (hp : g.get pid = some p) : p ∈ s.processes ∧ p.pid = pid := by
  rcases insertAll_lookup (fromSnapshot_ok h).1 hp with hbad | hmem
  · simp at hbad
  · exact hmem

theorem mem_processes {p : ProcessRecord} (h : ProcessGraph.fromSnapshot s = .ok g) :
    p ∈ g.processes ↔ g.get p.pid = some p := by
  rw [ProcessGraph.processes, OrdMap.mem_values]
  constructor
  · rintro ⟨pid, hpid⟩
    have hp := (get_mem h hpid).2
    rw [ProcessGraph.get, hp]
    exact hpid
  · exact fun hp => ⟨p.pid, hp⟩

/-- Entering processes keeps what is there and leaves every process under
its own pid. -/
theorem insertAll_keeps {m m' : OrdMap Pid ProcessRecord} {ps : List ProcessRecord}
    (h : ProcessGraph.insertAll m ps = .ok m') :
    (∀ pid p, m.lookup pid = some p → m'.lookup pid = some p) ∧
      ∀ p ∈ ps, m'.lookup p.pid = some p := by
  induction ps generalizing m with
  | nil =>
      cases h
      exact ⟨fun _ _ hp => hp, by simp⟩
  | cons q qs ih =>
      unfold ProcessGraph.insertAll at h
      split_ifs at h with hq
      obtain ⟨hkeep, hall⟩ := ih h
      have hnone : m.lookup q.pid = none := by
        simpa [OrdMap.contains] using hq
      refine ⟨fun pid p hp => hkeep pid p ?_, fun p hp => ?_⟩
      · rw [OrdMap.lookup_insert, if_neg]
        · exact hp
        · rintro rfl
          rw [hnone] at hp
          cases hp
      · rcases List.mem_cons.1 hp with rfl | hp
        · exact hkeep p.pid p (by rw [OrdMap.lookup_insert, if_pos rfl])
        · exact hall p hp

/-- Every process of the snapshot is in its graph. -/
theorem get_of_mem (h : ProcessGraph.fromSnapshot s = .ok g) {p : ProcessRecord}
    (hp : p ∈ s.processes) : g.get p.pid = some p :=
  (insertAll_keeps (fromSnapshot_ok h).1).2 p hp

/-- Processes can be entered when no pid is met twice. -/
theorem insertAll_isSome {m : OrdMap Pid ProcessRecord} {ps : List ProcessRecord} :
    (∃ m', ProcessGraph.insertAll m ps = .ok m') ↔
      (ps.map ProcessRecord.pid).Nodup ∧ ∀ p ∈ ps, m.lookup p.pid = none := by
  induction ps generalizing m with
  | nil => simp [ProcessGraph.insertAll]
  | cons p ps ih =>
      unfold ProcessGraph.insertAll
      by_cases hp : m.contains p.pid = true
      · rw [if_pos hp]
        have hthere : m.lookup p.pid ≠ none := Option.isSome_iff_ne_none.1 hp
        simp [hthere]
      · rw [if_neg hp, ih]
        have hnone : m.lookup p.pid = none := by simpa [OrdMap.contains] using hp
        simp only [List.map_cons, List.nodup_cons, List.mem_map, not_exists, not_and,
          List.forall_mem_cons, hnone, true_and]
        constructor
        · rintro ⟨hdistinct, hfree⟩
          refine ⟨⟨fun q hq hpid => ?_, hdistinct⟩, fun q hq => ?_⟩
          · have hq := hfree q hq
            rw [OrdMap.lookup_insert, if_pos hpid] at hq
            cases hq
          · have hq := hfree q hq
            rw [OrdMap.lookup_insert] at hq
            split_ifs at hq
            exact hq
        · rintro ⟨⟨hother, hdistinct⟩, hfree⟩
          refine ⟨hdistinct, fun q hq => ?_⟩
          rw [OrdMap.lookup_insert, if_neg (hother q hq)]
          exact hfree q hq

/-- A snapshot has a graph when its pids are distinct. -/
theorem fromSnapshot_isSome :
    (∃ g, ProcessGraph.fromSnapshot s = .ok g) ↔ (s.processes.map ProcessRecord.pid).Nodup := by
  have hinsert := @insertAll_isSome OrdMap.empty s.processes
  rw [show (∀ p ∈ s.processes, (OrdMap.empty : OrdMap Pid ProcessRecord).lookup p.pid = none) ↔ True
    from by simp, and_true] at hinsert
  rw [← hinsert]
  constructor
  · rintro ⟨g, hg⟩
    exact ⟨g.table, (fromSnapshot_ok hg).1⟩
  · rintro ⟨m, hm⟩
    exact ⟨⟨s.currentUid, m⟩, by simp [ProcessGraph.fromSnapshot, hm, bind, Except.bind, pure,
      Except.pure]⟩

/-- Two processes of one snapshot with one identity are one. -/
theorem eq_of_identity (h : ProcessGraph.fromSnapshot s = .ok g) {p q : ProcessRecord}
    (hp : p ∈ s.processes) (hq : q ∈ s.processes) (hid : p.identity = q.identity) : p = q := by
  have hpid : p.pid = q.pid := congrArg ProcessIdentity.pid hid
  have hget := get_of_mem h hp
  rw [hpid, get_of_mem h hq] at hget
  exact (Option.some.inj hget).symm

/-- A process is among its own descendants. -/
theorem mem_descendantPids {pid : Pid} {p : ProcessRecord} (h : g.get pid = some p) :
    pid ∈ g.descendantPids pid := by
  -- what the walk has found it keeps
  have hkeep : ∀ fuel queue seen found, pid ∈ found →
      pid ∈ ProcessGraph.descendants g fuel queue seen found := by
    intro fuel
    induction fuel with
    | zero => exact fun _ _ _ hf => hf
    | succ fuel ih =>
        intro queue seen found hf
        cases queue with
        | nil => exact hf
        | cons q queue =>
            unfold ProcessGraph.descendants
            split_ifs
            · exact ih _ _ _ hf
            · exact ih _ _ _ (List.mem_cons_of_mem _ hf)
            · exact ih _ _ _ hf
  rw [ProcessGraph.descendantPids, List.mem_insertionSort]
  unfold ProcessGraph.descendants
  simp only [List.not_mem_nil, if_false, h, Option.isSome_some, if_true]
  exact hkeep _ _ _ _ (by simp)

/-! ## Candidates -/

/-- The fold that selects candidates holds nothing but candidates, each
under its root. -/
theorem foldl_selectCandidate {cs : List Candidate} {m : OrdMap Pid Candidate} {pid : Pid}
    (h : (cs.foldl selectCandidate m).lookup pid = some c) :
    m.lookup pid = some c ∨ c ∈ cs ∧ c.rootPid = pid := by
  induction cs generalizing m with
  | nil => exact Or.inl h
  | cons d ds ih =>
      rcases ih h with hold | ⟨hmem, hroot⟩
      · have hstep : m.lookup pid = some c ∨ c = d ∧ d.rootPid = pid := by
          unfold selectCandidate at hold
          split at hold
          · rw [OrdMap.lookup_insert] at hold
            split_ifs at hold with hpid
            · exact Or.inr ⟨(Option.some.inj hold).symm, hpid.symm⟩
            · exact Or.inl hold
          · split_ifs at hold
            · rw [OrdMap.lookup_insert] at hold
              split_ifs at hold with hpid
              · exact Or.inr ⟨(Option.some.inj hold).symm, hpid.symm⟩
              · exact Or.inl hold
            · exact Or.inl hold
        rcases hstep with hold | ⟨rfl, hroot⟩
        · exact Or.inl hold
        · exact Or.inr ⟨by simp, hroot⟩
      · exact Or.inr ⟨by simp [hmem], hroot⟩

/-- A candidate is one of some pack's. -/
theorem candidate_pack (h : c ∈ a.candidates g) :
    ∃ pack ∈ a.rules.packs, c ∈ packCandidates g pack := by
  obtain ⟨pid, hpid⟩ := OrdMap.mem_values.1 h
  rcases foldl_selectCandidate hpid with hbad | ⟨hmem, -⟩
  · simp at hbad
  · exact List.mem_flatMap.1 hmem

/-- Two candidates of one root are one. -/
theorem candidate_unique {d : Candidate} (hc : c ∈ a.candidates g) (hd : d ∈ a.candidates g)
    (hroot : c.rootPid = d.rootPid) : c = d := by
  obtain ⟨k, hk⟩ := OrdMap.mem_values.1 hc
  obtain ⟨l, hl⟩ := OrdMap.mem_values.1 hd
  have hkr : c.rootPid = k := by
    rcases foldl_selectCandidate hk with hbad | ⟨-, hr⟩
    · simp at hbad
    · exact hr
  have hlr : d.rootPid = l := by
    rcases foldl_selectCandidate hl with hbad | ⟨-, hr⟩
    · simp at hbad
    · exact hr
  rw [← hkr, hroot, hlr, hl] at hk
  exact (Option.some.inj hk).symm

/-- What every candidate of a pack keeps to: its browsers are members, and
its controller is not one of them. -/
structure Candidate.Sound (g : ProcessGraph) (pack : SignaturePack) (c : Candidate) : Prop where
  pack : c.pack = pack
  browsers : ∀ pid ∈ c.browserRootPids, ∀ p, g.get pid = some p → pid ∈ c.memberPids
  controller : ∀ pid ∈ c.browserRootPids, c.controllerPid ≠ some pid

theorem packCandidates_sound {pack : SignaturePack} (h : c ∈ packCandidates g pack) :
    c.Sound g pack := by
  simp only [packCandidates, List.mem_append, List.mem_map, List.mem_filter] at h
  rcases h with (⟨pid, ⟨hctl, -⟩, rfl⟩ | ⟨pid, -, rfl⟩) | ⟨pid, ⟨hroot, -⟩, rfl⟩
  · -- a controller is no browser root, and its browsers are below it
    refine ⟨rfl, fun b hb p hp => ?_, fun b hb hc => ?_⟩
    · simp only [ownedCandidate, List.mem_dedup, List.mem_insertionSort, List.mem_cons,
        List.mem_append, List.mem_flatMap]
      exact Or.inr (Or.inl ⟨b, hb, mem_descendantPids hp⟩)
    · have hb' : b ∈ browserRootPids g pack := (List.mem_filter.1 hb).1
      obtain rfl : pid = b := Option.some.inj hc
      obtain ⟨p, hp, hpid⟩ := List.mem_map.1 hctl
      have hno := (List.mem_filter.1 hp).2
      simp only [List.contains_eq_mem, hpid, hb', decide_true, Bool.not_true, Bool.false_and,
        Bool.false_eq_true] at hno
  · exact ⟨rfl, by simp [bareCandidate], by simp [bareCandidate]⟩
  · refine ⟨rfl, fun b hb p hp => ?_, fun b hb hc => by cases hc⟩
    obtain rfl : b = pid := List.mem_singleton.1 hb
    exact mem_descendantPids hp

/-! ## Sessions and reports -/

theorem session_of (h : Session.of g c = some session) :
    session.graph = g ∧ session.candidate = c ∧ g.get c.rootPid = some session.root ∧
      session.members = c.memberPids.filterMap g.get ∧
      session.browserRoots = c.browserRootPids.filterMap g.get := by
  unfold Session.of at h
  obtain ⟨root, hroot, rfl⟩ := Option.map_eq_some_iff.1 h
  exact ⟨rfl, rfl, hroot, rfl, rfl⟩

/-- The pack of a session is one of the rules. -/
theorem session_pack (h : session ∈ a.sessions g) :
    ∃ pack ∈ a.rules.packs, pack.id = session.pack.id ∧ pack.version = session.pack.version := by
  obtain ⟨c, hc, hof⟩ := List.mem_filterMap.1 h
  obtain ⟨pack, hmem, hcand⟩ := candidate_pack hc
  obtain ⟨-, rfl, -⟩ := session_of hof
  have hpack : session.pack = pack := (packCandidates_sound hcand).pack
  exact ⟨pack, hmem, by rw [hpack], by rw [hpack]⟩

/-- Two sessions of one root are one. -/
theorem session_unique {other : Session} (hg : ProcessGraph.fromSnapshot s = .ok g)
    (h : session ∈ a.sessions g) (hother : other ∈ a.sessions g)
    (hroot : session.root.pid = other.root.pid) : session = other := by
  obtain ⟨c, hc, hof⟩ := List.mem_filterMap.1 h
  obtain ⟨d, hd, hod⟩ := List.mem_filterMap.1 hother
  obtain ⟨-, -, hcget, -⟩ := session_of hof
  obtain ⟨-, -, hdget, -⟩ := session_of hod
  have hcd : c.rootPid = d.rootPid := by
    rw [← (get_mem hg hcget).2, ← (get_mem hg hdget).2, hroot]
  obtain rfl := candidate_unique hc hd hcd
  rw [hof] at hod
  exact Option.some.inj hod

/-- An observation reports exactly its sessions. -/
theorem mem_observe (h : a.observe s = .ok reports) :
    ∃ g, ProcessGraph.fromSnapshot s = .ok g ∧ ∀ r, r ∈ reports ↔
      ∃ session ∈ a.sessions g, r = a.report session s.observedAtUnixMillis := by
  unfold Analyzer.observe at h
  cases hg : ProcessGraph.fromSnapshot s with
  | error e =>
      rw [hg] at h
      cases h
  | ok g =>
      rw [hg] at h
      refine ⟨g, rfl, fun r => ?_⟩
      obtain rfl := Except.ok.inj h
      rw [List.mem_insertionSort, List.mem_filterMap]
      constructor
      · rintro ⟨c, hc, hr⟩
        obtain ⟨session, hs, rfl⟩ := Option.map_eq_some_iff.1 hr
        exact ⟨session, List.mem_filterMap.2 ⟨c, hc, hs⟩, rfl⟩
      · rintro ⟨session, hs, rfl⟩
        obtain ⟨c, hc, hs⟩ := List.mem_filterMap.1 hs
        exact ⟨c, hc, Option.map_eq_some_iff.2 ⟨session, hs, rfl⟩⟩

/-- The targets of a report are processes of the snapshot. -/
theorem target_mem (h : a.observe s = .ok reports) (hr : r ∈ reports) {t : ProcessTarget}
    (ht : t ∈ r.targets) : ∃ p ∈ s.processes, p.identity = t.identity := by
  obtain ⟨g, hg, hiff⟩ := mem_observe h
  obtain ⟨session, hs, rfl⟩ := (hiff r).1 hr
  obtain ⟨c, -, hof⟩ := List.mem_filterMap.1 hs
  obtain ⟨-, -, -, hmembers, -⟩ := session_of hof
  have ht' : t ∈ session.targets := ht
  obtain ⟨p, hp, rfl⟩ := List.mem_map.1 ht'
  rw [hmembers] at hp
  obtain ⟨pid, -, hget⟩ := List.mem_filterMap.1 hp
  exact ⟨p, (get_mem hg hget).1, rfl⟩

/-- Two reports of an observation are of two roots. -/
theorem report_unique (h : a.observe s = .ok reports) {x y : IncidentReport} (hx : x ∈ reports)
    (hy : y ∈ reports) (hroot : x.root.pid = y.root.pid) : x = y := by
  obtain ⟨g, hg, hiff⟩ := mem_observe h
  obtain ⟨session, hs, rfl⟩ := (hiff x).1 hx
  obtain ⟨other, hother, rfl⟩ := (hiff y).1 hy
  obtain rfl := session_unique hg hs hother hroot
  rfl

/-- **What a confirmed report rests on**: a cooling report of either
observation, of one key and the same processes. -/
theorem reconcile_agrees {first second : List IncidentReport} {keys : List String}
    (h : r ∈ reconcileWithAbandonment first second keys) (hstate : r.state = .confirmed)
    (hnone : ∀ x ∈ second, x.state ≠ .confirmed) :
    ∃ previous ∈ first, ∃ current ∈ second, previous.state = .cooling ∧ current.state = .cooling ∧
      previous.trackingKey = current.trackingKey ∧
      previous.root.identityFingerprint = current.root.identityFingerprint ∧
      previous.memberFingerprint = current.memberFingerprint ∧ current.trackingKey ∈ keys ∧
      r = reconcileReport previous current true := by
  obtain ⟨x, hx, rfl⟩ := List.mem_map.1 h
  by_cases hcool : x.state = .cooling
  · rw [if_neg (not_not.2 hcool)] at hstate ⊢
    cases hfind : first.reverse.find? fun r => r.trackingKey == x.trackingKey with
    | none =>
        rw [hfind] at hstate
        exact absurd hstate (hnone x hx)
    | some previous =>
        simp only [hfind] at hstate ⊢
        have hkey : previous.trackingKey = x.trackingKey := by simpa using List.find?_some hfind
        have hmem : previous ∈ first := List.mem_reverse.1 (List.mem_of_find?_eq_some hfind)
        by_cases hprevious : previous.state = .cooling
        · rw [if_neg (not_not.2 hprevious)] at hstate ⊢
          -- confirmed only where nothing changed and every gate is open
          have hopen : ((previous.root.identityFingerprint == x.root.identityFingerprint
              && previous.memberFingerprint == x.memberFingerprint) = true)
              ∧ keys.contains x.trackingKey = true := by
            by_contra hno
            unfold reconcileReport at hstate
            simp only [GateLedger.cleanupEligible] at hstate
            split at hstate
            · rename_i hif
              simp only [Bool.and_eq_true] at hif hno
              exact hno ⟨hif.1, by tauto⟩
            · split at hstate
              · cases hstate
              · exact hnone x hx hstate
          obtain ⟨hunchanged, hconfirmed⟩ := hopen
          simp only [Bool.and_eq_true, beq_iff_eq] at hunchanged
          refine ⟨previous, hmem, x, hx, hprevious, hcool, hkey, hunchanged.1, hunchanged.2, ?_, ?_⟩
          · simpa using hconfirmed
          · rw [hconfirmed]
        · rw [if_pos hprevious] at hstate
          exact absurd hstate (hnone x hx)
  · rw [if_pos hcool] at hstate
    exact absurd hstate (hnone x hx)

end Unlinger
