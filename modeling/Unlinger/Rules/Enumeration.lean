import Unlinger.Rules.Isolation

/-!
# The order of a snapshot does not show

A graph is a table by pid, and a table is what it looks up, so two
snapshots that list the same processes in different orders have one graph.
Observation reads the graph alone. Revalidation reads the list as well,
and asks of it only whether some process is so.
-/

namespace Unlinger

variable {a : Analyzer} {s : Snapshot} {g g' : ProcessGraph} {ps qs : List ProcessRecord}

/-- The graph of a snapshot, whatever the order of its processes. -/
theorem fromSnapshot_perm (hperm : s.processes.Perm ps)
    (hg : ProcessGraph.fromSnapshot s = .ok g)
    (hg' : ProcessGraph.fromSnapshot { s with processes := ps } = .ok g') : g' = g := by
  have huid : g'.currentUid = g.currentUid :=
    (fromSnapshot_ok hg').2.trans (fromSnapshot_ok hg).2.symm
  have htable : g'.table = g.table := by
    refine OrdMap.ext_lookup fun pid => Option.ext fun p => ?_
    constructor
    · intro hp
      obtain ⟨hmem, rfl⟩ := get_mem hg' hp
      exact get_of_mem hg (hperm.mem_iff.2 hmem)
    · intro hp
      obtain ⟨hmem, rfl⟩ := get_mem hg hp
      exact get_of_mem hg' (hperm.mem_iff.1 hmem)
  cases g
  cases g'
  simp_all

/-- Observation of a snapshot, whatever the order of its processes. -/
theorem observe_perm (hperm : s.processes.Perm ps)
    (hdistinct : (s.processes.map ProcessRecord.pid).Nodup) :
    a.observe { s with processes := ps } = a.observe s := by
  obtain ⟨g, hg⟩ := fromSnapshot_isSome.2 hdistinct
  obtain ⟨g', hg'⟩ := (fromSnapshot_isSome (s := { s with processes := ps })).2
    ((hperm.map ProcessRecord.pid).nodup_iff.1 hdistinct)
  obtain rfl := fromSnapshot_perm hperm hg hg'
  simp only [Analyzer.observe, hg, hg']

/-- What the snapshot leaves out is asked of its processes one by one. -/
theorem revalidationFactsIncomplete_perm {plan : CleanupPlan} (hperm : s.processes.Perm ps) :
    revalidationFactsIncomplete a { s with processes := ps } plan =
      revalidationFactsIncomplete a s plan := by
  unfold revalidationFactsIncomplete
  simp only [hperm.length_eq, hperm.any_eq]

/-- The checks before a signal, on the same reports. -/
theorem revalidateTargets_perm {plan : CleanupPlan} {reports : List IncidentReport}
    (hperm : s.processes.Perm ps) :
    a.revalidateTargets { s with processes := ps } plan reports =
      a.revalidateTargets s plan reports := by
  have hcurrent := hperm.filter fun p => (plan.identityOf p.pid).isSome
  have hempty := hcurrent.isEmpty_eq
  have hprotected : a.targetProtected { s with processes := ps } = a.targetProtected s := rfl
  unfold Analyzer.revalidateTargets
  simp only [hempty, hcurrent.any_eq, hprotected]

/-- **The order of enumeration does not show.** Two snapshots that differ
in the order of their processes alone, the pids being distinct, are
observed alike, and every plan is revalidated alike against them in every
phase. -/
theorem enumeration_order_hidden (a : Analyzer) (s : Snapshot) (ps : List ProcessRecord)
    (hperm : s.processes.Perm ps) (hdistinct : (s.processes.map ProcessRecord.pid).Nodup) :
    a.observe { s with processes := ps } = a.observe s ∧
      ∀ plan phase, a.revalidate { s with processes := ps } plan phase = a.revalidate s plan phase := by
  have hobserve := observe_perm (a := a) hperm hdistinct
  refine ⟨hobserve, fun plan phase => ?_⟩
  simp only [Analyzer.revalidate, revalidationFactsIncomplete_perm hperm, hobserve,
    revalidateTargets_perm hperm]

/-- The session that mixes profiles, listed the other way round. -/
theorem enumeration_order_hidden_mixed :
    let reversed := [defaultBrowser 102, profiledBrowser 101 "a", releasedController]
    mixedSnapshot.processes ≠ reversed ∧
      releasedAnalyzer.observe { mixedSnapshot with processes := reversed } =
        releasedAnalyzer.observe mixedSnapshot := by
  refine ⟨by decide, ?_⟩
  exact (enumeration_order_hidden releasedAnalyzer mixedSnapshot _
    (List.reverse_perm mixedSnapshot.processes).symm (by decide)).1

end Unlinger
