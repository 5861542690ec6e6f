import TraceMining.Proofs.Workspace.Ownership

/-
  This file shows that an analysis of all unprocessed sessions
  settles them, if the archive refuses nothing: those that it
  leaves unprocessed are those of which it stores nothing, and
  a second analysis finds nothing new in them.  They are the
  ones that count no patterns, unless a match without a mean
  interval keeps a session from being counted.

  Key definitions include:
    * `Workspace.idle`

  Key theorems include:
    * `Workspace.WellNamed.mem_sessionIds_analyzeUnprocessed`
    * `Workspace.mem_unprocessed_iff`
    * `Workspace.WellNamed.unprocessed_analyzeUnprocessed`
    * `Workspace.WellNamed.unprocessed_eq_idle_iff`
    * `Workspace.WellNamed.analyzeUnprocessed_twice_fst`
    * `Workspace.WellNamed.analyzeUnprocessed_twice_snd`
    * `Workspace.analyzeUnprocessed_settled`
-/

------------------------------------------------------------
-- What Is Left
------------------------------------------------------------

namespace TraceMining

namespace Workspace

variable {w : Workspace}
variable {sessionId : String}

/- The archive gets the sessions of which it stores something. -/
theorem WellNamed.mem_sessionIds_analyzeUnprocessed
    (hNamed : w.WellNamed) :
    sessionId ∈ w.analyzeUnprocessed.2.archive.sessionIds ↔
      sessionId ∈ w.archive.sessionIds ∨
        sessionId ∈ w.unprocessed ∧
          w.written sessionId ≠ [] := by
  have hReachable := hNamed.reachable
  have hAgree := hNamed.agreeOn_written w.unprocessed
  rw [analyzeUnprocessed_snd hReachable.allValid,
    Archive.mem_sessionIds_write hReachable.isLabelled hAgree]
  apply or_congr_right
  constructor
  · rintro ⟨p, hMember, rfl⟩
    rcases List.mem_flatMap.mp hMember with
      ⟨other, hOther, hWritten⟩
    have hOwn := sessionId_of_written hReachable hWritten
    rw [hOwn]
    exact ⟨hOther, List.ne_nil_of_mem hWritten⟩
  · rintro ⟨hHere, hSome⟩
    rcases List.exists_mem_of_ne_nil _ hSome with
      ⟨p, hWritten⟩
    exact ⟨p,
      List.mem_flatMap.mpr ⟨sessionId, hHere, hWritten⟩,
      sessionId_of_written hReachable hWritten⟩

/- A session is unprocessed if it has events but no patterns. -/
theorem mem_unprocessed_iff
    (w : Workspace) :
    sessionId ∈ w.unprocessed ↔
      ∃ s ∈ w.log.listSessions,
        s.id = sessionId ∧
          0 < s.eventCount ∧
            sessionId ∉ w.archive.sessionIds := by
  simp only [unprocessed, List.mem_map, List.mem_filter,
    Bool.and_eq_true, decide_eq_true_eq, Bool.not_eq_true',
    List.contains_eq_mem, decide_eq_false_iff_not]
  constructor
  · rintro ⟨s, ⟨hListed, hSome, hNew⟩, rfl⟩
    exact ⟨s, hListed, rfl, hSome, hNew⟩
  · rintro ⟨s, hListed, rfl, hSome, hNew⟩
    exact ⟨s, ⟨hListed, hSome, hNew⟩, rfl⟩

/- The others are left unprocessed. -/
theorem WellNamed.unprocessed_analyzeUnprocessed
    (hNamed : w.WellNamed) :
    w.analyzeUnprocessed.2.unprocessed =
      w.unprocessed.filter fun sessionId =>
        (w.written sessionId).isEmpty := by
  have hLog : w.analyzeUnprocessed.2.log = w.log := by
    rw [analyzeUnprocessed_snd hNamed.reachable.allValid]
  rw [unprocessed, hLog, unprocessed, List.filter_map,
    List.filter_filter]
  apply congrArg (List.map Session.id)
  apply List.filter_congr
  intro s hListed
  have hDone :=
    @WellNamed.mem_sessionIds_analyzeUnprocessed w s.id hNamed
  -- The batch holds every session that can come off the list.
  have hHere :
      0 < s.eventCount → s.id ∉ w.archive.sessionIds →
        s.id ∈ w.unprocessed := by
    intro hSome hNew
    exact w.mem_unprocessed_iff.mpr
      ⟨s, hListed, rfl, hSome, hNew⟩
  rw [Bool.eq_iff_iff]
  simp only [Function.comp_apply, Bool.and_eq_true,
    decide_eq_true_eq, Bool.not_eq_true',
    List.contains_eq_mem, decide_eq_false_iff_not,
    List.isEmpty_iff, hDone]
  tauto

end Workspace

end TraceMining

------------------------------------------------------------
-- Second Analyses
------------------------------------------------------------

namespace TraceMining

namespace Workspace

variable {w : Workspace}

/- The counts of sessions without patterns. -/
def idle
    (counts : List (String × Nat)) : List (String × Nat) :=
  counts.filter fun c => c.2 == 0

/- A session that is left is not counted, or without patterns. -/
theorem WellNamed.unprocessed_eq_filter
    (hNamed : w.WellNamed)
    (hFault : w.archiveFault = Archive.WriteFault.none) :
    w.analyzeUnprocessed.2.unprocessed =
      w.unprocessed.filter fun sessionId =>
        (w.count? sessionId).all fun c => c.2 == 0 := by
  rw [hNamed.unprocessed_analyzeUnprocessed]
  simp only [isEmpty_written hNamed.reachable hFault]

/- All of them are without patterns if all have means. -/
theorem WellNamed.unprocessed_eq_idle_iff
    (hNamed : w.WellNamed)
    (hFault : w.archiveFault = Archive.WriteFault.none) :
    w.analyzeUnprocessed.2.unprocessed =
        (idle w.analyzeUnprocessed.1).map Prod.fst ↔
      ∀ sessionId ∈ w.unprocessed, w.HasMeans sessionId := by
  have hReachable := hNamed.reachable
  rw [hNamed.unprocessed_eq_filter hFault,
    analyzeUnprocessed_fst, idle, map_fst_filter_count?]
  constructor
  · intro hSame sessionId hHere
    by_contra hMeans
    have hNone := count?_eq_none hReachable.allValid hMeans
    have hLeft :
        sessionId ∈ w.unprocessed.filter fun sessionId =>
          (w.count? sessionId).all fun c => c.2 == 0 := by
      rw [List.mem_filter, hNone]
      exact ⟨hHere, rfl⟩
    rw [hSame, List.mem_filter, hNone] at hLeft
    exact Bool.false_ne_true hLeft.2
  · intro hMeans
    apply List.filter_congr
    intro sessionId hHere
    rw [count?_eq_some_of_none hReachable hFault
      (hMeans sessionId hHere)]
    rfl

/- A second analysis stores nothing. -/
theorem WellNamed.analyzeUnprocessed_twice_snd
    (hNamed : w.WellNamed) :
    w.analyzeUnprocessed.2.analyzeUnprocessed.2 =
      w.analyzeUnprocessed.2 := by
  have hValid := hNamed.reachable.allValid
  have hLeft := hNamed.unprocessed_analyzeUnprocessed
  have hNext := analyzeUnprocessed_snd hValid
  have hNextValid : w.analyzeUnprocessed.2.AllValid := by
    rw [hNext]
    exact hValid
  have hNothing :
      w.analyzeUnprocessed.2.unprocessed.flatMap
        w.analyzeUnprocessed.2.written = [] := by
    rw [List.flatMap_eq_nil_iff, hLeft]
    intro sessionId hHere
    rw [List.mem_filter, List.isEmpty_iff] at hHere
    rw [hNext]
    exact hHere.2
  rw [analyzeUnprocessed_snd hNextValid, hNothing]
  rfl

/- It counts those that are left without patterns. -/
theorem WellNamed.analyzeUnprocessed_twice_fst
    (hNamed : w.WellNamed)
    (hFault : w.archiveFault = Archive.WriteFault.none) :
    w.analyzeUnprocessed.2.analyzeUnprocessed.1 =
      idle w.analyzeUnprocessed.1 := by
  have hCount :
      w.analyzeUnprocessed.2.count? = w.count? := by
    rw [analyzeUnprocessed_snd hNamed.reachable.allValid,
      count?_archive]
  rw [analyzeUnprocessed_fst, hCount,
    hNamed.unprocessed_eq_filter hFault,
    analyzeUnprocessed_fst, idle, List.filterMap_filter,
    List.filter_filterMap]
  apply List.filterMap_congr
  intro sessionId _
  cases w.count? sessionId with
  | none => rfl
  | some c => rfl

/-
  Whatever was done to a workspace before, an analysis of all
  unprocessed sessions while nothing is refused leaves those
  unprocessed that are without patterns or are not counted.
  It leaves just those that count no patterns if all matches
  have means, and only then.  A second analysis after it gives
  the counts of sessions without patterns again, and changes
  nothing.
-/
theorem analyzeUnprocessed_settled
    (hNamed : w.WellNamed)
    (hFault : w.archiveFault = Archive.WriteFault.none) :
    w.analyzeUnprocessed.2.unprocessed =
        (w.unprocessed.filter fun sessionId =>
          (w.count? sessionId).all fun c => c.2 == 0) ∧
      (w.analyzeUnprocessed.2.unprocessed =
          (idle w.analyzeUnprocessed.1).map Prod.fst ↔
        ∀ sessionId ∈ w.unprocessed,
          w.HasMeans sessionId) ∧
      w.analyzeUnprocessed.2.analyzeUnprocessed =
        (idle w.analyzeUnprocessed.1,
          w.analyzeUnprocessed.2) :=
  ⟨hNamed.unprocessed_eq_filter hFault,
    hNamed.unprocessed_eq_idle_iff hFault,
    Prod.ext (hNamed.analyzeUnprocessed_twice_fst hFault)
      hNamed.analyzeUnprocessed_twice_snd⟩

/- Of three sessions the one without patterns is left. -/
theorem analyzeUnprocessed_settled_threeSessions :
    threeSessions.WellNamed ∧
      threeSessions.archiveFault =
          Archive.WriteFault.none ∧
      threeSessions.analyzeUnprocessed.1 =
        [("s", 1), ("t", 1), ("u", 0)] ∧
      threeSessions.analyzeUnprocessed.2.unprocessed =
        ["u"] ∧
      threeSessions.analyzeUnprocessed.2.analyzeUnprocessed =
        ([("u", 0)], threeSessions.analyzeUnprocessed.2) := by
  rcases count?_threeSessions with
    ⟨hAll, hMeans, hS, hT, hU⟩
  rcases analyzeUnprocessed_settled wellNamed_threeSessions
    rfl with ⟨_, hLeft, hTwice⟩
  have hFirst :
      threeSessions.analyzeUnprocessed.1 =
        [("s", 1), ("t", 1), ("u", 0)] := by
    rw [analyzeUnprocessed_fst, hAll]
    simp only [List.filterMap_cons, List.filterMap_nil, hS,
      hT, hU]
  rw [hFirst] at hLeft hTwice
  exact ⟨wellNamed_threeSessions, rfl, hFirst,
    hLeft.mpr fun sessionId _ => hMeans sessionId, hTwice⟩

/- A session with a match without a mean is left as well. -/
theorem not_analyzeUnprocessed_settled_apart :
    (apart Binary.overflow).WellNamed ∧
      (apart Binary.overflow).archiveFault =
          Archive.WriteFault.none ∧
      (apart Binary.overflow).analyzeUnprocessed.1 = [] ∧
      (apart
          Binary.overflow).analyzeUnprocessed.2.unprocessed =
        ["s"] := by
  have hNamed : (apart Binary.overflow).WellNamed :=
    wellNamed_apart (by decide +kernel)
  have hAll :
      (apart Binary.overflow).unprocessed = ["s"] := by
    decide +kernel
  have hMeans : ¬ (apart Binary.overflow).HasMeans "s" :=
    not_hasMeans_apart (Int.le_refl _)
  have hNone := count?_eq_none hNamed.reachable.allValid hMeans
  refine ⟨hNamed, rfl, ?_, ?_⟩
  · rw [analyzeUnprocessed_fst, hAll, List.filterMap_cons,
      hNone]
    rfl
  · rw [hNamed.unprocessed_eq_filter rfl, hAll,
      List.filter_cons, hNone]
    rfl

end Workspace

end TraceMining
