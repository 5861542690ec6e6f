import TraceMining.Proofs.Workspace.Ownership

/-
  This file shows that sessions for which the archive refuses
  to write do not disturb the others when all unprocessed
  sessions are analyzed together.  Each of the others counts
  what it would count if the archive refused nothing, and its
  patterns are stored as they would be then.  What is left out
  apart from refused sessions are those with a match that has
  no mean interval.

  Key definitions include:
    * `Archive.WriteFault.isOutside`
    * `Workspace.refusing`
    * `Workspace.accepting`
    * `Workspace.spared`

  Key theorems include:
    * `Workspace.WellNamed.refusing`
    * `Workspace.count?_refusing`
    * `Workspace.filter_written_refusing`
    * `Workspace.WellNamed.only_analyzeUnprocessed`
    * `Workspace.analyzeUnprocessed_isolated`
-/

------------------------------------------------------------
-- Refusals
------------------------------------------------------------

namespace TraceMining

/- The patterns of sessions that the archive does not refuse. -/
def Archive.WriteFault.isOutside
    (fault : WriteFault)
    (p : Pattern) : Bool :=
  !fault.sessions.contains p.sessionId

namespace Workspace

/- The workspace when its archive refuses some sessions. -/
def refusing
    (w : Workspace)
    (fault : Archive.WriteFault) : Workspace :=
  { w with archiveFault := fault }

/- The workspace when its archive refuses nothing. -/
def accepting
    (w : Workspace) : Workspace :=
  w.refusing Archive.WriteFault.none

/-
  The unprocessed sessions in which nothing is found that the
  archive refuses.
-/
def spared
    (w : Workspace)
    (fault : Archive.WriteFault) : List String :=
  w.unprocessed.filter fun sessionId =>
    !w.isRefused fault sessionId

variable {w : Workspace}

/- Such a workspace can be reached, too. -/
theorem Reachable.refusing
    (hReachable : w.Reachable)
    (fault : Archive.WriteFault) :
    (w.refusing fault).Reachable := by
  rcases hReachable with ⟨catalog, now, version, ops, rfl⟩
  refine ⟨catalog, now, version, ops ++ [.refuse fault], ?_⟩
  rw [run_append]
  rfl

/- Its names are those that it had before. -/
theorem WellNamed.refusing
    (hNamed : w.WellNamed)
    (fault : Archive.WriteFault) :
    (w.refusing fault).WellNamed := by
  rcases hNamed with
    ⟨catalog, now, version, ops, rfl, hColons, hApart⟩
  refine ⟨catalog, now, version, ops ++ [.refuse fault],
    ?_, ?_, ?_⟩
  · rw [run_append]
    rfl
  · rw [arrivals_append]
    intro e hArrived
    rcases List.mem_append.mp hArrived with hOld | hNew
    · exact hColons e hOld
    · exact absurd hNew List.not_mem_nil
  · refine hApart.mono ?_
    rintro name (⟨first, sessionId, hPart, hName⟩ |
      ⟨sessionId, hName⟩)
    · -- The last operation is not an analysis.
      rcases List.prefix_concat_iff.mp hPart with
        hAll | hBefore
      · have hLast := List.append_inj_right' hAll rfl
        simp at hLast
      · exact Or.inl ⟨first, sessionId, hBefore, hName⟩
    · rw [run_append] at hName
      exact Or.inr ⟨sessionId, hName⟩

end Workspace

end TraceMining

------------------------------------------------------------
-- Counting
------------------------------------------------------------

namespace TraceMining

namespace Workspace

variable {w : Workspace}
variable {fault : Archive.WriteFault}

/- A match without a mean is in the way of any count. -/
theorem count?_refusing_eq_none
    (hReachable : w.Reachable)
    (fault : Archive.WriteFault)
    {sessionId : String}
    (hMeans : ¬ w.HasMeans sessionId) :
    (w.refusing fault).count? sessionId = none :=
  count?_eq_none (hReachable.refusing fault).allValid hMeans

/- A session counts what it would count, or is refused. -/
theorem count?_refusing
    (hReachable : w.Reachable)
    (fault : Archive.WriteFault)
    (sessionId : String) :
    (w.refusing fault).count? sessionId =
      if w.isRefused fault sessionId then none
      else w.accepting.count? sessionId := by
  have hFaulty := hReachable.refusing fault
  have hFine : w.accepting.Reachable :=
    hReachable.refusing Archive.WriteFault.none
  by_cases hMeans : w.HasMeans sessionId
  · rw [count?_eq_some hFaulty hMeans,
      count?_eq_some_of_none hFine rfl hMeans]
    rfl
  · rw [count?_refusing_eq_none hReachable fault hMeans,
      accepting,
      count?_refusing_eq_none hReachable
        Archive.WriteFault.none hMeans,
      ite_self]

/- So the sessions that are spared count what they would. -/
theorem analyzeUnprocessed_fst_refusing
    (hReachable : w.Reachable)
    (fault : Archive.WriteFault) :
    (w.refusing fault).analyzeUnprocessed.1 =
      (w.spared fault).filterMap w.accepting.count? := by
  have hEach :
      (w.refusing fault).analyzeUnprocessed.1 =
        w.unprocessed.filterMap
          (w.refusing fault).count? :=
    analyzeUnprocessed_fst (w.refusing fault)
  rw [hEach, spared, List.filterMap_filter]
  apply List.filterMap_congr
  intro sessionId _
  rw [count?_refusing hReachable]
  cases w.isRefused fault sessionId with
  | true => rfl
  | false => rfl

end Workspace

end TraceMining

------------------------------------------------------------
-- Storing
------------------------------------------------------------

namespace TraceMining

namespace Workspace

variable {w : Workspace}
variable {fault : Archive.WriteFault}

/- Of a session outside, the same is written. -/
theorem written_refusing_of_outside
    (hReachable : w.Reachable)
    {sessionId : String}
    (hOutside : fault.sessions.contains sessionId = false) :
    (w.refusing fault).written sessionId =
      w.accepting.written sessionId := by
  simp only [written, accepting, refusing]
  cases hFound :
      recognize w.loaded (w.log.listEvents sessionId) with
  | error what => rfl
  | ok ps =>
      have hOwn := sessionId_of_recognize hReachable hFound
      have hFaulty : fault.refuses ps = false := by
        rw [Archive.WriteFault.refuses_eq hOwn, hOutside]
        rfl
      have hFine :
          Archive.WriteFault.none.refuses ps = false :=
        Archive.WriteFault.refuses_eq hOwn
      simp only [Archive.WriteFault.kept_eq_self hFaulty,
        Archive.WriteFault.kept_eq_self hFine]

/- No pattern outside is written of another session. -/
theorem filter_written_of_inside
    (hReachable : w.Reachable)
    {sessionId : String}
    (hInside : fault.sessions.contains sessionId = true) :
    (w.written sessionId).filter fault.isOutside = [] := by
  rw [List.filter_eq_nil_iff]
  intro p hWritten
  have hOwn := sessionId_of_written hReachable hWritten
  rw [Archive.WriteFault.isOutside, hOwn, hInside]
  exact Bool.false_ne_true

/- So the same patterns outside are written of any session. -/
theorem filter_written_refusing
    (hReachable : w.Reachable)
    (fault : Archive.WriteFault)
    (sessionId : String) :
    ((w.refusing fault).written sessionId).filter
        fault.isOutside =
      (w.accepting.written sessionId).filter
        fault.isOutside := by
  cases hSession : fault.sessions.contains sessionId with
  | true =>
      have hFine : w.accepting.Reachable :=
        hReachable.refusing Archive.WriteFault.none
      rw [filter_written_of_inside
          (hReachable.refusing fault) hSession,
        filter_written_of_inside hFine hSession]
  | false =>
      rw [written_refusing_of_outside hReachable hSession]

/- Patterns outside are stored as if there were no others. -/
theorem WellNamed.only_analyzeUnprocessed
    (hNamed : w.WellNamed)
    (fault : Archive.WriteFault) :
    w.analyzeUnprocessed.2.archive.only fault.isOutside =
      (w.archive.only fault.isOutside).write
        (w.unprocessed.flatMap fun sessionId =>
          (w.written sessionId).filter fault.isOutside) := by
  have hReachable := hNamed.reachable
  have hSessions := hNamed.agreeOn_written w.unprocessed
  have hAgree :
      Archive.AgreeOn fault.isOutside w.archive
        (w.unprocessed.flatMap w.written) := by
    intro p hP q hQ hId
    rw [Archive.WriteFault.isOutside,
      hSessions p hP q hQ hId]
    rfl
  rw [analyzeUnprocessed_snd hReachable.allValid]
  refine (Archive.only_write hReachable.isLabelled
    hAgree).trans ?_
  rw [List.filter_flatMap]

/-
  Whatever was done to a workspace before, an analysis of all
  unprocessed sessions while the archive refuses to write for
  some counts, in the order of the sessions, what those that
  are not refused would count if nothing was refused.  They
  are all there just if all their matches have means.  The
  archive is left with the patterns of other sessions that it
  would be left with then.
-/
theorem analyzeUnprocessed_isolated
    (hNamed : w.WellNamed)
    (fault : Archive.WriteFault) :
    (w.refusing fault).analyzeUnprocessed.1 =
        (w.spared fault).filterMap w.accepting.count? ∧
      ((w.refusing fault).analyzeUnprocessed.1.map Prod.fst =
          w.spared fault ↔
        ∀ sessionId ∈ w.spared fault,
          w.HasMeans sessionId) ∧
      (w.refusing fault).analyzeUnprocessed.2.archive.only
          fault.isOutside =
        w.accepting.analyzeUnprocessed.2.archive.only
          fault.isOutside := by
  have hReachable := hNamed.reachable
  have hFine : w.accepting.WellNamed :=
    hNamed.refusing Archive.WriteFault.none
  have hCounts :=
    analyzeUnprocessed_fst_refusing hReachable fault
  refine ⟨hCounts, ?_, ?_⟩
  · rw [hCounts]
    exact map_fst_filterMap_count?_eq_self_iff
      hFine.reachable rfl _
  · rw [(hNamed.refusing fault).only_analyzeUnprocessed,
      hFine.only_analyzeUnprocessed]
    simp only [filter_written_refusing hReachable fault]
    rfl

/- One of three sessions is refused, and the others are not. -/
theorem analyzeUnprocessed_isolated_threeSessions :
    threeSessions.WellNamed ∧
      threeSessions.unprocessed = ["s", "t", "u"] ∧
      (threeSessions.refusing
          ⟨["s"], true⟩).analyzeUnprocessed.1 =
        [("t", 1), ("u", 0)] ∧
      (threeSessions.refusing
          ⟨["s"], true⟩).analyzeUnprocessed.2.archive.only
          (Archive.WriteFault.isOutside ⟨["s"], true⟩) =
        threeSessions.accepting.analyzeUnprocessed.2.archive.only
          (Archive.WriteFault.isOutside ⟨["s"], true⟩) := by
  rcases analyzeUnprocessed_isolated wellNamed_threeSessions
    ⟨["s"], true⟩ with ⟨hCounts, _, hStored⟩
  rcases count?_threeSessions with
    ⟨hAll, _, _, hT, hU⟩
  rcases names_threeSessions with ⟨hNames, _, _⟩
  have hSpared :
      threeSessions.spared ⟨["s"], true⟩ = ["t", "u"] := by
    rw [spared, hAll]
    simp [isRefused, hNames]
  have hSame : threeSessions.accepting = threeSessions := rfl
  refine ⟨wellNamed_threeSessions, hAll, ?_, hStored⟩
  rw [hCounts, hSpared, hSame, List.filterMap_cons, hT,
    List.filterMap_cons, hU]
  rfl

/- A session is left out although nothing is refused. -/
theorem not_analyzeUnprocessed_isolated_apart :
    (apart Binary.overflow).WellNamed ∧
      (apart Binary.overflow).spared
          Archive.WriteFault.none = ["s"] ∧
      (apart Binary.overflow).accepting.analyzeUnprocessed.1 =
        [] := by
  have hNamed : (apart Binary.overflow).WellNamed :=
    wellNamed_apart (by decide +kernel)
  have hAll :
      (apart Binary.overflow).unprocessed = ["s"] := by
    decide +kernel
  have hSpared :
      (apart Binary.overflow).spared
        Archive.WriteFault.none = ["s"] := by
    rw [spared, hAll]
    rfl
  have hMeans : ¬ (apart Binary.overflow).HasMeans "s" :=
    not_hasMeans_apart (Int.le_refl _)
  have hNone :
      (apart Binary.overflow).accepting.count? "s" = none :=
    count?_refusing_eq_none hNamed.reachable
      Archive.WriteFault.none hMeans
  have hCounts :
      (apart Binary.overflow).accepting.analyzeUnprocessed.1 =
        ((apart Binary.overflow).spared
          Archive.WriteFault.none).filterMap
            (apart Binary.overflow).accepting.count? :=
    analyzeUnprocessed_fst_refusing hNamed.reachable
      Archive.WriteFault.none
  refine ⟨hNamed, hSpared, ?_⟩
  rw [hCounts, hSpared, List.filterMap_cons, hNone]
  rfl

end Workspace

end TraceMining
