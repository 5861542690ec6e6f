import TraceMining.Proofs.Workspace.Identities

/-
  This file shows what analyses write to the archive: the
  patterns that they find, or the first of them or none if the
  archive refuses the batch.  Analyses in a row write this one
  after the other, and what each of them answers and writes
  does not depend on those before it.

  Key definitions include:
    * `Workspace.written`
    * `Workspace.answers`

  Key theorems include:
    * `Workspace.analyze_snd_eq_written`
    * `Workspace.run_analyze`
    * `Workspace.analyzeUnprocessed_snd`
    * `Workspace.answers_eq_map`
    * `Workspace.exists_finds_of_written`
    * `Workspace.count?_eq_some`
    * `Workspace.isEmpty_written`
-/

------------------------------------------------------------
-- One Analysis
------------------------------------------------------------

namespace TraceMining

namespace Workspace

variable {w : Workspace}
variable {sessionId : String}
variable {p : Pattern}

/- What the analysis of a session writes. -/
def written
    (w : Workspace)
    (sessionId : String) : List Pattern :=
  match recognize w.loaded (w.log.listEvents sessionId) with
  | .ok ps => w.archiveFault.kept ps
  | .error _ => []

/- Nothing else is changed by it. -/
theorem analyze_snd_eq_written
    (hValid : w.AllValid)
    (sessionId : String) :
    (w.analyze sessionId).2 =
      { w with
        archive := w.archive.write (w.written sessionId) } := by
  unfold written
  cases hFound :
      recognize w.loaded (w.log.listEvents sessionId) with
  | error what => exact analyze_snd_eq_self hFound
  | ok ps =>
      rw [analyze_snd_eq_save hValid hFound]
      simp only [savePatterns, Archive.saveAll_snd]

/- What is recognized in a session belongs to it. -/
theorem sessionId_of_recognize
    (hReachable : w.Reachable)
    {ps : List Pattern}
    (hFound :
      recognize w.loaded (w.log.listEvents sessionId) =
        .ok ps) :
    ∀ p ∈ ps, p.sessionId = sessionId := by
  intro p hMember
  rcases exists_finds_of_recognize hFound hMember with
    ⟨d, hFinds⟩
  exact (hFinds.exists_match hReachable).1

/- What is written was found by some definition. -/
theorem exists_finds_of_written
    (hWritten : p ∈ w.written sessionId) :
    ∃ d, w.Finds sessionId d p := by
  unfold written at hWritten
  split at hWritten
  · rename_i ps hFound
    exact exists_finds_of_recognize hFound
      (Archive.WriteFault.kept_subset hWritten)
  · exact absurd hWritten List.not_mem_nil

/- So it belongs to the session. -/
theorem sessionId_of_written
    (hReachable : w.Reachable)
    (hWritten : p ∈ w.written sessionId) :
    p.sessionId = sessionId := by
  rcases exists_finds_of_written hWritten with ⟨d, hFinds⟩
  exact (hFinds.exists_match hReachable).1

end Workspace

end TraceMining

------------------------------------------------------------
-- Analyses in a Row
------------------------------------------------------------

namespace TraceMining

namespace Workspace

variable {w : Workspace}

/- Their patterns are written one after the other. -/
theorem run_analyze
    (hValid : w.AllValid)
    (ids : List String) :
    w.run (ids.map Operation.analyze) =
      { w with
        archive :=
          w.archive.write (ids.flatMap w.written) } := by
  induction ids generalizing w with
  | nil => rfl
  | cons id ids ih =>
      have hFirst := analyze_snd_eq_written hValid id
      have hRest := ih (allValid_perform hValid (.analyze id))
      refine hRest.trans ?_
      rw [perform, hFirst, List.flatMap_cons,
        Archive.write_append]
      rfl

/- An analysis of many sessions is nothing else. -/
theorem analyzeEach_snd
    (w : Workspace)
    (ids : List String) :
    (w.analyzeEach ids).2 =
      w.run (ids.map Operation.analyze) := by
  induction ids generalizing w with
  | nil => rfl
  | cons id ids ih =>
      have hRest := ih (w.analyze id).2
      have hRun :
          w.run ((id :: ids).map Operation.analyze) =
            (w.analyze id).2.run
              (ids.map Operation.analyze) := rfl
      rw [hRun, ← hRest, analyzeEach]
      rcases hFirst : w.analyze id with ⟨answer, next⟩
      cases answer with
      | ok ps => rfl
      | error what => rfl

/- So what the unprocessed sessions have is all written. -/
theorem analyzeUnprocessed_snd
    (hValid : w.AllValid) :
    w.analyzeUnprocessed.2 =
      { w with
        archive :=
          w.archive.write (w.unprocessed.flatMap w.written) } := by
  rw [analyzeUnprocessed, analyzeEach_snd, run_analyze hValid]

/- What analyses in a row answer. -/
def answers
    (w : Workspace) :
    List String → List (Except Failure (List Pattern))
  | [] => []
  | id :: ids =>
      (w.analyze id).1 :: answers (w.analyze id).2 ids

/- Each answers as it would alone. -/
theorem answers_eq_map
    (w : Workspace)
    (ids : List String) :
    w.answers ids = ids.map fun id => (w.analyze id).1 := by
  induction ids generalizing w with
  | nil => rfl
  | cons id ids ih =>
      rcases exists_analyze_snd_eq w id with ⟨archive, hNext⟩
      rw [answers, ih, hNext, List.map_cons]
      simp only [analyze_fst_archive]

end Workspace

end TraceMining

------------------------------------------------------------
-- Counting
------------------------------------------------------------

namespace TraceMining

namespace Workspace

variable {w : Workspace}
variable {sessionId : String}

/- The archive refuses what is found in a session. -/
def isRefused
    (w : Workspace)
    (fault : Archive.WriteFault)
    (sessionId : String) : Bool :=
  fault.sessions.contains sessionId &&
    !(w.names sessionId).isEmpty

/- A session whose matches have means is read in full. -/
theorem exists_recognize_of_hasMeans
    (hReachable : w.Reachable)
    (hMeans : w.HasMeans sessionId) :
    ∃ ps,
      recognize w.loaded (w.log.listEvents sessionId) =
          .ok ps ∧
        ps.length = (w.names sessionId).length ∧
        w.archiveFault.refuses ps =
          w.isRefused w.archiveFault sessionId := by
  rcases (exists_recognize_iff hReachable.allValid).mpr hMeans
    with ⟨ps, hFound⟩
  have hLength :=
    congrArg List.length (recognize_ids hReachable hFound)
  rw [List.length_map, List.length_map] at hLength
  have hOwn := sessionId_of_recognize hReachable hFound
  have hEmpty : ps.isEmpty = (w.names sessionId).isEmpty := by
    rw [Bool.eq_iff_iff, List.isEmpty_iff_length_eq_zero,
      List.isEmpty_iff_length_eq_zero, hLength]
  refine ⟨ps, hFound, hLength, ?_⟩
  rw [Archive.WriteFault.refuses_eq hOwn, hEmpty, isRefused]

/- Its matches are counted unless they are refused. -/
theorem count?_eq_some
    (hReachable : w.Reachable)
    (hMeans : w.HasMeans sessionId) :
    w.count? sessionId =
      if w.isRefused w.archiveFault sessionId then none
      else some (sessionId, (w.names sessionId).length) := by
  rcases exists_recognize_of_hasMeans hReachable hMeans with
    ⟨ps, hFound, hLength, hRefused⟩
  rw [count?, analyze_eq_outcome hReachable.allValid hFound,
    outcome, hRefused, ← hLength]
  split
  · rfl
  · rfl

/- A session with a match without a mean is not counted. -/
theorem count?_eq_none
    (hValid : w.AllValid)
    (hMeans : ¬ w.HasMeans sessionId) :
    w.count? sessionId = none := by
  rw [count?, analyze_eq_error hValid hMeans]
  rfl

/- Nothing is written of it either. -/
theorem written_eq_nil
    (hValid : w.AllValid)
    (hMeans : ¬ w.HasMeans sessionId) :
    w.written sessionId = [] := by
  rw [written, recognize_eq_error hValid hMeans]

/- Where nothing is refused, a session with means is counted. -/
theorem count?_eq_some_of_none
    (hReachable : w.Reachable)
    (hFault : w.archiveFault = Archive.WriteFault.none)
    (hMeans : w.HasMeans sessionId) :
    w.count? sessionId =
      some (sessionId, (w.names sessionId).length) := by
  rw [count?_eq_some hReachable hMeans, hFault]
  rfl

/- No other session is. -/
theorem isSome_count?_iff
    (hReachable : w.Reachable)
    (hFault : w.archiveFault = Archive.WriteFault.none) :
    (w.count? sessionId).isSome = true ↔
      w.HasMeans sessionId := by
  constructor
  · intro hSome
    by_contra hMeans
    rw [count?_eq_none hReachable.allValid hMeans] at hSome
    cases hSome
  · intro hMeans
    rw [count?_eq_some_of_none hReachable hFault hMeans]
    rfl

/- A count comes with the session that it is the count of. -/
theorem fst_of_count?
    {c : String × Nat}
    (hCount : w.count? sessionId = some c) :
    c.1 = sessionId := by
  rcases Option.map_eq_some_iff.mp hCount with ⟨ps, _, rfl⟩
  rfl

/- So a choice of counts is a choice of sessions. -/
theorem map_fst_filter_count?
    (w : Workspace)
    (isKept : String × Nat → Bool)
    (ids : List String) :
    ((ids.filterMap w.count?).filter isKept).map Prod.fst =
      ids.filter fun id => (w.count? id).any isKept := by
  induction ids with
  | nil => rfl
  | cons id ids ih =>
      rw [List.filterMap_cons, List.filter_cons]
      cases hCount : w.count? id with
      | none => exact ih
      | some c =>
          rw [Option.any_some]
          by_cases hKept : isKept c = true
          · rw [List.filter_cons_of_pos hKept,
              List.map_cons, fst_of_count? hCount, ih,
              if_pos hKept]
          · rw [List.filter_cons_of_neg hKept, ih,
              if_neg hKept]

/- So all are counted if all have means. -/
theorem map_fst_filterMap_count?_eq_self_iff
    (hReachable : w.Reachable)
    (hFault : w.archiveFault = Archive.WriteFault.none)
    (ids : List String) :
    (ids.filterMap w.count?).map Prod.fst = ids ↔
      ∀ id ∈ ids, w.HasMeans id := by
  have hCounted :=
    map_fst_filter_count? w (fun _ => true) ids
  rw [List.filter_true] at hCounted
  rw [hCounted, List.filter_eq_self]
  simp only [← isSome_count?_iff hReachable hFault,
    Option.any_true]

/-
  Where nothing is refused, something is written of a session
  just if its analysis counts something.
-/
theorem isEmpty_written
    (hReachable : w.Reachable)
    (hFault : w.archiveFault = Archive.WriteFault.none)
    (sessionId : String) :
    (w.written sessionId).isEmpty =
      (w.count? sessionId).all fun c => c.2 == 0 := by
  by_cases hMeans : w.HasMeans sessionId
  · rcases exists_recognize_of_hasMeans hReachable hMeans with
      ⟨ps, hFound, hLength, hRefused⟩
    have hFine : w.archiveFault.refuses ps = false := by
      rw [hRefused, hFault]
      rfl
    rw [count?_eq_some_of_none hReachable hFault hMeans,
      written, hFound, ← hLength]
    simp only [Archive.WriteFault.kept_eq_self hFine]
    cases ps with
    | nil => rfl
    | cons p ps => rfl
  · rw [written_eq_nil hReachable.allValid hMeans,
      count?_eq_none hReachable.allValid hMeans]
    rfl

end Workspace

end TraceMining
