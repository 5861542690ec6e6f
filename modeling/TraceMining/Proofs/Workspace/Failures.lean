import TraceMining.Proofs.Recognition.Optimality
import TraceMining.Proofs.Recognition.Validity
import TraceMining.Proofs.Workspace.Run

/-
  This file shows how the analysis of a session can fail,
  whatever was done to the workspace before: the archive
  refuses the patterns, or some match has no mean interval.
  The analysis of many sessions does not fail; it leaves out
  the sessions whose own analysis does.

  Key definitions include:
    * `Workspace.HasMeans`
    * `Workspace.count?`

  Key theorems include:
    * `Workspace.outcome_eq_ok_or_refused`
    * `Workspace.analyzeEach_fst`
    * `Workspace.analyze_outcomes`
-/

------------------------------------------------------------
-- One Session
------------------------------------------------------------

namespace TraceMining

namespace Workspace

variable {w : Workspace}
variable {sessionId : String}

/- Every match in a session has a mean interval. -/
def HasMeans
    (w : Workspace)
    (sessionId : String) : Prop :=
  ∀ d ∈ w.loaded, d.HasMeans (w.log.listEvents sessionId)

/- Windows that are not too wide bound all means. -/
theorem hasMeans_of_timeouts_lt
    (hValid : w.AllValid)
    (hTimeouts :
      ∀ d ∈ w.loaded, d.rules.timeout < Binary.overflow)
    (sessionId : String) :
    w.HasMeans sessionId := by
  intro d hLoaded
  exact Definition.hasMeans_of_timeout_lt (hValid d hLoaded)
    (EventLog.inOrder_byTime _) (hTimeouts d hLoaded)

/- So do pairs that are not too far apart. -/
theorem hasMeans_of_pair
    {timeout : Int}
    (hTimeout : 0 ≤ timeout)
    (hWindow : timeout < Binary.overflow)
    (hLoaded : w.loaded = [Definition.pair timeout])
    (sessionId : String) :
    w.HasMeans sessionId := by
  apply hasMeans_of_timeouts_lt
  · rw [AllValid, hLoaded]
    exact List.forall_mem_singleton.mpr
      (Definition.pair_isValid hTimeout)
  · rw [hLoaded]
    exact List.forall_mem_singleton.mpr hWindow

/- What is recognized passes the check of patterns. -/
theorem valid_of_recognize
    {ds : List Definition}
    {es : List Event}
    (hValid : ∀ d ∈ ds, d.isValid = true)
    {ps : List Pattern}
    (hFound : recognize ds es = .ok ps) :
    ∀ p ∈ ps, Schema.pattern p.toValue = .valid p := by
  intro p hMember
  rcases Batch.exists_left_of_mem
      ((recognize_eq_ok_iff hValid).mp hFound) hMember with
    ⟨m, _, hPattern⟩
  exact Matching.valid_of_toPattern hPattern

/- Patterns are handed out unless saving them fails. -/
theorem outcome_eq_ok_or_refused
    (w : Workspace)
    (sessionId : String)
    (ps : List Pattern) :
    ((w.savePatterns ps).1 = .ok () ∧
        w.outcome sessionId ps = .ok ps) ∨
      ∃ cause,
        (w.savePatterns ps).1 = .error cause ∧
          w.outcome sessionId ps =
            .error (refused sessionId cause) := by
  unfold savePatterns Archive.saveAll outcome
  by_cases hRefused : w.archiveFault.refuses ps = true
  · right
    exact ⟨Archive.diskFull, by simp [hRefused]⟩
  · left
    simp [hRefused]

/- An archive that refuses nothing saves all patterns. -/
theorem savePatterns_eq_ok
    (hFault : w.archiveFault = Archive.WriteFault.none)
    (ps : List Pattern) :
    (w.savePatterns ps).1 = .ok () := by
  simp [savePatterns, Archive.saveAll,
    Archive.WriteFault.refuses, hFault,
    Archive.WriteFault.none]

/- So they are handed out if there are any. -/
theorem exists_analyze_eq_ok
    (hValid : w.AllValid)
    (hMeans : w.HasMeans sessionId)
    (hFault : w.archiveFault = Archive.WriteFault.none) :
    ∃ ps, (w.analyze sessionId).1 = .ok ps := by
  rcases (exists_recognize_iff hValid).mpr hMeans with
    ⟨ps, hFound⟩
  refine ⟨ps, ?_⟩
  rw [analyze_eq_outcome hValid hFound, outcome, hFault]
  simp [Archive.WriteFault.refuses, Archive.WriteFault.none]

end Workspace

end TraceMining

------------------------------------------------------------
-- Many Sessions
------------------------------------------------------------

namespace TraceMining

namespace Workspace

/- How many patterns a session has, if its analysis succeeds. -/
def count?
    (w : Workspace)
    (sessionId : String) : Option (String × Nat) :=
  (w.analyze sessionId).1.toOption.map fun ps =>
    (sessionId, ps.length)

/- This does not depend on what is stored. -/
theorem count?_archive
    (w : Workspace)
    (archive : Archive) :
    ({ w with archive := archive } : Workspace).count? =
      w.count? := by
  funext sessionId
  rw [count?, count?, analyze_fst_archive]

/- So it does not depend on what was analyzed before. -/
theorem count?_analyze
    (w : Workspace)
    (first : String) :
    (w.analyze first).2.count? = w.count? := by
  rcases exists_analyze_snd_eq w first with ⟨archive, hNext⟩
  rw [hNext, count?_archive]

/- Sessions in turn have the patterns that each has alone. -/
theorem analyzeEach_fst
    (w : Workspace)
    (ids : List String) :
    (w.analyzeEach ids).1 = ids.filterMap w.count? := by
  induction ids generalizing w with
  | nil => rfl
  | cons id ids ih =>
      have hRest := ih (w.analyze id).2
      rw [count?_analyze] at hRest
      rw [List.filterMap_cons, ← hRest, count?, analyzeEach]
      rcases hFirst : w.analyze id with ⟨answer, next⟩
      cases answer with
      | ok ps => rfl
      | error what => rfl

/- So it is with the sessions that are unprocessed. -/
theorem analyzeUnprocessed_fst
    (w : Workspace) :
    w.analyzeUnprocessed.1 =
      w.unprocessed.filterMap w.count? :=
  analyzeEach_fst w w.unprocessed

end Workspace

end TraceMining

------------------------------------------------------------
-- All That Can Happen
------------------------------------------------------------

namespace TraceMining

namespace Workspace

variable {w : Workspace}

/-
  In every workspace that can be reached, an analysis hands
  out patterns, all of them well formed, or reports that
  saving them failed, if every match has a mean interval; it
  fails for want of one otherwise, which windows below the
  bound on means rule out.  An analysis of all sessions that
  are not processed answers in any case, and counts just those
  whose own analysis succeeds.
-/
theorem analyze_outcomes
    (hReachable : w.Reachable)
    (sessionId : String) :
    (w.HasMeans sessionId →
      ∃ ps,
        recognize w.loaded (w.log.listEvents sessionId) =
            .ok ps ∧
          (∀ p ∈ ps, Schema.pattern p.toValue = .valid p) ∧
          (((w.savePatterns ps).1 = .ok () ∧
              (w.analyze sessionId).1 = .ok ps) ∨
            ∃ cause,
              (w.savePatterns ps).1 = .error cause ∧
                (w.analyze sessionId).1 =
                  .error (refused sessionId cause))) ∧
    (¬ w.HasMeans sessionId →
      (w.analyze sessionId).1 = .error .unboundedMean) ∧
    ((∀ d ∈ w.loaded, d.rules.timeout < Binary.overflow) →
      w.HasMeans sessionId) ∧
    w.analyzeUnprocessed.1 =
      w.unprocessed.filterMap w.count? := by
  have hValid := hReachable.allValid
  refine ⟨?_, analyze_eq_error hValid, ?_,
    analyzeEach_fst w w.unprocessed⟩
  · intro hMeans
    rcases (exists_recognize_iff hValid).mpr hMeans with
      ⟨ps, hFound⟩
    refine ⟨ps, hFound, valid_of_recognize hValid hFound, ?_⟩
    rw [analyze_eq_outcome hValid hFound]
    exact outcome_eq_ok_or_refused w sessionId ps
  · intro hTimeouts
    exact hasMeans_of_timeouts_lt hValid hTimeouts sessionId

/- Ticks in a session for which the archive refuses to write. -/
def refusedTicks : Workspace :=
  (forPairs 1000).run
    [ .upsert { Definition.pair (-1) with id := "backward" }
    , .reload
    , .append (Event.tick "a" 0)
    , .append (Event.tick "b" 500)
    , .refuse ⟨["s"], true⟩ ]

/- The pair is found, by the valid one of two definitions. -/
theorem analyze_outcomes_refusedTicks :
    refusedTicks.catalog.keys = ["pair", "backward"] ∧
      refusedTicks.loaded.map Definition.id = ["pair"] ∧
      refusedTicks.HasMeans "s" ∧
      (refusedTicks.analyze "s").1 =
        .error (refused "s" Archive.diskFull) ∧
      refusedTicks.analyzeUnprocessed.1 =
        refusedTicks.unprocessed.filterMap
          refusedTicks.count? := by
  have hReachable : refusedTicks.Reachable :=
    reachable_run_forPairs 1000 _
  rcases analyze_outcomes hReachable "s" with
    ⟨hAnswer, _, hWindows, hEach⟩
  have hMeans : refusedTicks.HasMeans "s" :=
    hWindows (by decide +kernel)
  rcases hAnswer hMeans with ⟨ps, hFound, _, hSaved⟩
  have hLoaded :
      refusedTicks.loaded = [Definition.pair 1000] := rfl
  have hEvents :
      refusedTicks.log.listEvents "s" = Event.ticks 500 :=
    EventLog.byTime_eq_self (by decide)
  have hValid := hReachable.allValid
  rw [AllValid, hLoaded] at hValid
  rw [hLoaded, hEvents, recognize_eq_ok_iff hValid,
    matched_ticks (by decide) (by decide)] at hFound
  rcases List.forall₂_cons_left_iff.mp hFound with
    ⟨p, qs, hPattern, hNone, rfl⟩
  rw [List.forall₂_nil_left_iff.mp hNone] at hSaved
  have hSession : p.sessionId = "s" :=
    (Matching.toPattern_origin hPattern).2.1
  have hRefused :
      (refusedTicks.savePatterns [p]).1 =
        .error Archive.diskFull := by
    have hFault : refusedTicks.archiveFault = ⟨["s"], true⟩ :=
      rfl
    simp [savePatterns, Archive.saveAll,
      Archive.WriteFault.refuses, hFault, hSession]
  refine ⟨by decide +kernel, by decide +kernel, hMeans, ?_,
    hEach⟩
  rw [hRefused] at hSaved
  rcases hSaved with ⟨hFine, _⟩ | ⟨cause, hCause, hFailed⟩
  · cases hFine
  · rw [hFailed, Except.error.inj hCause]

/- Two ticks some time apart, in a window of that time. -/
def apart
    (gap : Int) : Workspace :=
  (forPairs gap).run
    [ .append (Event.tick "a" 0)
    , .append (Event.tick "b" gap) ]

/- A window that is too wide lets a match without a mean in. -/
theorem not_hasMeans_apart
    {gap : Int}
    (hGap : (Binary.overflow : Int) ≤ gap) :
    ¬ (apart gap).HasMeans "s" := by
  have hPositive : 0 ≤ gap := by omega
  have hEvents :
      (apart gap).log.listEvents "s" = Event.ticks gap :=
    EventLog.byTime_eq_self (List.pairwise_pair.mpr hPositive)
  have hLoaded : Definition.pair gap ∈ (apart gap).loaded :=
    (loaded_forPairs hPositive).symm ▸ List.mem_cons_self
  intro hMeans
  have hMean := hMeans _ hLoaded
  rw [hEvents] at hMean
  rcases (Definition.exists_findMatches_iff
      (Definition.pair_isValid hPositive)).mpr hMean with
    ⟨ps, hFound⟩
  rw [Definition.findMatches_pair_eq_error hGap] at hFound
  cases hFound

/- An analysis fails although the archive refuses nothing. -/
theorem not_analyze_outcomes_apart :
    (apart Binary.overflow).Reachable ∧
      (∀ ps,
        ((apart Binary.overflow).savePatterns ps).1 =
          .ok ()) ∧
      ¬ ((∃ ps,
          ((apart Binary.overflow).analyze "s").1 = .ok ps) ∨
        ∃ what cause,
          ((apart Binary.overflow).analyze "s").1 =
            .error (.persistence what cause)) := by
  have hReachable : (apart Binary.overflow).Reachable :=
    reachable_run_forPairs Binary.overflow _
  refine ⟨hReachable, savePatterns_eq_ok rfl, ?_⟩
  rw [analyze_eq_error hReachable.allValid
    (not_hasMeans_apart (Int.le_refl _))]
  rintro (⟨ps, hFound⟩ | ⟨what, cause, hFailed⟩)
  · cases hFound
  · cases hFailed

end Workspace

end TraceMining
