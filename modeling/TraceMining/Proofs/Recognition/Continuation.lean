import TraceMining.Proofs.Store.Log
import TraceMining.Proofs.Workspace.Analysis

/-
  This file shows that what was found stays found.  An attempt
  that ran out of events without meeting its deadline may yet
  succeed, but then nothing behind its start was a match
  before; every other attempt comes to the same end when more
  events follow.  So the matches of some events are the first
  ones of any events that go on from them.

  Key definitions include:
    * `Matching.Match.before`

  Key theorems include:
    * `Matching.collect_append`
    * `Matching.found_prefix_append`
    * `Definition.findMatches_append`
    * `Workspace.analyze_continues`
-/

------------------------------------------------------------
-- Attempts
------------------------------------------------------------

namespace TraceMining

namespace Matching

/- A match that leaves more events. -/
def Match.before
    (later : List Event)
    (m : Match) : Match :=
  { m with rest := m.rest ++ later }

/-
  Collecting comes to the same end when more events follow, if
  it succeeded or met an event past the deadline.
-/
theorem collect_append
    {deadline : Int}
    {es : List Event}
    {qs : List Quota}
    (hDecided :
      (∃ e ∈ es, deadline < e.timestamp) ∨
        collect deadline es qs ≠ none)
    (later : List Event) :
    collect deadline (es ++ later) qs =
      (collect deadline es qs).map (Match.before later) := by
  induction es generalizing qs with
  | nil =>
      cases qs with
      | nil => simp [collect, Match.before]
      | cons q qs => simp [collect] at hDecided
  | cons e es ih =>
      cases qs with
      | nil => simp [collect, Match.before]
      | cons q qs =>
          rw [List.cons_append]
          by_cases hLate : deadline < e.timestamp
          · rw [collect_late hLate, collect_late hLate]
            rfl
          · rw [List.exists_mem_cons_iff] at hDecided
            simp only [hLate, false_or] at hDecided
            by_cases hAccepts : q.rule.accepts e = true
            · rw [collect_accept hLate hAccepts, Ne,
                Option.map_eq_none_iff] at hDecided
              rw [collect_accept hLate hAccepts,
                collect_accept hLate hAccepts, ih hDecided,
                Option.map_map, Option.map_map]
              rfl
            · rw [collect_reject hLate hAccepts] at hDecided
              rw [collect_reject hLate hAccepts,
                collect_reject hLate hAccepts, ih hDecided]

end Matching

end TraceMining

------------------------------------------------------------
-- Scans
------------------------------------------------------------

namespace TraceMining

namespace Matching

variable {steps : List Rule}
variable {timeout : Int}

/- So does an attempt from the front of the events. -/
theorem attempt_append
    {e : Event}
    {es : List Event}
    (hDecided :
      (∃ a ∈ e :: es, e.timestamp + timeout < a.timestamp) ∨
        attempt steps timeout (e :: es) ≠ none)
    (later : List Event) :
    attempt steps timeout (e :: (es ++ later)) =
      (attempt steps timeout (e :: es)).map
        (Match.before later) :=
  collect_append hDecided later

/- Where a match is found there are places for the steps. -/
theorem exists_placed_of_found
    (hSteps : steps ≠ [])
    {all : List Event}
    {i : Nat}
    {es : List Event}
    (hDrop : all.drop i = es)
    (hFound : found steps timeout es ≠ []) :
    ∃ ks, Placed (owed (quotas steps)) all ks ∧
      ∀ k ∈ ks, i ≤ k := by
  induction es using scan_induction hSteps timeout
    generalizing i with
  | nil => exact absurd rfl hFound
  | skip e es hAttempt ih =>
      rw [found_skip hAttempt] at hFound
      rcases ih (drop_eq_cons hDrop).2 hFound with
        ⟨ks, hPlaced, hStart⟩
      exact ⟨ks, hPlaced, fun k hMember =>
        Nat.le_of_succ_le (hStart k hMember)⟩
  | found e es m hAttempt ih =>
      rcases exists_takes_of_attempt hDrop hAttempt with
        ⟨ks, hTakes⟩
      exact ⟨ks, hTakes.placed, hTakes.start⟩

/-
  If an attempt fails but may yet succeed, nothing is found
  from its start on: places for the steps would end behind an
  event past its deadline.
-/
theorem found_eq_nil_of_attempt
    (hSteps : steps ≠ [])
    {e : Event}
    {es : List Event}
    (hAttempt : attempt steps timeout (e :: es) = none)
    (hEarly :
      ¬ ∃ a ∈ e :: es, e.timestamp + timeout < a.timestamp) :
    found steps timeout (e :: es) = [] := by
  by_contra hFound
  rcases exists_placed_of_found (i := 0) hSteps rfl hFound
    with ⟨ks, hPlaced, hStart⟩
  rcases exists_late_of_collect (i := 0) rfl hAttempt hPlaced
      hStart with ⟨n, a, _, _, hEvent, hLate⟩
  exact hEarly ⟨a, List.mem_of_getElem? hEvent, hLate⟩

/- A scan finds the same first when more events follow. -/
theorem found_prefix_append
    (hSteps : steps ≠ [])
    (es later : List Event) :
    found steps timeout es <+:
      found steps timeout (es ++ later) := by
  induction es using scan_induction hSteps timeout with
  | nil => exact List.nil_prefix
  | skip e es hAttempt ih =>
      by_cases hLate :
          ∃ a ∈ e :: es, e.timestamp + timeout < a.timestamp
      · have hSame :
            attempt steps timeout (e :: (es ++ later)) =
              none := by
          rw [attempt_append (Or.inl hLate), hAttempt]
          rfl
        rw [found_skip hAttempt, List.cons_append,
          found_skip hSame]
        exact ih
      · rw [found_eq_nil_of_attempt hSteps hAttempt hLate]
        exact List.nil_prefix
  | found e es m hAttempt ih =>
      have hSome : attempt steps timeout (e :: es) ≠ none := by
        rw [hAttempt]
        exact Option.some_ne_none m
      have hSame := attempt_append (Or.inr hSome) later
      rw [hAttempt] at hSame
      rw [found_match hSteps hAttempt, List.cons_append,
        found_match hSteps hSame]
      exact (List.prefix_cons_inj _).mpr ih

end Matching

end TraceMining

------------------------------------------------------------
-- Patterns
------------------------------------------------------------

namespace TraceMining

namespace Definition

variable {d : Definition}
variable {es later : List Event}

/- The patterns of some events are kept when more follow. -/
def Continues
    (d : Definition)
    (es later : List Event) : Prop :=
  ∃ ps more,
    d.findMatches es = .ok ps ∧
      d.findMatches (es ++ later) = .ok (ps ++ more)

/- The matches of some events are the first ones of more. -/
theorem exists_matchedEvents_append
    (hValid : d.isValid = true)
    (es later : List Event) :
    ∃ more,
      d.matchedEvents (es ++ later) =
        d.matchedEvents es ++ more := by
  rcases Matching.found_prefix_append
      (allSound hValid).1 es
      later with ⟨more, hMore⟩
  exact ⟨more, hMore.symm⟩

/- Means of all matches are means of the first ones. -/
theorem HasMeans.of_append
    (hValid : d.isValid = true)
    (hMeans : d.HasMeans (es ++ later)) :
    d.HasMeans es := by
  rcases exists_matchedEvents_append hValid es later with
    ⟨more, hMore⟩
  intro found hMember
  apply hMeans
  rw [hMore]
  exact List.mem_append_left more hMember

/- Patterns are kept just if all matches have a mean. -/
theorem continues_iff
    (hValid : d.isValid = true) :
    d.Continues es later ↔ d.HasMeans (es ++ later) := by
  constructor
  · rintro ⟨ps, more, _, hAll⟩
    exact (exists_findMatches_iff hValid).mp ⟨_, hAll⟩
  · intro hMeans
    rcases exists_matchedEvents_append hValid es later with
      ⟨more, hMore⟩
    rcases (exists_findMatches_iff hValid).mpr
        (hMeans.of_append hValid) with ⟨ps, hFirst⟩
    have hRest :
        ∃ qs, more.mapM (Matching.toPattern d) = .ok qs := by
      rw [Batch.exists_mapM_eq_ok_iff]
      intro found hMember
      rw [Matching.exists_toPattern_iff]
      apply hMeans
      rw [hMore]
      exact List.mem_append_right _ hMember
    rcases hRest with ⟨qs, hRest⟩
    refine ⟨ps, qs, hFirst, ?_⟩
    rw [findMatches_eq_ok_iff hValid] at hFirst ⊢
    rw [Batch.mapM_eq_ok_iff] at hRest
    rw [hMore]
    exact List.rel_append hFirst hRest

end Definition

end TraceMining

------------------------------------------------------------
-- Analyses
------------------------------------------------------------

namespace TraceMining

namespace Workspace

variable {w next : Workspace}
variable {sessionId : String}

/-
  A later analysis of a session finds what an earlier one did
  and, definition by definition, more patterns behind.
-/
def Continues
    (w next : Workspace)
    (sessionId : String) : Prop :=
  ∃ found : List (List Pattern × List Pattern),
    List.Forall₂
      (fun d ps =>
        d.findMatches (w.log.listEvents sessionId) =
            .ok ps.1 ∧
          d.findMatches (next.log.listEvents sessionId) =
            .ok (ps.1 ++ ps.2))
      w.loaded found ∧
    (w.analyze sessionId).1 =
      w.outcome sessionId (found.flatMap Prod.fst) ∧
    (next.analyze sessionId).1 =
      next.outcome sessionId
        (found.flatMap fun ps => ps.1 ++ ps.2)

/- Analyses continue if what is read does. -/
theorem continues_of_append
    (hValid : w.AllValid)
    (hLoaded : next.loaded = w.loaded)
    {more : List Event}
    (hMore :
      next.log.listEvents sessionId =
        w.log.listEvents sessionId ++ more)
    (hMeans :
      ∀ d ∈ w.loaded,
        d.HasMeans (next.log.listEvents sessionId)) :
    w.Continues next sessionId := by
  have hNext : next.AllValid := by
    rw [AllValid, hLoaded]
    exact hValid
  have hEach :
      ∀ d ∈ w.loaded, ∃ ps : List Pattern × List Pattern,
        d.findMatches (w.log.listEvents sessionId) =
            .ok ps.1 ∧
          d.findMatches (next.log.listEvents sessionId) =
            .ok (ps.1 ++ ps.2) := by
    intro d hMember
    have hMean := hMeans d hMember
    rw [hMore] at hMean ⊢
    rcases (Definition.continues_iff
        (hValid d hMember)).mpr hMean with
      ⟨ps, qs, hFirst, hSecond⟩
    exact ⟨(ps, qs), hFirst, hSecond⟩
  rcases Batch.exists_forall₂ hEach with ⟨found, hFound⟩
  refine ⟨found, hFound, ?_, ?_⟩
  · apply analyze_eq_outcome hValid
    rw [List.flatMap_def]
    apply recognize_eq_ok
    rw [List.forall₂_map_right_iff]
    exact hFound.imp fun _ _ hBoth => hBoth.1
  · apply analyze_eq_outcome hNext
    rw [List.flatMap_def, hLoaded]
    apply recognize_eq_ok
    rw [List.forall₂_map_right_iff]
    exact hFound.imp fun _ _ hBoth => hBoth.2

/-
  The patterns of some events are the first ones of any events
  that go on from them, and an analysis finds those of an
  earlier one again if all events that arrived in between are
  no earlier; this fails just if some match has no mean
  interval.
-/
theorem matches_continue
    (d : Definition)
    (es later : List Event)
    (w next : Workspace)
    (sessionId : String)
    (arrived : List Event) :
    (d.isValid = true →
      (d.Continues es later ↔ d.HasMeans (es ++ later)) ∧
      (¬ d.HasMeans (es ++ later) →
        d.findMatches (es ++ later) =
          .error .unboundedMean)) ∧
    (w.log.Reachable → w.AllValid →
      w.log.Grows arrived next.log →
      next.loaded = w.loaded →
      (∀ a ∈ w.log.stream sessionId, ∀ e ∈ arrived,
        e.sessionId = sessionId →
          a.timestamp ≤ e.timestamp) →
      ((∀ d ∈ w.loaded,
          d.HasMeans (next.log.listEvents sessionId)) →
        w.Continues next sessionId) ∧
      ((¬ ∀ d ∈ w.loaded,
          d.HasMeans (next.log.listEvents sessionId)) →
        (next.analyze sessionId).1 =
          .error .unboundedMean)) := by
  constructor
  · intro hValid
    exact ⟨Definition.continues_iff hValid,
      Definition.findMatches_eq_error hValid⟩
  · intro hReachable hValid hGrows hLoaded hLater
    constructor
    · intro hMeans
      rcases hGrows.exists_listEvents_eq hReachable.paired
          hLater with ⟨more, hMore⟩
      exact continues_of_append hValid hLoaded hMore hMeans
    · intro hMeans
      rw [← hLoaded] at hMeans
      apply analyze_eq_error _ hMeans
      rw [AllValid, hLoaded]
      exact hValid

/- A workspace into which two ticks came. -/
def withPair : Workspace :=
  let w :=
    ofCatalog (Catalog.ofList [Definition.pair 1000]) 0 "1"
  let w := (w.append (Event.tick "a" 0)).2
  (w.append (Event.tick "b" 500)).2

/- The same after an analysis and two more ticks. -/
def withPairs : Workspace :=
  let w := (withPair.analyze "s").2
  let w := (w.append (Event.tick "c" 500)).2
  (w.append (Event.tick "d" 900)).2

/- The pair that was found first is found again. -/
theorem matches_continue_pairs :
    (Definition.pair 1000).Continues (Event.ticks 500)
        [Event.tick "c" 500, Event.tick "d" 900] ∧
      withPair.Continues withPairs "s" := by
  rcases matches_continue (Definition.pair 1000)
      (Event.ticks 500)
      [Event.tick "c" 500, Event.tick "d" 900]
      withPair withPairs "s"
      [Event.tick "c" 500, Event.tick "d" 900] with
    ⟨hEvents, hSessions⟩
  have hLoaded :
      ∀ d ∈ withPair.loaded,
        d.isValid = true ∧
          d.rules.timeout < Binary.overflow := by
    decide +kernel
  rcases analyze_log withPair "s" with ⟨hLog, hSame⟩
  constructor
  · have hValid : (Definition.pair 1000).isValid = true :=
      Definition.pair_isValid (by decide)
    apply (hEvents hValid).1.mpr
    exact Definition.hasMeans_of_timeout_lt hValid
      (by decide) (by decide +kernel)
  · have hReachable : withPair.log.Reachable :=
      ⟨_, (EventLog.Grows.refl.append 0
        (Event.tick "a" 0)).append 0 (Event.tick "b" 500)⟩
    have hArrived :
        withPair.log.Grows
          [Event.tick "c" 500, Event.tick "d" 900]
          withPairs.log := by
      rw [← hLog]
      exact (EventLog.Grows.refl.append _
        (Event.tick "c" 500)).append _ (Event.tick "d" 900)
    refine (hSessions hReachable
      (fun d hMember => (hLoaded d hMember).1) hArrived hSame
      (by decide +kernel)).1 ?_
    intro d hMember
    rcases hLoaded d hMember with ⟨hValid, hWindow⟩
    exact Definition.hasMeans_of_timeout_lt hValid
      (EventLog.inOrder_byTime _) hWindow

/- A pair that is found is lost with one too far apart. -/
theorem not_matches_continue_pairs :
    (Definition.pair Binary.overflow).isValid = true ∧
      (Definition.pair Binary.overflow).HasMeans
        (Event.ticks 1) ∧
      ¬ (Definition.pair Binary.overflow).Continues
        (Event.ticks 1)
        [Event.tick "c" 2,
          Event.tick "d" (2 + Binary.overflow)] := by
  have hPositive : (1 : Int) ≤ Binary.overflow := by
    decide +kernel
  have hValid :=
    Definition.pair_isValid (Int.le_trans (by decide) hPositive)
  have hFirst :=
    Definition.matchedEvents_pair
      (a := Event.tick "a" 0) (b := Event.tick "b" 1)
      (Int.le_trans (by decide) hPositive)
      (by simp only [Event.tick]; omega)
  refine ⟨hValid, ?_, ?_⟩
  · intro found hFound
    rw [Event.ticks, hFirst] at hFound
    rcases List.mem_cons.mp hFound with rfl | hFound
    · rw [Matching.hasMean_pair_iff]
      decide +kernel
    · exact absurd hFound List.not_mem_nil
  · rw [Definition.continues_iff hValid]
    intro hMeans
    have hMean :
        Matching.HasMean
          [Event.tick "c" 2,
            Event.tick "d" (2 + Binary.overflow)] := by
      apply hMeans
      rw [Event.ticks, List.cons_append, List.cons_append,
        hFirst, List.nil_append,
        Definition.matchedEvents_pair
          (Int.le_trans (by decide) hPositive)
          (by simp only [Event.tick]; omega)]
      exact List.mem_cons_of_mem _ List.mem_cons_self
    rw [Matching.hasMean_pair_iff] at hMean
    simp only [Event.tick] at hMean
    omega

end Workspace

end TraceMining
