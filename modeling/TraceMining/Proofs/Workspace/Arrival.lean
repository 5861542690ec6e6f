import TraceMining.Proofs.Workspace.Failures

/-
  This file shows that the order in which events arrive does
  not matter beyond the order of those that one session has at
  one time.  Events of different sessions can be interleaved
  in any way, and events can be late: the log reads the same,
  and so an analysis answers the same.

  Key definitions include:
    * `EventLog.simultaneous`
    * `EventLog.Rearranged`

  Key theorems include:
    * `EventLog.Rearranged.append_comm`
    * `EventLog.Rearranged.byTime_eq`
    * `Workspace.appendAll_eq_run`
    * `Workspace.exists_appendAll_eq`
    * `Workspace.analyze_fst_log`
    * `Workspace.analyze_rearranged`
-/

------------------------------------------------------------
-- Orders of Arrival
------------------------------------------------------------

namespace TraceMining

namespace EventLog

/- The events that a session has at a time, in their order. -/
def simultaneous
    (es : List Event)
    (sessionId : String)
    (time : Int) : List Event :=
  (ofSession es sessionId).filter fun e =>
    e.timestamp == time

/-
  The same events in two orders, which agree on those that one
  session has at one time.
-/
structure Rearranged
    (es fs : List Event) : Prop where
  perm : es.Perm fs
  ties :
    ∀ sessionId time,
      simultaneous es sessionId time =
        simultaneous fs sessionId time

variable {es fs : List Event}

/- Two batches without such events can change places. -/
theorem Rearranged.append_comm
    (hApart :
      ∀ a ∈ es, ∀ b ∈ fs,
        a.sessionId = b.sessionId →
          a.timestamp ≠ b.timestamp) :
    Rearranged (es ++ fs) (fs ++ es) := by
  refine ⟨List.perm_append_comm, ?_⟩
  intro sessionId time
  have hNone :
      simultaneous es sessionId time = [] ∨
        simultaneous fs sessionId time = [] := by
    rw [or_iff_not_imp_left]
    intro hSome
    rcases List.exists_mem_of_ne_nil _ hSome with ⟨a, hA⟩
    rw [List.eq_nil_iff_forall_not_mem]
    intro b hB
    simp only [simultaneous, ofSession, List.mem_filter,
      beq_iff_eq] at hA hB
    exact hApart a hA.1.1 b hB.1.1
      (hA.1.2.trans hB.1.2.symm) (hA.2.trans hB.2.symm)
  have hSplit :
      ∀ first second,
        simultaneous (first ++ second) sessionId time =
          simultaneous first sessionId time ++
            simultaneous second sessionId time := by
    intro first second
    simp only [simultaneous, ofSession, List.filter_append]
  rw [hSplit, hSplit]
  rcases hNone with hNone | hNone
  · rw [hNone, List.nil_append, List.append_nil]
  · rw [hNone, List.nil_append, List.append_nil]

/- A session has as many events in either order. -/
theorem Rearranged.length_eq
    (hRearranged : Rearranged es fs)
    (sessionId : String) :
    (ofSession es sessionId).length =
      (ofSession fs sessionId).length :=
  (hRearranged.perm.filter _).length_eq

/- They are read the same. -/
theorem Rearranged.byTime_eq
    (hRearranged : Rearranged es fs)
    (sessionId : String) :
    byTime (ofSession es sessionId) =
      byTime (ofSession fs sessionId) := by
  apply Stable.mergeSort_congr
    (Stable.rank_trans Event.timestamp)
    (Stable.rank_total Event.timestamp)
  intro a
  rw [Stable.level_rank Event.timestamp a]
  exact hRearranged.ties sessionId a.timestamp

end EventLog

end TraceMining

------------------------------------------------------------
-- Recording
------------------------------------------------------------

namespace TraceMining

namespace Workspace

/- Events of named sessions are all recorded. -/
theorem appendAll_eq_run
    {w : Workspace}
    (hPaired : w.log.Paired)
    {es : List Event}
    (hNamed : ∀ e ∈ es, e.sessionId.isEmpty = false) :
    w.appendAll es =
      (.ok (), w.run (es.map Operation.append)) := by
  induction es generalizing w with
  | nil => rfl
  | cons e es ih =>
      rcases List.forall_mem_cons.mp hNamed with
        ⟨hFirst, hRest⟩
      have hDone :=
        (EventLog.append_named hPaired w.now hFirst).1
      have hKept := (EventLog.append_spec hPaired w.now e).1
      have hAppend :
          w.append e = (.ok (), (w.append e).2) :=
        Prod.ext hDone rfl
      rw [appendAll, hAppend]
      exact ih hKept hRest

/- An analysis depends on the log for what it reads. -/
theorem analyze_fst_log
    {w : Workspace}
    {log : EventLog}
    {sessionId : String}
    (hSame :
      log.listEvents sessionId =
        w.log.listEvents sessionId) :
    (({ w with log := log } : Workspace).analyze
      sessionId).1 = (w.analyze sessionId).1 := by
  unfold analyze
  simp only [savePatterns, hSame]
  split
  · rfl
  · split
    · rfl
    · split
      · rfl
      · rename_i ps _ _
        cases (w.archive.saveAll w.archiveFault ps).1 with
        | ok done => rfl
        | error cause => rfl

/- A log that starts with them has just what came. -/
theorem exists_appendAll_eq
    {w : Workspace}
    (hFresh : w.log = EventLog.empty)
    {es : List Event}
    (hNamed : ∀ e ∈ es, e.sessionId.isEmpty = false) :
    ∃ log,
      w.appendAll es = (.ok (), { w with log := log }) ∧
        ∀ id,
          log.listEvents id =
              EventLog.byTime (EventLog.ofSession es id) ∧
            log.eventCount id =
              if EventLog.ofSession es id = [] then none
              else some (EventLog.ofSession es id).length := by
  have hPaired : w.log.Paired := by
    rw [hFresh]
    exact fun _ => rfl
  have hCounted : w.log.Counted := by
    rw [hFresh]
    exact fun _ => rfl
  have hStream := stream_run_append hPaired hNamed
  have hCount :=
    (grows_run w (es.map Operation.append)).counted hCounted
  rcases exists_run_append_eq hPaired hNamed with
    ⟨log, hRun, hOpen⟩
  rw [hRun] at hStream hCount
  rw [hFresh] at hStream hOpen
  refine ⟨log, ?_, ?_⟩
  · rw [appendAll_eq_run hPaired hNamed, hRun]
  · intro id
    constructor
    · exact congrArg EventLog.byTime (hStream id)
    · rw [hCount, hOpen]
      split
      · rfl
      · rfl

end Workspace

end TraceMining

------------------------------------------------------------
-- Analyses
------------------------------------------------------------

namespace TraceMining

namespace Workspace

/-
  Events that are appended to a log without sessions are all
  recorded.  What a session reads, how many events it counts
  and what its analysis answers is the same in every order of
  arrival that agrees on the events that one session has at
  one time.  The answer is a list of patterns if all matches
  have means and the archive refuses nothing.
-/
theorem analyze_rearranged
    {w : Workspace}
    (hFresh : w.log = EventLog.empty)
    {es fs : List Event}
    (hNamed : ∀ e ∈ es, e.sessionId.isEmpty = false)
    (hRearranged : EventLog.Rearranged es fs) :
    (w.appendAll es).1 = .ok () ∧
      (w.appendAll fs).1 = .ok () ∧
      ∀ sessionId,
        (w.appendAll es).2.log.listEvents sessionId =
            (w.appendAll fs).2.log.listEvents sessionId ∧
          (w.appendAll es).2.log.eventCount sessionId =
            (w.appendAll fs).2.log.eventCount sessionId ∧
          ((w.appendAll es).2.analyze sessionId).1 =
            ((w.appendAll fs).2.analyze sessionId).1 ∧
          (w.AllValid →
            w.archiveFault = Archive.WriteFault.none →
            (w.appendAll es).2.HasMeans sessionId →
            ∃ ps,
              ((w.appendAll es).2.analyze sessionId).1 =
                .ok ps) := by
  have hNamedToo : ∀ e ∈ fs, e.sessionId.isEmpty = false :=
    fun e hMember =>
      hNamed e (hRearranged.perm.mem_iff.mpr hMember)
  rcases exists_appendAll_eq hFresh hNamed with
    ⟨log, hAll, hLog⟩
  rcases exists_appendAll_eq hFresh hNamedToo with
    ⟨other, hAllToo, hOther⟩
  rw [hAll, hAllToo]
  refine ⟨rfl, rfl, ?_⟩
  intro sessionId
  rcases hLog sessionId with ⟨hRead, hCount⟩
  rcases hOther sessionId with ⟨hReadToo, hCountToo⟩
  -- The log matters to an analysis only in what is read.
  have hSame :
      log.listEvents sessionId =
        other.listEvents sessionId := by
    rw [hRead, hReadToo, hRearranged.byTime_eq]
  refine ⟨hSame, ?_, ?_, ?_⟩
  · have hLength := hRearranged.length_eq sessionId
    rw [hCount, hCountToo, hLength]
    simp only [← List.length_eq_zero_iff, hLength]
  · exact (analyze_fst_log hSame.symm).symm
  · intro hValid hFault hMeans
    exact exists_analyze_eq_ok hValid hMeans hFault

/- Ticks of two sessions. -/
def earlyTicks : List Event :=
  [Event.tickIn "s" "a" 0, Event.tickIn "t" "c" 10]

/- Simultaneous ticks of one session. -/
def lateTicks : List Event :=
  [Event.tickIn "s" "b" 10, Event.tickIn "s" "d" 10]

/- It does not matter which of them come first. -/
theorem analyze_rearranged_ticks :
    EventLog.Rearranged (earlyTicks ++ lateTicks)
        (lateTicks ++ earlyTicks) ∧
      ((forPairs 1000).appendAll
          (lateTicks ++ earlyTicks)).2.log.listEvents "s" =
        [ Event.tickIn "s" "a" 0, Event.tickIn "s" "b" 10,
          Event.tickIn "s" "d" 10] ∧
      ((forPairs 1000).appendAll
          (lateTicks ++ earlyTicks)).2.log.eventCount "s" =
        some 3 ∧
      ∃ ps,
        (((forPairs 1000).appendAll
            (earlyTicks ++ lateTicks)).2.analyze "s").1 =
          .ok ps ∧
        (((forPairs 1000).appendAll
            (lateTicks ++ earlyTicks)).2.analyze "s").1 =
          .ok ps := by
  have hRearranged :
      EventLog.Rearranged (earlyTicks ++ lateTicks)
        (lateTicks ++ earlyTicks) :=
    EventLog.Rearranged.append_comm (by decide)
  have hNamed :
      ∀ e ∈ earlyTicks ++ lateTicks,
        e.sessionId.isEmpty = false := by
    decide
  rcases analyze_rearranged (w := forPairs 1000) rfl hNamed
      hRearranged with ⟨_, _, hEach⟩
  rcases hEach "s" with ⟨hRead, hCount, hAnswer, hSome⟩
  rcases exists_appendAll_eq (w := forPairs 1000) rfl hNamed with
    ⟨log, hAll, hLog⟩
  rw [hAll] at hRead hCount hAnswer hSome ⊢
  rcases hLog "s" with ⟨hEvents, hThree⟩
  have hOrder :
      Matching.InOrder
        (EventLog.ofSession (earlyTicks ++ lateTicks) "s") := by
    decide
  have hMeans :=
    hasMeans_of_pair (w := { forPairs 1000 with log := log })
      (by decide) (by decide +kernel)
      (@loaded_forPairs 1000 (by decide)) "s"
  rcases hSome (allValid_reload _) rfl hMeans with
    ⟨ps, hFound⟩
  refine ⟨hRearranged, ?_, ?_, ps, hFound, ?_⟩
  · rw [← hRead, hEvents, EventLog.byTime_eq_self hOrder]
    rfl
  · rw [← hCount, hThree]
    rfl
  · rw [← hAnswer]
    exact hFound

end Workspace

end TraceMining
