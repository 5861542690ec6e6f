import TraceMining.Proofs.Recognition.Disjointness
import TraceMining.Proofs.Store.Archive
import TraceMining.Proofs.Workspace.Run

/-
  This file shows where stored patterns come from: all of them
  were found by an analysis.  Patterns that one definition
  found in a session have no event in common if no event came
  too late in between, that is with a time before the end of
  the pattern that was found first.

  Key definitions include:
    * `Workspace.Finds`
    * `Workspace.FindsAfter`

  Key theorems include:
    * `Workspace.Finds.exists_match`
    * `Workspace.mem_archive_perform`
    * `Workspace.exists_findsAfter`
    * `Workspace.Finds.disjoint`
    * `Workspace.stored_disjoint`
-/

------------------------------------------------------------
-- Finding
------------------------------------------------------------

namespace TraceMining

namespace Workspace

/- A loaded definition finds a pattern in a session. -/
structure Finds
    (w : Workspace)
    (sessionId : String)
    (d : Definition)
    (p : Pattern) : Prop where
  loaded : d ∈ w.loaded
  found :
    ∃ ps,
      d.findMatches (w.log.listEvents sessionId) = .ok ps ∧
        p ∈ ps

/- It does so in the analysis that follows some operations. -/
def FindsAfter
    (w : Workspace)
    (ops first : List Operation)
    (d : Definition)
    (p : Pattern) : Prop :=
  ∃ sessionId,
    first ++ [.analyze sessionId] <+: ops ∧
      (w.run first).Finds sessionId d p

variable {w : Workspace}
variable {sessionId : String}
variable {d : Definition}
variable {p : Pattern}

/- What is recognized was found by some definition. -/
theorem exists_finds_of_recognize
    {ps : List Pattern}
    (hFound :
      recognize w.loaded (w.log.listEvents sessionId) =
        .ok ps)
    (hMember : p ∈ ps) :
    ∃ d, w.Finds sessionId d p := by
  unfold recognize at hFound
  cases hEach : w.loaded.mapM fun d =>
      d.findMatches (w.log.listEvents sessionId) with
  | error what =>
      rw [hEach] at hFound
      cases hFound
  | ok found =>
      rw [hEach] at hFound
      rw [← Except.ok.inj hFound] at hMember
      rcases List.mem_flatten.mp hMember with
        ⟨qs, hList, hMember⟩
      have hForall := Batch.mapM_eq_ok_iff.mp hEach
      rcases Batch.exists_left_of_mem hForall hList with
        ⟨d, hLoaded, hSingle⟩
      exact ⟨d, hLoaded, qs, hSingle, hMember⟩

/- The pattern of a match belongs to the session. -/
theorem sessionId_of_match
    (hReachable : w.Reachable)
    (hLoaded : d ∈ w.loaded)
    {found : List Event}
    (hMatch :
      found ∈ d.matchedEvents (w.log.listEvents sessionId))
    (hPattern : Matching.toPattern d found = .ok p) :
    p.sessionId = sessionId := by
  rcases Definition.matchedEvents_spec
      (hReachable.allValid d hLoaded)
      (EventLog.inOrder_byTime _) hMatch with
    ⟨hSome, hInside⟩
  have hHead := List.head?_eq_some_head hSome
  have hOwn := hReachable.sessionId_eq
    (hInside (List.head_mem hSome))
  rw [(Matching.toPattern_origin hPattern).2.1, hHead]
  exact hOwn

/- What is found comes from a match in its own session. -/
theorem Finds.exists_match
    (hReachable : w.Reachable)
    (hFinds : w.Finds sessionId d p) :
    p.sessionId = sessionId ∧
      ∃ found ∈ d.matchedEvents (w.log.listEvents sessionId),
        Matching.toPattern d found = .ok p := by
  have hValid := hReachable.allValid d hFinds.loaded
  rcases hFinds.found with ⟨ps, hFound, hMember⟩
  rcases Batch.exists_left_of_mem
      ((Definition.findMatches_eq_ok_iff hValid).mp hFound)
      hMember with ⟨found, hMatch, hPattern⟩
  exact ⟨sessionId_of_match hReachable hFinds.loaded hMatch
    hPattern, found, hMatch, hPattern⟩

/- A match is found if all matches have a mean interval. -/
theorem exists_finds_of_match
    (hValid : d.isValid = true)
    (hLoaded : d ∈ w.loaded)
    (hMeans : d.HasMeans (w.log.listEvents sessionId))
    {found : List Event}
    (hMatch :
      found ∈ d.matchedEvents (w.log.listEvents sessionId)) :
    ∃ p,
      w.Finds sessionId d p ∧
        Matching.toPattern d found = .ok p := by
  rcases (Definition.exists_findMatches_iff hValid).mpr hMeans
    with ⟨ps, hFound⟩
  rcases Batch.exists_right_of_mem
      ((Definition.findMatches_eq_ok_iff hValid).mp hFound)
      hMatch with ⟨p, hMember, hPattern⟩
  exact ⟨p, ⟨hLoaded, ps, hFound, hMember⟩, hPattern⟩

end Workspace

end TraceMining

------------------------------------------------------------
-- Storing
------------------------------------------------------------

namespace TraceMining

namespace Workspace

variable {w : Workspace}
variable {p : Pattern}

/- Only an analysis stores patterns, and those that it finds. -/
theorem mem_archive_perform
    (hValid : w.AllValid)
    {op : Operation}
    (hStored : p ∈ (w.perform op).archive.values) :
    p ∈ w.archive.values ∨
      ∃ sessionId d,
        op = .analyze sessionId ∧ w.Finds sessionId d p := by
  cases op with
  | analyze sessionId =>
      rw [perform] at hStored
      cases hFound :
          recognize w.loaded (w.log.listEvents sessionId) with
      | error what =>
          rw [analyze_snd_eq_self hFound] at hStored
          exact Or.inl hStored
      | ok ps =>
          rw [analyze_snd_eq_save hValid hFound] at hStored
          rcases Archive.mem_values_saveAll hStored with
            hNew | hOld
          · rcases exists_finds_of_recognize hFound hNew with
              ⟨d, hFinds⟩
            exact Or.inr ⟨sessionId, d, rfl, hFinds⟩
          · exact Or.inl hOld
  | startSession userId id => exact Or.inl hStored
  | append e => exact Or.inl hStored
  | upsert d => exact Or.inl hStored
  | delete id => exact Or.inl hStored
  | reload => exact Or.inl hStored
  | refuse fault => exact Or.inl hStored

/- What is stored was found by an analysis of the run. -/
theorem exists_findsAfter
    (hValid : w.AllValid)
    {ops : List Operation}
    (hStored : p ∈ (w.run ops).archive.values) :
    p ∈ w.archive.values ∨
      ∃ first d, w.FindsAfter ops first d p := by
  induction ops using List.reverseRecOn with
  | nil => exact Or.inl hStored
  | append_singleton ops op ih =>
      rw [run_append] at hStored
      rcases mem_archive_perform (allValid_run hValid ops)
          hStored with hBefore | ⟨sessionId, d, rfl, hFinds⟩
      · rcases ih hBefore with
          hFirst | ⟨first, d, id, hPart, hFinds⟩
        · exact Or.inl hFirst
        · exact Or.inr ⟨first, d, id,
            hPart.trans (List.prefix_append ops [op]), hFinds⟩
      · exact Or.inr ⟨ops, d, sessionId, List.prefix_rfl,
          hFinds⟩

end Workspace

end TraceMining

------------------------------------------------------------
-- Pairs That Are Found
------------------------------------------------------------

namespace TraceMining

namespace Workspace

variable {w : Workspace}
variable {timeout : Int}
variable {sessionId : String}
variable {a b : Event}

/- Where pairs are looked for, a pair that is there is found. -/
theorem exists_finds_pair
    (hTimeout : 0 ≤ timeout)
    (hWindow : timeout < Binary.overflow)
    (hLoaded : w.loaded = [Definition.pair timeout])
    (hMatch :
      [a, b] ∈
        (Definition.pair timeout).matchedEvents
          (w.log.listEvents sessionId)) :
    ∃ p,
      w.Finds sessionId (Definition.pair timeout) p ∧
        Matching.toPattern (Definition.pair timeout) [a, b] =
          .ok p := by
  have hValid := Definition.pair_isValid hTimeout
  have hHere :
      Definition.pair timeout ∈ w.loaded :=
    hLoaded ▸ List.mem_cons_self
  exact exists_finds_of_match hValid hHere
    (Definition.hasMeans_of_timeout_lt hValid
      (EventLog.inOrder_byTime (w.log.stream sessionId))
      hWindow)
    hMatch

/- If it is the only one, it is what the analysis stores. -/
theorem exists_analyze_snd_eq_put
    (hTimeout : 0 ≤ timeout)
    (hWindow : timeout < Binary.overflow)
    (hLoaded : w.loaded = [Definition.pair timeout])
    (hFault : w.archiveFault = Archive.WriteFault.none)
    (hOnly :
      (Definition.pair timeout).matchedEvents
          (w.log.listEvents sessionId) = [[a, b]]) :
    ∃ p,
      w.Finds sessionId (Definition.pair timeout) p ∧
        Matching.toPattern (Definition.pair timeout) [a, b] =
          .ok p ∧
        (w.analyze sessionId).2 =
          { w with archive := w.archive.put p.id p } := by
  have hValid : w.AllValid := by
    rw [AllValid, hLoaded]
    exact List.forall_mem_singleton.mpr
      (Definition.pair_isValid hTimeout)
  rcases exists_finds_pair hTimeout hWindow hLoaded
      (hOnly ▸ List.mem_cons_self) with
    ⟨p, hFinds, hPattern⟩
  have hFound :
      recognize w.loaded (w.log.listEvents sessionId) =
        .ok [p] := by
    rw [recognize_eq_ok_iff hValid, hLoaded, matched,
      List.flatMap_singleton, hOnly]
    exact List.Forall₂.cons hPattern List.Forall₂.nil
  have hFine : w.archiveFault.refuses [p] = false := by
    rw [hFault]
    rfl
  exact ⟨p, hFinds, hPattern,
    analyze_snd_eq_write hValid hFound hFine⟩

end Workspace

end TraceMining

------------------------------------------------------------
-- Events in Common
------------------------------------------------------------

namespace TraceMining

namespace Workspace

/-
  A pattern and another one that is found later have no event
  identity in common if all that arrives in between comes
  after the end of the first.
-/
theorem Finds.disjoint
    {w next : Workspace}
    (hReachable : w.Reachable)
    (hNext : next.Reachable)
    {arrived : List Event}
    (hGrows : w.log.Grows arrived next.log)
    {sessionId later : String}
    {d : Definition}
    {p q : Pattern}
    (hFirst : w.Finds sessionId d p)
    (hSecond : next.Finds later d q)
    (hDifferent : p ≠ q)
    (hSession : p.sessionId = q.sessionId)
    (hIds :
      ((next.log.listEvents p.sessionId).map Event.id).Nodup)
    (hInTime :
      ∀ e ∈ arrived,
        e.sessionId = p.sessionId →
          p.endTime ≤ e.timestamp) :
    p.eventIds.Disjoint q.eventIds := by
  rcases hFirst.exists_match hReachable with
    ⟨rfl, found, hFound, hPattern⟩
  rcases hSecond.exists_match hNext with
    ⟨rfl, others, hOthers, hOther⟩
  rcases Matching.toPattern_fields hPattern with
    ⟨hFirstIds, _, hEnd, _⟩
  rcases Matching.toPattern_fields hOther with
    ⟨hSecondIds, _, _, _⟩
  -- What is read up to the end of the first stays in front.
  rcases hGrows.exists_listEvents_cut hReachable.paired
      hInTime with ⟨early, rest, more, hBefore, hAfter, hEnded⟩
  have hOrder : Matching.InOrder (early ++ rest) := by
    rw [← hBefore]
    exact EventLog.inOrder_byTime _
  have hOrderAfter : Matching.InOrder (early ++ more) := by
    rw [← hAfter]
    exact EventLog.inOrder_byTime _
  rw [← hSession, hAfter] at hOthers
  rw [hAfter] at hIds
  rw [hBefore] at hFound
  rw [hEnd] at hEnded
  rw [hFirstIds, hSecondIds]
  apply Definition.disjoint_ids_of_ended
    (hReachable.allValid d hFirst.loaded) hOrder hOrderAfter
    hIds hFound hOthers hEnded
  rintro rfl
  exact hDifferent
    (Except.ok.inj (hPattern.symm.trans hOther))

/-
  Every stored pattern was found by some definition in some
  analysis.  Two different patterns that a definition finds in
  a session, by one analysis or by two, have no event identity
  in common, unless an event is recorded in between with a
  time before the end of the one that is found first.
-/
theorem stored_disjoint
    (catalog : Catalog)
    (now : Int)
    (version : String)
    (ops : List Operation)
    (hIds : ((arrivals ops).map Event.id).Nodup) :
    (∀ p ∈
        ((ofCatalog catalog now version).run
          ops).archive.values,
      ∃ first d,
        (ofCatalog catalog now version).FindsAfter ops first
          d p) ∧
    ∀ first between d p q,
      (ofCatalog catalog now version).FindsAfter ops first
          d p →
      (ofCatalog catalog now version).FindsAfter ops
          (first ++ between) d q →
      p ≠ q →
      p.sessionId = q.sessionId →
      (∀ e ∈ arrivals between,
        e.sessionId = p.sessionId →
          p.endTime ≤ e.timestamp) →
      p.eventIds.Disjoint q.eventIds := by
  constructor
  · intro p hStored
    rcases exists_findsAfter (allValid_reload _) hStored with
      hNone | hSome
    · exact absurd hNone List.not_mem_nil
    · exact hSome
  · rintro first between d p q ⟨_, _, hFirst⟩
      ⟨_, hPart, hSecond⟩ hDifferent hSession
    have hArrived :
        (arrivals (first ++ between)).Sublist (arrivals ops) :=
      ((List.prefix_append _ _).trans
        hPart).sublist.filterMap Operation.arrival?
    have hGrows :=
      grows_run ((ofCatalog catalog now version).run first)
        between
    rw [← run_append] at hGrows
    exact hFirst.disjoint ⟨_, _, _, _, rfl⟩
      ⟨_, _, _, _, rfl⟩ hGrows hSecond hDifferent hSession
      (nodup_ids_listEvents catalog now version
        (hIds.sublist (hArrived.map Event.id)) p.sessionId)

/- Ticks that make two pairs, with an analysis after each. -/
def twoPairs : List Operation :=
  [ .append (Event.tick "a" 0)
  , .append (Event.tick "b" 500)
  , .analyze "s"
  , .append (Event.tick "c" 500)
  , .append (Event.tick "d" 900)
  , .analyze "s" ]

/- What the second analysis of them reads. -/
theorem listEvents_twoPairs :
    ((forPairs 1000).run (twoPairs.take 5)).log.listEvents
        "s" =
      Event.ticks 500 ++
        [Event.tick "c" 500, Event.tick "d" 900] := by
  have hOrder :
      Matching.InOrder
        (Event.ticks 500 ++
          [Event.tick "c" 500, Event.tick "d" 900]) := by
    decide
  have hRun :
      (forPairs 1000).run (twoPairs.take 5) =
        (((forPairs 1000).run (twoPairs.take 2)).analyze
          "s").2.run ((twoPairs.drop 3).take 2) := rfl
  rcases exists_analyze_snd_eq
      ((forPairs 1000).run (twoPairs.take 2)) "s" with
    ⟨archive, hNext⟩
  rw [hRun, hNext]
  exact EventLog.byTime_eq_self hOrder

/- The second analysis finds a pair without the first ticks. -/
theorem stored_disjoint_twoPairs :
    ((arrivals twoPairs).map Event.id).Nodup ∧
      ∃ p q,
        (forPairs 1000).FindsAfter twoPairs
            (twoPairs.take 2) (Definition.pair 1000) p ∧
          (forPairs 1000).FindsAfter twoPairs
              (twoPairs.take 5) (Definition.pair 1000) q ∧
            p.eventIds = ["a", "b"] ∧
            q.eventIds = ["c", "d"] ∧
            p.eventIds.Disjoint q.eventIds := by
  have hIds : ((arrivals twoPairs).map Event.id).Nodup := by
    decide
  rcases stored_disjoint (Catalog.ofList [Definition.pair 1000])
      0 "1" twoPairs hIds with ⟨_, hDisjoint⟩
  have hFirstEvents :
      ((forPairs 1000).run (twoPairs.take 2)).log.listEvents
        "s" = Event.ticks 500 :=
    EventLog.byTime_eq_self (by decide)
  have hLoaded :
      ∀ n,
        ((forPairs 1000).run (twoPairs.take n)).loaded =
          [Definition.pair 1000] :=
    fun n => loaded_run_forPairs (by decide) fun hReload =>
      by simpa [twoPairs] using List.mem_of_mem_take hReload
  have hHere :
      Event.ticks 500 ∈
        (Definition.pair 1000).matchedEvents
          (((forPairs 1000).run (twoPairs.take 2)).log.listEvents
            "s") := by
    rw [hFirstEvents, Event.ticks,
      Definition.matchedEvents_pair (by decide) (by decide)]
    exact List.mem_cons_self
  have hThere :
      [Event.tick "c" 500, Event.tick "d" 900] ∈
        (Definition.pair 1000).matchedEvents
          (((forPairs 1000).run (twoPairs.take 5)).log.listEvents
            "s") := by
    rw [listEvents_twoPairs, Event.ticks,
      List.cons_append, List.cons_append, List.nil_append,
      Definition.matchedEvents_pair (by decide) (by decide),
      Definition.matchedEvents_pair (by decide) (by decide)]
    exact List.mem_cons_of_mem _ List.mem_cons_self
  rcases exists_finds_pair (by decide) (by decide +kernel)
      (hLoaded 2) hHere with ⟨p, hFirst, hPattern⟩
  rcases exists_finds_pair (by decide) (by decide +kernel)
      (hLoaded 5) hThere with ⟨q, hSecond, hOther⟩
  rcases Matching.toPattern_fields hPattern with
    ⟨hFirstIds, _, hEnd, _⟩
  rcases Matching.toPattern_fields hOther with
    ⟨hSecondIds, _, _, _⟩
  have hBefore :
      (forPairs 1000).FindsAfter twoPairs
        (twoPairs.take 2) (Definition.pair 1000) p :=
    ⟨"s", ⟨twoPairs.drop 3, rfl⟩, hFirst⟩
  have hAfter :
      (forPairs 1000).FindsAfter twoPairs
        (twoPairs.take 5) (Definition.pair 1000) q :=
    ⟨"s", ⟨[], rfl⟩, hSecond⟩
  refine ⟨hIds, p, q, hBefore, hAfter, hFirstIds, hSecondIds,
    ?_⟩
  apply hDisjoint (twoPairs.take 2)
    ((twoPairs.drop 2).take 3) _ p q hBefore hAfter
  · rintro rfl
    rw [hFirstIds] at hSecondIds
    exact absurd hSecondIds (by decide)
  · rw [(Matching.toPattern_origin hPattern).2.1,
      (Matching.toPattern_origin hOther).2.1]
    rfl
  · rw [hEnd]
    have hTimes :
        ∀ e ∈ arrivals ((twoPairs.drop 2).take 3),
          500 ≤ e.timestamp := by
      decide
    exact fun e hMember _ => hTimes e hMember

/- A tick that comes too late, with an analysis before it. -/
def lateTick : List Operation :=
  [ .append (Event.tick "b" 10)
  , .append (Event.tick "c" 20)
  , .analyze "s"
  , .append (Event.tick "a" 5)
  , .analyze "s" ]

/- Late as it comes, it is read first. -/
theorem byTime_lateTick :
    EventLog.byTime (arrivals lateTick) =
      [Event.tick "a" 5, Event.tick "b" 10,
        Event.tick "c" 20] := by
  have hEarly :
      ((arrivals lateTick).filter fun e =>
          decide (e.timestamp ≤ 5)) =
        [Event.tick "a" 5] := rfl
  have hRest :
      ((arrivals lateTick).filter fun e =>
          !decide (e.timestamp ≤ 5)) =
        [Event.tick "b" 10, Event.tick "c" 20] := rfl
  rw [EventLog.byTime_cut _ 5, hEarly, hRest,
    EventLog.byTime_eq_self (by decide),
    EventLog.byTime_eq_self (by decide)]
  rfl

/- It takes a tick away from the pair that is stored. -/
theorem not_stored_disjoint_lateTick :
    ((arrivals lateTick).map Event.id).Nodup ∧
      ∃ p q,
        p ∈ ((forPairs 1000).run lateTick).archive.values ∧
          q ∈ ((forPairs 1000).run lateTick).archive.values ∧
            p.id ≠ q.id ∧
            p.sessionId = q.sessionId ∧
            (forPairs 1000).FindsAfter lateTick
              (lateTick.take 2) (Definition.pair 1000) p ∧
            (forPairs 1000).FindsAfter lateTick
              (lateTick.take 4) (Definition.pair 1000) q ∧
            ¬ p.eventIds.Disjoint q.eventIds := by
  have hLoaded :
      ∀ n,
        ((forPairs 1000).run (lateTick.take n)).loaded =
          [Definition.pair 1000] :=
    fun n => loaded_run_forPairs (by decide) fun hReload =>
      by simpa [lateTick] using List.mem_of_mem_take hReload
  have hFirstEvents :
      ((forPairs 1000).run (lateTick.take 2)).log.listEvents
        "s" = [Event.tick "b" 10, Event.tick "c" 20] :=
    EventLog.byTime_eq_self (by decide)
  have hHere :
      (Definition.pair 1000).matchedEvents
          (((forPairs 1000).run (lateTick.take 2)).log.listEvents
            "s") =
        [[Event.tick "b" 10, Event.tick "c" 20]] := by
    rw [hFirstEvents,
      Definition.matchedEvents_pair (by decide) (by decide)]
    rfl
  rcases exists_analyze_snd_eq_put (by decide)
      (by decide +kernel) (hLoaded 2) rfl hHere with
    ⟨p, hFirst, hPattern, hSaved⟩
  have hRun :
      (forPairs 1000).run (lateTick.take 4) =
        (((forPairs 1000).run (lateTick.take 2)).analyze
          "s").2.perform (.append (Event.tick "a" 5)) := rfl
  rw [hSaved] at hRun
  have hSecondEvents :
      ((forPairs 1000).run (lateTick.take 4)).log.listEvents
          "s" =
        [Event.tick "a" 5, Event.tick "b" 10,
          Event.tick "c" 20] := by
    rw [← byTime_lateTick, hRun]
    rfl
  have hThere :
      (Definition.pair 1000).matchedEvents
          (((forPairs 1000).run (lateTick.take 4)).log.listEvents
            "s") =
        [[Event.tick "a" 5, Event.tick "b" 10]] := by
    rw [hSecondEvents,
      Definition.matchedEvents_pair (by decide) (by decide)]
    rfl
  rcases exists_analyze_snd_eq_put (by decide)
      (by decide +kernel) (hLoaded 4) (hRun ▸ rfl) hThere with
    ⟨q, hSecond, hOther, hSavedToo⟩
  have hStored :
      ((forPairs 1000).run lateTick).archive =
        (Table.empty.put p.id p).put q.id q := by
    have hLast :
        (forPairs 1000).run lateTick =
          (((forPairs 1000).run (lateTick.take 4)).analyze
            "s").2 := rfl
    rw [hLast, hSavedToo, hRun]
    rfl
  rcases Matching.toPattern_fields hPattern with
    ⟨hFirstIds, _, _, _⟩
  rcases Matching.toPattern_fields hOther with
    ⟨hSecondIds, _, _, _⟩
  rcases Matching.toPattern_origin hPattern with
    ⟨_, hFirstSession, hFirstName⟩
  rcases Matching.toPattern_origin hOther with
    ⟨_, hSecondSession, hSecondName⟩
  have hNames : p.id ≠ q.id := by
    rw [hFirstName, hSecondName, hFirstSession,
      hSecondSession, hFirstIds, hSecondIds]
    decide +kernel
  refine ⟨by decide, p, q, ?_, ?_, hNames, ?_,
    ⟨"s", ⟨lateTick.drop 3, rfl⟩, hFirst⟩,
    ⟨"s", ⟨[], rfl⟩, hSecond⟩, ?_⟩
  · rw [hStored]
    apply Table.mem_values_of_get?
    rw [Table.get?_put_of_ne _ q hNames, Table.get?_put_self]
  · rw [hStored]
    exact Table.mem_values_of_get? (Table.get?_put_self _ q.id q)
  · rw [hFirstSession, hSecondSession]
    rfl
  · rw [hFirstIds, hSecondIds]
    exact fun hDisjoint =>
      @hDisjoint "b" (by decide) (by decide)

end Workspace

end TraceMining
