import Mathlib.Data.Set.Function
import TraceMining.Proofs.Recognition.Names
import TraceMining.Proofs.Workspace.Failures
import TraceMining.Proofs.Workspace.Provenance

/-
  This file shows when the patterns of an analysis have
  different identities, so that none takes the place of
  another in the archive.  Different matches differ in their
  definition or in their events, but their names can still be
  the same; it is the names that decide, if the digest maps
  none of them to the identity of another.

  Key definitions include:
    * `Workspace.origin`
    * `Workspace.nameOf`
    * `Workspace.names`

  Key theorems include:
    * `Workspace.nodup_origins`
    * `Workspace.nodup_names`
    * `Workspace.nodup_names_of_readable`
    * `Workspace.nodup_names_of_stored`
    * `Workspace.recognize_ids`
    * `Workspace.analyze_identities`
-/

------------------------------------------------------------
-- Matches
------------------------------------------------------------

namespace TraceMining

namespace Workspace

/- The identities of a match's definition and of its events. -/
def origin
    (m : Definition × List Event) : String × List String :=
  (m.1.id, m.2.map Event.id)

variable {ds : List Definition}
variable {es : List Event}

/- Different matches have different origins. -/
theorem nodup_origins
    (hValid : ∀ d ∈ ds, d.isValid = true)
    (hOrder : Matching.InOrder es)
    (hDefinitions : (ds.map Definition.id).Nodup)
    (hEvents : (es.map Event.id).Nodup) :
    ((matched ds es).map origin).Nodup := by
  rw [List.Nodup, List.pairwise_map, matched,
    List.pairwise_flatMap]
  constructor
  · intro d hLoaded
    have hDisjoint :=
      Definition.pairwise_disjoint_matchedEvents
        (hValid d hLoaded) hOrder hEvents
    rw [List.pairwise_map]
    refine hDisjoint.imp_of_mem ?_
    intro found others hFound _ hApart hSame
    have hIds := (Prod.mk.inj hSame).2
    have hSome := (Definition.matchedEvents_spec
      (hValid d hLoaded) hOrder hFound).1
    rcases List.exists_mem_of_ne_nil _ hSome with ⟨e, hEvent⟩
    have hHere := List.mem_map_of_mem (f := Event.id) hEvent
    exact hApart hHere (hIds ▸ hHere)
  · rw [List.Nodup, List.pairwise_map] at hDefinitions
    refine hDefinitions.imp ?_
    intro d e hOther m hFirst n hSecond hSame
    rcases List.mem_map.mp hFirst with ⟨_, _, rfl⟩
    rcases List.mem_map.mp hSecond with ⟨_, _, rfl⟩
    exact hOther (Prod.mk.inj hSame).1

end Workspace

end TraceMining

------------------------------------------------------------
-- Names
------------------------------------------------------------

namespace TraceMining

namespace Workspace

variable {w : Workspace}
variable {sessionId : String}

/- The name of a match in a session. -/
def nameOf
    (sessionId : String)
    (m : Definition × List Event) : String :=
  Matching.patternName sessionId m.1.id (m.2.map Event.id)

/- The names of all matches in a session. -/
def names
    (w : Workspace)
    (sessionId : String) : List String :=
  (matched w.loaded (w.log.listEvents sessionId)).map
    (nameOf sessionId)

/-
  The names are different if no two matches have one in
  common, unless they have the same origin.
-/
theorem nodup_names
    (hValid : w.AllValid)
    (hDefinitions : (w.loaded.map Definition.id).Nodup)
    (hEvents :
      ((w.log.stream sessionId).map Event.id).Nodup)
    (hNames :
      ∀ m ∈ matched w.loaded (w.log.listEvents sessionId),
        ∀ n ∈ matched w.loaded (w.log.listEvents sessionId),
          nameOf sessionId m = nameOf sessionId n →
            origin m = origin n) :
    (w.names sessionId).Nodup := by
  have hOrigins := nodup_origins hValid
    (EventLog.inOrder_byTime (w.log.stream sessionId))
    hDefinitions (EventLog.nodup_ids_byTime hEvents)
  rw [List.Nodup, List.pairwise_map] at hOrigins
  rw [List.Nodup, names, List.pairwise_map]
  refine hOrigins.imp_of_mem ?_
  intro m n hFirst hSecond hOther hSame
  exact hOther (hNames m hFirst n hSecond hSame)

/- A match has its origin in what is loaded and recorded. -/
theorem origin_spec
    (hValid : w.AllValid)
    {m : Definition × List Event}
    (hMatch :
      m ∈ matched w.loaded (w.log.listEvents sessionId)) :
    (origin m).1 ∈ w.loaded.map Definition.id ∧
      (origin m).2 ≠ [] ∧
        (origin m).2 ⊆
          (w.log.stream sessionId).map Event.id := by
  rcases mem_matched_iff.mp hMatch with ⟨hLoaded, hFound⟩
  rcases Definition.matchedEvents_spec (hValid m.1 hLoaded)
      (EventLog.inOrder_byTime _) hFound with
    ⟨hSome, hRead⟩
  refine ⟨List.mem_map_of_mem hLoaded, ?_, ?_⟩
  · rwa [origin, Ne, List.map_eq_nil_iff]
  · apply List.map_subset
    intro e hEvent
    exact List.mem_mergeSort.mp (hRead hEvent)

/- Names that can be read back are those of one match each. -/
theorem nodup_names_of_readable
    (hValid : w.AllValid)
    (hDefinitions : (w.loaded.map Definition.id).Nodup)
    (hEvents :
      ((w.log.stream sessionId).map Event.id).Nodup)
    (hReadable :
      Matching.AreReadable (w.loaded.map Definition.id)
        ((w.log.stream sessionId).map Event.id)) :
    (w.names sessionId).Nodup := by
  apply nodup_names hValid hDefinitions hEvents
  intro m hFirst n hSecond hSame
  rcases origin_spec hValid hFirst with ⟨hD, hSome, hIds⟩
  rcases origin_spec hValid hSecond with
    ⟨hE, hMore, hOthers⟩
  rcases Matching.patternName_inj hReadable hD hE hIds hOthers
      hSome hMore hSame with ⟨hDefinition, hSameIds⟩
  exact Prod.ext hDefinition hSameIds

/- A pattern has the identity that belongs to its name. -/
theorem id_of_match
    (hReachable : w.Reachable)
    {m : Definition × List Event}
    (hMatch :
      m ∈ matched w.loaded (w.log.listEvents sessionId))
    {p : Pattern}
    (hPattern : Matching.toPattern m.1 m.2 = .ok p) :
    p.id =
      Identity.named Identity.patternKey
        (nameOf sessionId m) := by
  rcases mem_matched_iff.mp hMatch with ⟨hLoaded, hFound⟩
  rw [(Matching.toPattern_origin hPattern).2.2,
    sessionId_of_match hReachable hLoaded hFound hPattern,
    (Matching.toPattern_fields hPattern).1]
  rfl

/- So have all patterns that are recognized. -/
theorem recognize_ids
    (hReachable : w.Reachable)
    {ps : List Pattern}
    (hFound :
      recognize w.loaded (w.log.listEvents sessionId) =
        .ok ps) :
    ps.map Pattern.id =
      (w.names sessionId).map
        (Identity.named Identity.patternKey) := by
  have hAll :=
    (recognize_eq_ok_iff hReachable.allValid).mp hFound
  rw [names, List.map_map, ← List.forall₂_eq_eq_eq,
    List.forall₂_map_left_iff, List.forall₂_map_right_iff]
  exact (Batch.forall₂_imp_of_mem hAll fun m hMatch p hPattern =>
    id_of_match hReachable hMatch hPattern).flip

/- If the digest keeps names apart, so are the identities. -/
theorem nodup_ids_iff
    (hReachable : w.Reachable)
    (hApart :
      Set.InjOn (Identity.named Identity.patternKey)
        {name | name ∈ w.names sessionId})
    {ps : List Pattern}
    (hFound :
      recognize w.loaded (w.log.listEvents sessionId) =
        .ok ps) :
    (ps.map Pattern.id).Nodup ↔ (w.names sessionId).Nodup := by
  rw [recognize_ids hReachable hFound]
  constructor
  · exact List.Nodup.of_map _
  · exact List.Nodup.map_on fun a hA b hB hSame =>
      hApart hA hB hSame

end Workspace

end TraceMining

------------------------------------------------------------
-- Identities
------------------------------------------------------------

namespace TraceMining

namespace Workspace

variable {w : Workspace}
variable {sessionId : String}

/-
  Patterns that are all stored under their own identities are
  those of matches with different names.
-/
theorem nodup_names_of_stored
    (hReachable : w.Reachable)
    (hDefinitions : (w.loaded.map Definition.id).Nodup)
    (hEvents :
      ((w.log.stream sessionId).map Event.id).Nodup)
    {ps : List Pattern}
    (hFound :
      recognize w.loaded (w.log.listEvents sessionId) =
        .ok ps)
    {archive : Archive}
    (hStored : ∀ p ∈ ps, archive.get? p.id = some p) :
    (w.names sessionId).Nodup := by
  have hAll :=
    (recognize_eq_ok_iff hReachable.allValid).mp hFound
  apply nodup_names hReachable.allValid hDefinitions hEvents
  intro m hFirst n hSecond hSame
  rcases Batch.exists_right_of_mem hAll hFirst with
    ⟨p, hP, hPattern⟩
  rcases Batch.exists_right_of_mem hAll hSecond with
    ⟨q, hQ, hPatternToo⟩
  have hId : p.id = q.id := by
    rw [id_of_match hReachable hFirst hPattern,
      id_of_match hReachable hSecond hPatternToo, hSame]
  -- One identity has room for one pattern.
  have hPatterns : p = q :=
    Option.some.inj
      ((hStored p hP).symm.trans (hId ▸ hStored q hQ))
  have hEventIds :
      m.2.map Event.id = n.2.map Event.id := by
    rw [← (Matching.toPattern_fields hPattern).1,
      ← (Matching.toPattern_fields hPatternToo).1,
      hPatterns]
  rw [nameOf, nameOf, hEventIds] at hSame
  exact Prod.ext (Matching.patternName_left_inj hSame)
    hEventIds

/-
  The patterns that an analysis hands out have different
  identities just if the names of the matches are different,
  and that is when each is stored under its own.  So it is if
  no event has a comma in its identity, and not both some
  definition and some event have a colon.
-/
theorem analyze_identities
    (hReachable : w.Reachable)
    (hDefinitions : (w.loaded.map Definition.id).Nodup)
    (hEvents :
      ((w.log.stream sessionId).map Event.id).Nodup)
    (hApart :
      Set.InjOn (Identity.named Identity.patternKey)
        {name | name ∈ w.names sessionId})
    {ps : List Pattern}
    (hAnswer : (w.analyze sessionId).1 = .ok ps) :
    ((ps.map Pattern.id).Nodup ↔
        (w.names sessionId).Nodup) ∧
      ((∀ p ∈ ps,
          (w.analyze sessionId).2.archive.get? p.id =
            some p) ↔
        (w.names sessionId).Nodup) ∧
      (Matching.AreReadable (w.loaded.map Definition.id)
          ((w.log.stream sessionId).map Event.id) →
        (w.names sessionId).Nodup) := by
  rcases recognize_of_analyze hReachable.allValid hAnswer with
    ⟨hFound, hFine⟩
  have hIds := nodup_ids_iff hReachable hApart hFound
  refine ⟨hIds, ⟨?_, ?_⟩, nodup_names_of_readable
    hReachable.allValid hDefinitions hEvents⟩
  · exact nodup_names_of_stored hReachable hDefinitions hEvents
      hFound
  · intro hNames p hMember
    rw [analyze_snd_eq_write hReachable.allValid hFound hFine]
    exact Archive.get?_write_of_mem w.archive
      (hIds.mpr hNames) hMember

/- Four ticks that are recorded where pairs are looked for. -/
def fourTicks
    (a b c d : String) : Workspace :=
  (forPairs 1000).run
    ([ Event.tick a 0, Event.tick b 100, Event.tick c 200,
        Event.tick d 300].map Operation.append)

/- They are read as they were recorded, and nothing else is. -/
theorem fourTicks_spec
    (a b c d : String) :
    (fourTicks a b c d).loaded = [Definition.pair 1000] ∧
      (fourTicks a b c d).archiveFault =
          Archive.WriteFault.none ∧
        (fourTicks a b c d).log.stream "s" =
          [Event.tick a 0, Event.tick b 100,
            Event.tick c 200, Event.tick d 300] := by
  have hPaired : (forPairs 1000).log.Paired := fun _ => rfl
  have hNamed :
      ∀ e ∈ [ Event.tick a 0, Event.tick b 100,
          Event.tick c 200, Event.tick d 300],
        e.sessionId.isEmpty = false := by
    simp [Event.tick]
  rcases exists_run_append_eq hPaired hNamed with
    ⟨log, hRun, _⟩
  have hStream := stream_run_append hPaired hNamed "s"
  rw [hRun] at hStream
  rw [fourTicks, hRun]
  exact ⟨@loaded_forPairs 1000 (by decide), rfl, hStream⟩

/- They make two pairs, which have these names. -/
theorem names_fourTicks
    (a b c d : String) :
    (fourTicks a b c d).names "s" =
      [Matching.patternName "s" "pair" [a, b],
        Matching.patternName "s" "pair" [c, d]] := by
  rcases fourTicks_spec a b c d with ⟨hLoaded, _, hStream⟩
  have hEvents :
      (fourTicks a b c d).log.listEvents "s" =
        [Event.tick a 0, Event.tick b 100,
          Event.tick c 200, Event.tick d 300] := by
    have hRead :
        (fourTicks a b c d).log.listEvents "s" =
          EventLog.byTime
            ((fourTicks a b c d).log.stream "s") := rfl
    rw [hRead, hStream]
    exact EventLog.byTime_eq_self
      (by simp [Matching.InOrder, Event.tick])
  rw [names, hLoaded, hEvents,
    matched_pair (by decide) (by simp [Event.tick]),
    matched_pair (by decide) (by simp [Event.tick])]
  rfl

/- Pairs are found among them. -/
theorem exists_analyze_fourTicks
    (a b c d : String) :
    ∃ ps, ((fourTicks a b c d).analyze "s").1 = .ok ps := by
  have hReachable : (fourTicks a b c d).Reachable :=
    reachable_run_forPairs 1000 _
  rcases fourTicks_spec a b c d with ⟨hLoaded, hFault, _⟩
  exact exists_analyze_eq_ok hReachable.allValid
    (hasMeans_of_pair (by decide) (by decide +kernel)
      hLoaded "s") hFault

/- Names of two pairs stay apart, and both are stored. -/
theorem analyze_identities_fourTicks :
    ∃ ps,
      ((fourTicks "a" "b" "c" "d").analyze "s").1 = .ok ps ∧
        ps.length = 2 ∧
        (ps.map Pattern.id).Nodup ∧
        ∀ p ∈ ps,
          ((fourTicks "a" "b" "c" "d").analyze
            "s").2.archive.get? p.id = some p := by
  have hReachable :
      (fourTicks "a" "b" "c" "d").Reachable :=
    reachable_run_forPairs 1000 _
  rcases fourTicks_spec "a" "b" "c" "d" with
    ⟨hLoaded, _, hStream⟩
  rcases exists_analyze_fourTicks "a" "b" "c" "d" with
    ⟨ps, hAnswer⟩
  have hNames := names_fourTicks "a" "b" "c" "d"
  have hApart :
      Set.InjOn (Identity.named Identity.patternKey)
        {name |
          name ∈ (fourTicks "a" "b" "c" "d").names "s"} := by
    have hOther :
        Identity.named Identity.patternKey
            (Matching.patternName "s" "pair" ["a", "b"]) ≠
          Identity.named Identity.patternKey
            (Matching.patternName "s" "pair" ["c", "d"]) := by
      decide +kernel
    rw [hNames]
    intro m hFirst n hSecond hSame
    simp only [Set.mem_ofPred_eq, List.mem_cons,
      List.not_mem_nil, or_false] at hFirst hSecond
    rcases hFirst with rfl | rfl <;>
      rcases hSecond with rfl | rfl
    · rfl
    · exact absurd hSame hOther
    · exact absurd hSame.symm hOther
    · rfl
  rcases analyze_identities hReachable
      (by rw [hLoaded]; decide) (by rw [hStream]; decide)
      hApart hAnswer with ⟨hIds, hStored, hReadable⟩
  have hDifferent := hReadable (by
    rw [hLoaded, hStream]
    exact ⟨by decide, Or.inl (by decide)⟩)
  refine ⟨ps, hAnswer, ?_, hIds.mpr hDifferent,
    hStored.mpr hDifferent⟩
  have hFound :=
    (recognize_of_analyze hReachable.allValid hAnswer).1
  have hLength :=
    congrArg List.length (recognize_ids hReachable hFound)
  rw [hNames, List.length_map, List.length_map] at hLength
  exact hLength

/- Commas in the identities of events make one name of two. -/
theorem not_analyze_identities_commas :
    ((fourTicks "a,b" "c" "a" "b,c").loaded.map
        Definition.id).Nodup ∧
      (((fourTicks "a,b" "c" "a" "b,c").log.stream "s").map
        Event.id).Nodup ∧
      Set.InjOn (Identity.named Identity.patternKey)
        {name |
          name ∈ (fourTicks "a,b" "c" "a" "b,c").names "s"} ∧
      ∃ ps,
        ((fourTicks "a,b" "c" "a" "b,c").analyze "s").1 =
            .ok ps ∧
          ¬ (ps.map Pattern.id).Nodup ∧
          ¬ ∀ p ∈ ps,
            ((fourTicks "a,b" "c" "a" "b,c").analyze
              "s").2.archive.get? p.id = some p := by
  have hReachable :
      (fourTicks "a,b" "c" "a" "b,c").Reachable :=
    reachable_run_forPairs 1000 _
  rcases fourTicks_spec "a,b" "c" "a" "b,c" with
    ⟨hLoaded, _, hStream⟩
  have hNames := names_fourTicks "a,b" "c" "a" "b,c"
  have hSame :
      Matching.patternName "s" "pair" ["a,b", "c"] =
        Matching.patternName "s" "pair" ["a", "b,c"] := by
    decide
  rcases exists_analyze_fourTicks "a,b" "c" "a" "b,c" with
    ⟨ps, hAnswer⟩
  have hFound :=
    (recognize_of_analyze hReachable.allValid hAnswer).1
  have hDefinitions :
      ((fourTicks "a,b" "c" "a" "b,c").loaded.map
        Definition.id).Nodup := by
    rw [hLoaded]
    decide
  have hEvents :
      (((fourTicks "a,b" "c" "a" "b,c").log.stream "s").map
        Event.id).Nodup := by
    rw [hStream]
    decide
  have hApart :
      Set.InjOn (Identity.named Identity.patternKey)
        {name |
          name ∈
            (fourTicks "a,b" "c" "a" "b,c").names "s"} := by
    rw [hNames, hSame]
    intro m hFirst n hSecond _
    simp only [Set.mem_ofPred_eq, List.mem_cons,
      List.not_mem_nil, or_false, or_self] at hFirst hSecond
    rw [hFirst, hSecond]
  have hRepeated :
      ¬ ((fourTicks "a,b" "c" "a" "b,c").names "s").Nodup := by
    rw [hNames, hSame]
    simp
  refine ⟨hDefinitions, hEvents, hApart, ps, hAnswer, ?_, ?_⟩
  · rwa [nodup_ids_iff hReachable hApart hFound]
  · intro hStored
    exact hRepeated
      (nodup_names_of_stored hReachable hDefinitions hEvents
        hFound hStored)

end Workspace

end TraceMining
