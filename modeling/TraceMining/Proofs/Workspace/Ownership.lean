import TraceMining.Proofs.Workspace.Writing

/-
  This file shows that patterns of different sessions have
  different identities, so that none is stored in the place of
  another session's.  The name from which an identity comes
  begins with the session and a colon; it tells the session if
  no session has a colon in its identity.

  Key definitions include:
    * `Workspace.namesOfRun`
    * `Workspace.WellNamed`
    * `Workspace.NamedIn`

  Key theorems include:
    * `Workspace.sessionId_eq_of_id_eq`
    * `Workspace.Reachable.isLabelled`
    * `Workspace.WellNamed.exists_names`
    * `Workspace.WellNamed.agreeOn_written`
    * `Workspace.wellNamed_run_forPairs`
-/

------------------------------------------------------------
-- Names of a Run
------------------------------------------------------------

namespace TraceMining

namespace Workspace

/-
  The names of the matches that the analyses of a run found,
  and of those that an analysis would find behind it.
-/
def namesOfRun
    (w : Workspace)
    (ops : List Operation) : Set String :=
  {name |
    (∃ first sessionId,
      first ++ [.analyze sessionId] <+: ops ∧
        name ∈ (w.run first).names sessionId) ∨
    ∃ sessionId, name ∈ (w.run ops).names sessionId}

/-
  A workspace that operations lead to from some catalog, where
  no event comes for a session with a colon in its identity,
  and the digest keeps the names apart.
-/
def WellNamed
    (w : Workspace) : Prop :=
  ∃ catalog now version ops,
    w = (ofCatalog catalog now version).run ops ∧
      (∀ e ∈ arrivals ops, ':' ∉ e.sessionId.toList) ∧
      Set.InjOn (Identity.named Identity.patternKey)
        ((ofCatalog catalog now version).namesOfRun ops)

/- Such a workspace can be reached. -/
theorem WellNamed.reachable
    {w : Workspace}
    (hNamed : w.WellNamed) :
    w.Reachable := by
  rcases hNamed with ⟨catalog, now, version, ops, hRun, _⟩
  exact ⟨catalog, now, version, ops, hRun⟩

end Workspace

end TraceMining

------------------------------------------------------------
-- Identities of Patterns
------------------------------------------------------------

namespace TraceMining

namespace Workspace

/-
  A pattern has its identity from one of some names, which
  begins with its session.
-/
def NamedIn
    (names : Set String)
    (p : Pattern) : Prop :=
  ':' ∉ p.sessionId.toList ∧
    ∃ definitionId,
      Matching.patternName p.sessionId definitionId
          p.eventIds ∈ names ∧
        p.id =
          Identity.named Identity.patternKey
            (Matching.patternName p.sessionId definitionId
              p.eventIds)

/- The identity then tells the session. -/
theorem sessionId_eq_of_id_eq
    {names : Set String}
    (hApart :
      Set.InjOn (Identity.named Identity.patternKey) names)
    {p q : Pattern}
    (hFirst : NamedIn names p)
    (hSecond : NamedIn names q)
    (hId : p.id = q.id) :
    p.sessionId = q.sessionId := by
  rcases hFirst with ⟨hColon, d, hName, hFrom⟩
  rcases hSecond with ⟨hColonToo, e, hNameToo, hFromToo⟩
  rw [hFrom, hFromToo] at hId
  exact Matching.patternName_session_inj hColon hColonToo
    (hApart hName hNameToo hId)

variable {w : Workspace}
variable {sessionId : String}
variable {d : Definition}
variable {p : Pattern}

/- So it is with every pattern that is found. -/
theorem Finds.namedIn
    (hReachable : w.Reachable)
    (hFinds : w.Finds sessionId d p)
    (hColon : ':' ∉ sessionId.toList)
    {names : Set String}
    (hNames : ∀ name ∈ w.names sessionId, name ∈ names) :
    NamedIn names p := by
  rcases hFinds.exists_match hReachable with
    ⟨rfl, found, hMatch, hPattern⟩
  have hMember :
      (d, found) ∈
        matched w.loaded (w.log.listEvents p.sessionId) :=
    mem_matched_iff.mpr ⟨hFinds.loaded, hMatch⟩
  have hId := id_of_match hReachable hMember hPattern
  have hName :
      Matching.patternName p.sessionId d.id p.eventIds =
        nameOf p.sessionId (d, found) := by
    rw [(Matching.toPattern_fields hPattern).1, nameOf]
  refine ⟨hColon, d.id, ?_, ?_⟩
  · rw [hName]
    exact hNames _ (List.mem_map_of_mem hMember)
  · rw [hName]
    exact hId

/- A pattern is found only where some event arrived. -/
theorem exists_arrival_of_finds
    {catalog : Catalog}
    {now : Int}
    {version : String}
    {ops : List Operation}
    (hFinds :
      ((ofCatalog catalog now version).run ops).Finds
        sessionId d p) :
    ∃ e ∈ arrivals ops, e.sessionId = sessionId := by
  have hReachable :
      ((ofCatalog catalog now version).run ops).Reachable :=
    ⟨catalog, now, version, ops, rfl⟩
  rcases hFinds.exists_match hReachable with
    ⟨_, found, hMatch, _⟩
  rcases Definition.matchedEvents_spec
      (hReachable.allValid d hFinds.loaded)
      (EventLog.inOrder_byTime _) hMatch with
    ⟨hSome, hInside⟩
  rcases List.exists_mem_of_ne_nil found hSome with ⟨e, hHere⟩
  have hRead := List.mem_mergeSort.mp (hInside hHere)
  rcases stream_run_ofCatalog catalog now version ops
      sessionId with ⟨hArrived, hOwn⟩
  exact ⟨e, hArrived.subset hRead, hOwn e hRead⟩

end Workspace

end TraceMining

------------------------------------------------------------
-- Stored Patterns
------------------------------------------------------------

namespace TraceMining

namespace Workspace

variable {w : Workspace}

/- Operations keep patterns under their identities. -/
theorem isLabelled_perform
    (hValid : w.AllValid)
    (hLabelled : w.archive.IsLabelled)
    (op : Operation) :
    (w.perform op).archive.IsLabelled := by
  cases op with
  | analyze sessionId =>
      rw [perform, analyze_snd_eq_written hValid]
      exact hLabelled.write _
  | startSession userId id => exact hLabelled
  | append e => exact hLabelled
  | upsert d => exact hLabelled
  | delete id => exact hLabelled
  | reload => exact hLabelled
  | refuse fault => exact hLabelled

/- Patterns are always kept under their identities. -/
theorem Reachable.isLabelled
    (hReachable : w.Reachable) :
    w.archive.IsLabelled := by
  rcases hReachable with ⟨catalog, now, version, ops, rfl⟩
  induction ops using List.reverseRecOn with
  | nil => exact fun e hEntry => absurd hEntry List.not_mem_nil
  | append_singleton ops op ih =>
      rw [run_append]
      exact isLabelled_perform
        (allValid_run (allValid_reload _) ops) ih op

/-
  There are names that the digest keeps apart and from which
  all patterns, stored or to be found, have their identities.
-/
theorem WellNamed.exists_names
    (hNamed : w.WellNamed) :
    ∃ names : Set String,
      Set.InjOn (Identity.named Identity.patternKey) names ∧
        (∀ p ∈ w.archive.values, NamedIn names p) ∧
        ∀ sessionId d p,
          w.Finds sessionId d p → NamedIn names p := by
  rcases hNamed with
    ⟨catalog, now, version, ops, rfl, hColons, hApart⟩
  refine ⟨_, hApart, ?_, ?_⟩
  · intro p hStored
    rcases exists_findsAfter (allValid_reload _) hStored with
      hNone | ⟨first, d, sessionId, hPart, hFinds⟩
    · exact absurd hNone List.not_mem_nil
    · rcases exists_arrival_of_finds hFinds with
        ⟨e, hArrived, hOwn⟩
      have hBefore :
          (arrivals first).Sublist (arrivals ops) :=
        ((List.prefix_append _ _).trans
          hPart).sublist.filterMap Operation.arrival?
      exact hFinds.namedIn ⟨catalog, now, version, first, rfl⟩
        (hOwn ▸ hColons e (hBefore.subset hArrived))
        fun name hName =>
          Or.inl ⟨first, sessionId, hPart, hName⟩
  · intro sessionId d p hFinds
    rcases exists_arrival_of_finds hFinds with
      ⟨e, hArrived, hOwn⟩
    exact hFinds.namedIn ⟨catalog, now, version, ops, rfl⟩
      (hOwn ▸ hColons e hArrived)
      fun name hName => Or.inr ⟨sessionId, hName⟩

/- Patterns with one identity are of one session. -/
theorem WellNamed.agreeOn_written
    (hNamed : w.WellNamed)
    (ids : List String) :
    Archive.AgreeOn Pattern.sessionId w.archive
      (ids.flatMap w.written) := by
  rcases hNamed.exists_names with
    ⟨names, hApart, hStored, hNew⟩
  have hAll :
      ∀ p ∈ w.archive.values ++ ids.flatMap w.written,
        NamedIn names p := by
    intro p hMember
    rcases List.mem_append.mp hMember with hOld | hLater
    · exact hStored p hOld
    · rcases List.mem_flatMap.mp hLater with
        ⟨sessionId, _, hWritten⟩
      rcases exists_finds_of_written hWritten with
        ⟨d, hFinds⟩
      exact hNew sessionId d p hFinds
  intro p hP q hQ hId
  exact sessionId_eq_of_id_eq hApart (hAll p hP) (hAll q hQ)
    hId

end Workspace

end TraceMining

------------------------------------------------------------
-- Pairs in Sessions
------------------------------------------------------------

namespace TraceMining

namespace Workspace

variable {timeout : Int}
variable {es : List Event}

/- The names of pairs come from what each session reads. -/
theorem names_run_forPairs
    (hTimeout : 0 ≤ timeout)
    (hNamed : ∀ e ∈ es, e.sessionId.isEmpty = false)
    (sessionId : String) :
    ((forPairs timeout).run
        (es.map Operation.append)).names sessionId =
      (matched [Definition.pair timeout]
        (EventLog.byTime
          (EventLog.ofSession es sessionId))).map
        (nameOf sessionId) := by
  have hLoaded :
      ((forPairs timeout).run
        (es.map Operation.append)).loaded =
          [Definition.pair timeout] :=
    loaded_run_forPairs hTimeout (by simp)
  have hStream :
      ((forPairs timeout).run
        (es.map Operation.append)).log.stream sessionId =
          EventLog.ofSession es sessionId :=
    stream_run_append (w := forPairs timeout) (fun _ => rfl)
      hNamed sessionId
  have hRead :
      ((forPairs timeout).run
        (es.map Operation.append)).log.listEvents sessionId =
          EventLog.byTime
            (EventLog.ofSession es sessionId) :=
    congrArg EventLog.byTime hStream
  rw [names, hLoaded, hRead]

/- Two events in time make one pair. -/
theorem names_run_forPairs_pair
    (hTimeout : 0 ≤ timeout)
    (hNamed : ∀ e ∈ es, e.sessionId.isEmpty = false)
    {sessionId : String}
    {a b : Event}
    (hOwn : EventLog.ofSession es sessionId = [a, b])
    (hOrder : a.timestamp ≤ b.timestamp)
    (hTime : b.timestamp ≤ a.timestamp + timeout) :
    ((forPairs timeout).run
        (es.map Operation.append)).names sessionId =
      [Matching.patternName sessionId "pair" [a.id, b.id]] := by
  have hInOrder : Matching.InOrder [a, b] :=
    List.pairwise_pair.mpr hOrder
  rw [names_run_forPairs hTimeout hNamed, hOwn,
    EventLog.byTime_eq_self hInOrder,
    matched_pair hTimeout hTime]
  rfl

/- Fewer than two make none. -/
theorem names_run_forPairs_nil
    (hTimeout : 0 ≤ timeout)
    (hNamed : ∀ e ∈ es, e.sessionId.isEmpty = false)
    {sessionId : String}
    (hFew : (EventLog.ofSession es sessionId).length < 2) :
    ((forPairs timeout).run
      (es.map Operation.append)).names sessionId = [] := by
  have hNone :
      (Definition.pair timeout).matchedEvents
        (EventLog.byTime
          (EventLog.ofSession es sessionId)) = [] := by
    apply Definition.matchedEvents_pair_of_length_lt hTimeout
    rwa [EventLog.byTime, List.length_mergeSort]
  rw [names_run_forPairs hTimeout hNamed, matched,
    List.flatMap_singleton, hNone]
  rfl

/- Where events only come, the names are those at the end. -/
theorem wellNamed_run_forPairs
    (hColons : ∀ e ∈ es, ':' ∉ e.sessionId.toList)
    {names : Set String}
    (hApart :
      Set.InjOn (Identity.named Identity.patternKey) names)
    (hNames :
      ∀ sessionId,
        ∀ name ∈ ((forPairs timeout).run
            (es.map Operation.append)).names sessionId,
          name ∈ names) :
    ((forPairs timeout).run
      (es.map Operation.append)).WellNamed := by
  refine ⟨_, _, _, es.map Operation.append, rfl, ?_, ?_⟩
  · rw [arrivals_map_append]
    exact hColons
  · refine hApart.mono ?_
    rintro name (⟨first, sessionId, hPart, _⟩ |
      ⟨sessionId, hName⟩)
    · have hAnalyzed :
          Operation.analyze sessionId ∈
            es.map Operation.append :=
        hPart.subset (by simp)
      simp at hAnalyzed
    · exact hNames sessionId name hName

/- The names of two ticks are not mixed up. -/
theorem wellNamed_apart
    {gap : Int}
    (hGap : 0 ≤ gap) :
    (apart gap).WellNamed := by
  have hNamed :
      ∀ e ∈ Event.ticks gap, e.sessionId.isEmpty = false := by
    simp [Event.ticks, Event.tick]
  have hOwn :
      EventLog.ofSession (Event.ticks gap) "s" =
        [Event.tick "a" 0, Event.tick "b" gap] := rfl
  have hTime :
      (Event.tick "b" gap).timestamp ≤
        (Event.tick "a" 0).timestamp + gap := by
    simp [Event.tick]
  have hPair :=
    names_run_forPairs_pair hGap hNamed hOwn hGap hTime
  have hNone :
      ∀ other, other ≠ "s" →
        ((forPairs gap).run ((Event.ticks gap).map
          Operation.append)).names other = [] := by
    intro other hOther
    apply names_run_forPairs_nil hGap hNamed
    have hNothing :
        EventLog.ofSession (Event.ticks gap) other = [] := by
      simp [EventLog.ofSession, Event.ticks, Event.tick,
        Ne.symm hOther]
    rw [hNothing]
    exact Nat.zero_lt_two
  have hColons :
      ∀ e ∈ Event.ticks gap, ':' ∉ e.sessionId.toList := by
    simp only [Event.ticks, Event.tick, List.forall_mem_cons]
    decide
  apply wellNamed_run_forPairs hColons
    (Set.injOn_singleton _
      (Matching.patternName "s" "pair"
        [(Event.tick "a" 0).id, (Event.tick "b" gap).id]))
  intro sessionId name hName
  by_cases hOther : sessionId = "s"
  · rw [hOther, hPair] at hName
    exact List.mem_singleton.mp hName
  · rw [hNone sessionId hOther] at hName
    exact absurd hName List.not_mem_nil

/- Ticks of three sessions, two of which make pairs. -/
def ticksOfThree : List Event :=
  [ Event.tickIn "s" "a" 0
  , Event.tickIn "s" "b" 10
  , Event.tickIn "t" "c" 0
  , Event.tickIn "t" "d" 10
  , Event.tickIn "u" "e" 0 ]

/- They are recorded where pairs are looked for. -/
def threeSessions : Workspace :=
  (forPairs 1000).run (ticksOfThree.map Operation.append)

/- These are the names of the pairs, and there are no others. -/
theorem names_threeSessions :
    threeSessions.names "s" =
        [Matching.patternName "s" "pair" ["a", "b"]] ∧
      threeSessions.names "t" =
          [Matching.patternName "t" "pair" ["c", "d"]] ∧
        ∀ other,
          other ≠ "s" → other ≠ "t" →
            threeSessions.names other = [] := by
  have hNamed :
      ∀ e ∈ ticksOfThree, e.sessionId.isEmpty = false := by
    decide
  have hFirst :
      EventLog.ofSession ticksOfThree "s" =
        [Event.tickIn "s" "a" 0, Event.tickIn "s" "b" 10] := rfl
  have hSecond :
      EventLog.ofSession ticksOfThree "t" =
        [Event.tickIn "t" "c" 0, Event.tickIn "t" "d" 10] := rfl
  have hWindow : (0 : Int) ≤ 1000 := by decide
  have hS := names_run_forPairs_pair hWindow hNamed hFirst
    (by decide) (by decide)
  have hT := names_run_forPairs_pair hWindow hNamed hSecond
    (by decide) (by decide)
  refine ⟨hS, hT, ?_⟩
  intro other hNotS hNotT
  have hRest :
      EventLog.ofSession ticksOfThree other =
        EventLog.ofSession [Event.tickIn "u" "e" 0] other := by
    simp [EventLog.ofSession, ticksOfThree, Event.tickIn,
      Ne.symm hNotS, Ne.symm hNotT]
  have hFew :
      (EventLog.ofSession ticksOfThree other).length < 2 := by
    rw [hRest]
    exact Nat.lt_succ_of_le (List.length_filter_le _ _)
  exact names_run_forPairs_nil hWindow hNamed hFew

/- The digest keeps them apart. -/
theorem wellNamed_threeSessions :
    threeSessions.WellNamed := by
  have hOther :
      Identity.named Identity.patternKey
          (Matching.patternName "s" "pair" ["a", "b"]) ≠
        Identity.named Identity.patternKey
          (Matching.patternName "t" "pair" ["c", "d"]) := by
    decide +kernel
  have hApart :
      Set.InjOn (Identity.named Identity.patternKey)
        { Matching.patternName "s" "pair" ["a", "b"],
          Matching.patternName "t" "pair" ["c", "d"] } := by
    rw [Set.injOn_pair]
    exact fun hSame => absurd hSame hOther
  rcases names_threeSessions with ⟨hS, hT, hNone⟩
  apply wellNamed_run_forPairs (by decide) hApart
  intro sessionId name hName
  change name ∈ threeSessions.names sessionId at hName
  by_cases hFirst : sessionId = "s"
  · rw [hFirst, hS] at hName
    exact Or.inl (List.mem_singleton.mp hName)
  · by_cases hSecond : sessionId = "t"
    · rw [hSecond, hT] at hName
      exact Or.inr (List.mem_singleton.mp hName)
    · rw [hNone sessionId hFirst hSecond] at hName
      exact absurd hName List.not_mem_nil

/- No session is processed, and each pair has a mean. -/
theorem count?_threeSessions :
    threeSessions.unprocessed = ["s", "t", "u"] ∧
      (∀ sessionId, threeSessions.HasMeans sessionId) ∧
        threeSessions.count? "s" = some ("s", 1) ∧
        threeSessions.count? "t" = some ("t", 1) ∧
        threeSessions.count? "u" = some ("u", 0) := by
  have hReachable := wellNamed_threeSessions.reachable
  have hLoaded :
      threeSessions.loaded = [Definition.pair 1000] :=
    loaded_run_forPairs (by decide) (by simp)
  have hMeans := fun sessionId =>
    hasMeans_of_pair (by decide) (by decide +kernel) hLoaded
      sessionId
  have hCount := fun sessionId =>
    count?_eq_some_of_none hReachable rfl (hMeans sessionId)
  rcases names_threeSessions with ⟨hS, hT, hNone⟩
  refine ⟨by decide +kernel, hMeans, ?_, ?_, ?_⟩
  · rw [hCount, hS]
    rfl
  · rw [hCount, hT]
    rfl
  · rw [hCount, hNone "u" (by decide) (by decide)]
    rfl

end Workspace

end TraceMining
