import TraceMining.Proofs.Service.Addresses
import TraceMining.Proofs.Service.Requests

/-
  This file shows which events a stored pattern is shown with.
  A pattern keeps the identities of its events, and these are
  looked up when it is asked for: it is shown with the events
  that it was matched from just if no event was logged later
  under one of their identities.  That holds as long as no
  other match is stored under the same name, as none is where
  names can be read back.

  Key definitions include:
    * `Service.State.Stores`
    * `Service.State.Shows`
    * `Service.State.IsTold`
    * `Service.State.AreReadable`

  Key theorems include:
    * `Definition.inOrder_matchedEvents`
    * `Service.State.Stores.spec`
    * `Service.State.Holds.shows_iff`
    * `Service.State.shows_of_stores`
    * `Service.State.shown_events`
-/

------------------------------------------------------------
-- Ordered Matches
------------------------------------------------------------

namespace TraceMining

/- Events at increasing places are in order. -/
theorem Matching.inOrder_eventsAt
    {es : List Event}
    (hOrder : InOrder es)
    {ks : List Nat}
    (hIncreasing : ks.Pairwise (· < ·)) :
    InOrder (eventsAt es ks) := by
  rw [InOrder, eventsAt, List.pairwise_filterMap]
  refine hIncreasing.imp ?_
  intro i j hPlaces a hFirst b hSecond
  exact hOrder.timestamp_le hFirst hSecond hPlaces.le

/- So the events of a match are in order. -/
theorem Definition.inOrder_matchedEvents
    {d : Definition}
    (hValid : d.isValid = true)
    {es found : List Event}
    (hOrder : Matching.InOrder es)
    (hFound : found ∈ d.matchedEvents es) :
    Matching.InOrder found := by
  rcases exists_family hValid hOrder with
    ⟨family, hFamily, hEvents⟩
  rw [← hEvents] at hFound
  rcases List.mem_map.mp hFound with ⟨ks, hMember, rfl⟩
  exact Matching.inOrder_eventsAt hOrder
    (hFamily.occurrences ks hMember).placed.increasing

end TraceMining

------------------------------------------------------------
-- Stored Matches
------------------------------------------------------------

namespace TraceMining

namespace Service

namespace State

/- A request stores the pattern of a match in a session. -/
structure Stores
    (s : State)
    (r : Request)
    (m : String × Definition × List Event)
    (p : Pattern) : Prop where
  found : m ∈ s.found r
  pattern : Matching.toPattern m.2.1 m.2.2 = .ok p
  stored : p ∈ s.workspace.written m.1

variable {s : State}
variable {r : Request}
variable {es : List Event}
variable {ps : List Pattern}
variable {m : String × Definition × List Event}
variable {p : Pattern}

/- What is found is a match in a session that is analyzed. -/
theorem mem_found_iff :
    m ∈ s.found r ↔
      m.1 ∈ s.analyzed r ∧
        m.2 ∈ Workspace.matched s.workspace.loaded
          (s.workspace.log.listEvents m.1) := by
  rcases m with ⟨id, n⟩
  simp only [found, List.mem_flatMap, List.mem_map,
    Prod.mk.injEq]
  constructor
  · rintro ⟨_, hAnalyzed, _, hMatch, rfl, rfl⟩
    exact ⟨hAnalyzed, hMatch⟩
  · rintro ⟨hAnalyzed, hMatch⟩
    exact ⟨id, hAnalyzed, n, hMatch, rfl, rfl⟩

/- Every pattern that is stored is that of a match. -/
theorem exists_stores
    (hHolds : s.Holds es ps)
    (hStored : p ∈ s.stored r) :
    ∃ m, s.Stores r m p := by
  rcases List.mem_flatMap.mp hStored with
    ⟨id, hAnalyzed, hWritten⟩
  have hKept := hWritten
  unfold Workspace.written at hKept
  split at hKept
  · rename_i qs hRecognized
    have hAll :=
      (Workspace.recognize_eq_ok_iff hHolds.valid).mp
        hRecognized
    rcases Batch.exists_left_of_mem hAll
        (Archive.WriteFault.kept_subset hKept) with
      ⟨n, hMatch, hPattern⟩
    exact ⟨(id, n),
      { found := mem_found_iff.mpr ⟨hAnalyzed, hMatch⟩
        pattern := hPattern
        stored := hWritten }⟩
  · exact absurd hKept List.not_mem_nil

/- The events of a match were logged in its session. -/
theorem found_spec
    (hHolds : s.Holds es ps)
    (hFound : m ∈ s.found r) :
    m.2.2 ≠ [] ∧
      Matching.InOrder m.2.2 ∧
        ∀ e ∈ m.2.2, e ∈ es ∧ e.sessionId = m.1 := by
  rcases mem_found_iff.mp hFound with ⟨_, hMatch⟩
  rcases Workspace.mem_matched_iff.mp hMatch with
    ⟨hLoaded, hEvents⟩
  rw [hHolds.records.listEvents_eq] at hEvents
  have hValid := hHolds.valid m.2.1 hLoaded
  have hOrder := EventLog.inOrder_byTime
    (EventLog.ofSession es m.1)
  rcases Definition.matchedEvents_spec hValid hOrder hEvents
    with ⟨hSome, hInside⟩
  refine ⟨hSome,
    Definition.inOrder_matchedEvents hValid hOrder hEvents,
    ?_⟩
  intro e hEvent
  exact EventLog.mem_ofSession.mp
    (List.mem_mergeSort.mp (hInside hEvent))

/- Its session was counted, so that it has no colon in it. -/
theorem colon_not_mem_of_found
    (hHolds : s.Holds es ps)
    (hFound : m ∈ s.found r) :
    ':' ∉ m.1.toList := by
  rcases found_spec hHolds hFound with ⟨hSome, _, hLogged⟩
  rcases List.exists_mem_of_ne_nil _ hSome with ⟨e, hEvent⟩
  rcases hLogged e hEvent with ⟨hRecorded, hSession⟩
  rcases hHolds.records.exists_stream hRecorded with
    ⟨own, hStream, _⟩
  have hOpen := hHolds.records.paired e.sessionId
  rw [hStream] at hOpen
  rcases hHolds.counted e.sessionId hOpen with ⟨k, hCounted⟩
  rw [← hSession, hCounted]
  exact Identity.colon_not_mem_session k

/- A pattern has the identities of its match. -/
theorem Stores.spec
    (hHolds : s.Holds es ps)
    (hStores : s.Stores r m p) :
    p ∈ s.stored r ∧
      p.eventIds = m.2.2.map Event.id ∧
        p.id =
          Identity.named Identity.patternKey
            (Workspace.nameOf m.1 m.2) := by
  rcases mem_found_iff.mp hStores.found with ⟨hAnalyzed, _⟩
  rcases found_spec hHolds hStores.found with
    ⟨hSome, _, hLogged⟩
  rcases Matching.toPattern_fields hStores.pattern with
    ⟨hIds, _⟩
  rcases Matching.toPattern_origin hStores.pattern with
    ⟨_, hSession, hName⟩
  rw [List.head?_eq_some_head hSome] at hSession
  have hOwn : p.sessionId = m.1 :=
    hSession.trans (hLogged _ (List.head_mem hSome)).2
  refine ⟨List.mem_flatMap.mpr
    ⟨m.1, hAnalyzed, hStores.stored⟩, hIds, ?_⟩
  rw [hName, hOwn, hIds]
  rfl

end State

end Service

end TraceMining

------------------------------------------------------------
-- Shown Patterns
------------------------------------------------------------

namespace TraceMining

namespace Service

/- A pattern together with events. -/
def withEvents
    (p : Pattern)
    (es : List Event) : Rendition :=
  let events := Rendition.ofList (es.map Event.rendition)
  { document :=
      .object (p.toFields ++ [("events", events.document)])
    parts := p.rendition.parts ++ events.parts }

namespace State

/-
  A pattern is looked up with some events, and a request for
  it is answered with them.
-/
def Shows
    (s : State)
    (id : String)
    (es : List Event) : Prop :=
  ∃ p,
    s.workspace.archive.get? id = some p ∧
      s.workspace.log.getEvents p.eventIds = es ∧
        ∀ now query payload,
          Service.handle (s.at now)
              ⟨"GET", "/patterns/" ++ id, query, payload⟩ =
            (s.at now).write 200 (withEvents p es)

variable {s : State}
variable {es found : List Event}
variable {ps : List Pattern}

/- What is looked up is what the answer has. -/
theorem shows_iff_getEvents_eq
    {key : List UInt8}
    {name : String}
    {p : Pattern}
    (hStored :
      s.workspace.archive.get? (Identity.named key name) =
        some p) :
    s.Shows (Identity.named key name) found ↔
      s.workspace.log.getEvents p.eventIds = found := by
  constructor
  · rintro ⟨q, hOther, hEvents, _⟩
    rw [hStored] at hOther
    rw [Option.some.inj hOther]
    exact hEvents
  · intro hEvents
    refine ⟨p, hStored, hEvents, ?_⟩
    intro now query payload
    have hTimed :
        (s.at now).workspace.archive.get?
            (Identity.named key name) = some p := hStored
    rw [Service.handle, resolve_pattern
      (Identity.slash_not_mem_named key name)
      (Identity.dash_mem_named key name), ← hEvents]
    simp only [Service.perform, List.headD_cons, getPattern,
      hTimed]
    rfl

/-
  A pattern whose identity is that of one match is shown with
  the events of the match just if none was logged later with
  one of their identities.
-/
theorem Holds.shows_iff
    (hHolds : s.Holds es ps)
    {key : List UInt8}
    {name : String}
    {p : Pattern}
    (hStored : p ∈ ps)
    (hName : p.id = Identity.named key name)
    (hAlone :
      ∀ q ∈ ps, q.id = p.id →
        q.eventIds = found.map Event.id)
    (hOrder : Matching.InOrder found) :
    s.Shows p.id found ↔
      ∀ e ∈ found, EventLog.lastOf es e.id = some e := by
  have hHere : p ∈ ps.filter fun q => q.id == p.id :=
    List.mem_filter.mpr ⟨hStored, beq_self_eq_true p.id⟩
  have hLast := List.getLast?_eq_some_getLast
    (List.ne_nil_of_mem hHere)
  generalize (ps.filter fun q => q.id == p.id).getLast
    (List.ne_nil_of_mem hHere) = q at hLast
  have hMember := List.mem_of_getLast? hLast
  rw [List.mem_filter, beq_iff_eq] at hMember
  have hLookup : s.workspace.archive.get? p.id = some q := by
    rw [hHolds.archive_eq, Archive.get?_write, hLast]
    rfl
  rw [hName] at hLookup ⊢
  rw [shows_iff_getEvents_eq hLookup,
    hAlone q hMember.1 hMember.2,
    hHolds.records.getEvents_eq_iff hOrder]

end State

end Service

end TraceMining

------------------------------------------------------------
-- Runs
------------------------------------------------------------

namespace TraceMining

namespace Service

namespace State

/-
  Matches that have the name of this one have the identities
  of its events as well.
-/
def IsTold
    (ms : List (String × Definition × List Event))
    (m : String × Definition × List Event) : Prop :=
  ∀ n ∈ ms,
    Workspace.nameOf n.1 n.2 = Workspace.nameOf m.1 m.2 →
      n.2.2.map Event.id = m.2.2.map Event.id

/- The names of some matches. -/
def namesOf
    (ms : List (String × Definition × List Event)) :
    Set String :=
  {name | ∃ n ∈ ms, Workspace.nameOf n.1 n.2 = name}

/- Matches whose names can be read back. -/
def AreReadable
    (ms : List (String × Definition × List Event)) : Prop :=
  Matching.AreReadable (ms.map fun m => m.2.1.id)
    (ms.flatMap fun m => m.2.2.map Event.id)

variable {catalog : Catalog}
variable {now : Int}
variable {version : String}
variable {rs : List (Int × Request)}

/- What is found in a run has events and a counted session. -/
theorem found_along_spec
    {m : String × Definition × List Event}
    (hFound :
      m ∈ (ofCatalog catalog now version).along found rs) :
    m.2.2 ≠ [] ∧ ':' ∉ m.1.toList := by
  rcases exists_of_mem_along hFound with
    ⟨first, r, rest, _, hHere⟩
  have hHolds :=
    (holds_after catalog now version first).timed r.1
  exact ⟨(found_spec hHolds hHere).1,
    colon_not_mem_of_found hHolds hHere⟩

/- What is stored in a run has the identities of a match. -/
theorem exists_found_of_stored
    {p : Pattern}
    (hStored :
      p ∈ (ofCatalog catalog now version).along stored rs) :
    ∃ m ∈ (ofCatalog catalog now version).along found rs,
      p.eventIds = m.2.2.map Event.id ∧
        p.id =
          Identity.named Identity.patternKey
            (Workspace.nameOf m.1 m.2) := by
  rcases exists_of_mem_along hStored with
    ⟨first, r, rest, rfl, hHere⟩
  have hHolds :=
    (holds_after catalog now version first).timed r.1
  rcases exists_stores hHolds hHere with ⟨m, hStores⟩
  rcases hStores.spec hHolds with ⟨_, hIds, hName⟩
  exact ⟨m, mem_along rfl hStores.found, hIds, hName⟩

/- Names that can be read back tell the events. -/
theorem isTold_of_readable
    (hReadable :
      AreReadable
        ((ofCatalog catalog now version).along found rs))
    {m : String × Definition × List Event}
    (hFound :
      m ∈ (ofCatalog catalog now version).along found rs) :
    IsTold ((ofCatalog catalog now version).along found rs)
      m := by
  intro n hOther hSame
  rcases found_along_spec hFound with ⟨hSome, hColon⟩
  rcases found_along_spec hOther with ⟨hMore, hNone⟩
  have hSession : n.1 = m.1 :=
    Matching.patternName_session_inj hNone hColon hSame
  rw [Workspace.nameOf, hSession] at hSame
  have hInside :
      ∀ k ∈ (ofCatalog catalog now version).along found rs,
        k.2.2.map Event.id ⊆
          ((ofCatalog catalog now version).along found
            rs).flatMap fun m => m.2.2.map Event.id := by
    intro k hMember id hId
    exact List.mem_flatMap.mpr ⟨k, hMember, hId⟩
  exact (Matching.patternName_inj hReadable
    (List.mem_map_of_mem hOther) (List.mem_map_of_mem hFound)
    (hInside n hOther) (hInside m hFound)
    (by simpa using hMore) (by simpa using hSome) hSame).2

/-
  A request stores the pattern of a match, and other requests
  follow.  If the digest keeps the names of all matches apart,
  and no match with other events has the name of this one,
  then the pattern is shown with the events of the match just
  if no event is logged after them under one of their
  identities.
-/
theorem shows_of_stores
    {first rest : List (Int × Request)}
    {time : Int}
    {r : Request}
    (hAll : rs = first ++ (time, r) :: rest)
    {m : String × Definition × List Event}
    {p : Pattern}
    (hStores :
      (((ofCatalog catalog now version).after first).at
        time).Stores r m p)
    (hDigest :
      Set.InjOn (Identity.named Identity.patternKey)
        (namesOf
          ((ofCatalog catalog now version).along found rs)))
    (hTold :
      IsTold ((ofCatalog catalog now version).along found rs)
        m) :
    ((ofCatalog catalog now version).after rs).Shows p.id
        m.2.2 ↔
      ∀ e ∈ m.2.2,
        EventLog.lastOf
            ((ofCatalog catalog now version).along logged rs)
            e.id =
          some e := by
  have hBefore :=
    (holds_after catalog now version first).timed time
  rcases hStores.spec hBefore with ⟨hKept, _, hName⟩
  have hStored :
      p ∈ (ofCatalog catalog now version).along stored rs :=
    mem_along hAll hKept
  have hFound :
      m ∈ (ofCatalog catalog now version).along found rs :=
    mem_along hAll hStores.found
  apply (holds_after catalog now version rs).shows_iff hStored
    hName _ (found_spec hBefore hStores.found).2.1
  intro q hOther hSame
  rcases exists_found_of_stored hOther with
    ⟨n, hMatch, hIds, hOtherName⟩
  rw [hIds]
  refine hTold n hMatch
    (hDigest ⟨n, hMatch, rfl⟩ ⟨m, hFound, rfl⟩ ?_)
  rw [← hOtherName, hSame, hName]

/-
  A request stores the pattern of a match, and other requests
  follow; the digest keeps the names of all matches apart.
  Then the pattern is shown with the events of the match just
  if no event is logged after them under one of their
  identities, unless a match with other events has the name of
  this one.  There is none if names can be read back, so that
  the pattern is always shown with the events of the match if
  the identities of all events that are logged are different.
-/
theorem shown_events
    {first rest : List (Int × Request)}
    {time : Int}
    {r : Request}
    (hAll : rs = first ++ (time, r) :: rest)
    {m : String × Definition × List Event}
    {p : Pattern}
    (hStores :
      (((ofCatalog catalog now version).after first).at
        time).Stores r m p)
    (hDigest :
      Set.InjOn (Identity.named Identity.patternKey)
        (namesOf
          ((ofCatalog catalog now version).along found rs))) :
    let start := ofCatalog catalog now version
    (IsTold (start.along found rs) m →
      ((start.after rs).Shows p.id m.2.2 ↔
        ∀ e ∈ m.2.2,
          EventLog.lastOf (start.along logged rs) e.id =
            some e)) ∧
      (AreReadable (start.along found rs) →
        ((start.along logged rs).map Event.id).Nodup →
          (start.after rs).Shows p.id m.2.2) := by
  intro start
  refine ⟨shows_of_stores hAll hStores hDigest, ?_⟩
  intro hReadable hIds
  have hBefore :=
    (holds_after catalog now version first).timed time
  have hFound : m ∈ start.along found rs :=
    mem_along hAll hStores.found
  rw [shows_of_stores hAll hStores hDigest
    (isTold_of_readable hReadable hFound)]
  intro e hEvent
  apply EventLog.lastOf_of_nodup hIds
  rw [hAll, along_append]
  exact List.mem_append_left _
    ((found_spec hBefore hStores.found).2.2 e hEvent).1

end State

/- A request to start a session. -/
def postStart : Request :=
  ⟨"POST", "/session/start", [], .nothing⟩

/- The data of an event by which a list is sorted. -/
def sortData : Fields :=
  [("metadata", .object [("semanticAction", .text "sort")])]

/- Such an event in the first session. -/
def sortEvent
    (id : String)
    (timestamp : Int) : Event :=
  { id := id
    sessionId := "session_000000000001"
    type := "interaction"
    timestamp := timestamp
    data := sortData }

/- A request to log it. -/
def postSort
    (id : String)
    (timestamp : Int) : Request :=
  ⟨"POST", "/session/event", [],
    .document
      (.object
        [ ("session_id", .text "session_000000000001")
        , ("type", .text "interaction")
        , ("timestamp", .int timestamp)
        , ("data", .object sortData)
        , ("id", .text id) ])⟩

/- A request to analyze the first session. -/
def postAnalyze : Request :=
  ⟨"POST", "/patterns/analyze/session_000000000001", [],
    .nothing⟩

/- A list is sorted, and again once the pattern is stored. -/
def sortings
    (id : String) : List (Int × Request) :=
  [ (0, postStart), (0, postSort "a" 0), (0, postAnalyze)
  , (0, postSort id 5) ]

/- What the analysis in between finds. -/
def sortMatch : String × Definition × List Event :=
  ("session_000000000001", Definition.builtIn[6],
    [sortEvent "a" 0])

namespace State

/- The service with the built-in definitions. -/
def builtIn : State :=
  ofCatalog (Workspace.seeded true) 0 "1"

/- The service when a list was sorted once. -/
def sortedOnce : State :=
  builtIn.after [(0, postStart), (0, postSort "a" 0)]

/- The definitions are loaded, and the event is logged. -/
theorem sortedOnce_spec :
    sortedOnce.workspace.loaded = Definition.builtIn ∧
      sortedOnce.workspace.archiveFault =
          Archive.WriteFault.none ∧
        sortedOnce.workspace.log.listEvents
            "session_000000000001" =
          [sortEvent "a" 0] := by
  refine ⟨rfl, rfl, ?_⟩
  have hStream :
      sortedOnce.workspace.log.stream "session_000000000001" =
        [sortEvent "a" 0] := rfl
  have hOrder : Matching.InOrder [sortEvent "a" 0] := by decide
  exact (congrArg EventLog.byTime hStream).trans
    (EventLog.byTime_eq_self hOrder)

/- There is one match in it. -/
theorem matched_sortedOnce :
    Workspace.matched (sortedOnce.at 0).workspace.loaded
        ((sortedOnce.at 0).workspace.log.listEvents
          sortMatch.1) =
      [sortMatch.2] := by
  rcases sortedOnce_spec with ⟨hLoaded, _, hListed⟩
  have hMatched :
      Workspace.matched Definition.builtIn
          [sortEvent "a" 0] = [sortMatch.2] := rfl
  rw [← hLoaded, ← hListed] at hMatched
  exact hMatched

/- The analysis of the session is asked for. -/
theorem resolve_postAnalyze :
    resolve postAnalyze.method postAnalyze.path =
      .found .analyze [sortMatch.1] := by
  decide +kernel

/- An event is to be logged. -/
theorem resolve_postSort
    (id : String)
    (timestamp : Int) :
    resolve (postSort id timestamp).method
        (postSort id timestamp).path =
      .found .logEvent [] := by
  have hRoute :
      resolve "POST" "/session/event" =
        .found .logEvent [] := by
    decide +kernel
  exact hRoute

/- The analysis finds the match. -/
theorem found_postAnalyze :
    (sortedOnce.at 0).found postAnalyze = [sortMatch] := by
  simp only [found, analyzed, resolve_postAnalyze,
    List.headD_cons, List.flatMap_singleton,
    matched_sortedOnce, List.map_cons, List.map_nil]

/- It stores a pattern of it. -/
theorem exists_stores_postAnalyze :
    ∃ p, (sortedOnce.at 0).Stores postAnalyze sortMatch p := by
  have hValid : (sortedOnce.at 0).workspace.AllValid :=
    ((holds_after (Workspace.seeded true) 0 "1" _).timed
      0).valid
  have hMean : Matching.HasMean sortMatch.2.2 := Or.inl rfl
  rcases (Matching.exists_toPattern_iff
    (d := sortMatch.2.1)).mpr hMean with ⟨p, hPattern⟩
  have hRecognized :
      Workspace.recognize (sortedOnce.at 0).workspace.loaded
          ((sortedOnce.at 0).workspace.log.listEvents
            sortMatch.1) =
        .ok [p] := by
    rw [Workspace.recognize_eq_ok_iff hValid,
      matched_sortedOnce]
    exact List.Forall₂.cons hPattern List.Forall₂.nil
  refine ⟨p, ?_, hPattern, ?_⟩
  · rw [found_postAnalyze]
    exact List.mem_singleton_self sortMatch
  · rw [Workspace.written, hRecognized]
    exact List.mem_singleton_self p

/- It leaves the log as it is. -/
theorem log_postAnalyze :
    (handle (sortedOnce.at 0) postAnalyze).2.workspace.log =
      sortedOnce.workspace.log := by
  rw [handle, resolve_postAnalyze]
  simp only [perform]
  rw [analyze_snd]
  exact (Workspace.analyze_log _ _).1

/- All requests find this match, and log the two events. -/
theorem along_sortings
    {id : String}
    (hNamed : id.isEmpty = false) :
    builtIn.along found (sortings id) = [sortMatch] ∧
      builtIn.along logged (sortings id) =
        [sortEvent "a" 0, sortEvent id 5] := by
  have hParts :
      sortings id =
        [(0, postStart), (0, postSort "a" 0)] ++
          [(0, postAnalyze), (0, postSort id 5)] := rfl
  rw [hParts, along_append, along_append]
  constructor
  · have hFound :
        sortedOnce.along found
            [(0, postAnalyze), (0, postSort id 5)] =
          [sortMatch] := by
      rw [along, along, along, found_postAnalyze]
      simp only [found, analyzed, resolve_postSort,
        List.flatMap_nil, List.append_nil]
    exact congrArg (List.append []) hFound
  · have hOpen :
        ((handle (sortedOnce.at 0) postAnalyze).2.at
            0).workspace.log.sessions.has
          "session_000000000001" = true := by
      have hBefore :
          sortedOnce.workspace.log.sessions.has
            "session_000000000001" = true := rfl
      rw [← log_postAnalyze] at hBefore
      exact hBefore
    have hBody :
        (postSort id 5).body LogEvent.ofFields =
          .ok ⟨"session_000000000001", "interaction", 5,
            sortData, some id⟩ := rfl
    have hLast :
        ((handle (sortedOnce.at 0) postAnalyze).2.at
            0).logged (postSort id 5) =
          [sortEvent id 5] := by
      simp only [logged, resolve_postSort, hBody, hOpen, if_true,
        identify, hNamed, Bool.false_eq_true, if_false]
      rfl
    have hLogged :
        sortedOnce.along logged
            [(0, postAnalyze), (0, postSort id 5)] =
          [sortEvent id 5] := by
      rw [along, along, along, hLast]
      simp only [logged, resolve_postAnalyze, List.nil_append,
        List.append_nil]
    exact congrArg (List.append [sortEvent "a" 0]) hLogged

/- The digest has nothing to keep apart there. -/
theorem injOn_sortings
    {id : String}
    (hNamed : id.isEmpty = false) :
    Set.InjOn (Identity.named Identity.patternKey)
      (namesOf (builtIn.along found (sortings id))) := by
  rw [(along_sortings hNamed).1]
  rintro _ ⟨m, hFirst, rfl⟩ _ ⟨n, hSecond, rfl⟩ _
  rw [List.mem_singleton.mp hFirst,
    List.mem_singleton.mp hSecond]

/- The pattern is shown with its event if the other differs. -/
theorem shown_events_sortings :
    ∃ p,
      (sortedOnce.at 0).Stores postAnalyze sortMatch p ∧
        (builtIn.after (sortings "b")).Shows p.id
          [sortEvent "a" 0] := by
  rcases exists_stores_postAnalyze with ⟨p, hStores⟩
  have hNamed : ("b" : String).isEmpty = false := by decide
  rcases along_sortings hNamed with ⟨hFound, hLogged⟩
  have hAll :
      sortings "b" =
        [(0, postStart), (0, postSort "a" 0)] ++
          (0, postAnalyze) :: [(0, postSort "b" 5)] := rfl
  rcases shown_events hAll hStores (injOn_sortings hNamed)
    with ⟨_, hShown⟩
  refine ⟨p, hStores, hShown ?_ ?_⟩
  · have hReadable : AreReadable [sortMatch] :=
      ⟨by decide, Or.inl (by decide)⟩
    rw [← hFound] at hReadable
    exact hReadable
  · have hIds :
        ([sortEvent "a" 0, sortEvent "b" 5].map
          Event.id).Nodup := by
      decide
    rw [← hLogged] at hIds
    exact hIds

/- It is not if the identity of the event is used again. -/
theorem not_shows_sortings_again :
    ∃ p,
      (sortedOnce.at 0).Stores postAnalyze sortMatch p ∧
        Set.InjOn (Identity.named Identity.patternKey)
          (namesOf (builtIn.along found (sortings "a"))) ∧
        ¬ (builtIn.after (sortings "a")).Shows p.id
          [sortEvent "a" 0] := by
  rcases exists_stores_postAnalyze with ⟨p, hStores⟩
  have hNamed : ("a" : String).isEmpty = false := by decide
  rcases along_sortings hNamed with ⟨hFound, hLogged⟩
  have hDigest := injOn_sortings hNamed
  refine ⟨p, hStores, hDigest, ?_⟩
  intro hShows
  have hAll :
      sortings "a" =
        [(0, postStart), (0, postSort "a" 0)] ++
          (0, postAnalyze) :: [(0, postSort "a" 5)] := rfl
  have hTold :
      IsTold (builtIn.along found (sortings "a"))
        sortMatch := by
    rw [hFound]
    intro n hMember _
    rw [List.mem_singleton.mp hMember]
  have hLast :=
    (shows_of_stores hAll hStores hDigest hTold).mp hShows
      (sortEvent "a" 0) (List.mem_singleton_self _)
  have hLater :
      EventLog.lastOf [sortEvent "a" 0, sortEvent "a" 5]
        (sortEvent "a" 0).id = some (sortEvent "a" 5) := rfl
  rw [← hLogged] at hLater
  have hTimes := congrArg Event.timestamp
    (Option.some.inj (hLast.symm.trans hLater))
  exact absurd hTimes (by decide)

end State

end Service

end TraceMining
