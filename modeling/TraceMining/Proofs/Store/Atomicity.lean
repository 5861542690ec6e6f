import TraceMining.Proofs.Store.Calls

/-
  This file shows what becomes of a log when an event is
  appended.  An event that names a session is put at the end
  of its stream, and nothing else happens.  One that does not
  cannot be recorded, but leaves a new session without events
  behind, unless the identity that is made up for it is taken
  already; so only then does the failure change nothing.

  Key definitions include:
    * `EventLog.Adds`
    * `EventLog.Opens`
    * `EventLog.Same`
    * `EventLog.AppendsOrKeeps`

  Key theorems include:
    * `EventLog.Reachable.has_empty`
    * `EventLog.append_eq_of_named`
    * `EventLog.append_eq_of_nameless`
    * `EventLog.appendsOrKeeps_iff`
-/

------------------------------------------------------------
-- What May Happen
------------------------------------------------------------

namespace TraceMining

namespace EventLog

/-
  One event is recorded: it is the last of its stream, it is
  counted and indexed, and its session is open.  No other
  session, stream or count is changed.
-/
structure Adds
    (log : EventLog)
    (e : Event)
    (next : EventLog) : Prop where
  sessions :
    next.sessions.keys =
      if e.sessionId ∈ log.sessions.keys then
        log.sessions.keys
      else log.sessions.keys ++ [e.sessionId]
  streams :
    ∀ id,
      next.streams.get? id =
        if id = e.sessionId then some (log.stream id ++ [e])
        else log.streams.get? id
  counts :
    ∀ id,
      next.eventCount id =
        if id = e.sessionId then
          some ((log.eventCount id).getD 0 + 1)
        else log.eventCount id
  index : next.index = log.index.put e.id e

/- A session without events is opened, and that is all. -/
structure Opens
    (log : EventLog)
    (id : String)
    (next : EventLog) : Prop where
  sessions : next.sessions.keys = log.sessions.keys ++ [id]
  streams :
    ∀ other,
      next.streams.get? other =
        if other = id then some [] else log.streams.get? other
  counts :
    ∀ other,
      next.eventCount other =
        if other = id then some 0 else log.eventCount other
  index : next.index = log.index

/- The stores are as they were. -/
structure Same
    (log next : EventLog) : Prop where
  sessions : next.sessions = log.sessions
  streams : next.streams = log.streams
  index : next.index = log.index

/- An event is recorded, or fails and changes nothing. -/
def AppendsOrKeeps
    (log : EventLog)
    (now : Int)
    (e : Event) : Prop :=
  (log.append now e).1 = .ok () ∧
      log.Adds e (log.append now e).2 ∨
    ∃ what,
      (log.append now e).1 = .error what ∧
        log.Same (log.append now e).2

end EventLog

end TraceMining

------------------------------------------------------------
-- Sessions without a Name
------------------------------------------------------------

namespace TraceMining

namespace EventLog

/- A session that is counted has a name. -/
theorem session_ne_empty
    (k : Nat) :
    Identity.session k ≠ "" := by
  rw [Identity.session, Ne, ← String.toList_inj,
    String.toList_append]
  exact List.append_ne_nil_of_left_ne_nil (by decide) _

/- So has every session that is started. -/
theorem identify_ne_empty
    (log : EventLog)
    (given : Option String) :
    (log.identify given).1 ≠ "" := by
  unfold identify
  split
  · split
    · exact session_ne_empty _
    · rename_i id hNamed
      rintro rfl
      exact hNamed rfl
  · exact session_ne_empty _

/- How many were made up does not matter to the streams. -/
theorem Paired.counted
    {log : EventLog}
    (hPaired : log.Paired)
    (generated : Nat) :
    EventLog.Paired { log with generated := generated } :=
  hPaired

/- No session without a name is open. -/
theorem Reachable.has_empty
    {log : EventLog}
    (hReachable : log.Reachable) :
    log.sessions.has "" = false := by
  have hStarted :
      ∀ (log : EventLog) (now : Int)
        (userId given : Option String),
        log.sessions.has "" = false →
          (log.startSession now userId given).2.sessions.has
            "" = false := by
    intro log now userId given hNone
    rw [has_startSession, hNone, Bool.false_or,
      beq_eq_false_iff_ne]
    exact (identify_ne_empty log given).symm
  rcases hReachable with ⟨es, hGrows⟩
  induction hGrows with
  | refl => rfl
  | startSession _ now userId given ih =>
      exact hStarted _ now userId given ih
  | append _ now e ih =>
      rw [append, has_record]
      exact hStarted _ now none (some e.sessionId) ih

end EventLog

end TraceMining

------------------------------------------------------------
-- Opening
------------------------------------------------------------

namespace TraceMining

namespace EventLog

variable {log : EventLog}

/- A session that is opened is there. -/
theorem get?_openSession
    (log : EventLog)
    (now : Int)
    (userId : Option String)
    (id : String) :
    (log.openSession now userId id).2.sessions.get? id =
      some (log.openSession now userId id).1 := by
  unfold openSession
  split
  · rename_i s hOpen
    exact hOpen
  · exact Table.get?_put_self _ id _

/- One that is new comes last. -/
theorem keys_openSession
    (log : EventLog)
    (now : Int)
    (userId : Option String)
    (id : String) :
    (log.openSession now userId id).2.sessions.keys =
      if id ∈ log.sessions.keys then log.sessions.keys
      else log.sessions.keys ++ [id] := by
  unfold openSession
  split
  · rename_i s hOpen
    have hKey : id ∈ log.sessions.keys := by
      rw [← Table.has_iff_mem_keys, Table.has, hOpen]
      rfl
    rw [if_pos hKey]
  · exact Table.keys_put _ id _

/- It has no events yet; those of the others are counted. -/
theorem eventCount_openSession
    (log : EventLog)
    (now : Int)
    (userId : Option String)
    (id other : String) :
    (log.openSession now userId id).2.eventCount other =
      if other = id then some ((log.eventCount id).getD 0)
      else log.eventCount other := by
  unfold openSession eventCount
  split
  · rename_i s hOpen
    split
    · rename_i hHere
      rw [hHere, hOpen]
      rfl
    · rfl
  · rename_i hNew
    rw [hNew]
    split
    · rename_i hHere
      rw [hHere, Table.get?_put_self]
      rfl
    · rename_i hOther
      rw [Table.get?_put_of_ne _ _ hOther]

/- A session that is open already is not opened again. -/
theorem same_openSession_of_has
    (now : Int)
    (userId : Option String)
    {id : String}
    (hOpen : log.sessions.has id = true) :
    log.Same (log.openSession now userId id).2 := by
  rcases Option.isSome_iff_exists.mp hOpen with ⟨s, hSession⟩
  simp only [openSession, hSession]
  exact ⟨rfl, rfl, rfl⟩

/- One that is not open yet is opened without events. -/
theorem opens_openSession_of_not_has
    (hPaired : log.Paired)
    (now : Int)
    (userId : Option String)
    {id : String}
    (hNew : log.sessions.has id = false) :
    log.Opens id (log.openSession now userId id).2 where
  sessions := by
    rw [keys_openSession, if_neg]
    rw [← Table.has_iff_mem_keys, hNew]
    exact Bool.false_ne_true
  streams := by
    have hNone : log.streams.get? id = none := by
      rw [← Option.not_isSome_iff_eq_none, ← hPaired id]
      exact ne_true_of_eq_false hNew
    intro other
    rw [streams_openSession hPaired, stream, hNone]
    rfl
  counts := by
    have hNone : log.sessions.get? id = none := by
      rw [← Option.not_isSome_iff_eq_none]
      exact ne_true_of_eq_false hNew
    intro other
    rw [eventCount_openSession, eventCount, hNone]
    rfl
  index := index_openSession log now userId id

end EventLog

end TraceMining

------------------------------------------------------------
-- Appending
------------------------------------------------------------

namespace TraceMining

namespace EventLog

variable {log : EventLog}
variable {e : Event}

/- An event that names a session is recorded there. -/
theorem append_eq_of_named
    (hPaired : log.Paired)
    (now : Int)
    (hNamed : e.sessionId ≠ "") :
    let opened := log.openSession now none e.sessionId
    log.append now e =
      (.ok (),
        { opened.2 with
          streams := opened.2.streams.put e.sessionId
            (log.stream e.sessionId ++ [e])
          index := opened.2.index.put e.id e
          sessions := opened.2.sessions.put e.sessionId
            { opened.1 with
              eventCount := opened.1.eventCount + 1 } }) := by
  intro opened
  have hStarted :
      log.startSession now none (some e.sessionId) =
        opened := by
    have hSome : ¬ e.sessionId.isEmpty = true := by
      rw [String.isEmpty_iff]
      exact hNamed
    simp only [startSession, identify, if_neg hSome, opened]
  have hStream :
      opened.2.streams.get? e.sessionId =
        some (log.stream e.sessionId) := by
    rw [streams_openSession hPaired, if_pos rfl]
  rw [append, hStarted, record, hStream,
    get?_openSession log now none e.sessionId]

/- So nothing but the event is added. -/
theorem adds_append_of_named
    (hPaired : log.Paired)
    (now : Int)
    (hNamed : e.sessionId ≠ "") :
    log.Adds e (log.append now e).2 where
  sessions := by
    have hOpen :
        e.sessionId ∈
          (log.openSession now none
            e.sessionId).2.sessions.keys := by
      rw [← Table.has_iff_mem_keys, Table.has,
        get?_openSession]
      rfl
    rw [append_eq_of_named hPaired now hNamed,
      Table.keys_put, if_pos hOpen, keys_openSession]
  streams := by
    intro id
    rw [append_eq_of_named hPaired now hNamed]
    split
    · rename_i hOwn
      rw [hOwn]
      exact Table.get?_put_self _ e.sessionId _
    · rename_i hOther
      rw [Table.get?_put_of_ne _ _ hOther,
        streams_openSession hPaired, if_neg hOther]
  counts := by
    intro id
    have hCount :=
      eventCount_openSession log now none e.sessionId id
    rw [append_eq_of_named hPaired now hNamed, eventCount]
    split
    · rename_i hOwn
      rw [hOwn, if_pos rfl, eventCount, get?_openSession,
        Option.map_some, Option.some.injEq] at hCount
      rw [hOwn, Table.get?_put_self, Option.map_some, hCount]
    · rename_i hOther
      rw [if_neg hOther] at hCount
      rw [Table.get?_put_of_ne _ _ hOther]
      exact hCount
  index := by
    rw [append_eq_of_named hPaired now hNamed,
      index_openSession]

/-
  An event that names no session cannot be recorded; a session
  is started under an identity that is made up.
-/
theorem append_eq_of_nameless
    (hReachable : log.Reachable)
    (now : Int)
    (hNameless : e.sessionId = "") :
    log.append now e =
      (.error (.unknownKey ""),
        (openSession
          { log with generated := log.generated + 1 } now none
          (Identity.session (log.generated + 1))).2) := by
  have hStarted :
      log.startSession now none (some e.sessionId) =
        openSession
          { log with generated := log.generated + 1 } now none
          (Identity.session (log.generated + 1)) := by
    rw [hNameless]
    rfl
  have hPaired :
      (openSession
        { log with generated := log.generated + 1 } now none
        (Identity.session (log.generated + 1))).2.Paired :=
    (openSession_spec (hReachable.paired.counted _) now none
      _).1
  have hNone := hPaired ""
  have hClosed :
      (openSession
        { log with generated := log.generated + 1 } now none
        (Identity.session
          (log.generated + 1))).2.sessions.has "" = false := by
    rw [has_openSession, Bool.or_eq_false_iff,
      beq_eq_false_iff_ne]
    exact ⟨hReachable.has_empty, (session_ne_empty _).symm⟩
  rw [Table.has] at hClosed
  rw [hClosed] at hNone
  rw [append, hStarted, record, hNameless,
    Option.not_isSome_iff_eq_none.mp
      (ne_true_of_eq_false hNone.symm)]

end EventLog

end TraceMining

------------------------------------------------------------
-- All or Nothing
------------------------------------------------------------

namespace TraceMining

namespace EventLog

variable {log : EventLog}
variable {e : Event}

/-
  The failure to record an event that names no session opens
  one, unless there is one with the identity made up for it.
-/
theorem appendsOrKeeps_iff_of_nameless
    (hReachable : log.Reachable)
    (now : Int)
    (hNameless : e.sessionId = "") :
    log.AppendsOrKeeps now e ↔
      log.sessions.has
        (Identity.session (log.generated + 1)) = true := by
  rw [AppendsOrKeeps,
    append_eq_of_nameless hReachable now hNameless]
  constructor
  · rintro (⟨hDone, _⟩ | ⟨what, _, hSame⟩)
    · cases hDone
    · rw [← hSame.sessions, has_openSession,
        beq_self_eq_true, Bool.or_true]
  · intro hTaken
    refine Or.inr ⟨_, rfl, ?_⟩
    have hSame : EventLog.Same
        { log with generated := log.generated + 1 } _ :=
      same_openSession_of_has now none hTaken
    exact ⟨hSame.sessions, hSame.streams, hSame.index⟩

/-
  In a reachable log an event that names a session is recorded
  and nothing else happens.  One that names none fails, and if
  its made-up identity is new it leaves an empty session.  So
  an event is recorded, or fails and changes nothing, just if
  it names a session or that identity is taken.
-/
theorem appendsOrKeeps_iff
    (hReachable : log.Reachable)
    (now : Int)
    (e : Event) :
    let made := Identity.session (log.generated + 1)
    let next := (log.append now e).2
    (e.sessionId ≠ "" →
        (log.append now e).1 = .ok () ∧ log.Adds e next) ∧
      (e.sessionId = "" →
        (log.append now e).1 = .error (.unknownKey "") ∧
          (log.sessions.has made = false →
            log.Opens made next)) ∧
      (log.AppendsOrKeeps now e ↔
        e.sessionId ≠ "" ∨ log.sessions.has made = true) := by
  intro made next
  have hAdds :
      e.sessionId ≠ "" →
        (log.append now e).1 = .ok () ∧ log.Adds e next := by
    intro hNamed
    refine ⟨?_, adds_append_of_named hReachable.paired now
      hNamed⟩
    rw [append_eq_of_named hReachable.paired now hNamed]
  refine ⟨hAdds, ?_, ?_⟩
  · intro hNameless
    have hAppend :=
      append_eq_of_nameless hReachable now hNameless
    refine ⟨congrArg Prod.fst hAppend, ?_⟩
    intro hNew
    have hOpens := opens_openSession_of_not_has
      (hReachable.paired.counted (log.generated + 1))
      now none hNew
    have hNext : next = _ := congrArg Prod.snd hAppend
    rw [hNext]
    exact
      ⟨hOpens.sessions, hOpens.streams, hOpens.counts,
        hOpens.index⟩
  · by_cases hNamed : e.sessionId = ""
    · rw [appendsOrKeeps_iff_of_nameless hReachable now hNamed]
      exact ⟨Or.inr, fun hEither =>
        hEither.resolve_left (not_not_intro hNamed)⟩
    · exact iff_of_true (Or.inl (hAdds hNamed))
        (Or.inl hNamed)

/- An event of a session, of which only the name matters. -/
def note
    (sessionId : String) : Event :=
  { id := "a"
    sessionId := sessionId
    type := "note"
    timestamp := 0
    data := [] }

/- A log in which a session was started, with one event. -/
def noted : EventLog :=
  ((empty.startSession 0 none (some "s")).2.append 0
    (note "s")).2

/- One event is recorded in it, and another one is not. -/
theorem appendsOrKeeps_iff_noted :
    noted.Reachable ∧
      (noted.append 0 (note "t")).1 = .ok () ∧
      noted.Adds (note "t") (noted.append 0 (note "t")).2 ∧
      (noted.append 0 (note "")).1 =
        .error (.unknownKey "") ∧
      noted.Opens "session_000000000001"
        (noted.append 0 (note "")).2 ∧
      noted.AppendsOrKeeps 0 (note "t") ∧
      ¬ noted.AppendsOrKeeps 0 (note "") := by
  have hReachable : noted.Reachable :=
    ⟨_, (Grows.refl.startSession 0 none (some "s")).append 0
      (note "s")⟩
  have hNew :
      noted.sessions.has "session_000000000001" = false := by
    decide +kernel
  have hNamed := appendsOrKeeps_iff hReachable 0 (note "t")
  have hNameless := appendsOrKeeps_iff hReachable 0 (note "")
  have hMade :
      Identity.session (noted.generated + 1) =
        "session_000000000001" := by
    decide +kernel
  simp only [hMade] at hNamed hNameless
  refine ⟨hReachable, (hNamed.1 (by decide)).1,
    (hNamed.1 (by decide)).2, (hNameless.2.1 rfl).1,
    (hNameless.2.1 rfl).2 hNew,
    hNamed.2.2.mpr (Or.inl (by decide)), ?_⟩
  rw [hNameless.2.2, hNew]
  decide

/- In a new log the failure opens a session. -/
theorem not_appendsOrKeeps_empty :
    empty.Reachable ∧ ¬ empty.AppendsOrKeeps 0 (note "") := by
  have hReachable : empty.Reachable := ⟨[], Grows.refl⟩
  refine ⟨hReachable, ?_⟩
  rw [appendsOrKeeps_iff_of_nameless hReachable 0 rfl]
  decide

end EventLog

end TraceMining
