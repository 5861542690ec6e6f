import TraceMining.Proofs.Stable
import TraceMining.Proofs.Matching.Occurrence
import TraceMining.Store.EventLog

/-
  This file shows how the event log grows.  Whatever happens
  to a log, the stream of a session goes on at its end with
  events of that session, the session counts them, and they
  are read by time: events that come later than all before
  are read behind them.

  Key definitions include:
    * `EventLog.stream`
    * `EventLog.ofSession`
    * `EventLog.Grows`
    * `EventLog.Reachable`
    * `EventLog.Paired`
    * `EventLog.eventCount`
    * `EventLog.Counted`

  Key theorems include:
    * `EventLog.append_named`
    * `EventLog.Reachable.paired`
    * `EventLog.Grows.exists_stream_eq`
    * `EventLog.Grows.counted`
    * `EventLog.inOrder_byTime`
    * `EventLog.byTime_eq_self`
    * `EventLog.byTime_append`
    * `EventLog.Grows.exists_listEvents_eq`
    * `EventLog.byTime_cut`
    * `EventLog.Grows.exists_listEvents_cut`
-/

------------------------------------------------------------
-- Growth
------------------------------------------------------------

namespace TraceMining

namespace EventLog

/- The events of a session in order of arrival. -/
def stream
    (log : EventLog)
    (sessionId : String) : List Event :=
  (log.streams.get? sessionId).getD []

/- The events of a session among others, in their order. -/
def ofSession
    (es : List Event)
    (sessionId : String) : List Event :=
  es.filter fun e => e.sessionId == sessionId

/-
  A log becomes another one while some events arrive, whether
  they are recorded or not, and sessions are started.
-/
inductive Grows
    (log : EventLog) : List Event → EventLog → Prop where
  | refl : Grows log [] log
  | startSession
      {es : List Event}
      {next : EventLog}
      (hGrows : Grows log es next)
      (now : Int)
      (userId given : Option String) :
      Grows log es (next.startSession now userId given).2
  | append
      {es : List Event}
      {next : EventLog}
      (hGrows : Grows log es next)
      (now : Int)
      (e : Event) :
      Grows log (es ++ [e]) (next.append now e).2

/- A log that the empty one can become. -/
def Reachable
    (log : EventLog) : Prop :=
  ∃ es, Grows empty es log

/- Just the sessions that are open have a stream. -/
def Paired
    (log : EventLog) : Prop :=
  ∀ id,
    (log.sessions.get? id).isSome =
      (log.streams.get? id).isSome

end EventLog

end TraceMining

------------------------------------------------------------
-- One Step
------------------------------------------------------------

namespace TraceMining

namespace EventLog

variable {log : EventLog}

/- Making up an identity leaves the stores alone. -/
theorem identify_stores
    (log : EventLog)
    (given : Option String) :
    (log.identify given).2.sessions = log.sessions ∧
      (log.identify given).2.streams = log.streams := by
  unfold identify
  split
  · split
    · exact ⟨rfl, rfl⟩
    · exact ⟨rfl, rfl⟩
  · exact ⟨rfl, rfl⟩

/- A session has its stream after it is opened. -/
theorem streams_openSession
    (hPaired : log.Paired)
    (now : Int)
    (userId : Option String)
    (id other : String) :
    (log.openSession now userId id).2.streams.get? other =
      if other = id then some (log.stream id)
      else log.streams.get? other := by
  unfold openSession
  split
  · rename_i s hOld
    have hOpen := hPaired id
    rw [hOld] at hOpen
    rcases Option.isSome_iff_exists.mp hOpen.symm with
      ⟨es, hStream⟩
    split
    · rename_i hHere
      simp [hHere, stream, hStream]
    · rfl
  · rename_i hNew
    have hNone : log.streams.get? id = none := by
      rw [← Option.not_isSome_iff_eq_none, ← hPaired id, hNew]
      exact Bool.false_ne_true
    split
    · rename_i hHere
      simp [hHere, stream, hNone]
    · rename_i hOther
      exact Table.get?_put_of_ne _ _ hOther

/- That changes no stream. -/
theorem openSession_spec
    (hPaired : log.Paired)
    (now : Int)
    (userId : Option String)
    (id : String) :
    (log.openSession now userId id).2.Paired ∧
      ∀ other,
        (log.openSession now userId id).2.stream other =
          log.stream other := by
  constructor
  · unfold openSession
    split
    · exact hPaired
    · intro other
      by_cases hOther : other = id
      · simp [hOther]
      · rw [Table.get?_put_of_ne _ _ hOther,
          Table.get?_put_of_ne _ _ hOther]
        exact hPaired other
  · intro other
    rw [stream, streams_openSession hPaired]
    split
    · rename_i hHere
      rw [hHere]
      rfl
    · rfl

/- Starting a session changes no stream. -/
theorem startSession_spec
    (hPaired : log.Paired)
    (now : Int)
    (userId given : Option String) :
    (log.startSession now userId given).2.Paired ∧
      ∀ other,
        (log.startSession now userId given).2.stream other =
          log.stream other := by
  rcases identify_stores log given with
    ⟨hSessions, hStreams⟩
  have hIdentified : (log.identify given).2.Paired := by
    intro id
    rw [hSessions, hStreams]
    exact hPaired id
  rcases openSession_spec hIdentified now userId
      (log.identify given).1 with ⟨hOpened, hSame⟩
  refine ⟨hOpened, ?_⟩
  intro other
  refine (hSame other).trans ?_
  simp only [stream, hStreams]

/- An event is put at the end of its own stream, or nowhere. -/
theorem record_spec
    (hPaired : log.Paired)
    (e : Event) :
    (log.record e).2.Paired ∧
      ∀ id,
        (log.record e).2.stream id = log.stream id ∨
          e.sessionId = id ∧
            (log.record e).2.stream id =
              log.stream id ++ [e] := by
  unfold record
  split
  · rename_i es s hStream hSession
    constructor
    · intro id
      by_cases hOwn : id = e.sessionId
      · simp [hOwn]
      · simp only
        rw [Table.get?_put_of_ne _ _ hOwn,
          Table.get?_put_of_ne _ _ hOwn]
        exact hPaired id
    · intro id
      by_cases hOwn : id = e.sessionId
      · right
        simp [stream, hOwn, hStream]
      · left
        simp only [stream]
        rw [Table.get?_put_of_ne _ _ hOwn]
  · exact ⟨hPaired, fun _ => Or.inl rfl⟩

/- So is an event whose session may have to be opened. -/
theorem append_spec
    (hPaired : log.Paired)
    (now : Int)
    (e : Event) :
    (log.append now e).2.Paired ∧
      ∀ id,
        (log.append now e).2.stream id = log.stream id ∨
          e.sessionId = id ∧
            (log.append now e).2.stream id =
              log.stream id ++ [e] := by
  rcases startSession_spec hPaired now none
      (some e.sessionId) with ⟨hStarted, hSame⟩
  rcases record_spec hStarted e with ⟨hRecorded, hStream⟩
  refine ⟨hRecorded, ?_⟩
  intro id
  rw [← hSame id]
  exact hStream id

/- An event of a named session goes to the end of its stream. -/
theorem append_named
    (hPaired : log.Paired)
    (now : Int)
    {e : Event}
    (hNamed : e.sessionId.isEmpty = false) :
    (log.append now e).1 = .ok () ∧
      ∀ id,
        (log.append now e).2.streams.get? id =
          if id = e.sessionId then
            some (log.stream e.sessionId ++ [e])
          else log.streams.get? id := by
  have hStart :
      (log.startSession now none (some e.sessionId)).2 =
        (log.openSession now none e.sessionId).2 := by
    simp [startSession, identify, hNamed]
  have hStreams :=
    streams_openSession hPaired now none e.sessionId
  have hOwn := hStreams e.sessionId
  rw [if_pos rfl] at hOwn
  have hOpen :=
    (openSession_spec hPaired now none e.sessionId).1
      e.sessionId
  rw [hOwn] at hOpen
  rcases Option.isSome_iff_exists.mp hOpen with ⟨s, hSession⟩
  rw [append, hStart, record, hOwn, hSession]
  refine ⟨rfl, ?_⟩
  intro id
  by_cases hHere : id = e.sessionId
  · simp [hHere]
  · rw [if_neg hHere]
    refine (Table.get?_put_of_ne _ _ hHere).trans ?_
    rw [hStreams, if_neg hHere]

end EventLog

end TraceMining

------------------------------------------------------------
-- Many Steps
------------------------------------------------------------

namespace TraceMining

namespace EventLog

variable {log next : EventLog}
variable {es : List Event}

/- Growth keeps sessions and streams together. -/
theorem Grows.paired
    (hGrows : Grows log es next)
    (hPaired : log.Paired) :
    next.Paired := by
  induction hGrows with
  | refl => exact hPaired
  | startSession _ now userId given ih =>
      exact (startSession_spec ih now userId given).1
  | append _ now e ih => exact (append_spec ih now e).1

/- Sessions and streams of a reachable log go together. -/
theorem Reachable.paired
    (hReachable : log.Reachable) :
    log.Paired := by
  rcases hReachable with ⟨es, hGrows⟩
  exact hGrows.paired fun _ => rfl

/- A stream goes on with events of its session that arrive. -/
theorem Grows.exists_stream_eq
    (hGrows : Grows log es next)
    (hPaired : log.Paired)
    (id : String) :
    ∃ more,
      next.stream id = log.stream id ++ more ∧
        more.Sublist es ∧ ∀ e ∈ more, e.sessionId = id := by
  induction hGrows with
  | refl => exact ⟨[], by simp, List.Sublist.refl [], by simp⟩
  | startSession hGrows now userId given ih =>
      have hSame := (startSession_spec (hGrows.paired hPaired)
        now userId given).2 id
      rw [hSame]
      exact ih
  | append hGrows now e ih =>
      rcases ih with ⟨more, hStream, hArrived, hOwn⟩
      rcases (append_spec (hGrows.paired hPaired) now e).2 id
        with hSame | ⟨hSession, hAdded⟩
      · exact ⟨more, hSame.trans hStream,
          hArrived.trans (List.sublist_append_left _ _), hOwn⟩
      · refine ⟨more ++ [e], ?_,
          hArrived.append_right [e], ?_⟩
        · rw [hAdded, hStream, List.append_assoc]
        · intro a hMember
          rcases List.mem_append.mp hMember with hOld | hNew
          · exact hOwn a hOld
          · rw [List.mem_singleton] at hNew
            rw [hNew, hSession]

end EventLog

end TraceMining

------------------------------------------------------------
-- Counting
------------------------------------------------------------

namespace TraceMining

namespace EventLog

variable {log next : EventLog}
variable {es : List Event}

/- How many events a session says it has, if it is open. -/
def eventCount
    (log : EventLog)
    (sessionId : String) : Option Nat :=
  (log.sessions.get? sessionId).map Session.eventCount

/- Sessions have just as many events as they say. -/
def Counted
    (log : EventLog) : Prop :=
  ∀ id,
    log.eventCount id =
      (log.streams.get? id).map List.length

/- A session is opened without events. -/
theorem Counted.openSession
    (hCounted : log.Counted)
    (now : Int)
    (userId : Option String)
    (id : String) :
    (log.openSession now userId id).2.Counted := by
  unfold EventLog.openSession
  split
  · exact hCounted
  · intro other
    by_cases hOther : other = id
    · simp [eventCount, hOther]
    · simp only [eventCount]
      rw [Table.get?_put_of_ne _ _ hOther,
        Table.get?_put_of_ne _ _ hOther]
      exact hCounted other

/- An event that is recorded is counted. -/
theorem Counted.record
    (hCounted : log.Counted)
    (e : Event) :
    (log.record e).2.Counted := by
  unfold EventLog.record
  split
  · rename_i es s hStream hSession
    intro id
    by_cases hOwn : id = e.sessionId
    · have hCount := hCounted e.sessionId
      rw [eventCount, hSession, hStream] at hCount
      have hLength : s.eventCount = es.length :=
        Option.some.inj hCount
      simp [eventCount, hOwn, hLength]
    · simp only [eventCount]
      rw [Table.get?_put_of_ne _ _ hOwn,
        Table.get?_put_of_ne _ _ hOwn]
      exact hCounted id
  · exact hCounted

/- Starting a session counts nothing. -/
theorem Counted.startSession
    (hCounted : log.Counted)
    (now : Int)
    (userId given : Option String) :
    (log.startSession now userId given).2.Counted := by
  rcases identify_stores log given with
    ⟨hSessions, hStreams⟩
  have hIdentified : (log.identify given).2.Counted := by
    intro id
    rw [eventCount, hSessions, hStreams]
    exact hCounted id
  exact hIdentified.openSession now userId _

/- Growth counts all that it records. -/
theorem Grows.counted
    (hGrows : Grows log es next)
    (hCounted : log.Counted) :
    next.Counted := by
  induction hGrows with
  | refl => exact hCounted
  | startSession _ now userId given ih =>
      exact ih.startSession now userId given
  | append _ now e ih =>
      exact (ih.startSession now none _).record e

end EventLog

end TraceMining

------------------------------------------------------------
-- Reading
------------------------------------------------------------

namespace TraceMining

namespace EventLog

/- Events are read in order. -/
theorem inOrder_byTime
    (es : List Event) :
    Matching.InOrder (byTime es) := by
  have hSorted :=
    List.pairwise_mergeSort (Stable.rank_trans Event.timestamp)
      (Stable.rank_total Event.timestamp) es
  exact hSorted.imp fun hTimes => of_decide_eq_true hTimes

/- Events that arrived in order are read as they arrived. -/
theorem byTime_eq_self
    {es : List Event}
    (hOrder : Matching.InOrder es) :
    byTime es = es :=
  List.mergeSort_of_pairwise
    (hOrder.imp fun hTimes => decide_eq_true hTimes)

/- Different identities stay different when they are read. -/
theorem nodup_ids_byTime
    {es : List Event}
    (hIds : (es.map Event.id).Nodup) :
    ((byTime es).map Event.id).Nodup :=
  ((List.mergeSort_perm es _).map Event.id).nodup_iff.mpr hIds

/- Events that are no earlier are read behind the others. -/
theorem byTime_append
    {es later : List Event}
    (hLater :
      ∀ a ∈ es, ∀ b ∈ later, a.timestamp ≤ b.timestamp) :
    byTime (es ++ later) = byTime es ++ byTime later :=
  Stable.mergeSort_append (Stable.rank_trans Event.timestamp)
    (Stable.rank_total Event.timestamp)
    fun a hFirst b hSecond =>
      decide_eq_true (hLater a hFirst b hSecond)

/- What is read goes on if no event comes too late. -/
theorem Grows.exists_listEvents_eq
    {log next : EventLog}
    {es : List Event}
    (hGrows : Grows log es next)
    (hPaired : log.Paired)
    {id : String}
    (hLater :
      ∀ a ∈ log.stream id, ∀ e ∈ es,
        e.sessionId = id → a.timestamp ≤ e.timestamp) :
    ∃ more,
      next.listEvents id = log.listEvents id ++ more := by
  rcases hGrows.exists_stream_eq hPaired id with
    ⟨more, hStream, hArrived, hOwn⟩
  refine ⟨byTime more, ?_⟩
  have hRead :
      next.listEvents id = byTime (next.stream id) := rfl
  rw [hRead, hStream, byTime_append]
  · rfl
  · intro a hFirst e hSecond
    exact hLater a hFirst e (hArrived.subset hSecond)
      (hOwn e hSecond)

end EventLog

end TraceMining

------------------------------------------------------------
-- Reading up to a Time
------------------------------------------------------------

namespace TraceMining

namespace EventLog

/- Events up to a time are read in front of the others. -/
theorem byTime_cut
    (es : List Event)
    (time : Int) :
    byTime es =
      byTime (es.filter fun e => decide (e.timestamp ≤ time)) ++
        byTime
          (es.filter fun e => !decide (e.timestamp ≤ time)) := by
  apply Stable.mergeSort_partition
    (Stable.rank_trans Event.timestamp)
    (Stable.rank_total Event.timestamp)
  intro a b hFirst hSecond
  simp only [decide_eq_true_eq, decide_eq_false_iff_not]
    at hFirst hSecond ⊢
  omega

/- The events up to a time are read first, and stay first. -/
theorem Grows.exists_listEvents_cut
    {log next : EventLog}
    {es : List Event}
    (hGrows : Grows log es next)
    (hPaired : log.Paired)
    {id : String}
    {time : Int}
    (hLater :
      ∀ e ∈ es, e.sessionId = id → time ≤ e.timestamp) :
    ∃ early rest more,
      log.listEvents id = early ++ rest ∧
        next.listEvents id = early ++ more ∧
          ∀ e ∈ rest, time < e.timestamp := by
  rcases hGrows.exists_stream_eq hPaired id with
    ⟨added, hStream, hArrived, hOwn⟩
  have hRead :
      next.listEvents id = byTime (next.stream id) := rfl
  rw [hRead, hStream, byTime_cut (log.stream id ++ added) time,
    List.filter_append, byTime_append, List.append_assoc]
  · refine ⟨_, _, _, byTime_cut (log.stream id) time, rfl, ?_⟩
    intro e hMember
    have hRest := List.mem_mergeSort.mp hMember
    simp only [List.mem_filter, Bool.not_eq_true',
      decide_eq_false_iff_not] at hRest
    exact Int.not_le.mp hRest.2
  · intro a hFirst b hSecond
    rw [List.mem_filter, decide_eq_true_eq] at hFirst hSecond
    have hBound :=
      hLater b (hArrived.subset hSecond.1) (hOwn b hSecond.1)
    omega

end EventLog

end TraceMining
