import Mathlib.Data.List.Nodup
import TraceMining.Proofs.Store.Log
import TraceMining.Proofs.Store.Table

/-
  This file shows what the event log keeps of a run of calls.
  Some calls fail, and one that fails may open a session all
  the same; but the streams, the index and the counters of
  the log are always those of the events that were recorded.

  Key definitions include:
    * `EventLog.Call`
    * `EventLog.run`
    * `EventLog.recorded`
    * `EventLog.Records`
    * `EventLog.lastOf`
    * `EventLog.Bookkeeping`

  Key theorems include:
    * `EventLog.Records.perform`
    * `EventLog.Records.run`
    * `EventLog.has_startSession`
    * `EventLog.append_of_has`
    * `EventLog.Records.get?_index`
    * `EventLog.bookkeeping_run`
    * `EventLog.Records.getEvents_eq_iff`
    * `EventLog.Records.getEvents_eq_of_nodup`
-/

------------------------------------------------------------
-- Calls
------------------------------------------------------------

namespace TraceMining

namespace EventLog

/- What is asked of a log, and when. -/
inductive Call where
  | startSession (now : Int) (userId given : Option String)
  | append (now : Int) (e : Event)

/- An event, unless it failed to be recorded. -/
def kept
    (e : Event)
    (result : Except Failure Unit) : List Event :=
  match result with
  | .ok _ => [e]
  | .error _ => []

/- The log after a call, be it a success or a failure. -/
def perform
    (log : EventLog)
    (c : Call) : EventLog :=
  match c with
  | .startSession now userId given =>
      (log.startSession now userId given).2
  | .append now e => (log.append now e).2

/- The event that a call records, if there is one. -/
def recording
    (log : EventLog)
    (c : Call) : List Event :=
  match c with
  | .startSession _ _ _ => []
  | .append now e => kept e (log.append now e).1

/- The log after a run of calls. -/
def run
    (log : EventLog)
    (cs : List Call) : EventLog :=
  cs.foldl perform log

/- The events that a run of calls records, in their order. -/
def recorded
    (log : EventLog)
    (cs : List Call) : List Event :=
  match cs with
  | [] => []
  | c :: rest =>
      log.recording c ++ (log.perform c).recorded rest

end EventLog

end TraceMining

------------------------------------------------------------
-- One Call
------------------------------------------------------------

namespace TraceMining

namespace EventLog

variable {log : EventLog}
variable {es : List Event}

/- Making up an identity leaves the index alone. -/
theorem index_identify
    (log : EventLog)
    (given : Option String) :
    (log.identify given).2.index = log.index := by
  unfold identify
  split
  · split
    · rfl
    · rfl
  · rfl

/- So does opening a session. -/
theorem index_openSession
    (log : EventLog)
    (now : Int)
    (userId : Option String)
    (id : String) :
    (log.openSession now userId id).2.index = log.index := by
  unfold openSession
  split
  · rfl
  · rfl

/- A log is just what some recorded events make of it. -/
structure Records
    (log : EventLog)
    (es : List Event) : Prop where
  paired : log.Paired
  counted : log.Counted
  stream_eq : ∀ id, log.stream id = ofSession es id
  index_eq :
    log.index = Table.putAll Event.id Table.empty es

namespace Records

/- Before the first call nothing is recorded. -/
theorem empty :
    EventLog.empty.Records [] where
  paired := fun _ => rfl
  counted := fun _ => rfl
  stream_eq := fun _ => rfl
  index_eq := rfl

/- Starting a session records nothing. -/
theorem startSession
    (hRecords : log.Records es)
    (now : Int)
    (userId given : Option String) :
    (log.startSession now userId given).2.Records es := by
  rcases startSession_spec hRecords.paired now userId given
    with ⟨hPaired, hStreams⟩
  have hIndex :
      (log.startSession now userId given).2.index =
        log.index :=
    (index_openSession _ now userId _).trans
      (index_identify log given)
  exact
    { paired := hPaired
      counted :=
        hRecords.counted.startSession now userId given
      stream_eq := fun id =>
        (hStreams id).trans (hRecords.stream_eq id)
      index_eq := hIndex.trans hRecords.index_eq }

/- An event is recorded, or nothing happens. -/
theorem record
    (hRecords : log.Records es)
    (e : Event) :
    (log.record e).2.Records
      (es ++ kept e (log.record e).1) := by
  have hPaired := (record_spec hRecords.paired e).1
  have hCounted := hRecords.counted.record e
  cases hStream : log.streams.get? e.sessionId with
  | none =>
      simp only [EventLog.record, hStream, kept,
        List.append_nil]
      exact hRecords
  | some own =>
      have hOpen := hRecords.paired e.sessionId
      rw [hStream] at hOpen
      rcases Option.isSome_iff_exists.mp hOpen with
        ⟨s, hSession⟩
      simp only [EventLog.record, hStream, hSession, kept]
        at hPaired hCounted ⊢
      refine
        { paired := hPaired
          counted := hCounted
          stream_eq := ?_
          index_eq := ?_ }
      · intro id
        have hBefore := hRecords.stream_eq id
        rw [ofSession, List.filter_append, ← ofSession,
          ← hBefore]
        by_cases hOwn : e.sessionId = id
        · simp [stream, ← hOwn, hStream]
        · simp [stream, hOwn,
            Table.get?_put_of_ne _ _ (Ne.symm hOwn)]
      · rw [Table.putAll_concat, ← hRecords.index_eq]

/- After a call the log records what the call recorded. -/
theorem perform
    (hRecords : log.Records es)
    (c : Call) :
    (log.perform c).Records (es ++ log.recording c) := by
  cases c with
  | startSession now userId given =>
      rw [recording, List.append_nil]
      exact hRecords.startSession now userId given
  | append now e =>
      exact (hRecords.startSession now none
        (some e.sessionId)).record e

/- So it does after a run of calls. -/
theorem run
    (hRecords : log.Records es)
    (cs : List Call) :
    (log.run cs).Records (es ++ log.recorded cs) := by
  induction cs generalizing log es with
  | nil =>
      rw [recorded, List.append_nil]
      exact hRecords
  | cons c cs ih =>
      rw [recorded, ← List.append_assoc]
      exact ih (hRecords.perform c)

end Records

end EventLog

end TraceMining

------------------------------------------------------------
-- Last Events
------------------------------------------------------------

namespace TraceMining

namespace EventLog

variable {es : List Event}

/- The last of some events with an identity. -/
def lastOf
    (es : List Event)
    (id : String) : Option Event :=
  (es.filter fun e => e.id == id).getLast?

/- It is one of them, and has the identity. -/
theorem lastOf_eq_some
    {id : String}
    {e : Event}
    (hLast : lastOf es id = some e) :
    e ∈ es ∧ e.id = id := by
  have hMember := List.mem_of_getLast? hLast
  rwa [List.mem_filter, beq_iff_eq] at hMember

/- There is one if some event has the identity. -/
theorem exists_lastOf
    {e : Event}
    (hMember : e ∈ es) :
    ∃ a, lastOf es e.id = some a := by
  have hHere :
      e ∈ es.filter fun other => other.id == e.id :=
    List.mem_filter.mpr ⟨hMember, beq_self_eq_true e.id⟩
  exact ⟨_, List.getLast?_eq_some_getLast
    (List.ne_nil_of_mem hHere)⟩

/- Where identities differ it is each of them. -/
theorem lastOf_of_nodup
    (hIds : (es.map Event.id).Nodup)
    {e : Event}
    (hMember : e ∈ es) :
    lastOf es e.id = some e := by
  rcases exists_lastOf hMember with ⟨a, hLast⟩
  rcases lastOf_eq_some hLast with ⟨hOther, hSame⟩
  rw [hLast,
    List.inj_on_of_nodup_map hIds hOther hMember hSame]

end EventLog

end TraceMining

------------------------------------------------------------
-- Open Sessions
------------------------------------------------------------

namespace TraceMining

namespace EventLog

/- Opening a session opens no other. -/
theorem has_openSession
    (log : EventLog)
    (now : Int)
    (userId : Option String)
    (id other : String) :
    (log.openSession now userId id).2.sessions.has other =
      (log.sessions.has other || other == id) := by
  unfold openSession Table.has
  by_cases hHere : other = id
  · rw [hHere, beq_self_eq_true, Bool.or_true]
    split
    · rename_i s hOpen
      rw [hOpen]
      rfl
    · rw [Table.get?_put_self]
      rfl
  · rw [beq_eq_false_iff_ne.mpr hHere, Bool.or_false]
    split
    · rfl
    · rw [Table.get?_put_of_ne _ _ hHere]

/- Neither does starting one. -/
theorem has_startSession
    (log : EventLog)
    (now : Int)
    (userId given : Option String)
    (id : String) :
    (log.startSession now userId given).2.sessions.has id =
      (log.sessions.has id ||
        id == (log.identify given).1) := by
  have hSame : log.sessions.has id =
      (log.identify given).2.sessions.has id := by
    rw [(identify_stores log given).1]
  rw [hSame]
  exact has_openSession _ now userId _ id

/- A session is started under what is given, or counted. -/
theorem identify_fst
    (log : EventLog)
    (given : Option String) :
    (log.identify given).1 =
        Identity.session (log.generated + 1) ∨
      given = some (log.identify given).1 := by
  unfold identify
  split
  · split
    · exact Or.inl rfl
    · exact Or.inr rfl
  · exact Or.inl rfl

/- Recording an event opens no session. -/
theorem has_record
    (log : EventLog)
    (e : Event)
    (id : String) :
    (log.record e).2.sessions.has id =
      log.sessions.has id := by
  unfold record
  split
  · rename_i own s hStream hSession
    by_cases hOwn : id = e.sessionId
    · simp [Table.has, hOwn, hSession]
    · simp [Table.has, Table.get?_put_of_ne _ _ hOwn]
  · rfl

/- An event of an open session is recorded. -/
theorem append_of_has
    {log : EventLog}
    (hPaired : log.Paired)
    (now : Int)
    {e : Event}
    (hOpen : log.sessions.has e.sessionId = true) :
    (log.append now e).1 = .ok () := by
  have hStarted :
      ((log.startSession now none
        (some e.sessionId)).2.sessions.get?
          e.sessionId).isSome = true := by
    have hHas := has_startSession log now none
      (some e.sessionId) e.sessionId
    rw [hOpen, Bool.true_or] at hHas
    exact hHas
  have hStreams :=
    (startSession_spec hPaired now none
      (some e.sessionId)).1 e.sessionId
  rw [hStarted] at hStreams
  rcases Option.isSome_iff_exists.mp hStarted with
    ⟨s, hSession⟩
  rcases Option.isSome_iff_exists.mp hStreams.symm with
    ⟨own, hStream⟩
  rw [append, record, hSession, hStream]

end EventLog

end TraceMining

------------------------------------------------------------
-- Bookkeeping
------------------------------------------------------------

namespace TraceMining

namespace EventLog

/- The books of a log agree on what was recorded. -/
structure Bookkeeping
    (log : EventLog)
    (es : List Event) : Prop where
  paired :
    ∀ id, log.sessions.has id = log.streams.has id
  counted :
    ∀ id s own,
      log.sessions.get? id = some s →
        log.streams.get? id = some own →
          s.eventCount = own.length
  streamed :
    ∀ id own,
      log.streams.get? id = some own →
        ∀ e ∈ own,
          e.sessionId = id ∧ log.index.has e.id = true
  indexed :
    ∀ key e,
      log.index.get? key = some e →
        e.id = key ∧
          ∃ own,
            log.streams.get? e.sessionId = some own ∧
              e ∈ own
  listed :
    ∀ id, (log.listEvents id).Perm (ofSession es id)
  ordered :
    ∀ id, Matching.InOrder (log.listEvents id)
  ties :
    ∀ id time,
      ((log.listEvents id).filter fun e =>
          e.timestamp == time) =
        (ofSession es id).filter fun e =>
          e.timestamp == time

variable {log : EventLog}
variable {es : List Event}

/- The events of a session are those that name it. -/
theorem mem_ofSession
    {id : String}
    {e : Event} :
    e ∈ ofSession es id ↔ e ∈ es ∧ e.sessionId = id := by
  rw [ofSession, List.mem_filter, beq_iff_eq]

namespace Records

variable (hRecords : log.Records es)

include hRecords

/- The last event that was recorded with an id is there. -/
theorem get?_index
    (key : String) :
    log.index.get? key = lastOf es key := by
  rw [hRecords.index_eq, Table.get?_putAll,
    Table.get?_empty, Option.or_none, lastOf]

/- A session counts the events of its stream. -/
theorem eventCount_eq
    {id : String}
    {s : Session}
    {own : List Event}
    (hSession : log.sessions.get? id = some s)
    (hStream : log.streams.get? id = some own) :
    s.eventCount = own.length := by
  have hCount := hRecords.counted id
  rw [eventCount, hSession, hStream] at hCount
  exact Option.some.inj hCount

/- Every recorded event has its id in the index. -/
theorem has_index
    {e : Event}
    (hRecorded : e ∈ es) :
    log.index.has e.id = true := by
  rcases exists_lastOf hRecorded with ⟨a, hLast⟩
  rw [Table.has, hRecords.get?_index, hLast]
  rfl

/- What the index has under a key was recorded. -/
theorem mem_of_get?_index
    {key : String}
    {e : Event}
    (hIndexed : log.index.get? key = some e) :
    e ∈ es ∧ e.id = key := by
  rw [hRecords.get?_index] at hIndexed
  exact lastOf_eq_some hIndexed

/- A recorded event is in the stream of its session. -/
theorem exists_stream
    {e : Event}
    (hRecorded : e ∈ es) :
    ∃ own,
      log.streams.get? e.sessionId = some own ∧ e ∈ own := by
  have hOwn : e ∈ log.stream e.sessionId := by
    rw [hRecords.stream_eq]
    exact mem_ofSession.mpr ⟨hRecorded, rfl⟩
  cases hStream : log.streams.get? e.sessionId with
  | none =>
      rw [stream, hStream] at hOwn
      exact absurd hOwn List.not_mem_nil
  | some own =>
      rw [stream, hStream] at hOwn
      exact ⟨own, rfl, hOwn⟩

/- The events of a session are the recorded ones by time. -/
theorem listEvents_eq
    (id : String) :
    log.listEvents id = byTime (ofSession es id) := by
  rw [← hRecords.stream_eq id]
  rfl

/- So the books of the log agree. -/
theorem bookkeeping :
    log.Bookkeeping es where
  paired := hRecords.paired
  counted := by
    intro id s own hSession hStream
    exact hRecords.eventCount_eq hSession hStream
  streamed := by
    intro id own hStream e hMember
    have hOwn := hRecords.stream_eq id
    rw [stream, hStream, Option.getD_some] at hOwn
    rw [hOwn] at hMember
    rcases mem_ofSession.mp hMember with
      ⟨hRecorded, hSession⟩
    exact ⟨hSession, hRecords.has_index hRecorded⟩
  indexed := by
    intro key e hIndexed
    rcases hRecords.mem_of_get?_index hIndexed with
      ⟨hRecorded, hKey⟩
    exact ⟨hKey, hRecords.exists_stream hRecorded⟩
  listed := by
    intro id
    rw [hRecords.listEvents_eq id]
    exact List.mergeSort_perm _ _
  ordered := by
    intro id
    rw [hRecords.listEvents_eq id]
    exact inOrder_byTime _
  ties := by
    intro id time
    rw [hRecords.listEvents_eq id]
    exact Stable.filter_rank_mergeSort Event.timestamp _ time

end Records

/-
  After any calls to a new log, failures among them, its books
  agree on the events that were recorded.
-/
theorem bookkeeping_run
    (cs : List Call) :
    (empty.run cs).Bookkeeping (empty.recorded cs) :=
  (Records.empty.run cs).bookkeeping

end EventLog

end TraceMining

------------------------------------------------------------
-- Looking Up
------------------------------------------------------------

namespace TraceMining

namespace EventLog

variable {log : EventLog}
variable {es found : List Event}

/-
  Events are found again under their identities, in order of
  time, just if none was recorded later with one of these.
-/
theorem Records.getEvents_eq_iff
    (hRecords : log.Records es)
    (hOrder : Matching.InOrder found) :
    log.getEvents (found.map Event.id) = found ↔
      ∀ e ∈ found, lastOf es e.id = some e := by
  have hLookup :
      log.getEvents (found.map Event.id) =
        byTime (found.filterMap fun e => lastOf es e.id) := by
    rw [getEvents, List.filterMap_map]
    congr 1
    apply List.filterMap_congr
    intro e _
    exact hRecords.get?_index e.id
  rw [hLookup]
  constructor
  · intro hFound e hMember
    rw [← hFound] at hMember
    rcases List.mem_filterMap.mp
        (List.mem_mergeSort.mp hMember) with ⟨a, _, hLast⟩
    rw [(lastOf_eq_some hLast).2]
    exact hLast
  · intro hLast
    rw [List.filterMap_congr hLast, List.filterMap_some]
    exact byTime_eq_self hOrder

/- So all are found where no identity is used twice. -/
theorem Records.getEvents_eq_of_nodup
    (hRecords : log.Records es)
    (hIds : (es.map Event.id).Nodup)
    (hOrder : Matching.InOrder found)
    (hRecorded : found ⊆ es) :
    log.getEvents (found.map Event.id) = found := by
  rw [hRecords.getEvents_eq_iff hOrder]
  intro e hMember
  exact lastOf_of_nodup hIds (hRecorded hMember)

end EventLog

end TraceMining
