import TraceMining.Calendar
import TraceMining.Digest.Identity
import TraceMining.Event
import TraceMining.Failure
import TraceMining.Table

/-
  This file defines the event log: the sessions, the events of
  each in order of arrival, and the events by identity, of
  which the latest with an identity counts.  A session is
  opened when it is first seen.

  Key definitions include:
    * `Session`
    * `EventLog`
    * `EventLog.startSession`
    * `EventLog.append`
    * `EventLog.listEvents`
    * `EventLog.getEvents`
-/

------------------------------------------------------------
-- Sessions
------------------------------------------------------------

namespace TraceMining

/- A session of somebody's work, since a time in seconds. -/
structure Session where
  id : String
  userId : Option String
  startedAt : Int
  eventCount : Nat
  deriving DecidableEq, Repr

/- A session as a document. -/
def Session.toValue
    (s : Session) : Value :=
  .object
    [ ("session_id", .text s.id)
    , ("user_id", .ofText? s.userId)
    , ("started_at", .text (Calendar.instant s.startedAt))
    , ("event_count", .int s.eventCount) ]

end TraceMining

------------------------------------------------------------
-- Log
------------------------------------------------------------

namespace TraceMining

/- Sessions, their events, and how many ids were made up. -/
structure EventLog where
  sessions : Table Session
  streams : Table (List Event)
  index : Table Event
  generated : Nat

namespace EventLog

/- The log before the first session. -/
def empty : EventLog :=
  { sessions := Table.empty
    streams := Table.empty
    index := Table.empty
    generated := 0 }

/- An identity for a session; one that is empty is made up. -/
def identify
    (log : EventLog)
    (given : Option String) : String × EventLog :=
  match given with
  | some id =>
      if id.isEmpty then
        (Identity.session (log.generated + 1),
          { log with generated := log.generated + 1 })
      else (id, log)
  | none =>
      (Identity.session (log.generated + 1),
        { log with generated := log.generated + 1 })

/- The session with an identity, opened if it is new. -/
def openSession
    (log : EventLog)
    (now : Int)
    (userId : Option String)
    (id : String) : Session × EventLog :=
  match log.sessions.get? id with
  | some s => (s, log)
  | none =>
      let s : Session :=
        { id := id
          userId := userId
          startedAt := now
          eventCount := 0 }
      (s,
        { log with
          sessions := log.sessions.put id s
          streams := log.streams.put id [] })

/- Start a session, or return to one. -/
def startSession
    (log : EventLog)
    (now : Int)
    (userId : Option String)
    (given : Option String) : Session × EventLog :=
  let (id, log) := log.identify given
  log.openSession now userId id

/- Put an event into the stream of an open session. -/
def record
    (log : EventLog)
    (e : Event) : Except Failure Unit × EventLog :=
  match log.streams.get? e.sessionId,
      log.sessions.get? e.sessionId with
  | some es, some s =>
      (.ok (),
        { log with
          streams := log.streams.put e.sessionId (es ++ [e])
          index := log.index.put e.id e
          sessions := log.sessions.put e.sessionId
            { s with eventCount := s.eventCount + 1 } })
  | _, _ => (.error (.unknownKey e.sessionId), log)

/- Append an event; its session is opened if it is new. -/
def append
    (log : EventLog)
    (now : Int)
    (e : Event) : Except Failure Unit × EventLog :=
  (log.startSession now none (some e.sessionId)).2.record e

end EventLog

end TraceMining

------------------------------------------------------------
-- Reading
------------------------------------------------------------

namespace TraceMining

namespace EventLog

/- Events by time; simultaneous ones keep their order. -/
def byTime
    (es : List Event) : List Event :=
  es.mergeSort fun a b =>
    decide (a.timestamp ≤ b.timestamp)

/- The events of a session by time. -/
def listEvents
    (log : EventLog)
    (sessionId : String) : List Event :=
  byTime ((log.streams.get? sessionId).getD [])

/- The events with some identities by time. -/
def getEvents
    (log : EventLog)
    (ids : List String) : List Event :=
  byTime (ids.filterMap log.index.get?)

/- The sessions in the order in which they were opened. -/
def listSessions
    (log : EventLog) : List Session :=
  log.sessions.values

end EventLog

end TraceMining
