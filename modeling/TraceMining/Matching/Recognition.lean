import TraceMining.Matching.Scan
import TraceMining.Matching.Summary
import TraceMining.Digest.Identity
import TraceMining.Pattern
import TraceMining.Definition.Check

/-
  This file defines the patterns that a definition has in a
  list of events.  The identity of a pattern is derived from
  its session, its definition and its events, so that the
  same match has the same identity in every analysis.

  Key definitions include:
    * `Matching.patternName`
    * `Matching.toPattern`
    * `Definition.findMatches`
-/

------------------------------------------------------------
-- Patterns
------------------------------------------------------------

namespace TraceMining

namespace Matching

/- The name from which a pattern's identity is derived. -/
def patternName
    (sessionId : String)
    (definitionId : String)
    (eventIds : List String) : String :=
  sessionId ++ ":" ++ definitionId ++ ":" ++
    ",".intercalate eventIds

/- The time stamp of an event that may be missing. -/
def stamp
    (e : Option Event) : Int :=
  (e.map Event.timestamp).getD 0

/- The pattern of the events of a match. -/
def toPattern
    (d : Definition)
    (es : List Event) : Except Failure Pattern := do
  let score ← confidence es d.rules.sequence.length
  let sessionId := (es.head?.map Event.sessionId).getD ""
  let eventIds := es.map Event.id
  return {
    id :=
      Identity.named Identity.patternKey
        (patternName sessionId d.id eventIds)
    sessionId := sessionId
    type := d.type
    confidence := score
    startTime := stamp es.head?
    endTime := stamp es.getLast?
    eventIds := eventIds
    metadata := (Summary.ofEvents d es).toFields }

end Matching

end TraceMining

------------------------------------------------------------
-- Recognition
------------------------------------------------------------

namespace TraceMining

namespace Definition

/- The events of every match, left to right. -/
def matchedEvents
    (d : Definition)
    (es : List Event) : List (List Event) :=
  (Matching.scan d.rules.sequence d.rules.timeout 0 es).map
    Matching.Match.events

/- The first misuse of a definition, and the matches before. -/
def misuse?
    (d : Definition)
    (es : List Event) : Option (Nat × Misuse) :=
  Matching.scanMisuse? d.rules.sequence d.rules.timeout 0 es

/-
  Every pattern of a definition in a list of events.  Matches
  become patterns as they are found, so that one which fails
  goes before a later misuse.
-/
def findMatches
    (d : Definition)
    (es : List Event) : Except Failure (List Pattern) :=
  if d.rules.sequence.isEmpty then
    .error
      (.invalidDefinition d.id Fault.emptySequence.message)
  else
    let found := d.matchedEvents es
    match d.misuse? es with
    | none => found.mapM (Matching.toPattern d)
    | some (before, what) => do
        let _ ←
          (found.take before).mapM (Matching.toPattern d)
        throw (.misuse what)

end Definition

end TraceMining
