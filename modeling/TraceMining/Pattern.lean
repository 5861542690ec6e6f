import TraceMining.Rendition

/-
  This file defines recognized patterns: single matches of a
  definition in a session, with a score and open metadata.

  Key definitions include:
    * `Pattern`
    * `Pattern.toValue`
    * `Pattern.rendition`
-/

------------------------------------------------------------
-- Patterns
------------------------------------------------------------

namespace TraceMining

/- A match of a definition in the events of a session. -/
structure Pattern where
  id : String
  sessionId : String
  type : String
  confidence : Float
  startTime : Int
  endTime : Int
  eventIds : List String
  metadata : Fields

namespace Pattern

/- The entries of a pattern as a document. -/
def toFields
    (p : Pattern) : Fields :=
  [ ("id", .text p.id)
  , ("session_id", .text p.sessionId)
  , ("type", .text p.type)
  , ("confidence", .float p.confidence)
  , ("start_time", .int p.startTime)
  , ("end_time", .int p.endTime)
  , ("event_ids", .ofTexts p.eventIds)
  , ("metadata", .object p.metadata) ]

/- A pattern as a document. -/
def toValue
    (p : Pattern) : Value :=
  .object p.toFields

/- A pattern that leaves; its metadata is open. -/
def rendition
    (p : Pattern) : Rendition :=
  .ofFields p.toValue p.metadata

/- The text of the metadata under a key, if not empty. -/
def name?
    (p : Pattern)
    (key : String) : Option String :=
  (p.metadata.getD key).name?

end Pattern

end TraceMining
