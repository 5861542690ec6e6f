import TraceMining.Rendition

/-
  This file defines events: single recorded interactions with
  an open payload.  The named readings of the payload pass
  over what is not text where text is meant.

  Key definitions include:
    * `Event`
    * `Event.name?`
    * `Event.path?`
    * `Event.toValue`
    * `Event.rendition`
-/

------------------------------------------------------------
-- Events
------------------------------------------------------------

namespace TraceMining

/- One interaction, stamped in milliseconds. -/
structure Event where
  id : String
  sessionId : String
  type : String
  timestamp : Int
  data : Fields

end TraceMining

------------------------------------------------------------
-- Payload
------------------------------------------------------------

namespace TraceMining

namespace Event

/- The text under a key of the payload, if not empty. -/
def name?
    (e : Event)
    (key : String) : Option String :=
  (e.data.getD key).name?

/- The entity that the event is about. -/
def entityName?
    (e : Event) : Option String :=
  e.name? "entityName"

/- The identity of that entity, unless it is empty. -/
def entityId?
    (e : Event) : Option Value :=
  let v := e.data.getD "entityId"
  if v.isTruthy then some v else none

/- The place navigated to; `path` goes before `to`. -/
def path?
    (e : Event) : Option String :=
  match e.name? "path" with
  | some p => some p
  | none => e.name? "to"

/- The form field that the event is about. -/
def fieldName?
    (e : Event) : Option String :=
  e.name? "fieldName"

/- The workflow that the event is part of. -/
def workflowName?
    (e : Event) : Option String :=
  e.name? "workflowName"

/- The step of the workflow, whatever it is. -/
def currentStep?
    (e : Event) : Option Value :=
  match e.data.getD "currentStep" with
  | .null => none
  | v => some v

/- An event as a document. -/
def toValue
    (e : Event) : Value :=
  .object
    [ ("id", .text e.id)
    , ("session_id", .text e.sessionId)
    , ("type", .text e.type)
    , ("timestamp", .int e.timestamp)
    , ("data", .object e.data) ]

/- An event that leaves; its payload is open. -/
def rendition
    (e : Event) : Rendition :=
  .ofFields e.toValue e.data

end Event

end TraceMining
