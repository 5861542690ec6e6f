import TraceMining.Definition.Basic
import TraceMining.Matching.Confidence

/-
  This file defines the summary of a match, which becomes the
  metadata of its pattern: the latest entity, place and
  workflow that its events name, and all fields and workflow
  steps in order.

  Key definitions include:
    * `Matching.latest`
    * `Matching.Summary`
    * `Matching.Summary.ofEvents`
    * `Matching.Summary.toFields`
-/

------------------------------------------------------------
-- Summaries
------------------------------------------------------------

namespace TraceMining

namespace Matching

/- The last reading that some event gives. -/
def latest
    {α : Type}
    (reading : Event → Option α)
    (es : List Event) : Option α :=
  es.reverse.findSome? reading

/- What a match says beyond its events. -/
structure Summary where
  patternType : String
  patternName : String
  eventCount : Nat
  duration : Int
  entityName : Option String
  entityId : Option Value
  path : Option String
  workflowName : Option String
  fieldNames : List String
  steps : List Value

/- The summary of the events of a match. -/
def Summary.ofEvents
    (d : Definition)
    (es : List Event) : Summary :=
  { patternType := d.type
    patternName := d.name
    eventCount := es.length
    duration := elapsed es
    entityName := latest Event.entityName? es
    entityId := latest Event.entityId? es
    path := latest Event.path? es
    workflowName := latest Event.workflowName? es
    fieldNames := (es.filterMap Event.fieldName?).eraseDups
    steps := es.filterMap Event.currentStep? }

end Matching

end TraceMining

------------------------------------------------------------
-- Metadata
------------------------------------------------------------

namespace TraceMining

namespace Matching

/- An entry, if there is a value for it. -/
def entry?
    (key : String)
    (v : Option Value) : Fields :=
  match v with
  | some v => [(key, v)]
  | none => []

/- An entry, if there is some item for it. -/
def entries?
    (key : String)
    (vs : List Value) : Fields :=
  if vs.isEmpty then [] else [(key, .list vs)]

/- A summary as metadata; what is not known is left out. -/
def Summary.toFields
    (s : Summary) : Fields :=
  [ ("patternType", .text s.patternType)
  , ("patternName", .text s.patternName)
  , ("eventCount", .int s.eventCount)
  , ("duration", .int s.duration) ] ++
    entry? "entityName" (s.entityName.map .text) ++
    entry? "entityId" s.entityId ++
    entry? "path" (s.path.map .text) ++
    entry? "workflowName" (s.workflowName.map .text) ++
    entries? "fields" (s.fieldNames.map .text) ++
    entries? "steps" s.steps

end Matching

end TraceMining
