import TraceMining.Calendar
import TraceMining.Digest.Identity
import TraceMining.Failure
import TraceMining.Model.Navigation
import TraceMining.Model.Workflow

/-
  This file defines application models and their assembly
  from the patterns of one session.  A model is as confident
  as its patterns are on average.

  Key definitions include:
    * `Pattern.meanConfidence`
    * `Application`
    * `Application.assemble`
    * `Application.toValue`
    * `Application.rendition`
-/

------------------------------------------------------------
-- Mean Confidence
------------------------------------------------------------

namespace TraceMining

namespace Pattern

/- The sum of confidences, added from left to right. -/
def totalConfidence
    (ps : List Pattern) : Float :=
  ps.foldl (fun sum p => sum + p.confidence) 0

/- The mean of the confidences of some patterns. -/
def meanConfidence
    (ps : List Pattern) : Except Failure Float :=
  if ps.isEmpty then .error .emptyMean
  else .ok (totalConfidence ps / Float.ofNat ps.length)

end Pattern

end TraceMining

------------------------------------------------------------
-- Models
------------------------------------------------------------

namespace TraceMining

/- What a session tells of an application. -/
structure Application where
  id : String
  version : String
  name : String
  description : String
  entities : List Entity
  screens : List Screen
  workflows : List Workflow
  navigation : Navigation
  confidence : Float
  sessionId : String
  patternCount : Nat
  generatedAt : Int
  patternTypes : List String

namespace Application

/- What a model is called; a name that is empty is none. -/
structure Labels where
  version : String
  name : Option String
  description : Option String

/- A text, unless it is missing or empty. -/
def chosen
    (s : Option String)
    (otherwise : String) : String :=
  match s with
  | some s => if s.isEmpty then otherwise else s
  | none => otherwise

/-
  Assemble the model of a session's patterns, as number
  `serial` and at a time in seconds.
-/
def assemble
    (serial : Nat)
    (now : Int)
    (labels : Labels)
    (sessionId : String)
    (ps : List Pattern) : Except Failure Application := do
  if ps.isEmpty then throw (.noPatterns sessionId)
  let entities := Entity.derive ps
  let screens := Screen.derive entities ps
  let confidence ← Pattern.meanConfidence ps
  return {
    id := Identity.model serial
    version := labels.version
    name := chosen labels.name ("App_" ++ Calendar.day now)
    description :=
      chosen labels.description
        ("Generated from " ++ toString ps.length ++ " patterns")
    entities := entities
    screens := screens
    workflows := Workflow.derive ps
    navigation := Navigation.derive screens
    confidence := confidence
    sessionId := sessionId
    patternCount := ps.length
    generatedAt := now * 1000
    patternTypes := Distinct.texts (ps.map Pattern.type) }

/- A model as a document. -/
def toValue
    (a : Application) : Value :=
  .object
    [ ("id", .text a.id)
    , ("version", .text a.version)
    , ("name", .text a.name)
    , ("description", .text a.description)
    , ("entities", .list (a.entities.map Entity.toValue))
    , ("screens", .list (a.screens.map Screen.toValue))
    , ("workflows", .list (a.workflows.map Workflow.toValue))
    , ("navigation", a.navigation.toValue)
    , ("confidence", .float a.confidence)
    , ("metadata",
        .object
          [ ("sessionId", .text a.sessionId)
          , ("patternCount", .int a.patternCount)
          , ("generatedAt", .int a.generatedAt)
          , ("patternTypes", .ofTexts a.patternTypes) ]) ]

/- A model that leaves, with the open values of its parts. -/
def rendition
    (a : Application) : Rendition :=
  { document := a.toValue
    parts :=
      (a.entities.flatMap fun e =>
        e.properties.map Property.default) ++
      (a.workflows.flatMap fun w => w.rendition.parts) }

end Application

end TraceMining
