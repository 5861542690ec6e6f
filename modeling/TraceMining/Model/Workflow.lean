import TraceMining.Classification
import TraceMining.Pattern
import TraceMining.Value.PlainText

/-
  This file defines the workflows of an application: one for
  each pattern whose type mentions one, with the steps that
  its metadata lists, whatever their shape.

  Key definitions include:
    * `WorkflowStep.ofValue`
    * `Workflow.ofPattern`
    * `Workflow.derive`
    * `Workflow.rendition`
-/

------------------------------------------------------------
-- Steps
------------------------------------------------------------

namespace TraceMining

/- A step of a workflow. -/
structure WorkflowStep where
  name : String
  kind : StepKind
  config : Fields

namespace WorkflowStep

/- The name of a step that has none; steps count from one. -/
def numbered
    (i : Nat) : String :=
  "Step " ++ toString (i + 1)

/- A step in some place, as an object or a bare label. -/
def ofValue
    (v : Value)
    (i : Nat) : WorkflowStep :=
  let kind := StepKind.infer v
  match v with
  | .object fs =>
      let name := Fields.getD fs "name"
      { name :=
          if name.isTruthy then name.plain else numbered i
        kind := kind
        config := fs }
  | .text s =>
      { name := if s.isEmpty then numbered i else s
        kind := kind
        config := [("value", v)] }
  | _ =>
      { name := v.plain
        kind := kind
        config := [("value", v)] }

/- A step as a document. -/
def toValue
    (s : WorkflowStep) : Value :=
  .object
    [ ("name", .text s.name)
    , ("type", .text s.kind.name)
    , ("config", .object s.config) ]

end WorkflowStep

end TraceMining

------------------------------------------------------------
-- Workflows
------------------------------------------------------------

namespace TraceMining

/- A workflow; it starts when somebody starts it. -/
structure Workflow where
  name : String
  steps : List WorkflowStep

namespace Workflow

/- The workflow of a pattern. -/
def ofPattern
    (p : Pattern) : Workflow :=
  let steps := ((p.metadata.getD "steps").items?).getD []
  { name := (p.name? "workflowName").getD "Unnamed Workflow"
    steps := steps.zipIdx.map fun s => .ofValue s.1 s.2 }

/- The workflows of a list of patterns. -/
def derive
    (ps : List Pattern) : List Workflow :=
  (ps.filter fun p => Text.mentions p.type "workflow").map
    ofPattern

/- A workflow as a document. -/
def toValue
    (w : Workflow) : Value :=
  .object
    [ ("name", .text w.name)
    , ("steps", .list (w.steps.map WorkflowStep.toValue))
    , ("triggers", .ofTexts ["manual"]) ]

/- A workflow that leaves; its steps' settings are open. -/
def rendition
    (w : Workflow) : Rendition :=
  .ofFields w.toValue (w.steps.flatMap WorkflowStep.config)

end Workflow

end TraceMining
