import TraceMining.Naming.Path
import TraceMining.Value.Basic

/-
  This file defines the classifications that go by name: the
  type of a property, the operation that a pattern performs,
  the kind of a screen and the kind of a workflow step.  The
  rules are ordered and the first that applies decides.

  Key definitions include:
    * `propertyType`
    * `Operation.ofType?`
    * `ScreenKind.infer`
    * `StepKind.infer`
-/

------------------------------------------------------------
-- Properties
------------------------------------------------------------

namespace TraceMining

/- Words in a field's name, and the type they give it. -/
def propertyWords : List (List String × String) :=
  [ (["email"], "email")
  , (["phone"], "phone")
  , (["date", "time"], "datetime")
  , (["price", "cost", "amount"], "currency")
  , (["count", "quantity", "number"], "number")
  , (["is", "has", "active"], "boolean")
  , (["description", "notes", "content"], "text")
  , (["url", "link"], "url")
  , (["image", "photo", "avatar"], "image") ]

/- The type of a property, by its name in lower case. -/
def propertyType
    (name : String) : String :=
  let s := Text.lower name
  let row := propertyWords.find? fun r =>
    r.1.any fun w => Text.mentions s w
  (row.map Prod.snd).getD "string"

end TraceMining

------------------------------------------------------------
-- Operations
------------------------------------------------------------

namespace TraceMining

/- What a pattern does to an entity. -/
inductive Operation where
  | create
  | read
  | update
  | delete
  | list
  deriving DecidableEq, Repr

namespace Operation

/- The name of an operation. -/
def name :
    Operation → String
  | .create => "create"
  | .read => "read"
  | .update => "update"
  | .delete => "delete"
  | .list => "list"

/- The operations, in the order in which they are tried. -/
def all : List Operation :=
  [.create, .read, .update, .delete, .list]

/- The first operation that a pattern type mentions. -/
def ofType?
    (type : String) : Option Operation :=
  all.find? fun op => Text.mentions type op.name

end Operation

end TraceMining

------------------------------------------------------------
-- Screens
------------------------------------------------------------

namespace TraceMining

/- What a screen is for. -/
inductive ScreenKind where
  | list
  | form
  | detail
  | dashboard
  | custom
  deriving DecidableEq, Repr

namespace ScreenKind

/- The name of a kind of screen. -/
def name :
    ScreenKind → String
  | .list => "list"
  | .form => "form"
  | .detail => "detail"
  | .dashboard => "dashboard"
  | .custom => "custom"

/- The kind of screen on which a pattern takes place. -/
def infer
    (type : String)
    (path : String) : ScreenKind :=
  let names := Text.mentions type
  let visits := Text.mentions path
  if names "list" || Text.endsIn path "/" then .list
  else if names "create" || visits "/new" then .form
  else if names "update" || visits "/edit" then .form
  else if names "read" || Naming.endsInNumber path then .detail
  else if visits "dashboard" then .dashboard
  else .custom

end ScreenKind

end TraceMining

------------------------------------------------------------
-- Workflow Steps
------------------------------------------------------------

namespace TraceMining

/- What happens in a workflow step. -/
inductive StepKind where
  | form
  | action
  | decision
  | navigation
  deriving DecidableEq, Repr

namespace StepKind

/- The name of a kind of step. -/
def name :
    StepKind → String
  | .form => "form"
  | .action => "action"
  | .decision => "decision"
  | .navigation => "navigation"

/- The kind of a step, by the entries that say something. -/
def infer
    (step : Value) : StepKind :=
  match step with
  | .object fs =>
      let given (key : String) : Bool :=
        (Fields.getD fs key).isTruthy
      if given "formId" || given "fields" then .form
      else if given "condition" then .decision
      else if given "path" || given "navigate" then .navigation
      else .action
  | _ => .action

end StepKind

end TraceMining
