import TraceMining.Definition.Basic

/-
  This file defines the built-in patterns: the shapes in
  which front ends report record keeping, the browsing of
  lists and work in several steps.

  Key definitions include:
    * `Definition.builtIn`
    * `Definition.builtIn?`
-/

------------------------------------------------------------
-- Rules
------------------------------------------------------------

namespace TraceMining

namespace Rule

/- An event of a kind with a text under a key. -/
def exactly
    (type : String)
    (key : String)
    (text : String) : Rule :=
  ⟨[("type", .text type), (key, .text text)]⟩

/- The same, with the number of events spelt out. -/
def once
    (type : String)
    (key : String)
    (text : String) : Rule :=
  ⟨[ ("type", .text type)
   , (key, .text text)
   , ("minOccurrences", .int 1) ]⟩

/- Navigation to a place that a glob describes. -/
def navigatesTo
    (glob : String) : Rule :=
  ⟨[ ("type", .text "navigation")
   , ("to", .object [(Constraint.patternKey, .text glob)]) ]⟩

/- The part of a payload that says what an act means. -/
def meaning
    (action : String) : String × Value :=
  ("metadata",
    .object
      [("semanticAction",
        .object [(Constraint.patternKey, .text action)])])

/- An act in the interface with a meaning. -/
def means
    (action : String) : Rule :=
  ⟨[("type", .text "interaction"), meaning action]⟩

/- The same, done in a certain way. -/
def meansBy
    (manner : String)
    (action : String) : Rule :=
  ⟨[ ("type", .text "interaction")
   , ("interactionType", .text manner)
   , meaning action ]⟩

end Rule

end TraceMining

------------------------------------------------------------
-- Definitions
------------------------------------------------------------

namespace TraceMining

namespace Definition

/- A built-in pattern; all of them are active. -/
def known
    (id : String)
    (name : String)
    (type : String)
    (description : String)
    (timeout : Int)
    (sequence : List Rule) : Definition :=
  { id := id
    name := name
    type := type
    description := some description
    isActive := true
    rules := ⟨sequence, timeout⟩ }

/- A form is opened, changed and sent, and state follows. -/
def formFlow
    (place : String)
    (change : String) : List Rule :=
  [ Rule.navigatesTo place
  , Rule.exactly "form" "formAction" "start"
  , Rule.once "form" "formAction" "field_change"
  , Rule.exactly "form" "formAction" "submit"
  , Rule.exactly "state_change" "changeType" change ]

/- The built-in patterns, in the order they are loaded. -/
def builtIn : List Definition :=
  [ known "crud_create" "CRUD Create" "crud_create"
      "User creates a new entity" 300000
      (formFlow "*/new" "set")
  , known "crud_read" "CRUD Read" "crud_read"
      "User views entity details" 10000
      [Rule.meansBy "click" "crud_read"]
  , known "crud_update" "CRUD Update" "crud_update"
      "User updates an existing entity" 300000
      (formFlow "*/edit" "update")
  , known "crud_delete" "CRUD Delete" "crud_delete"
      "User deletes an entity" 30000
      [ Rule.meansBy "click" "crud_delete"
      , Rule.exactly "state_change" "changeType" "delete" ]
  , known "list_view" "List View" "list_view"
      "User views a list of entities" 60000
      [Rule.meansBy "scroll" "list_view"]
  , known "filter" "Filter" "filter"
      "User filters a list" 30000
      [Rule.means "filter"]
  , known "sort" "Sort" "sort"
      "User sorts a list" 10000
      [Rule.means "sort"]
  , known "workflow" "Workflow" "workflow_step"
      "User completes a multi-step workflow" 600000
      [ Rule.exactly "workflow" "action" "start"
      , Rule.once "workflow" "action" "step"
      , Rule.exactly "workflow" "action" "complete" ] ]

/- The built-in pattern with an identity. -/
def builtIn?
    (id : String) : Option Definition :=
  builtIn.find? fun d => d.id == id

end Definition

end TraceMining
