import TraceMining.Rule

/-
  This file defines pattern definitions: a named sequence of
  step rules with a time window.

  Key definitions include:
    * `RuleSet`
    * `Definition`
    * `Definition.toValue`
    * `Definition.rendition`
-/

------------------------------------------------------------
-- Definitions
------------------------------------------------------------

namespace TraceMining

/-
  The steps of a pattern, and the milliseconds that may pass
  between its first and its last event.
-/
structure RuleSet where
  sequence : List Rule
  timeout : Int

/- A pattern to look for. -/
structure Definition where
  id : String
  name : String
  type : String
  description : Option String
  isActive : Bool
  rules : RuleSet

end TraceMining

------------------------------------------------------------
-- Documents
------------------------------------------------------------

namespace TraceMining

/- Rules as a document. -/
def RuleSet.toValue
    (r : RuleSet) : Value :=
  .object
    [ ("sequence", .list (r.sequence.map Rule.toValue))
    , ("timeout", .int r.timeout) ]

/- A definition as a document. -/
def Definition.toValue
    (d : Definition) : Value :=
  .object
    [ ("id", .text d.id)
    , ("name", .text d.name)
    , ("type", .text d.type)
    , ("description", .ofText? d.description)
    , ("is_active", .bool d.isActive)
    , ("rules", d.rules.toValue) ]

/- A definition that leaves; its step rules are open. -/
def Definition.rendition
    (d : Definition) : Rendition :=
  .ofFields d.toValue (d.rules.sequence.flatMap Rule.fields)

end TraceMining
