import TraceMining.Definition.Basic
import TraceMining.Event
import TraceMining.Model.Property
import TraceMining.Pattern
import TraceMining.Schema.Reader

/-
  This file defines the reading of the library's own types
  from documents.  The code for a nested document that is no
  object depends on where the document came from.

  Key definitions include:
    * `Schema.event`
    * `Schema.ruleSet`
    * `Schema.definition`
    * `Schema.pattern`
    * `Schema.property`
-/

------------------------------------------------------------
-- Events
------------------------------------------------------------

namespace TraceMining

namespace Schema

/- The event of some fields. -/
def eventFields
    (fs : Fields) : Checked Event :=
  Event.mk <$>
    required fs "id" text <*>
    required fs "session_id" text <*>
    required fs "type" text <*>
    required fs "timestamp" integer <*>
    optional fs "data" [] fields

/- An event. -/
def event :
    Value → Checked Event :=
  model .modelType eventFields

end Schema

end TraceMining

------------------------------------------------------------
-- Definitions
------------------------------------------------------------

namespace TraceMining

namespace Schema

/- A step rule: an object with any fields. -/
def rule
    (v : Value) : Checked Rule :=
  (fields v).map Rule.mk

/- The rules of some fields. -/
def ruleSetFields
    (fs : Fields) : Checked RuleSet :=
  RuleSet.mk <$>
    optional fs "sequence" [] (listOf rule) <*>
    required fs "timeout" integer

/- Rules. -/
def ruleSet
    (code : Code) :
    Value → Checked RuleSet :=
  model code ruleSetFields

/- The definition of some fields. -/
def definitionFields
    (code : Code)
    (fs : Fields) : Checked Definition :=
  Definition.mk <$>
    required fs "id" text <*>
    required fs "name" text <*>
    required fs "type" text <*>
    optional fs "description" none (nullable text) <*>
    optional fs "is_active" true truth <*>
    required fs "rules" (ruleSet code)

/- A definition. -/
def definition
    (code : Code) :
    Value → Checked Definition :=
  model code (definitionFields code)

end Schema

end TraceMining

------------------------------------------------------------
-- Patterns And Properties
------------------------------------------------------------

namespace TraceMining

namespace Schema

/- The pattern of some fields. -/
def patternFields
    (fs : Fields) : Checked Pattern :=
  Pattern.mk <$>
    required fs "id" text <*>
    required fs "session_id" text <*>
    required fs "type" text <*>
    required fs "confidence" (between 0 1 number) <*>
    required fs "start_time" integer <*>
    required fs "end_time" integer <*>
    required fs "event_ids" (listOf text) <*>
    optional fs "metadata" [] fields

/- A pattern. -/
def pattern :
    Value → Checked Pattern :=
  model .modelType patternFields

/- The property of some fields. -/
def propertyFields
    (fs : Fields) : Checked Property :=
  Property.mk <$>
    required fs "name" text <*>
    required fs "type" text <*>
    optional fs "required" false truth <*>
    optional fs "default_value" .null anything

/- A property. -/
def property :
    Value → Checked Property :=
  model .modelType propertyFields

end Schema

end TraceMining
