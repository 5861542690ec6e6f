import TraceMining.Schema.Document
import TraceMining.Service.Message
import TraceMining.Store.Archive

/-
  This file defines what requests carry: the fields of their
  bodies and of their queries.  In an update, a field that is
  missing leaves the definition as it is, and so does one
  that is null, but for the description, which null clears.

  Key definitions include:
    * `Service.StartSession`
    * `Service.LogEvent`
    * `Service.Update`
    * `Service.Update.apply`
    * `Service.Labels`
    * `Service.Request.archiveQuery`
-/

------------------------------------------------------------
-- Sessions And Models
------------------------------------------------------------

namespace TraceMining

namespace Service

/- A session to start. -/
structure StartSession where
  userId : Option String

/- Read the fields of a session to start. -/
def StartSession.ofFields
    (fs : Fields) : Schema.Checked StartSession :=
  StartSession.mk <$>
    Schema.optional fs "user_id" none
      (Schema.nullable Schema.text)

/- An event to log. -/
structure LogEvent where
  sessionId : String
  type : String
  timestamp : Int
  data : Fields
  id : Option String

/- Read the fields of an event to log. -/
def LogEvent.ofFields
    (fs : Fields) : Schema.Checked LogEvent :=
  LogEvent.mk <$>
    Schema.required fs "session_id" Schema.text <*>
    Schema.required fs "type" Schema.text <*>
    Schema.required fs "timestamp" Schema.integer <*>
    Schema.optional fs "data" [] Schema.fields <*>
    Schema.optional fs "id" none (Schema.nullable Schema.text)

/- How a model is to be called. -/
structure Labels where
  name : Option String
  description : Option String

/- Read how a model is to be called. -/
def Labels.ofFields
    (fs : Fields) : Schema.Checked Labels :=
  Labels.mk <$>
    Schema.optional fs "name" none
      (Schema.nullable Schema.text) <*>
    Schema.optional fs "description" none
      (Schema.nullable Schema.text)

end Service

end TraceMining

------------------------------------------------------------
-- Updates
------------------------------------------------------------

namespace TraceMining

namespace Service

/- What of a definition is to change. -/
structure Update where
  name : Option String
  description : Option (Option String)
  type : Option String
  isActive : Option Bool
  rules : Option RuleSet

namespace Update

/- Read what is to change. -/
def ofFields
    (fs : Fields) : Schema.Checked Update :=
  Update.mk <$>
    Schema.optional fs "name" none
      (Schema.nullable Schema.text) <*>
    Schema.optional fs "description" none
      (fun v => (Schema.nullable Schema.text v).map some) <*>
    Schema.optional fs "type" none
      (Schema.nullable Schema.text) <*>
    Schema.optional fs "is_active" none
      (Schema.nullable Schema.truth) <*>
    Schema.optional fs "rules" none
      (Schema.nullable (Schema.ruleSet .modelAttributesType))

/- Change a definition; its identity stays. -/
def apply
    (u : Update)
    (d : Definition) : Definition :=
  { id := d.id
    name := u.name.getD d.name
    type := u.type.getD d.type
    description := u.description.getD d.description
    isActive := u.isActive.getD d.isActive
    rules := u.rules.getD d.rules }

end Update

end Service

end TraceMining

------------------------------------------------------------
-- Queries
------------------------------------------------------------

namespace TraceMining

namespace Service

/- The most patterns that one page holds. -/
def largestPage : Int := 1000

/- Read what is asked of the archive. -/
def Request.archiveQuery
    (r : Request) : Except Refusal Archive.Query :=
  let base := Archive.Query.default
  let any (v : Value) : Schema.Checked (Option String) :=
    (Schema.text v).map some
  taken
    (Archive.Query.mk <$>
      r.parameter "session_id" base.sessionId any <*>
      r.parameter "type" base.type any <*>
      r.parameter "min_confidence" base.minConfidence
        (Schema.between 0 1 Schema.number) <*>
      r.parameter "limit" base.limit
        (Schema.atMost largestPage
          (Schema.atLeast 1 Schema.integer)) <*>
      r.parameter "offset" base.offset
        (Schema.atLeast 0 Schema.integer))

end Service

end TraceMining
