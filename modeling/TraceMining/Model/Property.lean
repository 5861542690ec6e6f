import TraceMining.Distinct
import TraceMining.Rendition

/-
  This file defines the properties of entities.  A property
  list in normal form starts with the identity and ends with
  the two time stamps; of other properties with the same name
  the first is kept.

  Key definitions include:
    * `Property`
    * `Property.rendition`
    * `Property.standard`
    * `Property.normalize`
-/

------------------------------------------------------------
-- Properties
------------------------------------------------------------

namespace TraceMining

/- A property; no default is null. -/
structure Property where
  name : String
  type : String
  required : Bool
  default : Value

namespace Property

/- A property as a document. -/
def toValue
    (p : Property) : Value :=
  .object
    [ ("name", .text p.name)
    , ("type", .text p.type)
    , ("required", .bool p.required)
    , ("default_value", p.default) ]

/- A property that leaves; its default is open. -/
def rendition
    (p : Property) : Rendition :=
  { document := p.toValue
    parts := [p.default] }

end Property

end TraceMining

------------------------------------------------------------
-- Normal Form
------------------------------------------------------------

namespace TraceMining

namespace Property

/- The names of the properties that every entity has. -/
def standardNames : List String :=
  ["id", "createdAt", "updatedAt"]

/-
  The standard property of a name and type.  The last given
  property of that name passes its default on.
-/
def standard
    (given : List Property)
    (name : String)
    (type : String) : Property :=
  let last := given.reverse.find? fun p => p.name == name
  { name := name
    type := type
    required := true
    default := (last.map Property.default).getD .null }

/- The properties that are not standard, each name once. -/
def others
    (given : List Property) : List Property :=
  Distinct.firsts Property.name
    (given.filter fun p => !standardNames.contains p.name)

/- Put a property list into normal form. -/
def normalize
    (given : List Property) : List Property :=
  standard given "id" "string" ::
    (others given ++
      [ standard given "createdAt" "datetime"
      , standard given "updatedAt" "datetime" ])

end Property

end TraceMining
