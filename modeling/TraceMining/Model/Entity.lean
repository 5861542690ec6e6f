import TraceMining.Classification
import TraceMining.Model.Property
import TraceMining.Pattern
import TraceMining.Table

/-
  This file defines the entities of an application and how
  they follow from patterns.  Patterns are grouped by the
  entity that they name or whose path they visit; each adds
  its operation and the fields that it shows.

  Key definitions include:
    * `Pattern.entity?`
    * `Pattern.fieldNames`
    * `Entity`
    * `Entity.absorb`
    * `Entity.derive`
-/

------------------------------------------------------------
-- What Patterns Say
------------------------------------------------------------

namespace TraceMining

namespace Pattern

/- The entity of a pattern: named, or the path's resource. -/
def entity?
    (p : Pattern) : Option String :=
  match p.name? "entityName" with
  | some name => some name
  | none => (p.name? "path").bind Naming.resource?

/- The field names that a pattern shows. -/
def fieldNames
    (p : Pattern) : List String :=
  match p.metadata.getD "fields" with
  | .list vs => vs.filterMap Value.name?
  | _ => []

end Pattern

end TraceMining

------------------------------------------------------------
-- Entities
------------------------------------------------------------

namespace TraceMining

/- A kind of thing that the application keeps. -/
structure Entity where
  name : String
  displayName : String
  properties : List Property
  operations : List Operation

namespace Entity

/- An entity of which only the name is known. -/
def named
    (key : String) : Entity :=
  { name := Naming.camel key
    displayName := Naming.display key
    properties := []
    operations := [] }

/- An observed field as a property. -/
def observed
    (field : String) : Property :=
  { name := field
    type := propertyType field
    required := false
    default := .null }

/- Add a field unless a property has its name. -/
def addField
    (ps : List Property)
    (field : String) : List Property :=
  if ps.any fun p => p.name == field then ps
  else ps ++ [observed field]

/- Add what a pattern says. -/
def absorb
    (p : Pattern)
    (e : Entity) : Entity :=
  { e with
    operations :=
      match Operation.ofType? p.type with
      | some op => Distinct.add e.operations op
      | none => e.operations
    properties := p.fieldNames.foldl addField e.properties }

/- An entity as a document; no relationship is inferred. -/
def toValue
    (e : Entity) : Value :=
  .object
    [ ("name", .text e.name)
    , ("display_name", .text e.displayName)
    , ("properties", .list (e.properties.map Property.toValue))
    , ("relationships", .list [])
    , ("operations",
        .ofTexts (e.operations.map Operation.name)) ]

end Entity

end TraceMining

------------------------------------------------------------
-- Derivation
------------------------------------------------------------

namespace TraceMining

namespace Entity

/- Add a pattern to its group; one without a name has none. -/
def fold
    (groups : Table Entity)
    (p : Pattern) : Table Entity :=
  match p.entity? with
  | none => groups
  | some key =>
      if key.isEmpty then groups
      else groups.adjust key (named key) (absorb p)

/- The entities of a list of patterns. -/
def derive
    (ps : List Pattern) : List Entity :=
  (ps.foldl fold Table.empty).values.map fun e =>
    { e with properties := Property.normalize e.properties }

end Entity

end TraceMining
