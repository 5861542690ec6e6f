import TraceMining.Model.Entity

/-
  This file defines the screens of an application and how
  they follow from patterns.  Patterns are grouped by the base
  of the path that they visit; the first of a group decides
  the kind of the screen, all of them what it shows.

  Key definitions include:
    * `ComponentKind`
    * `ScreenDraft`
    * `ScreenDraft.absorb`
    * `Screen`
    * `Screen.derive`
-/

------------------------------------------------------------
-- Components
------------------------------------------------------------

namespace TraceMining

/- The parts that a screen may have. -/
inductive ComponentKind where
  | dataTable
  | form
  | filterPanel
  | searchInput
  deriving DecidableEq, Repr

namespace ComponentKind

/- The name of a kind of part. -/
def name :
    ComponentKind → String
  | .dataTable => "DataTable"
  | .form => "Form"
  | .filterPanel => "FilterPanel"
  | .searchInput => "SearchInput"

/- The words in a pattern type that call for the part. -/
def words :
    ComponentKind → List String
  | .dataTable => ["list"]
  | .form => ["create", "update"]
  | .filterPanel => ["filter"]
  | .searchInput => ["search"]

/- The parts, in the order in which one pattern adds them. -/
def all : List ComponentKind :=
  [.dataTable, .form, .filterPanel, .searchInput]

/- The parts that a pattern type calls for. -/
def ofType
    (type : String) : List ComponentKind :=
  all.filter fun k => k.words.any (Text.mentions type)

end ComponentKind

/- A part of a screen with its settings. -/
structure Component where
  kind : ComponentKind
  props : Fields

/- A part as a document; it has no parts of its own. -/
def Component.toValue
    (c : Component) : Value :=
  .object
    [ ("type", .text c.kind.name)
    , ("props", .object c.props)
    , ("children", .null) ]

end TraceMining

------------------------------------------------------------
-- Drafts
------------------------------------------------------------

namespace TraceMining

/- What is known of a screen while patterns are read. -/
structure ScreenDraft where
  name : String
  path : String
  kind : ScreenKind
  actions : List String
  entity : Option String
  components : List ComponentKind
  fields : List String
  sortable : Bool
  filterable : Bool

namespace ScreenDraft

/- A screen that a pattern opens under a base path. -/
def opened
    (base : String)
    (type : String)
    (path : String) : ScreenDraft :=
  { name := Naming.pathLabel base
    path := base
    kind := ScreenKind.infer type path
    actions := []
    entity := none
    components := []
    fields := []
    sortable := false
    filterable := false }

/- The first entity with a name or a label. -/
def findEntity?
    (entities : List Entity)
    (name : String) : Option Entity :=
  entities.find? fun e =>
    e.name == name || e.displayName == name

/- The name of the entity that a pattern names. -/
def linked?
    (entities : List Entity)
    (p : Pattern) : Option String :=
  ((p.name? "entityName").bind (findEntity? entities)).map
    Entity.name

/- Add what a pattern shows. -/
def absorb
    (entities : List Entity)
    (p : Pattern)
    (s : ScreenDraft) : ScreenDraft :=
  { s with
    actions := Distinct.add s.actions p.type
    entity := (linked? entities p).or s.entity
    fields := p.fieldNames.foldl Distinct.add s.fields
    sortable := s.sortable || Text.mentions p.type "sort"
    filterable := s.filterable || Text.mentions p.type "filter"
    components :=
      (ComponentKind.ofType p.type).foldl Distinct.add
        s.components }

/- The settings of a part. -/
def props
    (s : ScreenDraft)
    (kind : ComponentKind) : Fields :=
  match kind with
  | .dataTable =>
      [ ("sortable", .bool s.sortable)
      , ("filterable", .bool s.filterable) ]
  | .form => [("fields", .ofTexts s.fields)]
  | _ => []

end ScreenDraft

end TraceMining

------------------------------------------------------------
-- Screens
------------------------------------------------------------

namespace TraceMining

/- A screen of the application. -/
structure Screen where
  name : String
  path : String
  kind : ScreenKind
  components : List Component
  actions : List String
  entity : Option String

/- The screen that a draft describes. -/
def ScreenDraft.finish
    (s : ScreenDraft) : Screen :=
  { name := s.name
    path := s.path
    kind := s.kind
    components := s.components.map fun k => ⟨k, s.props k⟩
    actions := s.actions
    entity := s.entity }

namespace Screen

/- Add a pattern to the group of its base path. -/
def fold
    (entities : List Entity)
    (groups : Table ScreenDraft)
    (p : Pattern) : Table ScreenDraft :=
  match p.name? "path" with
  | none => groups
  | some path =>
      let base := Naming.basePath path
      groups.adjust base (.opened base p.type path)
        (ScreenDraft.absorb entities p)

/- The screens of a list of patterns. -/
def derive
    (entities : List Entity)
    (ps : List Pattern) : List Screen :=
  (ps.foldl (fold entities) Table.empty).values.map
    ScreenDraft.finish

/- A screen as a document. -/
def toValue
    (s : Screen) : Value :=
  .object
    [ ("name", .text s.name)
    , ("path", .text s.path)
    , ("type", .text s.kind.name)
    , ("components", .list (s.components.map Component.toValue))
    , ("actions", .ofTexts s.actions)
    , ("entity", .ofText? s.entity) ]

end Screen

end TraceMining
