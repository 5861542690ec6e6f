import TraceMining.Model.Screen

/-
  This file defines the menu of an application.  Screens are
  grouped by the first segment of their path; a screen alone
  in its group is an entry, several are the children of one.

  Key definitions include:
    * `Navigation.Item`
    * `Navigation.Placement`
    * `Navigation.groups`
    * `Navigation.derive`
-/

------------------------------------------------------------
-- Menus
------------------------------------------------------------

namespace TraceMining

namespace Navigation

/- Where a menu leads: a label and a path. -/
structure Link where
  label : String
  path : String
  deriving DecidableEq, Repr

/- An entry of a menu, with the links below it if any. -/
structure Item where
  link : Link
  icon : String
  children : Option (List Link)
  deriving DecidableEq, Repr

/- A menu stands at the side, or at the top in tabs. -/
inductive Placement where
  | sidebar
  | tabs
  deriving DecidableEq, Repr

end Navigation

/- The menu of an application. -/
structure Navigation where
  placement : Navigation.Placement
  items : List Navigation.Item

end TraceMining

------------------------------------------------------------
-- Derivation
------------------------------------------------------------

namespace TraceMining

namespace Navigation

/- The link to a screen. -/
def Link.ofScreen
    (s : Screen) : Link :=
  { label := s.name
    path := s.path }

/- Links by the first segment of their path. -/
def groups
    (links : List Link) : Table (List Link) :=
  links.foldl
    (fun t l =>
      t.adjust (Naming.firstSegment l.path) []
        fun ls => ls ++ [l])
    Table.empty

/- The entry of a group. -/
def Item.ofGroup
    (group : String × List Link) : Item :=
  let (segment, links) := group
  let label := Naming.display segment
  let icon := Naming.icon segment
  match links with
  | [l] => ⟨⟨label, l.path⟩, icon, none⟩
  | ls => ⟨⟨label, "/" ++ segment⟩, icon, some ls⟩

/- The most entries that fit into tabs. -/
def mostTabs : Nat := 5

/- The menu that leads to some places. -/
def ofLinks
    (links : List Link) : Navigation :=
  let items := (groups links).entries.map Item.ofGroup
  { placement :=
      if mostTabs < items.length then .sidebar else .tabs
    items := items }

/- The menu that leads to some screens. -/
def derive
    (screens : List Screen) : Navigation :=
  ofLinks (screens.map Link.ofScreen)

end Navigation

end TraceMining

------------------------------------------------------------
-- Documents
------------------------------------------------------------

namespace TraceMining

namespace Navigation

/- The fields of an entry. -/
def Link.fields
    (l : Link)
    (icon : Value)
    (children : Value) : Value :=
  .object
    [ ("label", .text l.label)
    , ("path", .text l.path)
    , ("icon", icon)
    , ("children", children) ]

/- A link below an entry as a document. -/
def Link.toValue
    (l : Link) : Value :=
  l.fields .null .null

/- An entry as a document. -/
def Item.toValue
    (i : Item) : Value :=
  i.link.fields (.text i.icon)
    (match i.children with
      | none => .null
      | some ls => .list (ls.map Link.toValue))

/- The name of a placement. -/
def Placement.name :
    Placement → String
  | .sidebar => "sidebar"
  | .tabs => "tabs"

/- A menu as a document. -/
def toValue
    (n : Navigation) : Value :=
  .object
    [ ("type", .text n.placement.name)
    , ("items", .list (n.items.map Item.toValue)) ]

end Navigation

end TraceMining
