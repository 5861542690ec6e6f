import TraceMining.Naming.Casing
import TraceMining.Text.Digit
import TraceMining.Text.Search

/-
  This file defines what paths say: the resource that they
  name, the place that they belong to, and labels and icons
  for menus.

  Key definitions include:
    * `Naming.segments`
    * `Naming.basePath`
    * `Naming.firstSegment`
    * `Naming.resource?`
    * `Naming.endsInNumber`
    * `Naming.icon`
-/

------------------------------------------------------------
-- Segments
------------------------------------------------------------

namespace TraceMining

namespace Naming

/- The segments of a path that are not empty. -/
def segments
    (path : String) : List String :=
  ((Text.pieces '/' path.toList).filter
    fun p => !p.isEmpty).map String.ofList

/- The label of a path: the labels of its segments. -/
def pathLabel
    (path : String) : String :=
  " - ".intercalate ((segments path).map display)

/-
  A path without its last segment.  A path that ends in a
  slash, or of which nothing would stay, is left as it is.
-/
def basePath
    (path : String) : String :=
  let ps := Text.pieces '/' path.toList
  let base := ['/'].intercalate ps.dropLast
  if base.isEmpty || ps.getLast? == some [] then path
  else String.ofList base

/- The segment behind the first slash, or the whole path. -/
def firstSegment
    (path : String) : String :=
  match (Text.pieces '/' path.toList)[1]? with
  | some (c :: cs) => String.ofList (c :: cs)
  | _ => path

end Naming

end TraceMining

------------------------------------------------------------
-- Resources
------------------------------------------------------------

namespace TraceMining

namespace Naming

/- A word without the ending of its plural. -/
def singular
    (s : String) : String :=
  let cs := s.toList
  let cut (n : Nat) : List Char := cs.take (cs.length - n)
  if Text.endsIn s "ies" then String.ofList (cut 3 ++ ['y'])
  else if Text.endsIn s "es" then String.ofList (cut 2)
  else if Text.endsIn s "s" then String.ofList (cut 1)
  else s

/- Segments that name an act and not a resource. -/
def acts : List String :=
  ["new", "edit", "create"]

/- The segment is a number, but for a line feed behind. -/
def isNumber
    (segment : String) : Bool :=
  Text.isNumeric (Text.dropLineEnd segment.toList)

/- The last segment that names a resource, in singular. -/
def resource?
    (path : String) : Option String :=
  let named := (segments path).reverse.find? fun s =>
    !(acts.contains (Text.lower s) || isNumber s)
  named.map singular

/- The last segment of a path is a number. -/
def endsInNumber
    (path : String) : Bool :=
  let ps := Text.pieces '/' (Text.dropLineEnd path.toList)
  decide (2 ≤ ps.length) &&
    Text.isNumeric (ps.getLast?.getD [])

end Naming

end TraceMining

------------------------------------------------------------
-- Icons
------------------------------------------------------------

namespace TraceMining

namespace Naming

/- The icons of well-known menu entries. -/
def icons : List (String × String) :=
  [ ("dashboard", "LayoutDashboard")
  , ("home", "Home")
  , ("menu", "Menu")
  , ("order", "ShoppingCart")
  , ("orders", "ShoppingCart")
  , ("staff", "Users")
  , ("table", "Grid")
  , ("tables", "Grid")
  , ("reservation", "Calendar")
  , ("reservations", "Calendar")
  , ("inventory", "Package")
  , ("settings", "Settings")
  , ("report", "BarChart")
  , ("reports", "BarChart")
  , ("customer", "User")
  , ("customers", "Users") ]

/- The icon of a menu entry; a circle if none is known. -/
def icon
    (segment : String) : String :=
  (icons.lookup (Text.lower segment)).getD "Circle"

end Naming

end TraceMining
