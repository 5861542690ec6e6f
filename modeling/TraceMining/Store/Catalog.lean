import TraceMining.Definition.BuiltIn
import TraceMining.Definition.Check
import TraceMining.Table

/-
  This file defines the catalog of definitions, in the order
  in which their identities first came.  What is loaded from
  it are the active definitions that pass the check.

  Key definitions include:
    * `Catalog`
    * `Catalog.ofList`
    * `Catalog.upsert`
    * `Catalog.delete`
    * `Catalog.loadable`
-/

------------------------------------------------------------
-- Catalog
------------------------------------------------------------

namespace TraceMining

/- Definitions under their identities. -/
abbrev Catalog :=
  Table Definition

namespace Catalog

/- The catalog of a list; the last of an identity counts. -/
def ofList
    (ds : List Definition) : Catalog :=
  Table.putAll Definition.id Table.empty ds

/- Store a definition, in place of the one it replaces. -/
def upsert
    (c : Catalog)
    (d : Definition) : Catalog :=
  c.put d.id d

/- Take a definition away; tell whether there was one. -/
def delete
    (c : Catalog)
    (id : String) : Bool × Catalog :=
  (c.has id, c.erase id)

/- The active definitions. -/
def active
    (c : Catalog) : List Definition :=
  c.values.filter Definition.isActive

/- The active definitions that can be matched. -/
def loadable
    (c : Catalog) : List Definition :=
  (active c).filter Definition.isValid

end Catalog

end TraceMining
