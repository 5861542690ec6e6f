import TraceMining.Matching.Recognition
import TraceMining.Store.Archive
import TraceMining.Store.Catalog
import TraceMining.Store.EventLog
import TraceMining.Store.Shelf

/-
  This file defines workspaces: the stores, the definitions
  that were loaded from the catalog, and the conditions under
  which the stores refuse to write.  Definitions take part in
  analyses as they were when they were last loaded.

  Key definitions include:
    * `Workspace`
    * `Workspace.ofCatalog`
    * `Workspace.reload`
-/

------------------------------------------------------------
-- Workspaces
------------------------------------------------------------

namespace TraceMining

/- The state of an application that mines patterns. -/
structure Workspace where
  log : EventLog
  catalog : Catalog
  archive : Archive
  shelf : Shelf
  loaded : List Definition
  assembled : Nat
  now : Int
  version : String
  archiveFault : Archive.WriteFault
  shelfFault : Bool

namespace Workspace

/- Load the catalog's active and valid definitions. -/
def reload
    (w : Workspace) : Workspace :=
  { w with loaded := w.catalog.loadable }

/- A workspace with a catalog, which it loads. -/
def ofCatalog
    (catalog : Catalog)
    (now : Int)
    (version : String) : Workspace :=
  reload
    { log := EventLog.empty
      catalog := catalog
      archive := Table.empty
      shelf := Shelf.empty
      loaded := []
      assembled := 0
      now := now
      version := version
      archiveFault := Archive.WriteFault.none
      shelfFault := false }

/- The catalog of the built-in definitions, or none. -/
def seeded
    (builtIn : Bool) : Catalog :=
  Catalog.ofList (if builtIn then Definition.builtIn else [])

end Workspace

end TraceMining

------------------------------------------------------------
-- Storing
------------------------------------------------------------

namespace TraceMining

namespace Workspace

/- Start a session. -/
def startSession
    (w : Workspace)
    (userId : Option String)
    (id : Option String) : Session × Workspace :=
  let (s, log) := w.log.startSession w.now userId id
  (s, { w with log := log })

/- Append an event. -/
def append
    (w : Workspace)
    (e : Event) : Except Failure Unit × Workspace :=
  let (r, log) := w.log.append w.now e
  (r, { w with log := log })

/- Append events up to the first failure. -/
def appendAll
    (w : Workspace) :
    List Event → Except Failure Unit × Workspace
  | [] => (.ok (), w)
  | e :: es =>
      match w.append e with
      | (.ok _, w) => appendAll w es
      | (.error f, w) => (.error f, w)

/- Store a definition. -/
def upsert
    (w : Workspace)
    (d : Definition) : Workspace :=
  { w with catalog := w.catalog.upsert d }

/- Take a definition away; tell whether there was one. -/
def delete
    (w : Workspace)
    (id : String) : Bool × Workspace :=
  let (found, catalog) := w.catalog.delete id
  (found, { w with catalog := catalog })

/- Save patterns, unless the archive refuses them. -/
def savePatterns
    (w : Workspace)
    (ps : List Pattern) : Except Failure Unit × Workspace :=
  let (r, archive) := w.archive.saveAll w.archiveFault ps
  (r, { w with archive := archive })

end Workspace

end TraceMining
