import TraceMining.Workspace.Basic

/-
  This file defines the synthesis of a session's model from
  its saved patterns.  A model covers the patterns of its
  session only, whatever the archive lists, and is saved once,
  with their identities.

  Key definitions include:
    * `Workspace.ownPatterns`
    * `Workspace.build`
    * `Workspace.synthesizeFrom`
    * `Workspace.synthesize`
-/

------------------------------------------------------------
-- Building
------------------------------------------------------------

namespace TraceMining

namespace Workspace

/- The session's own patterns by start. -/
def ownPatterns
    (sessionId : String)
    (listed : List Pattern) : List Pattern :=
  (Archive.byStart listed).filter fun p =>
    p.sessionId == sessionId

/- Assemble a model without saving it. -/
def build
    (w : Workspace)
    (sessionId : String)
    (ps : List Pattern)
    (name : Option String)
    (description : Option String) :
    Except Failure Application × Workspace :=
  let serial := w.assembled + 1
  match
    Application.assemble serial w.now
      ⟨w.version, name, description⟩ sessionId ps with
  | .ok a => (.ok a, { w with assembled := serial })
  | .error f => (.error f, w)

end Workspace

end TraceMining

------------------------------------------------------------
-- Synthesis
------------------------------------------------------------

namespace TraceMining

namespace Workspace

/- Save a model, unless the shelf refuses it. -/
def saveModel
    (w : Workspace)
    (a : Application)
    (ps : List Pattern) :
    Except Failure Application × Workspace :=
  if w.shelfFault then
    (.error
      (.persistence ("model " ++ a.id)
        Archive.diskFull.message), w)
  else
    (.ok a,
      { w with shelf := w.shelf.save a (ps.map Pattern.id) })

/- Synthesize from the patterns that a listing gives. -/
def synthesizeFrom
    (w : Workspace)
    (listed : List Pattern)
    (sessionId : String)
    (name : Option String)
    (description : Option String) :
    Except Failure Application × Workspace :=
  let ps := ownPatterns sessionId listed
  match w.build sessionId ps name description with
  | (.ok a, w) => w.saveModel a ps
  | (.error f, w) => (.error f, w)

/- Synthesize from the session's saved patterns. -/
def synthesize
    (w : Workspace)
    (sessionId : String)
    (name : Option String)
    (description : Option String) :
    Except Failure Application × Workspace :=
  w.synthesizeFrom (w.archive.bySession sessionId)
    sessionId name description

end Workspace

end TraceMining
