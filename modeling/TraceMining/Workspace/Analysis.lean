import TraceMining.Workspace.Basic

/-
  This file defines the analysis of sessions.  Every loaded
  definition is matched against the events of a session, and
  what is found is saved in one batch.  Sessions that have
  events but no patterns can be analyzed together; one that
  fails does not stop the others.

  Key definitions include:
    * `Workspace.recognize`
    * `Workspace.analyze`
    * `Workspace.unprocessed`
    * `Workspace.analyzeUnprocessed`
-/

------------------------------------------------------------
-- One Session
------------------------------------------------------------

namespace TraceMining

namespace Workspace

/- The patterns of definitions in a list of events. -/
def recognize
    (ds : List Definition)
    (es : List Event) : Except Failure (List Pattern) := do
  let found ← ds.mapM fun d => d.findMatches es
  return found.flatten

/- The failure that the refusal of a batch amounts to. -/
def refused
    (sessionId : String)
    (cause : Failure) : Failure :=
  .persistence ("patterns for session " ++ sessionId)
    cause.message

/- Analyze a session and save what is found. -/
def analyze
    (w : Workspace)
    (sessionId : String) :
    Except Failure (List Pattern) × Workspace :=
  let es := w.log.listEvents sessionId
  if es.isEmpty then (.ok [], w)
  else
    match recognize w.loaded es with
    | .error f => (.error f, w)
    | .ok ps =>
        if ps.isEmpty then (.ok [], w)
        else
          match w.savePatterns ps with
          | (.ok _, w) => (.ok ps, w)
          | (.error f, w) => (.error (refused sessionId f), w)

end Workspace

end TraceMining

------------------------------------------------------------
-- Many Sessions
------------------------------------------------------------

namespace TraceMining

namespace Workspace

/- Sessions that have events but no patterns. -/
def unprocessed
    (w : Workspace) : List String :=
  let done := w.archive.sessionIds
  (w.log.listSessions.filter fun s =>
    decide (0 < s.eventCount) && !done.contains s.id).map
    Session.id

/- Analyze sessions in turn; keep how many patterns each has. -/
def analyzeEach
    (w : Workspace) :
    List String → List (String × Nat) × Workspace
  | [] => ([], w)
  | id :: ids =>
      match w.analyze id with
      | (.ok ps, w) =>
          let (counts, w) := analyzeEach w ids
          ((id, ps.length) :: counts, w)
      | (.error _, w) => analyzeEach w ids

/- Analyze every session that is not processed. -/
def analyzeUnprocessed
    (w : Workspace) : List (String × Nat) × Workspace :=
  w.analyzeEach w.unprocessed

end Workspace

end TraceMining
