import TraceMining.Service.Body
import TraceMining.Service.Route
import TraceMining.Workspace.Analysis
import TraceMining.Workspace.Synthesis

/-
  This file defines how the service answers requests.  Each
  handler is a function from the state to a response and the
  next state; what the schema refuses changes nothing.  A
  failure that no handler expects stands in the place of the
  response.

  Key definitions include:
    * `Service.State`
    * `Service.Answer`
    * `Service.perform`
    * `Service.handle`
-/

------------------------------------------------------------
-- State
------------------------------------------------------------

namespace TraceMining

namespace Service

/- A workspace, and how many event ids were made up. -/
structure State where
  workspace : Workspace
  generated : Nat

/- A response, or what went wrong, and the state after it. -/
abbrev Answer :=
  Except Failure Response × State

/- The service over a workspace. -/
def State.ofWorkspace
    (w : Workspace) : State :=
  { workspace := w
    generated := 0 }

/- The same service over another workspace. -/
def State.over
    (s : State)
    (w : Workspace) : State :=
  { s with workspace := w }

/- A response that closes a request. -/
def State.reply
    (s : State)
    (r : Response) : Answer :=
  (.ok r, s)

/- A document that closes a request, if it can be written. -/
def State.write
    (s : State)
    (status : Nat)
    (r : Rendition) : Answer :=
  (Response.written status r, s)

/- Go on with what a request says, or refuse it. -/
def checked
    {α : Type}
    (s : State)
    (c : Except Refusal α)
    (f : α → Answer) : Answer :=
  match c with
  | .ok a => f a
  | .error refusal => (refusal.answer, s)

end Service

end TraceMining

------------------------------------------------------------
-- Sessions
------------------------------------------------------------

namespace TraceMining

namespace Service

/- Start a session. -/
def startSession
    (s : State)
    (r : Request) : Answer :=
  checked s (r.optionalBody StartSession.ofFields) fun body =>
    let user := body.bind StartSession.userId
    let (session, w) := s.workspace.startSession user none
    (s.over w).reply
      (.ok (.object [("session_id", .text session.id)]))

/- The identity of an event; one that is empty is made up. -/
def identify
    (s : State)
    (given : Option String) : String × State :=
  match given with
  | some id =>
      if id.isEmpty then
        (Identity.event (s.generated + 1),
          { s with generated := s.generated + 1 })
      else (id, s)
  | none =>
      (Identity.event (s.generated + 1),
        { s with generated := s.generated + 1 })

/- Log an event of a session that was started. -/
def logEvent
    (s : State)
    (r : Request) : Answer :=
  checked s (r.body LogEvent.ofFields) fun body =>
    if s.workspace.log.sessions.has body.sessionId then
      let (id, s) := identify s body.id
      let (outcome, w) := s.workspace.append
        { id := id
          sessionId := body.sessionId
          type := body.type
          timestamp := body.timestamp
          data := body.data }
      match outcome with
      | .ok _ =>
          (s.over w).reply
            (.ok (.object [("event_id", .text id)]))
      | .error f => (.error f, s.over w)
    else s.reply (.detail 404 "Session not found")

/- Show a session. -/
def getSession
    (s : State)
    (id : String) : Answer :=
  match s.workspace.log.sessions.get? id with
  | some session => s.reply (.ok session.toValue)
  | none => s.reply (.detail 404 "Session not found")

end Service

end TraceMining

------------------------------------------------------------
-- Analysis
------------------------------------------------------------

namespace TraceMining

namespace Service

/- Analyze a session; only a refused batch has a response. -/
def analyze
    (s : State)
    (id : String) : Answer :=
  match s.workspace.analyze id with
  | (.ok ps, w) =>
      (s.over w).write 200
        (.ofEntries
          [ ("session_id", .closed (.text id))
          , ("patterns_found", .closed (.int ps.length))
          , ("patterns", .ofList (ps.map Pattern.rendition)) ])
  | (.error (.persistence what cause), w) =>
      (s.over w).reply
        (.detail 500 (Failure.persistence what cause).message)
  | (.error f, w) => (.error f, s.over w)

/- Analyze the sessions that are not processed. -/
def analyzeUnprocessed
    (s : State) : Answer :=
  let (counts, w) := s.workspace.analyzeUnprocessed
  (s.over w).reply
    (.ok
      (.object
        [ ("sessions_analyzed", .int counts.length)
        , ("results",
            .object (counts.map fun c => (c.1, .int c.2))) ]))

end Service

end TraceMining

------------------------------------------------------------
-- Definitions
------------------------------------------------------------

namespace TraceMining

namespace Service

/- List the catalog. -/
def listDefinitions
    (s : State) : Answer :=
  s.write 200
    (.ofList (s.workspace.catalog.values.map
      Definition.rendition))

/- Store a definition if it passes the check. -/
def store
    (s : State)
    (status : Nat)
    (d : Definition) : Answer :=
  match d.check with
  | .error f => s.reply (.detail 422 f.message)
  | .ok _ =>
      (s.over (s.workspace.upsert d)).write status d.rendition

/- Create a definition, or replace the one of its identity. -/
def createDefinition
    (s : State)
    (r : Request) : Answer :=
  checked s
    (r.body (Schema.definitionFields .modelAttributesType))
    (store s 201)

/- Change a definition. -/
def updateDefinition
    (s : State)
    (r : Request)
    (id : String) : Answer :=
  checked s (r.body Update.ofFields) fun update =>
    match s.workspace.catalog.get? id with
    | none =>
        s.reply (.detail 404 "Pattern definition not found")
    | some d => store s 200 (update.apply d)

/- Delete a definition. -/
def deleteDefinition
    (s : State)
    (id : String) : Answer :=
  match s.workspace.delete id with
  | (true, w) => (s.over w).reply ⟨204, .null⟩
  | (false, _) =>
      s.reply (.detail 404 "Pattern definition not found")

/- Load the catalog anew. -/
def reloadDefinitions
    (s : State) : Answer :=
  let w := s.workspace.reload
  (s.over w).reply
    (.ok
      (.object [("definitions_loaded", .int w.loaded.length)]))

end Service

end TraceMining

------------------------------------------------------------
-- Patterns
------------------------------------------------------------

namespace TraceMining

namespace Service

/- List the patterns that a query asks for. -/
def listPatterns
    (s : State)
    (r : Request) : Answer :=
  checked s r.archiveQuery fun q =>
    let ps := s.workspace.archive.query q
    s.write 200
      (.ofEntries
        [ ("patterns", .ofList (ps.map Pattern.rendition))
        , ("count", .closed (.int ps.length))
        , ("offset", .closed (.int q.offset))
        , ("limit", .closed (.int q.limit)) ])

/- Show the figures of the archive. -/
def summarizePatterns
    (s : State) : Answer :=
  s.reply (.ok s.workspace.archive.statistics.toValue)

/- Show a pattern together with its events. -/
def getPattern
    (s : State)
    (id : String) : Answer :=
  match s.workspace.archive.get? id with
  | none => s.reply (.detail 404 "Pattern not found")
  | some p =>
      let es := s.workspace.log.getEvents p.eventIds
      let events := Rendition.ofList (es.map Event.rendition)
      s.write 200
        { document :=
            .object
              (p.toFields ++ [("events", events.document)])
          parts := p.rendition.parts ++ events.parts }

end Service

end TraceMining

------------------------------------------------------------
-- Models
------------------------------------------------------------

namespace TraceMining

namespace Service

/-
  Synthesize the model of a session.  Only missing patterns
  and a refused model have a response.
-/
def synthesize
    (s : State)
    (r : Request)
    (id : String) : Answer :=
  checked s (r.optionalBody Labels.ofFields) fun labels =>
    let (outcome, w) := s.workspace.synthesize id
      (labels.bind Labels.name)
      (labels.bind Labels.description)
    match outcome with
    | .ok a => (s.over w).write 200 a.rendition
    | .error (.noPatterns id) =>
        (s.over w).reply
          (.detail 409 (Failure.noPatterns id).message)
    | .error (.persistence what cause) =>
        (s.over w).reply
          (.detail 500
            (Failure.persistence what cause).message)
    | .error f => (.error f, s.over w)

/- Show a model. -/
def getModel
    (s : State)
    (id : String) : Answer :=
  match s.workspace.shelf.models.get? id with
  | some a => s.write 200 a.rendition
  | none => s.reply (.detail 404 "Model not found")

end Service

end TraceMining

------------------------------------------------------------
-- Requests
------------------------------------------------------------

namespace TraceMining

namespace Service

/- Tell that the service is up. -/
def health
    (s : State) : Answer :=
  s.reply
    (.ok
      (.object
        [ ("status", .text "ok")
        , ("service", .text "pattern-mining") ]))

/- Answer a request whose endpoint is known. -/
def perform
    (s : State)
    (r : Request)
    (captures : List String) :
    Endpoint → Answer
  | .startSession => startSession s r
  | .logEvent => logEvent s r
  | .getSession => getSession s (captures.headD "")
  | .analyze => analyze s (captures.headD "")
  | .analyzeUnprocessed => analyzeUnprocessed s
  | .listDefinitions => listDefinitions s
  | .createDefinition => createDefinition s r
  | .updateDefinition =>
      updateDefinition s r (captures.headD "")
  | .deleteDefinition => deleteDefinition s (captures.headD "")
  | .reloadDefinitions => reloadDefinitions s
  | .listPatterns => listPatterns s r
  | .summarizePatterns => summarizePatterns s
  | .getPattern => getPattern s (captures.headD "")
  | .synthesize => synthesize s r (captures.headD "")
  | .getModel => getModel s (captures.headD "")
  | .health => health s

/- Answer a request. -/
def handle
    (s : State)
    (r : Request) : Answer :=
  match resolve r.method r.path with
  | .found endpoint captures => perform s r captures endpoint
  | .wrongMethod => s.reply (.detail 405 "Method Not Allowed")
  | .redirected => s.reply ⟨307, .null⟩
  | .unknown => s.reply (.detail 404 "Not Found")

/- Answer requests in turn. -/
def handleAll
    (s : State) :
    List Request → List (Except Failure Response) × State
  | [] => ([], s)
  | r :: rs =>
      let (response, s) := handle s r
      let (responses, s) := handleAll s rs
      (response :: responses, s)

end Service

end TraceMining
