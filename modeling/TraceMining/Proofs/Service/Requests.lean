import TraceMining.Proofs.Service.Definitions
import TraceMining.Proofs.Store.Calls
import TraceMining.Proofs.Workspace.Writing

/-
  This file shows what requests leave behind.  Events come
  into the log by requests to log them, and patterns into the
  archive by analyses; whatever else is asked for, the log and
  the archive are at any time just what was logged and stored
  until then.  All sessions were counted as they were started.

  Key definitions include:
    * `Service.State.ofCatalog`
    * `Service.State.logged`
    * `Service.State.analyzed`
    * `Service.State.found`
    * `Service.State.stored`
    * `Service.State.along`
    * `Service.State.Holds`

  Key theorems include:
    * `Service.State.along_append`
    * `Service.State.Holds.perform`
    * `Service.State.Holds.handle`
    * `Service.State.Holds.after`
    * `Service.State.holds_after`
-/

------------------------------------------------------------
-- What Requests Bring
------------------------------------------------------------

namespace TraceMining

namespace Service

/- The event that is to be logged under an identity. -/
def LogEvent.toEvent
    (body : LogEvent)
    (id : String) : Event :=
  { id := id
    sessionId := body.sessionId
    type := body.type
    timestamp := body.timestamp
    data := body.data }

namespace State

/- The service over a catalog, before the first request. -/
def ofCatalog
    (catalog : Catalog)
    (now : Int)
    (version : String) : State :=
  ofWorkspace (.ofCatalog catalog now version)

/- The event that a request logs, unless it is refused. -/
def logged
    (s : State)
    (r : Request) : List Event :=
  match resolve r.method r.path, r.body LogEvent.ofFields with
  | .found .logEvent _, .ok body =>
      if s.workspace.log.sessions.has body.sessionId then
        [body.toEvent (identify s body.id).1]
      else []
  | _, _ => []

/- The sessions that a request analyzes. -/
def analyzed
    (s : State)
    (r : Request) : List String :=
  match resolve r.method r.path with
  | .found .analyze captures => [captures.headD ""]
  | .found .analyzeUnprocessed _ => s.workspace.unprocessed
  | _ => []

/- The matches in the sessions that a request analyzes. -/
def found
    (s : State)
    (r : Request) : List (String × Definition × List Event) :=
  (s.analyzed r).flatMap fun id =>
    (Workspace.matched s.workspace.loaded
      (s.workspace.log.listEvents id)).map (Prod.mk id)

/- The patterns of these sessions that are stored. -/
def stored
    (s : State)
    (r : Request) : List Pattern :=
  (s.analyzed r).flatMap s.workspace.written

/- What requests bring, one after the other. -/
def along
    {α : Type}
    (brought : State → Request → List α)
    (s : State) :
    List (Int × Request) → List α
  | [] => []
  | r :: rs =>
      brought (s.at r.1) r.2 ++
        along brought (handle (s.at r.1) r.2).2 rs

variable {α : Type}

/- What one part of some requests brings comes before the rest. -/
theorem along_append
    (brought : State → Request → List α)
    (s : State)
    (rs more : List (Int × Request)) :
    s.along brought (rs ++ more) =
      s.along brought rs ++
        (s.after rs).along brought more := by
  induction rs generalizing s with
  | nil => rfl
  | cons r rs ih =>
      rw [List.cons_append, along, along, ih,
        List.append_assoc]
      rfl

/- What one of the requests brings is among it. -/
theorem mem_along
    {brought : State → Request → List α}
    {s : State}
    {rs first rest : List (Int × Request)}
    {r : Int × Request}
    (hAll : rs = first ++ r :: rest)
    {a : α}
    (hBrought : a ∈ brought ((s.after first).at r.1) r.2) :
    a ∈ s.along brought rs := by
  rw [hAll, along_append, along]
  exact List.mem_append_right _
    (List.mem_append_left _ hBrought)

/- What all requests bring is brought by one of them. -/
theorem exists_of_mem_along
    {brought : State → Request → List α}
    {s : State}
    {rs : List (Int × Request)}
    {a : α}
    (hMember : a ∈ s.along brought rs) :
    ∃ first r rest,
      rs = first ++ r :: rest ∧
        a ∈ brought ((s.after first).at r.1) r.2 := by
  induction rs generalizing s with
  | nil => exact absurd hMember List.not_mem_nil
  | cons r rs ih =>
      rcases List.mem_append.mp hMember with hHere | hLater
      · exact ⟨[], r, rs, rfl, hHere⟩
      · rcases ih hLater with
          ⟨first, next, rest, hParts, hBrought⟩
        exact ⟨r :: first, next, rest,
          congrArg (List.cons r) hParts, hBrought⟩

end State

end Service

end TraceMining

------------------------------------------------------------
-- One Request
------------------------------------------------------------

namespace TraceMining

namespace Service

/- The endpoint is there to mine patterns from events. -/
def Endpoint.isMining :
    Endpoint → Bool
  | .startSession => true
  | .logEvent => true
  | .analyze => true
  | .analyzeUnprocessed => true
  | _ => false

namespace State

/-
  The log and the archive have what was logged and stored, and
  every session was counted.
-/
structure Holds
    (s : State)
    (es : List Event)
    (ps : List Pattern) : Prop where
  valid : s.workspace.AllValid
  records : s.workspace.log.Records es
  archive_eq :
    s.workspace.archive = Archive.write Table.empty ps
  counted :
    ∀ id,
      s.workspace.log.sessions.has id = true →
        ∃ k, id = Identity.session k

namespace Holds

variable {s next : State}
variable {es : List Event}
variable {ps : List Pattern}

/- It does at the start. -/
theorem ofCatalog
    (catalog : Catalog)
    (now : Int)
    (version : String) :
    (State.ofCatalog catalog now version).Holds [] [] where
  valid := Workspace.allValid_reload _
  records := EventLog.Records.empty
  archive_eq := rfl
  counted := by
    intro id hOpen
    cases hOpen

/- It still does if the log and the archive are the same. -/
theorem of_same
    (hHolds : s.Holds es ps)
    (hValid : next.workspace.AllValid)
    (hLog : next.workspace.log = s.workspace.log)
    (hArchive :
      next.workspace.archive = s.workspace.archive) :
    next.Holds es ps where
  valid := hValid
  records := hLog ▸ hHolds.records
  archive_eq := hArchive.trans hHolds.archive_eq
  counted := hLog ▸ hHolds.counted

/- It does at another time. -/
theorem timed
    (hHolds : s.Holds es ps)
    (now : Int) :
    (s.at now).Holds es ps :=
  hHolds.of_same hHolds.valid rfl rfl

/- Starting a session logs and stores nothing. -/
theorem startSession
    (hHolds : s.Holds es ps)
    (r : Request) :
    (Service.startSession s r).2.Holds es ps := by
  rcases startSession_snd s r with hSame | ⟨userId, hNext⟩
  · rw [hSame]
    exact hHolds
  · rw [hNext]
    exact
      { valid := hHolds.valid
        records :=
          hHolds.records.startSession s.workspace.now
            userId none
        archive_eq := hHolds.archive_eq
        counted := by
          intro id hOpen
          have hEither :
              (s.workspace.log.startSession s.workspace.now
                userId none).2.sessions.has id = true := hOpen
          rw [EventLog.has_startSession, Bool.or_eq_true,
            beq_iff_eq] at hEither
          rcases hEither with hOld | hNew
          · exact hHolds.counted id hOld
          · exact ⟨_, hNew⟩ }

/- An event of an open session is logged. -/
theorem append
    (hHolds : s.Holds es ps)
    {e : Event}
    (hOpen :
      s.workspace.log.sessions.has e.sessionId = true) :
    (s.over (s.workspace.append e).2).Holds
      (es ++ [e]) ps where
  valid := hHolds.valid
  records := by
    have hRecorded :=
      hHolds.records.perform (.append s.workspace.now e)
    rw [EventLog.recording, EventLog.append_of_has
      hHolds.records.paired s.workspace.now hOpen] at hRecorded
    exact hRecorded
  archive_eq := hHolds.archive_eq
  counted := by
    intro id hHas
    have hEither :
        (s.workspace.log.append s.workspace.now
          e).2.sessions.has id = true := hHas
    rw [EventLog.append, EventLog.has_record,
      EventLog.has_startSession, Bool.or_eq_true,
      beq_iff_eq] at hEither
    rcases hEither with hOld | rfl
    · exact hHolds.counted id hOld
    · rcases EventLog.identify_fst s.workspace.log
          (some e.sessionId) with hCounted | hGiven
      · exact ⟨_, hCounted⟩
      · rw [← Option.some.inj hGiven]
        exact hHolds.counted e.sessionId hOpen

/- So is the event of a request, unless it is refused. -/
theorem logEvent
    (hHolds : s.Holds es ps)
    {r : Request}
    {captures : List String}
    (hRoute :
      resolve r.method r.path = .found .logEvent captures) :
    (Service.logEvent s r).2.Holds (es ++ s.logged r) ps := by
  cases hBody : r.body LogEvent.ofFields with
  | error refusal =>
      simp only [Service.logEvent, checked, hBody, logged,
        hRoute, List.append_nil]
      exact hHolds
  | ok body =>
      simp only [Service.logEvent, checked, hBody, logged,
        hRoute]
      split
      · rename_i hOpen
        have hSame := identify_workspace s body.id
        have hIdentified :
            (identify s body.id).2.Holds es ps := by
          apply hHolds.of_same
          · rw [hSame]
            exact hHolds.valid
          · rw [hSame]
          · rw [hSame]
        have hAppended := hIdentified.append
          (e := body.toEvent (identify s body.id).1)
          (hSame ▸ hOpen)
        split
        · exact hAppended
        · exact hAppended
      · rw [List.append_nil]
        exact hHolds

/- The patterns of the sessions that are analyzed are stored. -/
theorem analyzeEach
    (hHolds : s.Holds es ps)
    (ids : List String) :
    (s.over (s.workspace.analyzeEach ids).2).Holds es
      (ps ++ ids.flatMap s.workspace.written) := by
  rw [Workspace.analyzeEach_snd,
    Workspace.run_analyze hHolds.valid]
  exact
    { valid := hHolds.valid
      records := hHolds.records
      archive_eq := by
        rw [Archive.write_append, ← hHolds.archive_eq]
        rfl
      counted := hHolds.counted }

/- An analysis of one session is one of a list of one. -/
theorem analyze
    (hHolds : s.Holds es ps)
    (id : String) :
    (Service.analyze s id).2.Holds es
      (ps ++ s.workspace.written id) := by
  have hOne := hHolds.analyzeEach [id]
  rw [List.flatMap_singleton, Workspace.analyzeEach_snd]
    at hOne
  rw [analyze_snd]
  exact hOne

/- To store a definition is no matter of log or archive. -/
theorem store
    (hHolds : s.Holds es ps)
    (status : Nat)
    (d : Definition) :
    (Service.store s status d).2.Holds es ps := by
  unfold Service.store
  split
  · exact hHolds
  · exact hHolds.of_same hHolds.valid rfl rfl

/- Neither is anything else that mines no patterns. -/
theorem perform_of_not_mining
    (hHolds : s.Holds es ps)
    (r : Request)
    (captures : List String)
    {endpoint : Endpoint}
    (hOther : endpoint.isMining = false) :
    (perform s r captures endpoint).2.Holds es ps := by
  cases endpoint with
  | createDefinition =>
      rcases createDefinition_snd s r with
        hSame | ⟨d, hStored⟩
      · rw [perform, hSame]
        exact hHolds
      · rw [perform, hStored]
        exact hHolds.store 201 d
  | updateDefinition =>
      rcases updateDefinition_snd s r (captures.headD "") with
        hSame | ⟨d, hStored⟩
      · rw [perform, hSame]
        exact hHolds
      · rw [perform, hStored]
        exact hHolds.store 200 d
  | deleteDefinition =>
      rcases deleteDefinition_snd s (captures.headD "") with
        hSame | hDeleted
      · rw [perform, hSame]
        exact hHolds
      · rw [perform, hDeleted]
        exact hHolds.of_same hHolds.valid rfl rfl
  | reloadDefinitions =>
      exact hHolds.of_same
        (Workspace.allValid_reload s.workspace) rfl rfl
  | synthesize =>
      rcases synthesize_snd s r (captures.headD "") with
        hSame | ⟨name, description, hNext⟩
      · rw [perform, hSame]
        exact hHolds
      · rcases Workspace.exists_synthesize_snd_eq s.workspace
            (captures.headD "") name description with
          ⟨assembled, shelf, hShelf⟩
        rw [perform, hNext, hShelf]
        exact hHolds.of_same hHolds.valid rfl rfl
  | startSession => cases hOther
  | logEvent => cases hOther
  | analyze => cases hOther
  | analyzeUnprocessed => cases hOther
  | _ =>
      rw [perform_snd_of_reading s r captures rfl]
      exact hHolds

/- An endpoint logs and stores what the request brings. -/
theorem perform
    (hHolds : s.Holds es ps)
    {r : Request}
    {captures : List String}
    {endpoint : Endpoint}
    (hRoute :
      resolve r.method r.path = .found endpoint captures) :
    (Service.perform s r captures endpoint).2.Holds
      (es ++ s.logged r) (ps ++ s.stored r) := by
  cases endpoint with
  | startSession =>
      simp only [logged, stored, analyzed, hRoute,
        List.flatMap_nil, List.append_nil]
      exact hHolds.startSession r
  | logEvent =>
      have hNone : s.stored r = [] := by
        simp only [stored, analyzed, hRoute, List.flatMap_nil]
      rw [hNone, List.append_nil]
      exact hHolds.logEvent hRoute
  | analyze =>
      simp only [logged, stored, analyzed, hRoute,
        List.flatMap_singleton, List.append_nil]
      exact hHolds.analyze (captures.headD "")
  | analyzeUnprocessed =>
      simp only [logged, stored, analyzed, hRoute,
        List.append_nil]
      exact hHolds.analyzeEach s.workspace.unprocessed
  | _ =>
      simp only [logged, stored, analyzed, hRoute,
        List.flatMap_nil, List.append_nil]
      exact hHolds.perform_of_not_mining r captures rfl

/- So does every request, be it refused or not. -/
theorem handle
    (hHolds : s.Holds es ps)
    (r : Request) :
    (Service.handle s r).2.Holds
      (es ++ s.logged r) (ps ++ s.stored r) := by
  unfold Service.handle
  split
  · rename_i endpoint captures hRoute
    exact hHolds.perform hRoute
  all_goals
    rename_i hRoute
    simp only [logged, stored, analyzed, hRoute,
      List.flatMap_nil, List.append_nil]
    exact hHolds

/- So do requests in a row. -/
theorem after
    (hHolds : s.Holds es ps)
    (rs : List (Int × Request)) :
    (s.after rs).Holds
      (es ++ s.along logged rs) (ps ++ s.along stored rs) := by
  induction rs generalizing s es ps with
  | nil =>
      rw [along, along, List.append_nil, List.append_nil]
      exact hHolds
  | cons r rs ih =>
      rw [along, along, ← List.append_assoc,
        ← List.append_assoc]
      exact ih ((hHolds.timed r.1).handle r.2)

end Holds

/- From the start on, all that there is was brought. -/
theorem holds_after
    (catalog : Catalog)
    (now : Int)
    (version : String)
    (rs : List (Int × Request)) :
    let start := ofCatalog catalog now version
    (start.after rs).Holds
      (start.along logged rs) (start.along stored rs) :=
  (Holds.ofCatalog catalog now version).after rs

end State

end Service

end TraceMining
