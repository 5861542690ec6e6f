import TraceMining.Proofs.Store.Catalog
import TraceMining.Proofs.Workspace.Analysis
import TraceMining.Proofs.Workspace.Synthesis
import TraceMining.Service.Handler

/-
  This file shows that requests keep definitions in order:
  each is stored under its own identity and accepted, and so
  are those that are loaded.  Most requests leave definitions
  as they are; the others check what they store.  To load the
  catalog anew therefore passes over nothing that is active.

  Key definitions include:
    * `Workspace.IsSound`
    * `Workspace.SameDefinitions`
    * `Service.Endpoint.isEditing`
    * `Service.Endpoint.isReading`
    * `Service.State.after`

  Key theorems include:
    * `Service.perform_snd_of_reading`
    * `Service.perform_sameDefinitions`
    * `Service.isSound_perform`
    * `Service.isSound_handle`
    * `Service.isSound_after`
    * `Service.handle_reload`
    * `Service.definitions_accepted`
-/

------------------------------------------------------------
-- Sound Definitions
------------------------------------------------------------

namespace TraceMining

namespace Workspace

/-
  Definitions are stored under their identities, and what is
  stored or loaded is accepted.
-/
structure IsSound
    (w : Workspace) : Prop where
  named : w.catalog.IsNamed Definition.id
  stored : ∀ d ∈ w.catalog.values, d.check = .ok ()
  loaded : ∀ d ∈ w.loaded, d.check = .ok ()

variable {w : Workspace}

/- It stays so when an accepted definition is stored. -/
theorem IsSound.upsert
    (hSound : w.IsSound)
    {d : Definition}
    (hAccepted : d.check = .ok ()) :
    (w.upsert d).IsSound where
  named := hSound.named.put d
  stored := by
    intro e hStored
    rcases Table.mem_values_put hStored with rfl | hOld
    · exact hAccepted
    · exact hSound.stored e hOld
  loaded := hSound.loaded

/- It stays so when a definition is deleted. -/
theorem IsSound.delete
    (hSound : w.IsSound)
    (id : String) :
    (w.delete id).2.IsSound where
  named := hSound.named.erase id
  stored := by
    intro e hStored
    have hLeft :
        e ∈ (w.catalog.erase id).values := hStored
    rw [hSound.named.values_erase] at hLeft
    exact hSound.stored e (List.mem_of_mem_filter hLeft)
  loaded := hSound.loaded

/- It stays so when definitions are loaded. -/
theorem IsSound.reload
    (hSound : w.IsSound) :
    w.reload.IsSound where
  named := hSound.named
  stored := hSound.stored
  loaded := by
    intro d hLoaded
    have hActive := List.mem_of_mem_filter hLoaded
    exact hSound.stored d (List.mem_of_mem_filter hActive)

/- A start with the built-in ones, or with none, is sound. -/
theorem isSound_seeded
    (builtIn : Bool)
    (now : Int)
    (version : String) :
    (ofCatalog (seeded builtIn) now version).IsSound := by
  have hAccepted :
      ∀ d ∈ (seeded builtIn).values, d.check = .ok () := by
    simp only [Definition.check_eq_ok_iff]
    cases builtIn with
    | true => decide +kernel
    | false => decide
  apply IsSound.reload
  refine ⟨Catalog.isNamed_ofList _, hAccepted, ?_⟩
  intro d hLoaded
  exact absurd hLoaded List.not_mem_nil

end Workspace

end TraceMining

------------------------------------------------------------
-- Unchanged Definitions
------------------------------------------------------------

namespace TraceMining

namespace Workspace

/- Two workspaces have the same definitions. -/
structure SameDefinitions
    (w v : Workspace) : Prop where
  catalog : v.catalog = w.catalog
  loaded : v.loaded = w.loaded

variable {w v : Workspace}

/- If one of them is sound, so is the other. -/
theorem IsSound.of_same
    (hSound : w.IsSound)
    (hSame : w.SameDefinitions v) :
    v.IsSound where
  named := hSame.catalog ▸ hSound.named
  stored := hSame.catalog ▸ hSound.stored
  loaded := hSame.loaded ▸ hSound.loaded

/- An analysis leaves definitions as they are. -/
theorem sameDefinitions_analyze
    (w : Workspace)
    (sessionId : String) :
    w.SameDefinitions (w.analyze sessionId).2 := by
  rcases exists_analyze_snd_eq w sessionId with
    ⟨archive, hNext⟩
  rw [hNext]
  exact ⟨rfl, rfl⟩

/- So do analyses in turn. -/
theorem sameDefinitions_analyzeEach
    (w : Workspace)
    (ids : List String) :
    w.SameDefinitions (w.analyzeEach ids).2 := by
  induction ids generalizing w with
  | nil => exact ⟨rfl, rfl⟩
  | cons id ids ih =>
      have hFirst := sameDefinitions_analyze w id
      have hRest := ih (w.analyze id).2
      have hNext :
          (w.analyzeEach (id :: ids)).2 =
            ((w.analyze id).2.analyzeEach ids).2 := by
        rw [analyzeEach]
        rcases w.analyze id with ⟨answer, next⟩
        cases answer with
        | ok ps => rfl
        | error what => rfl
      rw [hNext]
      exact
        ⟨hRest.catalog.trans hFirst.catalog,
          hRest.loaded.trans hFirst.loaded⟩

/- So does the synthesis of a model. -/
theorem sameDefinitions_synthesize
    (w : Workspace)
    (sessionId : String)
    (name : Option String)
    (description : Option String) :
    w.SameDefinitions
      (w.synthesize sessionId name description).2 := by
  rcases exists_synthesize_snd_eq w sessionId name
      description with
    ⟨assembled, shelf, hNext⟩
  rw [hNext]
  exact ⟨rfl, rfl⟩

end Workspace

end TraceMining

------------------------------------------------------------
-- What Requests Do
------------------------------------------------------------

namespace TraceMining

namespace Service

/- The endpoint is there to change definitions. -/
def Endpoint.isEditing :
    Endpoint → Bool
  | .createDefinition => true
  | .updateDefinition => true
  | .deleteDefinition => true
  | .reloadDefinitions => true
  | _ => false

/- The endpoint only shows something. -/
def Endpoint.isReading :
    Endpoint → Bool
  | .getSession => true
  | .listDefinitions => true
  | .listPatterns => true
  | .summarizePatterns => true
  | .getPattern => true
  | .getModel => true
  | .health => true
  | _ => false

/- A request is refused, or it goes on with what it says. -/
theorem checked_snd
    {α : Type}
    (s : State)
    (c : Except Refusal α)
    (f : α → Answer) :
    (checked s c f).2 = s ∨
      ∃ a, (checked s c f).2 = (f a).2 := by
  cases c with
  | ok a => exact Or.inr ⟨a, rfl⟩
  | error refusal => exact Or.inl rfl

/- What is only shown does not change. -/
theorem perform_snd_of_reading
    (s : State)
    (r : Request)
    (captures : List String)
    {endpoint : Endpoint}
    (hReading : endpoint.isReading = true) :
    (perform s r captures endpoint).2 = s := by
  cases endpoint with
  | getSession =>
      rw [perform, getSession]
      split
      · rfl
      · rfl
  | listDefinitions => rfl
  | listPatterns =>
      rcases checked_snd s r.archiveQuery _ with
        hSame | ⟨q, hNext⟩
      · exact hSame
      · exact hNext
  | summarizePatterns => rfl
  | getPattern =>
      rw [perform, getPattern]
      split
      · rfl
      · rfl
  | getModel =>
      rw [perform, getModel]
      split
      · rfl
      · rfl
  | health => rfl
  | _ => cases hReading

/- A session is started unless the request is refused. -/
theorem startSession_snd
    (s : State)
    (r : Request) :
    (startSession s r).2 = s ∨
      ∃ userId,
        (startSession s r).2 =
          s.over (s.workspace.startSession userId none).2 := by
  rcases checked_snd s
      (r.optionalBody StartSession.ofFields) _ with
    hSame | ⟨body, hNext⟩
  · exact Or.inl hSame
  · exact Or.inr ⟨body.bind StartSession.userId, hNext⟩

/- An event that is named leaves the workspace as it is. -/
theorem identify_workspace
    (s : State)
    (given : Option String) :
    (identify s given).2.workspace = s.workspace := by
  unfold identify
  split
  · split
    · rfl
    · rfl
  · rfl

/- An event is appended unless the request is refused. -/
theorem logEvent_snd
    (s : State)
    (r : Request) :
    (logEvent s r).2 = s ∨
      ∃ e,
        (logEvent s r).2.workspace =
          (s.workspace.append e).2 := by
  rcases checked_snd s (r.body LogEvent.ofFields) _ with
    hSame | ⟨body, hNext⟩
  · exact Or.inl hSame
  · rw [logEvent, hNext]
    dsimp only
    split
    · right
      refine ⟨{
        id := (identify s body.id).1
        sessionId := body.sessionId
        type := body.type
        timestamp := body.timestamp
        data := body.data }, ?_⟩
      rw [← identify_workspace s body.id]
      split
      · rfl
      · rfl
    · exact Or.inl rfl

/- Whatever the answer to an analysis, it was carried out. -/
theorem analyze_snd
    (s : State)
    (id : String) :
    (analyze s id).2 = s.over (s.workspace.analyze id).2 := by
  unfold analyze
  split
  · rename_i ps w hResult
    rw [hResult]
    rfl
  · rename_i what cause w hResult
    rw [hResult]
    rfl
  · rename_i f w _ hResult
    rw [hResult]

/- So it is with a synthesis that is not refused. -/
theorem synthesize_snd
    (s : State)
    (r : Request)
    (id : String) :
    (synthesize s r id).2 = s ∨
      ∃ name description,
        (synthesize s r id).2 =
          s.over
            (s.workspace.synthesize id name description).2 := by
  rcases checked_snd s
      (r.optionalBody Labels.ofFields) _ with
    hSame | ⟨labels, hNext⟩
  · exact Or.inl hSame
  · right
    refine ⟨labels.bind Labels.name,
      labels.bind Labels.description, ?_⟩
    rw [synthesize, hNext]
    dsimp only
    split
    · rfl
    · rfl
    · rfl
    · rfl

/- A definition is checked and stored, or nothing happens. -/
theorem createDefinition_snd
    (s : State)
    (r : Request) :
    (createDefinition s r).2 = s ∨
      ∃ d, (createDefinition s r).2 = (store s 201 d).2 :=
  checked_snd s
    (r.body (Schema.definitionFields .modelAttributesType))
    (store s 201)

/- So it is with a definition that is changed. -/
theorem updateDefinition_snd
    (s : State)
    (r : Request)
    (id : String) :
    (updateDefinition s r id).2 = s ∨
      ∃ d, (updateDefinition s r id).2 = (store s 200 d).2 := by
  rcases checked_snd s (r.body Update.ofFields) _ with
    hSame | ⟨update, hNext⟩
  · exact Or.inl hSame
  · rw [updateDefinition, hNext]
    split
    · exact Or.inl rfl
    · exact Or.inr ⟨_, rfl⟩

/- A definition is deleted if it is there. -/
theorem deleteDefinition_snd
    (s : State)
    (id : String) :
    (deleteDefinition s id).2 = s ∨
      (deleteDefinition s id).2 =
        s.over (s.workspace.delete id).2 := by
  rw [deleteDefinition]
  split
  · rename_i w hDeleted
    rw [hDeleted]
    exact Or.inr rfl
  · exact Or.inl rfl

end Service

end TraceMining

------------------------------------------------------------
-- Requests
------------------------------------------------------------

namespace TraceMining

namespace Service

variable {s : State}

/- Only editing changes definitions. -/
theorem perform_sameDefinitions
    (s : State)
    (r : Request)
    (captures : List String)
    {endpoint : Endpoint}
    (hOther : endpoint.isEditing = false) :
    s.workspace.SameDefinitions
      (perform s r captures endpoint).2.workspace := by
  cases endpoint with
  | startSession =>
      rcases startSession_snd s r with hNext | ⟨userId, hNext⟩
      · rw [perform, hNext]
        exact ⟨rfl, rfl⟩
      · rw [perform, hNext]
        exact ⟨rfl, rfl⟩
  | logEvent =>
      rcases logEvent_snd s r with hNext | ⟨e, hNext⟩
      · rw [perform, hNext]
        exact ⟨rfl, rfl⟩
      · rw [perform, hNext]
        exact ⟨rfl, rfl⟩
  | analyze =>
      rw [perform, analyze_snd]
      exact Workspace.sameDefinitions_analyze _ _
  | analyzeUnprocessed =>
      exact Workspace.sameDefinitions_analyzeEach _ _
  | synthesize =>
      rcases synthesize_snd s r (captures.headD "") with
        hNext | ⟨name, description, hNext⟩
      · rw [perform, hNext]
        exact ⟨rfl, rfl⟩
      · rw [perform, hNext]
        exact Workspace.sameDefinitions_synthesize _ _ _ _
  | createDefinition => cases hOther
  | updateDefinition => cases hOther
  | deleteDefinition => cases hOther
  | reloadDefinitions => cases hOther
  | _ =>
      rw [perform_snd_of_reading s r captures rfl]
      exact ⟨rfl, rfl⟩

/- What is stored has been checked. -/
theorem isSound_store
    (hSound : s.workspace.IsSound)
    (status : Nat)
    (d : Definition) :
    (store s status d).2.workspace.IsSound := by
  unfold store
  split
  · exact hSound
  · rename_i hAccepted
    exact hSound.upsert hAccepted

/- Definitions stay sound whatever is asked for. -/
theorem isSound_perform
    (hSound : s.workspace.IsSound)
    (r : Request)
    (captures : List String)
    (endpoint : Endpoint) :
    (perform s r captures endpoint).2.workspace.IsSound := by
  by_cases hOther : endpoint.isEditing = false
  · exact hSound.of_same
      (perform_sameDefinitions s r captures hOther)
  · cases endpoint with
    | createDefinition =>
        rcases createDefinition_snd s r with
          hSame | ⟨d, hStored⟩
        · rw [perform, hSame]
          exact hSound
        · rw [perform, hStored]
          exact isSound_store hSound 201 d
    | updateDefinition =>
        rcases updateDefinition_snd s r (captures.headD "") with
          hSame | ⟨d, hStored⟩
        · rw [perform, hSame]
          exact hSound
        · rw [perform, hStored]
          exact isSound_store hSound 200 d
    | deleteDefinition =>
        rcases deleteDefinition_snd s (captures.headD "") with
          hSame | hDeleted
        · rw [perform, hSame]
          exact hSound
        · rw [perform, hDeleted]
          exact hSound.delete _
    | reloadDefinitions => exact hSound.reload
    | _ => exact absurd rfl hOther

/- So they do whatever request comes. -/
theorem isSound_handle
    (hSound : s.workspace.IsSound)
    (r : Request) :
    (handle s r).2.workspace.IsSound := by
  unfold handle
  split
  · exact isSound_perform hSound r _ _
  · exact hSound
  · exact hSound
  · exact hSound

end Service

end TraceMining

------------------------------------------------------------
-- Sequences of Requests
------------------------------------------------------------

namespace TraceMining

namespace Service

/- The service at a time. -/
def State.at
    (s : State)
    (now : Int) : State :=
  s.over { s.workspace with now := now }

/- The service after requests, each of which has its time. -/
def State.after
    (s : State)
    (rs : List (Int × Request)) : State :=
  rs.foldl (fun s r => (handle (s.at r.1) r.2).2) s

/- The service at its start. -/
def State.started
    (builtIn : Bool)
    (now : Int)
    (version : String) : State :=
  .ofWorkspace
    (.ofCatalog (Workspace.seeded builtIn) now version)

variable {s : State}

/- Definitions stay sound through all requests. -/
theorem isSound_after
    (hSound : s.workspace.IsSound)
    (rs : List (Int × Request)) :
    (s.after rs).workspace.IsSound := by
  induction rs generalizing s with
  | nil => exact hSound
  | cons r rs ih =>
      have hTimed : (s.at r.1).workspace.IsSound :=
        hSound.of_same ⟨rfl, rfl⟩
      exact ih (s := (handle (s.at r.1) r.2).2)
        (isSound_handle hTimed r.2)

/- The request to load definitions goes where it should. -/
theorem handle_reload
    (s : State)
    (query : List (String × String))
    (payload : Payload) :
    handle s
        ⟨"POST", "/patterns/definitions/reload", query,
          payload⟩ =
      reloadDefinitions s := by
  have hRoute :
      resolve "POST" "/patterns/definitions/reload" =
        .found .reloadDefinitions [] := by
    decide +kernel
  rw [handle, hRoute]
  rfl

/-
  After any requests to a service that starts with the
  built-in definitions or with none, every definition is
  stored under its own identity and accepted by the check, and
  so is every definition that is loaded.  To load definitions
  is then answered with the number of those that are active,
  and loads all of them.
-/
theorem definitions_accepted
    (builtIn : Bool)
    (start : Int)
    (version : String)
    (rs : List (Int × Request))
    (now : Int)
    (query : List (String × String))
    (payload : Payload) :
    let s := (State.started builtIn start version).after rs
    let active :=
      s.workspace.catalog.values.filter Definition.isActive
    let answer := handle (s.at now)
      ⟨"POST", "/patterns/definitions/reload", query, payload⟩
    (∀ e ∈ s.workspace.catalog.entries,
        e.1 = e.2.id ∧ e.2.check = .ok ()) ∧
      (∀ d ∈ s.workspace.loaded, d.check = .ok ()) ∧
      answer.1 =
        .ok (.ok (.object
          [("definitions_loaded", .int active.length)])) ∧
      answer.2.workspace.loaded = active := by
  intro s active answer
  have hSound : s.workspace.IsSound :=
    isSound_after
      (Workspace.isSound_seeded builtIn start version) rs
  have hLoaded : s.workspace.catalog.loadable = active :=
    Catalog.loadable_eq_active hSound.stored
  have hAnswer : answer = reloadDefinitions (s.at now) :=
    handle_reload (s.at now) query payload
  refine ⟨?_, hSound.loaded, ?_, ?_⟩
  · intro e hEntry
    exact ⟨hSound.named e hEntry,
      hSound.stored e.2 (List.mem_map_of_mem hEntry)⟩
  · rw [hAnswer, ← hLoaded]
    rfl
  · rw [hAnswer, ← hLoaded]
    rfl

end Service

end TraceMining
