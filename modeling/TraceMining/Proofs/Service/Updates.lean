import TraceMining.Proofs.Naming.Path
import TraceMining.Proofs.Service.Requests

/-
  This file shows what the request to change a definition
  does.  It finds no definition, or one that would not be
  accepted after the change, and then nothing happens; or the
  definition is replaced at its place by what the fields of
  the body make of it.  What is loaded stays as it is until it
  is loaded anew.

  Key definitions include:
    * `Service.Edits`
    * `Service.State.Reachable`
    * `Service.Supplies`
    * `Service.Merges`
    * `Service.Answer.HasStatus`
    * `Catalog.Replaces`

  Key theorems include:
    * `Service.merges_iff`
    * `Service.edits_perform`
    * `Service.State.Reachable.named`
    * `Service.loaded_after`
    * `Service.replaces_upsert`
    * `Service.resolve_definition`
    * `Service.updateDefinition_eq`
    * `Service.hasStatus_404_iff`
    * `Service.hasStatus_422_iff`
    * `Service.updateDefinition_spec`
-/

------------------------------------------------------------
-- Readings
------------------------------------------------------------

namespace TraceMining

namespace Schema

variable {α β : Type}

/- Two outcomes together are valid if both are. -/
theorem Checked.seq_eq_valid_iff
    {f : Checked (α → β)}
    {a : Checked α}
    {b : β} :
    f <*> a = .valid b ↔
      ∃ g x, f = .valid g ∧ a = .valid x ∧ g x = b := by
  cases f with
  | valid g =>
      cases a with
      | valid x =>
          constructor
          · intro hBoth
            cases hBoth
            exact ⟨g, x, rfl, rfl, rfl⟩
          · rintro ⟨h, y, hLeft, hRight, hResult⟩
            cases hLeft
            cases hRight
            rw [← hResult]
            rfl
      | invalid vs => exact ⟨nofun, nofun⟩
  | invalid us =>
      cases a with
      | valid x => exact ⟨nofun, nofun⟩
      | invalid vs => exact ⟨nofun, nofun⟩

/- A function of an outcome is valid if that is. -/
theorem Checked.map_eq_valid_iff
    {f : α → β}
    {a : Checked α}
    {b : β} :
    a.map f = .valid b ↔ ∃ x, a = .valid x ∧ f x = b := by
  cases a with
  | valid x => simp [Checked.map]
  | invalid vs => simp [Checked.map]

/- Where an outcome is seen from does not matter. -/
theorem Checked.within_eq_valid_iff
    {p : Place}
    {a : Checked α}
    {x : α} :
    a.within p = .valid x ↔ a = .valid x := by
  cases a with
  | valid y => simp [Checked.within]
  | invalid vs => simp [Checked.within]

end Schema

end TraceMining

------------------------------------------------------------
-- Merging
------------------------------------------------------------

namespace TraceMining

namespace Service

variable {α : Type}

/-
  A field of a body says what is new: what it is read as, or
  what was there before if it is null or missing.
-/
def Supplies
    (fs : Fields)
    (name : String)
    (read : Value → Schema.Checked α)
    (old new : α) : Prop :=
  match fs.get? name with
  | none => new = old
  | some .null => new = old
  | some v => read v = .valid new

/-
  A definition is what the fields of a body make of another
  one.  Only the description is also taken from a null.
-/
structure Merges
    (fs : Fields)
    (old new : Definition) : Prop where
  id : new.id = old.id
  name : Supplies fs "name" Schema.text old.name new.name
  type : Supplies fs "type" Schema.text old.type new.type
  description :
    match fs.get? "description" with
    | none => new.description = old.description
    | some v =>
        Schema.nullable Schema.text v =
          .valid new.description
  isActive :
    Supplies fs "is_active" Schema.truth
      old.isActive new.isActive
  rules :
    Supplies fs "rules" (Schema.ruleSet .modelAttributesType)
      old.rules new.rules

/- A field that was read without fault says what is new. -/
theorem supplies_iff
    {fs : Fields}
    {name : String}
    {read : Value → Schema.Checked α}
    {given : Option α}
    (hRead :
      Schema.optional fs name none (Schema.nullable read) =
        .valid given)
    {old new : α} :
    Supplies fs name read old new ↔
      new = given.getD old := by
  rw [Schema.optional] at hRead
  unfold Supplies
  split at hRead
  · rename_i v hField
    rw [Schema.Checked.within_eq_valid_iff] at hRead
    rw [hField]
    cases v with
    | null =>
        cases hRead
        rfl
    | _ =>
        rcases Schema.Checked.map_eq_valid_iff.mp hRead with
          ⟨x, hValue, rfl⟩
        simp only [hValue, Schema.Checked.valid.injEq,
          Option.getD_some]
        exact eq_comm
  · rename_i hField
    cases hRead
    rw [hField]
    rfl

/- So does the description, which may be null. -/
theorem supplies_description_iff
    {fs : Fields}
    {given : Option (Option String)}
    (hRead :
      Schema.optional fs "description" none
          (fun v => (Schema.nullable Schema.text v).map some) =
        .valid given)
    {old new : Option String} :
    (match fs.get? "description" with
      | none => new = old
      | some v => Schema.nullable Schema.text v = .valid new) ↔
      new = given.getD old := by
  rw [Schema.optional] at hRead
  split at hRead
  · rename_i v hField
    rw [Schema.Checked.within_eq_valid_iff] at hRead
    rcases Schema.Checked.map_eq_valid_iff.mp hRead with
      ⟨x, hValue, rfl⟩
    simp only [hField, hValue, Schema.Checked.valid.injEq,
      Option.getD_some]
    exact eq_comm
  · rename_i hField
    cases hRead
    rw [hField]
    rfl

/- A body without faults says what becomes of a definition. -/
theorem merges_iff
    {fs : Fields}
    {u : Update}
    (hRead : Update.ofFields fs = .valid u)
    {old new : Definition} :
    Merges fs old new ↔ new = u.apply old := by
  simp only [Update.ofFields,
    Schema.Checked.seq_eq_valid_iff] at hRead
  rcases hRead with
    ⟨_, rules, ⟨_, isActive, ⟨_, type, ⟨_, description, hFirst,
      hDescription, rfl⟩, hType, rfl⟩, hActive, rfl⟩,
      hRules, rfl⟩
  rcases Schema.Checked.map_eq_valid_iff.mp hFirst with
    ⟨name, hName, rfl⟩
  constructor
  · intro hMerges
    rcases new with ⟨id, newName, newType, newText, newActive,
      newRules⟩
    have hId := hMerges.id
    have hNewName := (supplies_iff hName).mp hMerges.name
    have hNewType := (supplies_iff hType).mp hMerges.type
    have hNewText := (supplies_description_iff
      hDescription).mp hMerges.description
    have hNewActive :=
      (supplies_iff hActive).mp hMerges.isActive
    have hNewRules := (supplies_iff hRules).mp hMerges.rules
    rw [Update.apply, Definition.mk.injEq]
    exact ⟨hId, hNewName, hNewType, hNewText, hNewActive,
      hNewRules⟩
  · rintro rfl
    exact
      { id := rfl
        name := (supplies_iff hName).mpr rfl
        type := (supplies_iff hType).mpr rfl
        description :=
          (supplies_description_iff hDescription).mpr rfl
        isActive := (supplies_iff hActive).mpr rfl
        rules := (supplies_iff hRules).mpr rfl }

end Service

end TraceMining

------------------------------------------------------------
-- Catalogs through Requests
------------------------------------------------------------

namespace TraceMining

namespace Service

/- What an endpoint can do to definitions. -/
inductive Edits
    (s : State) :
    Endpoint → State → Prop where
  | kept
      {endpoint : Endpoint}
      {next : State}
      (hSame :
        s.workspace.SameDefinitions next.workspace) :
      Edits s endpoint next
  | stored
      {endpoint : Endpoint}
      (d : Definition) :
      Edits s endpoint (s.over (s.workspace.upsert d))
  | deleted
      {endpoint : Endpoint}
      (id : String) :
      Edits s endpoint (s.over (s.workspace.delete id).2)
  | reloaded :
      Edits s .reloadDefinitions (s.over s.workspace.reload)

/- To store a definition does nothing else. -/
theorem edits_store
    (s : State)
    (status : Nat)
    (d : Definition)
    (endpoint : Endpoint) :
    Edits s endpoint (store s status d).2 := by
  unfold store
  split
  · exact .kept ⟨rfl, rfl⟩
  · exact .stored d

/- Any endpoint does one of these things. -/
theorem edits_perform
    (s : State)
    (r : Request)
    (captures : List String)
    (endpoint : Endpoint) :
    Edits s endpoint (perform s r captures endpoint).2 := by
  by_cases hOther : endpoint.isEditing = false
  · exact .kept (perform_sameDefinitions s r captures hOther)
  · cases endpoint with
    | createDefinition =>
        rcases createDefinition_snd s r with hSame | ⟨d, hNext⟩
        · rw [perform, hSame]
          exact .kept ⟨rfl, rfl⟩
        · rw [perform, hNext]
          exact edits_store s 201 d _
    | updateDefinition =>
        rcases updateDefinition_snd s r (captures.headD "") with
          hSame | ⟨d, hNext⟩
        · rw [perform, hSame]
          exact .kept ⟨rfl, rfl⟩
        · rw [perform, hNext]
          exact edits_store s 200 d _
    | deleteDefinition =>
        rcases deleteDefinition_snd s (captures.headD "") with
          hSame | hNext
        · rw [perform, hSame]
          exact .kept ⟨rfl, rfl⟩
        · rw [perform, hNext]
          exact .deleted _
    | reloadDefinitions => exact .reloaded
    | _ => exact absurd rfl hOther

namespace Edits

variable {s next : State}
variable {endpoint : Endpoint}

/- Definitions stay under their own identities. -/
theorem named
    (hEdits : Edits s endpoint next)
    (hNamed : s.workspace.catalog.IsNamed Definition.id) :
    next.workspace.catalog.IsNamed Definition.id := by
  cases hEdits with
  | kept hSame =>
      rw [hSame.catalog]
      exact hNamed
  | stored d => exact hNamed.put d
  | deleted id => exact hNamed.erase id
  | reloaded => exact hNamed

/- What is loaded stays, unless it is loaded anew. -/
theorem loaded
    (hEdits : Edits s endpoint next)
    (hOther : endpoint ≠ .reloadDefinitions) :
    next.workspace.loaded = s.workspace.loaded := by
  cases hEdits with
  | kept hSame => exact hSame.loaded
  | stored d => rfl
  | deleted id => rfl
  | reloaded => exact absurd rfl hOther

end Edits

/- The request asks for definitions to be loaded. -/
def Request.reloads
    (r : Request) : Prop :=
  ∃ captures,
    resolve r.method r.path = .found .reloadDefinitions captures

/- A request that does not leaves what is loaded. -/
theorem loaded_handle
    (s : State)
    {r : Request}
    (hOther : ¬ r.reloads) :
    (handle s r).2.workspace.loaded = s.workspace.loaded := by
  unfold handle
  split
  · rename_i endpoint captures hRoute
    apply (edits_perform s r captures endpoint).loaded
    rintro rfl
    exact hOther ⟨captures, hRoute⟩
  · rfl
  · rfl
  · rfl

/- So do requests in a row. -/
theorem loaded_after
    (s : State)
    {rs : List (Int × Request)}
    (hOther : ∀ r ∈ rs, ¬ r.2.reloads) :
    (s.after rs).workspace.loaded = s.workspace.loaded := by
  induction rs generalizing s with
  | nil => rfl
  | cons r rs ih =>
      rcases List.forall_mem_cons.mp hOther with
        ⟨hFirst, hRest⟩
      exact (ih (handle (s.at r.1) r.2).2 hRest).trans
        (loaded_handle (s.at r.1) hFirst)

namespace State

/-
  The service has got into this state, by requests to a start
  with a list of definitions.
-/
def Reachable
    (s : State) : Prop :=
  ∃ ds start version rs now,
    s = ((ofCatalog (Catalog.ofList ds) start
      version).after rs).at now

/- Then definitions are under their own identities. -/
theorem Reachable.named
    {s : State}
    (hReachable : s.Reachable) :
    s.workspace.catalog.IsNamed Definition.id := by
  have hAfter :
      ∀ (rs : List (Int × Request)) (s : State),
        s.workspace.catalog.IsNamed Definition.id →
          (s.after rs).workspace.catalog.IsNamed
            Definition.id := by
    intro rs
    induction rs with
    | nil => exact fun s hNamed => hNamed
    | cons r rs ih =>
        intro s hNamed
        apply ih (handle (s.at r.1) r.2).2
        unfold handle
        split
        · exact (edits_perform (s.at r.1) r.2 _ _).named hNamed
        · exact hNamed
        · exact hNamed
        · exact hNamed
  rcases hReachable with ⟨ds, start, version, rs, now, rfl⟩
  exact hAfter rs _ (Catalog.isNamed_ofList ds)

end State

end Service

end TraceMining

------------------------------------------------------------
-- Changing a Definition
------------------------------------------------------------

namespace TraceMining

/- One definition takes the place of another one. -/
structure Catalog.Replaces
    (c : Catalog)
    (id : String)
    (d : Definition)
    (later : Catalog) : Prop where
  own : d.id = id
  stored : later.get? id = some d
  others :
    ∀ other, other ≠ id → later.get? other = c.get? other
  keys : later.keys = c.keys
  listed :
    later.values =
      c.values.map fun e => if e.id = id then d else e

namespace Service

variable {s : State}
variable {r : Request}
variable {fs : Fields}
variable {u : Update}

/- A definition is stored in the place of the one it was. -/
theorem replaces_upsert
    {c : Catalog}
    (hNamed : c.IsNamed Definition.id)
    {id : String}
    {old new : Definition}
    (hOld : c.get? id = some old)
    (hSame : new.id = old.id) :
    c.Replaces id new (c.upsert new) := by
  have hOwn : new.id = id :=
    hSame.trans
      (hNamed (id, old) (Table.mem_entries_of_get? hOld)).symm
  have hHas : c.has id = true := by
    rw [Table.has, hOld]
    rfl
  have hKey : id ∈ c.keys := Table.has_iff_mem_keys.mp hHas
  refine ⟨hOwn, ?_, ?_, ?_, ?_⟩
  · rw [Catalog.upsert, hOwn]
    exact Table.get?_put_self c id new
  · intro other hOther
    rw [Catalog.upsert, hOwn]
    exact Table.get?_put_of_ne c new hOther
  · rw [Catalog.upsert, hOwn, Table.keys_put, if_pos hKey]
  · rw [hNamed.keys_eq] at hKey
    rw [Catalog.upsert, hNamed.values_put, Roster.stored, hOwn,
      if_pos hKey]

/- The address of a definition has three segments. -/
theorem captures?_definition
    {id : String}
    (hSlash : '/' ∉ id.toList)
    (template : List Part) :
    captures? template ("/patterns/definitions/" ++ id) =
      segmentCaptures? template
        [ "patterns".toList, "definitions".toList
        , id.toList ] := by
  have hPath :
      ("/patterns/definitions/" ++ id).toList =
        [] ++ '/' :: ("patterns".toList ++
          '/' :: ("definitions".toList ++
            '/' :: id.toList)) := by
    rw [String.toList_append]
    rfl
  rw [captures?, hPath,
    Text.pieces_append List.not_mem_nil,
    Text.pieces_append (by decide),
    Text.pieces_append (by decide),
    Text.pieces_of_not_mem hSlash]

/- What is put to it is a change of the definition. -/
theorem resolve_definition
    {id : String}
    (hSegment : Naming.IsSegment id) :
    resolve "PUT" ("/patterns/definitions/" ++ id) =
      .found .updateDefinition [id] := by
  have hSome : id.toList.isEmpty = false := by
    rw [List.isEmpty_eq_false_iff]
    exact mt String.toList_eq_nil_iff.mp hSegment.1
  simp [resolve, routes, captures?_definition hSegment.2,
    segmentCaptures?, fixed, followed, hSome]

/- A request that fits the schema is answered like this. -/
theorem updateDefinition_eq
    (hBody : r.payload.read = .ok (some (.object fs)))
    (hRead : Update.ofFields fs = .valid u)
    (id : String) :
    updateDefinition s r id =
      match s.workspace.catalog.get? id with
      | none =>
          s.reply (.detail 404 "Pattern definition not found")
      | some d => store s 200 (u.apply d) := by
  have hTaken : r.body Update.ofFields = .ok u := by
    simp [Request.body, hBody, Schema.model, hRead, taken,
      Schema.Checked.within, bind, Except.bind]
  rw [updateDefinition, hTaken]
  rfl

/- A request is answered with a response of this status. -/
def Answer.HasStatus
    (a : Answer)
    (status : Nat) : Prop :=
  ∃ response, a.1 = .ok response ∧ response.status = status

/- A reply has the status of its response. -/
theorem hasStatus_reply
    {response : Response}
    {status : Nat} :
    (s.reply response).HasStatus status ↔
      response.status = status := by
  simp [Answer.HasStatus, State.reply]

/- A document has its own status, if it has one at all. -/
theorem not_hasStatus_write
    {given status : Nat}
    (hOther : given ≠ status)
    (d : Rendition) :
    ¬ (s.write given d).HasStatus status := by
  rintro ⟨response, hResponse, hStatus⟩
  simp only [State.write, Response.written] at hResponse
  split at hResponse
  · cases hResponse
    exact hOther hStatus
  · cases hResponse

/- A definition that is not accepted is refused. -/
theorem store_of_error
    {status : Nat}
    {d : Definition}
    {f : Failure}
    (hCheck : d.check = .error f) :
    store s status d = s.reply (.detail 422 f.message) := by
  rw [store, hCheck]

/- One that is accepted is stored and written. -/
theorem store_of_ok
    {status : Nat}
    {d : Definition}
    (hCheck : d.check = .ok ()) :
    store s status d =
      (s.over (s.workspace.upsert d)).write
        status d.rendition := by
  rw [store, hCheck]

/- Any status but the given one means that it is refused. -/
theorem hasStatus_store_iff
    {given status : Nat}
    (hOther : given ≠ status)
    {d : Definition} :
    (store s given d).HasStatus status ↔
      422 = status ∧ ∃ f, d.check = .error f := by
  cases hCheck : d.check with
  | error f =>
      rw [store_of_error hCheck, hasStatus_reply]
      exact ⟨fun hSame => ⟨hSame, f, rfl⟩, And.left⟩
  | ok =>
      rw [store_of_ok hCheck]
      constructor
      · intro hStatus
        exact absurd hStatus (not_hasStatus_write hOther _)
      · rintro ⟨_, f, hError⟩
        cases hError

/- The answer is 404 just if there is no definition. -/
theorem hasStatus_404_iff
    (hBody : r.payload.read = .ok (some (.object fs)))
    (hRead : Update.ofFields fs = .valid u)
    (id : String) :
    (updateDefinition s r id).HasStatus 404 ↔
      s.workspace.catalog.get? id = none := by
  rw [updateDefinition_eq hBody hRead]
  cases s.workspace.catalog.get? id with
  | none => exact iff_of_true (hasStatus_reply.mpr rfl) rfl
  | some d => simp [hasStatus_store_iff]

/- It is 422 just if the changed one is not accepted. -/
theorem hasStatus_422_iff
    (hBody : r.payload.read = .ok (some (.object fs)))
    (hRead : Update.ofFields fs = .valid u)
    (id : String) :
    (updateDefinition s r id).HasStatus 422 ↔
      ∃ d, s.workspace.catalog.get? id = some d ∧
        ∃ f, (u.apply d).check = .error f := by
  rw [updateDefinition_eq hBody hRead]
  cases s.workspace.catalog.get? id with
  | none => simp [hasStatus_reply, Response.detail]
  | some d => simp [hasStatus_store_iff]

/-
  To change a definition is answered with a status of 404 just
  if there is none of this identity, and with 422 just if what
  the fields of the body make of it is not accepted; nothing
  happens in both cases.  Otherwise it is replaced by what the
  fields make of it, which is determined by them, at its place
  and under its identity, and nothing else is changed.  What
  is loaded stays the same until it is loaded anew.
-/
theorem updateDefinition_spec
    (hReachable : s.Reachable)
    (hBody : r.payload.read = .ok (some (.object fs)))
    (hFits : ∃ u, Update.ofFields fs = .valid u)
    (id : String) :
    let answer := updateDefinition s r id
    let before := s.workspace.catalog
    let later := answer.2.workspace.catalog
    (∀ d, ∃! e, Merges fs d e) ∧
      (answer.HasStatus 404 ↔ before.get? id = none) ∧
      (answer.HasStatus 422 ↔
        ∃ d e f, before.get? id = some d ∧
          Merges fs d e ∧ e.check = .error f) ∧
      (answer.HasStatus 404 ∨ answer.HasStatus 422 →
        answer.2 = s) ∧
      (¬ (answer.HasStatus 404 ∨ answer.HasStatus 422) →
        ∃ d e, before.get? id = some d ∧
          Merges fs d e ∧ e.check = .ok () ∧
          answer.1 = Response.written 200 e.rendition ∧
          before.Replaces id e later ∧
          answer.2 =
            s.over { s.workspace with catalog := later }) ∧
      (∀ rs : List (Int × Request),
        (∀ q ∈ rs, ¬ q.2.reloads) →
          (answer.2.after rs).workspace.loaded =
            s.workspace.loaded) ∧
      (Naming.IsSegment id → r.method = "PUT" →
        r.path = "/patterns/definitions/" ++ id →
          handle s r = answer) := by
  intro answer before later
  rcases hFits with ⟨u, hRead⟩
  have hMerges :
      ∀ {d e : Definition}, Merges fs d e ↔ e = u.apply d :=
    merges_iff hRead
  have h404 := hasStatus_404_iff (s := s) hBody hRead id
  have h422 := hasStatus_422_iff (s := s) hBody hRead id
  have hStore :
      ∀ d, before.get? id = some d →
        answer = store s 200 (u.apply d) := by
    intro d hOld
    exact (updateDefinition_eq hBody hRead id).trans
      (by rw [hOld])
  refine ⟨?_, h404, ?_, ?_, ?_, ?_, ?_⟩
  · intro d
    exact ⟨u.apply d, hMerges.mpr rfl, fun _ => hMerges.mp⟩
  · apply h422.trans
    constructor
    · rintro ⟨d, hOld, f, hCheck⟩
      exact ⟨d, _, f, hOld, hMerges.mpr rfl, hCheck⟩
    · rintro ⟨d, e, f, hOld, hNew, hCheck⟩
      rw [hMerges.mp hNew] at hCheck
      exact ⟨d, hOld, f, hCheck⟩
  · rintro (hMissing | hRefused)
    · have hAnswer := updateDefinition_eq (s := s) hBody hRead id
      rw [h404.mp hMissing] at hAnswer
      exact congrArg Prod.snd hAnswer
    · rcases h422.mp hRefused with ⟨d, hOld, f, hCheck⟩
      rw [hStore d hOld, store_of_error hCheck]
      rfl
  · intro hOther
    rcases not_or.mp hOther with ⟨hFound, hTaken⟩
    rcases Option.ne_none_iff_exists'.mp
        (mt h404.mpr hFound) with ⟨d, hOld⟩
    have hCheck : (u.apply d).check = .ok () := by
      cases hCheck : (u.apply d).check with
      | ok => rfl
      | error f =>
          exact absurd (h422.mpr ⟨d, hOld, f, hCheck⟩) hTaken
    have hAnswer : answer =
        (s.over (s.workspace.upsert (u.apply d))).write
          200 (u.apply d).rendition :=
      (hStore d hOld).trans (store_of_ok hCheck)
    have hLater : later = before.upsert (u.apply d) :=
      congrArg (·.2.workspace.catalog) hAnswer
    refine ⟨d, u.apply d, hOld, hMerges.mpr rfl, hCheck,
      congrArg Prod.fst hAnswer, ?_, ?_⟩
    -- Keys are identities, so the old one's place is taken.
    · rw [hLater]
      exact replaces_upsert hReachable.named hOld rfl
    · rw [hLater]
      exact congrArg Prod.snd hAnswer
  · intro rs hOther
    have hChange :
        Endpoint.updateDefinition ≠ .reloadDefinitions := nofun
    exact (loaded_after answer.2 hOther).trans
      ((edits_perform s r [id] .updateDefinition).loaded hChange)
  · intro hSegment hMethod hPath
    rw [handle, hMethod, hPath, resolve_definition hSegment]
    rfl

/- A definition of one step that takes any event. -/
def oneStep
    (id : String) : Definition :=
  { id := id
    name := id
    type := "any"
    description := some "Any event"
    isActive := true
    rules := { sequence := [⟨[]⟩], timeout := 1000 } }

/- The service with two definitions. -/
def twofold : State :=
  .ofCatalog (Catalog.ofList [oneStep "a", oneStep "b"]) 0 "1"

/- The request to change a definition by some fields. -/
def change
    (id : String)
    (fs : Fields) : Request :=
  ⟨"PUT", "/patterns/definitions/" ++ id, [],
    .document (.object fs)⟩

/- Fields that keep a name and take a description away. -/
def muting : Fields :=
  [ ("name", .null), ("description", .null)
  , ("is_active", .bool false) ]

/- Fields that leave a definition without steps. -/
def emptying : Fields :=
  [("rules", .object [("timeout", .int 5)])]

/- One is changed, one is not accepted, and one is missing. -/
theorem updateDefinition_spec_twofold :
    let muted : Definition :=
      { oneStep "a" with
        description := none
        isActive := false }
    let changed := handle twofold (change "a" muting)
    let refused := handle twofold (change "a" emptying)
    let missing := handle twofold (change "c" muting)
    twofold.Reachable ∧
      (∃ u, Update.ofFields muting = .valid u) ∧
      (∃ u, Update.ofFields emptying = .valid u) ∧
      changed.1 = Response.written 200 muted.rendition ∧
      changed.2.workspace.catalog.values =
        [muted, oneStep "b"] ∧
      changed.2.workspace.loaded =
        [oneStep "a", oneStep "b"] ∧
      refused.HasStatus 422 ∧ refused.2 = twofold ∧
      missing.HasStatus 404 ∧ missing.2 = twofold := by
  intro muted changed refused missing
  have hReachable : twofold.Reachable :=
    ⟨[oneStep "a", oneStep "b"], 0, "1", [], 0, rfl⟩
  have hMuting : ∃ u, Update.ofFields muting = .valid u :=
    ⟨_, rfl⟩
  have hEmptying : ∃ u, Update.ofFields emptying = .valid u :=
    ⟨_, rfl⟩
  have hA : twofold.workspace.catalog.get? "a" =
      some (oneStep "a") := by
    rfl
  have hC : twofold.workspace.catalog.get? "c" = none := by
    rfl
  have hMuted : Merges muting (oneStep "a") muted :=
    ⟨rfl, rfl, rfl, rfl, rfl, rfl⟩
  have hEmptied :
      Merges emptying (oneStep "a")
        { oneStep "a" with rules := ⟨[], 5⟩ } :=
    ⟨rfl, rfl, rfl, rfl, rfl, rfl⟩
  have hSegment : ∀ id ∈ ["a", "c"], Naming.IsSegment id := by
    decide
  rcases updateDefinition_spec (r := change "a" muting)
      hReachable rfl hMuting "a" with
    ⟨hUnique, h404, h422, _, hChanged, hLoaded, hRoute⟩
  rw [← hRoute (hSegment "a" (by decide)) rfl rfl]
    at h404 h422 hChanged hLoaded
  have hAccepted :
      ¬ (changed.HasStatus 404 ∨ changed.HasStatus 422) := by
    rintro (hMissing | hRefused)
    · rw [h404.mp hMissing] at hA
      cases hA
    · rcases h422.mp hRefused with
        ⟨d, e, f, hOld, hNew, hError⟩
      rw [hA, Option.some.injEq] at hOld
      rw [← hOld] at hNew
      rw [(hUnique _).unique hNew hMuted] at hError
      cases hError
  rcases hChanged hAccepted with
    ⟨d, e, hOld, hNew, _, hWritten, hReplaced, _⟩
  rw [hA, Option.some.injEq] at hOld
  rw [← hOld] at hNew
  rw [(hUnique _).unique hNew hMuted] at hWritten hReplaced
  rcases updateDefinition_spec (r := change "a" emptying)
      hReachable rfl hEmptying "a" with
    ⟨_, _, hEmpty, hKept, _, _, hRefusal⟩
  rw [← hRefusal (hSegment "a" (by decide)) rfl rfl]
    at hEmpty hKept
  have hRefused : refused.HasStatus 422 :=
    hEmpty.mpr ⟨_, _, _, hA, hEmptied, rfl⟩
  rcases updateDefinition_spec (r := change "c" muting)
      hReachable rfl hMuting "c" with
    ⟨_, hNone, _, hLeft, _, _, hAbsence⟩
  rw [← hAbsence (hSegment "c" (by decide)) rfl rfl]
    at hNone hLeft
  have hMissing : missing.HasStatus 404 := hNone.mpr hC
  exact ⟨hReachable, hMuting, hEmptying, hWritten,
    hReplaced.listed, hLoaded [] nofun, hRefused,
    hKept (Or.inr hRefused), hMissing, hLeft (Or.inl hMissing)⟩

end Service

end TraceMining
