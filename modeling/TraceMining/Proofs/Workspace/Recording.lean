import TraceMining.Proofs.Workspace.Synthesis
import TraceMining.Proofs.Workspace.Writing

/-
  This file shows what a synthesis records, whatever was done
  to the workspace before: nothing if it fails, and otherwise
  one model more, with the identities of just the patterns of
  its session.  These stand by start, and those that start
  together in the order in which they were first saved.

  Key definitions include:
    * `Shelf.IsPaired`
    * `Workspace.Action`
    * `Workspace.act`
    * `Workspace.course`
    * `Workspace.history`

  Key theorems include:
    * `Shelf.IsPaired.entries_save`
    * `Workspace.archive_act`
    * `Workspace.archive_course`
    * `Workspace.ids_course`
    * `Workspace.isPaired_course`
    * `Workspace.synthesize_eq_noPatterns_iff`
    * `Workspace.synthesize_eq_persistence_iff`
    * `Workspace.shelf_of_synthesize_error`
    * `Workspace.shelf_of_synthesize_ok`
    * `Workspace.synthesize_recorded`
-/

------------------------------------------------------------
-- Shelves
------------------------------------------------------------

namespace TraceMining

namespace Shelf

/- Every model has its patterns, and nothing else has. -/
def IsPaired
    (s : Shelf) : Prop :=
  s.sources.keys = s.models.keys

variable {s : Shelf}

/- It stays so when a model is saved. -/
theorem IsPaired.save
    (hPaired : s.IsPaired)
    (a : Application)
    (patternIds : List String) :
    (s.save a patternIds).IsPaired := by
  rw [IsPaired, Shelf.save, Table.keys_put, Table.keys_put,
    hPaired]

/- A new model is one entry more on either side. -/
theorem IsPaired.entries_save
    (hPaired : s.IsPaired)
    {a : Application}
    (hFresh : a.id ∉ s.models.keys)
    (patternIds : List String) :
    (s.save a patternIds).models.entries =
        s.models.entries ++ [(a.id, a)] ∧
      (s.save a patternIds).sources.entries =
        s.sources.entries ++ [(a.id, patternIds)] := by
  have hAlso : a.id ∉ s.sources.keys := by
    rw [hPaired]
    exact hFresh
  exact
    ⟨Table.entries_put_of_fresh hFresh a,
      Table.entries_put_of_fresh hAlso patternIds⟩

end Shelf

end TraceMining

------------------------------------------------------------
-- Courses
------------------------------------------------------------

namespace TraceMining

namespace Workspace

/-
  What happens to the patterns and models of a workspace.
  Patterns are saved by analyses, among the operations, or as
  they come.  Nobody asks for `refuseModels`: from there on
  the shelf refuses to write, or does so no longer.
-/
inductive Action where
  | operate (op : Operation)
  | save (ps : List Pattern)
  | synthesize
      (sessionId : String)
      (name : Option String)
      (description : Option String)
  | refuseModels (refused : Bool)
  | wait (now : Int)

/- The workspace after an action, whether it failed or not. -/
def act
    (w : Workspace) :
    Action → Workspace
  | .operate op => w.perform op
  | .save ps => (w.savePatterns ps).2
  | .synthesize sessionId name description =>
      (w.synthesize sessionId name description).2
  | .refuseModels refused => { w with shelfFault := refused }
  | .wait now => { w with now := now }

/- The workspace after some actions in a row. -/
def course
    (w : Workspace)
    (actions : List Action) : Workspace :=
  actions.foldl act w

/- The patterns that an action writes. -/
def writes
    (w : Workspace) :
    Action → List Pattern
  | .operate (.analyze sessionId) => w.written sessionId
  | .save ps => w.archiveFault.kept ps
  | _ => []

/- The patterns that actions write, one after the other. -/
def history
    (w : Workspace) :
    List Action → List Pattern
  | [] => []
  | action :: actions =>
      w.writes action ++ (w.act action).history actions

variable {w : Workspace}

/- What is loaded can be matched after every action. -/
theorem allValid_act
    (hValid : w.AllValid)
    (action : Action) :
    (w.act action).AllValid := by
  cases action with
  | operate op => exact allValid_perform hValid op
  | synthesize sessionId name description =>
      rcases exists_synthesize_snd_eq w sessionId name
          description with
        ⟨assembled, shelf, hNext⟩
      rw [act, hNext]
      exact hValid
  | save ps => exact hValid
  | refuseModels refused => exact hValid
  | wait now => exact hValid

/- An action writes its patterns to the archive. -/
theorem archive_act
    (hValid : w.AllValid)
    (action : Action) :
    (w.act action).archive =
      w.archive.write (w.writes action) := by
  cases action with
  | operate op =>
      cases op with
      | analyze sessionId =>
          rw [act, perform, analyze_snd_eq_written hValid]
          rfl
      | startSession userId id => rfl
      | append e => rfl
      | upsert d => rfl
      | delete id => rfl
      | reload => rfl
      | refuse fault => rfl
  | save ps => exact Archive.saveAll_snd w.archive
  | synthesize sessionId name description =>
      rcases exists_synthesize_snd_eq w sessionId name
          description with
        ⟨assembled, shelf, hNext⟩
      rw [act, hNext]
      rfl
  | refuseModels refused => rfl
  | wait now => rfl

/- The archive has what was written in turn. -/
theorem archive_course
    (hValid : w.AllValid)
    (actions : List Action) :
    (w.course actions).archive =
      w.archive.write (w.history actions) := by
  induction actions generalizing w with
  | nil => rfl
  | cons action actions ih =>
      rw [history, Archive.write_append, ← archive_act hValid]
      exact ih (allValid_act hValid action)

/- So the identities stand as they were first written. -/
theorem ids_course
    (catalog : Catalog)
    (now : Int)
    (version : String)
    (actions : List Action) :
    let start := ofCatalog catalog now version
    (start.course actions).archive.IsLabelled ∧
      (start.course actions).archive.values.map Pattern.id =
        ((start.history actions).map Pattern.id).eraseDups := by
  intro start
  have hWritten :
      (start.course actions).archive =
        Archive.write Table.empty (start.history actions) :=
    archive_course (allValid_reload _) actions
  have hLabelled :
      (Archive.write Table.empty
        (start.history actions)).IsLabelled :=
    Table.IsNamed.empty.putAll _
  rw [hWritten]
  refine ⟨hLabelled, ?_⟩
  rw [← Table.IsNamed.keys_eq hLabelled, Archive.write,
    Table.keys_putAll]
  rfl

/- Operations leave the shelf as it is. -/
theorem shelf_perform
    (w : Workspace)
    (op : Operation) :
    (w.perform op).shelf = w.shelf := by
  cases op with
  | analyze sessionId =>
      rcases exists_analyze_snd_eq w sessionId with
        ⟨archive, hNext⟩
      rw [perform, hNext]
  | startSession userId id => rfl
  | append e => rfl
  | upsert d => rfl
  | delete id => rfl
  | reload => rfl
  | refuse fault => rfl

/- Models keep their patterns through every action. -/
theorem isPaired_act
    (hPaired : w.shelf.IsPaired)
    (action : Action) :
    (w.act action).shelf.IsPaired := by
  cases action with
  | operate op =>
      rw [act, shelf_perform]
      exact hPaired
  | synthesize sessionId name description =>
      rcases synthesize_cases w sessionId name description with
        ⟨_, hAnswer⟩ | ⟨_, _, what, cause, hAnswer⟩ |
          ⟨_, _, a, _, hAnswer⟩
      · rw [act, hAnswer]
        exact hPaired
      · rw [act, hAnswer]
        exact hPaired
      · rw [act, hAnswer]
        exact hPaired.save a _
  | save ps => exact hPaired
  | refuseModels refused => exact hPaired
  | wait now => exact hPaired

/- So they do through every course. -/
theorem isPaired_course
    (hPaired : w.shelf.IsPaired)
    (actions : List Action) :
    (w.course actions).shelf.IsPaired := by
  induction actions generalizing w with
  | nil => exact hPaired
  | cons action actions ih =>
      exact ih (isPaired_act hPaired action)

end Workspace

end TraceMining

------------------------------------------------------------
-- Records
------------------------------------------------------------

namespace TraceMining

namespace Workspace

variable {w : Workspace}
variable {sessionId : String}
variable {name description : Option String}

/- It fails for want of patterns just if there are none. -/
theorem synthesize_eq_noPatterns_iff :
    (w.synthesize sessionId name description).1 =
        .error (.noPatterns sessionId) ↔
      w.archive.own sessionId = [] := by
  rcases synthesize_cases w sessionId name description with
    ⟨hNone, hAnswer⟩ | ⟨hSome, _, what, cause, hAnswer⟩ |
      ⟨hSome, _, a, _, hAnswer⟩
  · rw [hAnswer]
    exact iff_of_true rfl hNone
  · rw [hAnswer]
    exact iff_of_false (fun hFailed => by cases hFailed) hSome
  · rw [hAnswer]
    exact iff_of_false (fun hFailed => by cases hFailed) hSome

/- It fails to save just if there are some it may not save. -/
theorem synthesize_eq_persistence_iff :
    (∃ what cause,
        (w.synthesize sessionId name description).1 =
          .error (.persistence what cause)) ↔
      w.archive.own sessionId ≠ [] ∧ w.shelfFault = true := by
  rcases synthesize_cases w sessionId name description with
    ⟨hNone, hAnswer⟩ | ⟨hSome, hFault, what, cause, hAnswer⟩ |
      ⟨_, hFault, a, _, hAnswer⟩
  · rw [hAnswer]
    refine iff_of_false ?_ fun hBoth => hBoth.1 hNone
    rintro ⟨what, cause, hFailed⟩
    cases hFailed
  · rw [hAnswer]
    exact iff_of_true ⟨what, cause, rfl⟩ ⟨hSome, hFault⟩
  · rw [hAnswer, hFault]
    refine iff_of_false ?_ fun hBoth => nomatch hBoth.2
    rintro ⟨what, cause, hFailed⟩
    cases hFailed

/- There is no other failure, and none changes the shelf. -/
theorem shelf_of_synthesize_error
    {f : Failure}
    (hFailed :
      (w.synthesize sessionId name description).1 =
        .error f) :
    (w.synthesize sessionId name description).2.shelf =
        w.shelf ∧
      (f = .noPatterns sessionId ∨
        ∃ what cause, f = .persistence what cause) := by
  rcases synthesize_cases w sessionId name description with
    ⟨_, hAnswer⟩ | ⟨_, _, what, cause, hAnswer⟩ |
      ⟨_, _, a, _, hAnswer⟩
  · rw [hAnswer] at hFailed ⊢
    exact ⟨rfl, Or.inl (Except.error.inj hFailed).symm⟩
  · rw [hAnswer] at hFailed ⊢
    exact ⟨rfl, Or.inr
      ⟨what, cause, (Except.error.inj hFailed).symm⟩⟩
  · rw [hAnswer] at hFailed
    cases hFailed

/- A model that is answered was assembled and kept. -/
theorem shelf_of_synthesize_ok
    {a : Application}
    (hDone :
      (w.synthesize sessionId name description).1 = .ok a) :
    Application.assemble (w.assembled + 1) w.now
        ⟨w.version, name, description⟩ sessionId
        (w.archive.bySession sessionId) = .ok a ∧
      (w.synthesize sessionId name description).2.shelf =
        w.shelf.save a
          ((w.archive.bySession sessionId).map
            Pattern.id) := by
  rcases synthesize_cases w sessionId name description with
    ⟨_, hAnswer⟩ | ⟨_, _, what, cause, hAnswer⟩ |
      ⟨_, _, b, hModel, hAnswer⟩
  · rw [hAnswer] at hDone
    cases hDone
  · rw [hAnswer] at hDone
    cases hDone
  · rw [hAnswer] at hDone ⊢
    rw [← Except.ok.inj hDone]
    exact ⟨hModel, rfl⟩

/-
  After any actions, let the number of the next model be new
  on the shelf.  The patterns of the archive stand in the
  order in which their identities were first written.  A
  synthesis fails for want of patterns if none is stored for
  the session, it fails to save if some are and the shelf
  refuses the model, and there is no other failure; none of
  them changes the shelf.  Otherwise the shelf has one model
  more, which is the one that is answered, with the identities
  of just the patterns that are stored for the session, each
  once, by start, and in the order of the archive where these
  are equal.  The model tells their number and their types.
-/
theorem synthesize_recorded
    (catalog : Catalog)
    (now : Int)
    (version : String)
    {actions : List Action}
    {w : Workspace}
    (hCourse :
      (ofCatalog catalog now version).course actions = w)
    (hFresh :
      Identity.model (w.assembled + 1) ∉ w.shelf.models.keys)
    (sessionId : String)
    (name : Option String)
    (description : Option String) :
    let answer := w.synthesize sessionId name description
    w.archive.values.map Pattern.id =
        (((ofCatalog catalog now version).history actions).map
          Pattern.id).eraseDups ∧
      (answer.1 = .error (.noPatterns sessionId) ↔
        ∀ p ∈ w.archive.values, p.sessionId ≠ sessionId) ∧
      ((∃ what cause,
          answer.1 = .error (.persistence what cause)) ↔
        (∃ p ∈ w.archive.values, p.sessionId = sessionId) ∧
          w.shelfFault = true) ∧
      (∀ f, answer.1 = .error f →
        answer.2.shelf = w.shelf ∧
          (f = .noPatterns sessionId ∨
            ∃ what cause, f = .persistence what cause)) ∧
      ∀ a, answer.1 = .ok a →
        ∃ ps,
          w.archive.Timeline sessionId ps ∧
            (ps.map Pattern.id).Nodup ∧
            (∀ p,
              p ∈ ps ↔
                p ∈ w.archive.values ∧
                  p.sessionId = sessionId) ∧
            answer.2.shelf.models.entries =
              w.shelf.models.entries ++ [(a.id, a)] ∧
            answer.2.shelf.sources.entries =
              w.shelf.sources.entries ++
                [(a.id, ps.map Pattern.id)] ∧
            a.patternCount = ps.length ∧
            a.patternTypes =
              (ps.map Pattern.type).eraseDups := by
  intro answer
  rcases ids_course catalog now version actions with
    ⟨hLabelled, hIds⟩
  have hPaired :=
    isPaired_course (w := ofCatalog catalog now version) rfl
      actions
  rw [hCourse] at hLabelled hIds hPaired
  refine
    ⟨hIds,
      synthesize_eq_noPatterns_iff.trans Archive.own_eq_nil_iff,
      ?_, fun f => shelf_of_synthesize_error, ?_⟩
  · rw [← Archive.own_ne_nil_iff]
    exact synthesize_eq_persistence_iff
  · intro a hDone
    rcases shelf_of_synthesize_ok hDone with ⟨hModel, hShelf⟩
    rcases Application.assemble_fields hModel with
      ⟨hId, _, hCount, hTypes⟩
    rw [← hId] at hFresh
    rcases hPaired.entries_save hFresh _ with
      ⟨hModels, hSources⟩
    rw [hShelf]
    exact
      ⟨w.archive.bySession sessionId,
        Archive.timeline_bySession _ _,
        hLabelled.nodup_ids_bySession sessionId,
        fun p => Archive.mem_bySession,
        hModels, hSources, hCount, hTypes⟩

/- A pattern of another type that takes the place of one. -/
def sorting : Pattern :=
  { view "d" "s" 5 with type := "sort" }

/- Patterns of two sessions, one of which is saved twice. -/
def savings : List Action :=
  [ .save [view "d" "s" 5, view "c" "t" 2]
  , .save [view "b" "s" 5, view "a" "s" 0, sorting] ]

/- The workspace in which these were saved. -/
def stocked : Workspace :=
  (ofCatalog Table.empty 0 "1").course savings

/- The same, with a model of the other session. -/
def recorded : Workspace :=
  (stocked.synthesize "t" none none).2

/- It has one pattern for each identity, and that model. -/
theorem recorded_spec :
    recorded.archive.values =
        [ sorting, view "c" "t" 2, view "b" "s" 5
        , view "a" "s" 0 ] ∧
      recorded.shelf.models.keys = [Identity.model 1] ∧
      recorded.assembled = 1 ∧
      recorded.shelfFault = false := by
  have hOwn : stocked.archive.own "t" = [view "c" "t" 2] := rfl
  rcases synthesize_cases stocked "t" none none with
    ⟨hNone, _⟩ | ⟨_, hFault, _⟩ | ⟨_, _, a, hModel, hAnswer⟩
  · rw [hOwn] at hNone
    cases hNone
  · cases hFault
  · have hId : a.id = Identity.model 1 :=
      (Application.assemble_fields hModel).1
    rw [recorded, hAnswer, ← hId]
    exact ⟨rfl, rfl, rfl, rfl⟩

/- A model of three patterns is recorded beside it. -/
theorem synthesize_recorded_stocked :
    Identity.model 2 ∉ recorded.shelf.models.keys ∧
      ∃ a,
        (recorded.synthesize "s" none none).1 = .ok a ∧
          (recorded.synthesize "s" none
              none).2.shelf.models.keys =
            [Identity.model 1, a.id] ∧
          (a.id, ["a", "d", "b"]) ∈
            (recorded.synthesize "s" none
              none).2.shelf.sources.entries ∧
          a.patternCount = 3 ∧
          a.patternTypes = ["list_view", "sort"] := by
  rcases recorded_spec with
    ⟨hValues, hKeys, hAssembled, hFault⟩
  have hFresh :
      Identity.model (recorded.assembled + 1) ∉
        recorded.shelf.models.keys := by
    rw [hKeys, hAssembled]
    decide +kernel
  have hCourse :
      (ofCatalog Table.empty 0 "1").course
          (savings ++ [.synthesize "t" none none]) =
        recorded := rfl
  rcases synthesize_recorded Table.empty 0 "1" hCourse hFresh
      "s" none none with
    ⟨_, hNone, hRefused, hFailures, hRecord⟩
  have hOwn :
      recorded.archive.own "s" =
        [sorting, view "b" "s" 5, view "a" "s" 0] := by
    rw [Archive.own, hValues]
    rfl
  have hTimeline :
      recorded.archive.Timeline "s"
        [view "a" "s" 0, sorting, view "b" "s" 5] := by
    refine ⟨by decide, fun time => ?_⟩
    rw [hOwn]
    by_cases hZero : (0 : Int) = time
    · rw [← hZero]
      rfl
    · by_cases hFive : (5 : Int) = time
      · rw [← hFive]
        rfl
      · simp [view, sorting, hZero, hFive]
  rw [hAssembled] at hFresh
  refine ⟨hFresh, ?_⟩
  cases hAnswer : (recorded.synthesize "s" none none).1 with
  | error f =>
      rcases (hFailures f hAnswer).2 with
        rfl | ⟨what, cause, rfl⟩
      · have hOthers := hNone.mp hAnswer
        rw [hValues] at hOthers
        exact absurd rfl (hOthers sorting List.mem_cons_self)
      · have hBoth := hRefused.mp ⟨what, cause, hAnswer⟩
        rw [hFault] at hBoth
        cases hBoth.2
  | ok a =>
      rcases hRecord a hAnswer with
        ⟨ps, hRead, _, _, hModels, hSources, hCount, hTypes⟩
      have hPatterns :
          ps = [view "a" "s" 0, sorting, view "b" "s" 5] :=
        hRead.eq_bySession.trans hTimeline.eq_bySession.symm
      rw [hPatterns] at hSources hCount hTypes
      refine ⟨a, rfl, ?_, ?_, hCount, hTypes⟩
      · have hAll :
            (recorded.synthesize "s" none
                none).2.shelf.models.keys =
              recorded.shelf.models.keys ++ [a.id] := by
          rw [Table.keys, hModels]
          exact List.map_append
        rw [hAll, hKeys]
        rfl
      · rw [hSources]
        exact List.mem_append_right _ List.mem_cons_self

end Workspace

end TraceMining
