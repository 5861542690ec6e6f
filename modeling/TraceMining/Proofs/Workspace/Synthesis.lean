import TraceMining.Proofs.Model.Application
import TraceMining.Proofs.Store.Timeline

/-
  This file shows what the synthesis of a model does, and that
  it depends on nothing but the patterns of its session: not
  on how they were saved, nor on the patterns of others, nor
  on whether the archive lists those as well.

  Key definitions include:
    * `Workspace.numbered`
    * `Workspace.Saves`

  Key theorems include:
    * `Workspace.saveModel_of_refused`
    * `Workspace.saveModel_of_kept`
    * `Workspace.saves_iff`
    * `Workspace.synthesizeFrom_of_none`
    * `Workspace.exists_synthesizeFrom_of_some`
    * `Workspace.synthesize_cases`
    * `Workspace.exists_synthesize_snd_eq`
    * `Workspace.synthesizeFrom_independent`
-/

------------------------------------------------------------
-- Synthesis
------------------------------------------------------------

namespace TraceMining

namespace Workspace

variable {w : Workspace}
variable {sessionId : String}
variable {listed : List Pattern}
variable {name description : Option String}

/- The workspace once another model has its number. -/
def numbered
    (w : Workspace) : Workspace :=
  { w with assembled := w.assembled + 1 }

/- A model that is refused changes nothing. -/
theorem saveModel_of_refused
    (hFault : w.shelfFault = true)
    (a : Application)
    (ps : List Pattern) :
    w.saveModel a ps =
      (.error
        (.persistence ("model " ++ a.id)
          Archive.diskFull.message), w) := by
  rw [saveModel, if_pos hFault]

/- Another is saved with the identities of its patterns. -/
theorem saveModel_of_kept
    (hFault : w.shelfFault = false)
    (a : Application)
    (ps : List Pattern) :
    w.saveModel a ps =
      (.ok a,
        { w with
          shelf := w.shelf.save a (ps.map Pattern.id) }) := by
  rw [saveModel, hFault]
  rfl

/-
  What saving a model comes to.  The shelf refuses it and has
  nothing more, or the model is the answer and stands on the
  shelf, with the identities of its patterns beside it.
-/
structure Saves
    (w : Workspace)
    (a : Application)
    (ps : List Pattern)
    (answer : Except Failure Application × Workspace) :
    Prop where
  refused :
    w.shelfFault = true →
      answer =
        (.error
          (.persistence ("model " ++ a.id)
            Archive.diskFull.message), w)
  kept :
    w.shelfFault = false →
      answer =
        (.ok a,
          { w with
            shelf :=
              { models := w.shelf.models.put a.id a
                sources :=
                  w.shelf.sources.put a.id
                    (ps.map Pattern.id) } })

/- It comes to nothing else. -/
theorem saves_iff
    {a : Application}
    {ps : List Pattern}
    {answer : Except Failure Application × Workspace} :
    w.Saves a ps answer ↔ answer = w.saveModel a ps := by
  constructor
  · intro hSaves
    cases hFault : w.shelfFault with
    | true =>
        rw [saveModel_of_refused hFault]
        exact hSaves.refused hFault
    | false =>
        rw [saveModel_of_kept hFault]
        exact hSaves.kept hFault
  · rintro rfl
    exact
      ⟨fun hFault => saveModel_of_refused hFault a ps,
        fun hFault => saveModel_of_kept hFault a ps⟩

/- Nothing happens if the session has no patterns. -/
theorem synthesizeFrom_of_none
    (hLists : w.archive.Lists sessionId listed)
    (hNone : w.archive.own sessionId = []) :
    w.synthesizeFrom listed sessionId name description =
      (.error (.noPatterns sessionId), w) := by
  have hEmpty := Archive.bySession_eq_nil_iff.mpr hNone
  rw [synthesizeFrom, hLists.ownPatterns_eq, hEmpty, build,
    Application.assemble_nil]

/- Otherwise a model of them is assembled and saved. -/
theorem exists_synthesizeFrom_of_some
    (hLists : w.archive.Lists sessionId listed)
    (hSome : w.archive.own sessionId ≠ []) :
    ∃ a,
      Application.assemble (w.assembled + 1) w.now
          ⟨w.version, name, description⟩ sessionId
          (w.archive.bySession sessionId) = .ok a ∧
        w.synthesizeFrom listed sessionId name description =
          w.numbered.saveModel a
            (w.archive.bySession sessionId) := by
  have hMore : w.archive.bySession sessionId ≠ [] :=
    fun hNone => hSome (Archive.bySession_eq_nil_iff.mp hNone)
  rcases Application.exists_assemble_eq hMore with
    ⟨a, hModel⟩
  refine ⟨a, hModel, ?_⟩
  rw [synthesizeFrom, hLists.ownPatterns_eq, build, hModel]
  rfl

/-
  Without patterns nothing happens; with some, a model is
  assembled, and the shelf refuses it or keeps it.
-/
theorem synthesize_cases
    (w : Workspace)
    (sessionId : String)
    (name : Option String)
    (description : Option String) :
    (w.archive.own sessionId = [] ∧
        w.synthesize sessionId name description =
          (.error (.noPatterns sessionId), w)) ∨
      (w.archive.own sessionId ≠ [] ∧
        w.shelfFault = true ∧
        ∃ what cause,
          w.synthesize sessionId name description =
            (.error (.persistence what cause), w.numbered)) ∨
      (w.archive.own sessionId ≠ [] ∧
        w.shelfFault = false ∧
        ∃ a,
          Application.assemble (w.assembled + 1) w.now
              ⟨w.version, name, description⟩ sessionId
              (w.archive.bySession sessionId) = .ok a ∧
            w.synthesize sessionId name description =
              (.ok a,
                { w.numbered with
                  shelf := w.shelf.save a
                    ((w.archive.bySession sessionId).map
                      Pattern.id) })) := by
  by_cases hNone : w.archive.own sessionId = []
  · exact Or.inl
      ⟨hNone, synthesizeFrom_of_none .ofSession hNone⟩
  · rcases exists_synthesizeFrom_of_some .ofSession hNone with
      ⟨a, hModel, hSaved⟩
    by_cases hFault : w.shelfFault = true
    · have hRefused :=
        saveModel_of_refused (w := w.numbered) hFault a
          (w.archive.bySession sessionId)
      exact Or.inr (Or.inl
        ⟨hNone, hFault, _, _, hSaved.trans hRefused⟩)
    · rw [Bool.not_eq_true] at hFault
      have hKept :=
        saveModel_of_kept (w := w.numbered) hFault a
          (w.archive.bySession sessionId)
      exact Or.inr (Or.inr
        ⟨hNone, hFault, a, hModel, hSaved.trans hKept⟩)

/- Nothing but the shelf changes, and the count of models. -/
theorem exists_synthesize_snd_eq
    (w : Workspace)
    (sessionId : String)
    (name : Option String)
    (description : Option String) :
    ∃ assembled shelf,
      (w.synthesize sessionId name description).2 =
        { w with
          assembled := assembled
          shelf := shelf } := by
  rcases synthesize_cases w sessionId name description with
    ⟨_, hAnswer⟩ | ⟨_, _, what, cause, hAnswer⟩ |
      ⟨_, _, a, _, hAnswer⟩
  · rw [hAnswer]
    exact ⟨w.assembled, w.shelf, rfl⟩
  · rw [hAnswer]
    exact ⟨w.assembled + 1, w.shelf, rfl⟩
  · rw [hAnswer]
    exact ⟨w.assembled + 1, _, rfl⟩

end Workspace

end TraceMining

------------------------------------------------------------
-- Independence
------------------------------------------------------------

namespace TraceMining

namespace Workspace

variable {w v : Workspace}
variable {sessionId : String}

/-
  Let two archives have the same patterns of a session, no two
  of which start together, whatever else was saved there and
  in whatever order, and let each list those of the session or
  all that it has.  Then a synthesis fails for want of
  patterns from both, or it saves the same model with the same
  patterns from both, but for the number of the model and the
  time.  The model is assembled from these patterns alone.
-/
theorem synthesizeFrom_independent
    (hVersion : v.version = w.version)
    {ps qs : List Pattern}
    (hFirst : w.archive = Archive.write Table.empty ps)
    (hSecond : v.archive = Archive.write Table.empty qs)
    (hSame :
      ∀ p, p.sessionId = sessionId →
        (p ∈ w.archive.values ↔ p ∈ v.archive.values))
    (hApart :
      ∀ p ∈ w.archive.own sessionId,
        ∀ q ∈ w.archive.own sessionId,
          p.startTime = q.startTime → p = q)
    {listed others : List Pattern}
    (hListed : w.archive.Lists sessionId listed)
    (hOthers : v.archive.Lists sessionId others)
    (name : Option String)
    (description : Option String) :
    (w.archive.own sessionId = [] →
      w.synthesizeFrom listed sessionId name description =
          (.error (.noPatterns sessionId), w) ∧
        v.synthesizeFrom others sessionId name description =
          (.error (.noPatterns sessionId), v)) ∧
    (w.archive.own sessionId ≠ [] →
      ∃ a own,
        w.archive.Timeline sessionId own ∧
          v.archive.Timeline sessionId own ∧
          Application.assemble (w.assembled + 1) w.now
              ⟨w.version, name, description⟩ sessionId own =
            .ok a ∧
          w.numbered.Saves a own
            (w.synthesizeFrom listed sessionId name
              description) ∧
          v.numbered.Saves
            (a.stamped (v.assembled + 1) v.now name) own
            (v.synthesizeFrom others sessionId name
              description)) := by
  have hLabelled : w.archive.IsLabelled := by
    rw [hFirst]
    exact Table.IsNamed.empty.putAll ps
  have hRelabelled : v.archive.IsLabelled := by
    rw [hSecond]
    exact Table.IsNamed.empty.putAll qs
  have hEqual :
      w.archive.bySession sessionId =
        v.archive.bySession sessionId :=
    Archive.bySession_eq_of_apart hLabelled hRelabelled hSame
      hApart
  have hAlike : w.archive.own sessionId = [] ↔
      v.archive.own sessionId = [] := by
    rw [← Archive.bySession_eq_nil_iff, hEqual,
      Archive.bySession_eq_nil_iff]
  constructor
  · intro hNone
    exact
      ⟨synthesizeFrom_of_none hListed hNone,
        synthesizeFrom_of_none hOthers (hAlike.mp hNone)⟩
  · intro hSome
    rcases exists_synthesizeFrom_of_some hListed hSome with
      ⟨a, hModel, hSaved⟩
    rcases exists_synthesizeFrom_of_some hOthers
        (fun hNone => hSome (hAlike.mpr hNone)) with
      ⟨b, hStamped, hAlso⟩
    rw [← hEqual, hVersion, Application.assemble_stamped,
      hModel] at hStamped
    rw [← hEqual, ← Except.ok.inj hStamped] at hAlso
    have hTimeline := Archive.timeline_bySession v.archive
      sessionId
    rw [← hEqual] at hTimeline
    exact ⟨a, w.archive.bySession sessionId,
      Archive.timeline_bySession _ _, hTimeline, hModel,
      saves_iff.mpr hSaved, saves_iff.mpr hAlso⟩

/- A pattern of a session at a time. -/
def view
    (id : String)
    (sessionId : String)
    (time : Int) : Pattern :=
  { id := id
    sessionId := sessionId
    type := "list_view"
    confidence := 1
    startTime := time
    endTime := time
    eventIds := []
    metadata := [("path", .text "/orders")] }

/- A workspace in which some patterns were saved. -/
def holding
    (ps : List Pattern) : Workspace :=
  { ofCatalog Table.empty 0 "1" with
    archive := Archive.write Table.empty ps }

/- Two patterns of one session and one of another. -/
def views : Workspace :=
  holding [view "a" "s" 0, view "c" "t" 2, view "b" "s" 5]

/- The two in another order, later, after other models. -/
def otherViews : Workspace :=
  { holding
      [ view "d" "u" 1, view "b" "s" 5, view "c" "u" 3
      , view "a" "s" 0 ] with
    assembled := 7
    now := 86400 }

/-
  They give the same model, and with it the identities of the
  same two patterns.
-/
theorem synthesizeFrom_independent_views :
    ∃ a b,
      b = a.stamped 8 86400 none ∧
        views.synthesizeFrom (views.archive.bySession "s") "s"
            none none =
          (.ok a,
            { views with
              assembled := 1
              shelf :=
                { models := Table.empty.put a.id a
                  sources :=
                    Table.empty.put a.id ["a", "b"] } }) ∧
        otherViews.synthesizeFrom otherViews.archive.values "s"
            none none =
          (.ok b,
            { otherViews with
              assembled := 8
              shelf :=
                { models := Table.empty.put b.id b
                  sources :=
                    Table.empty.put b.id ["a", "b"] } }) := by
  have hValues :
      views.archive.values =
        [view "a" "s" 0, view "c" "t" 2, view "b" "s" 5] :=
    Archive.values_write_of_nodup (by decide)
  have hOthers :
      otherViews.archive.values =
        [ view "d" "u" 1, view "b" "s" 5, view "c" "u" 3
        , view "a" "s" 0 ] :=
    Archive.values_write_of_nodup (by decide)
  have hOwn :
      views.archive.own "s" =
        [view "a" "s" 0, view "b" "s" 5] := by
    rw [Archive.own, hValues]
    rfl
  have hSame :
      ∀ p, p.sessionId = "s" →
        (p ∈ views.archive.values ↔
          p ∈ otherViews.archive.values) := by
    intro p hSession
    rw [hValues, hOthers]
    simp only [List.mem_cons, List.not_mem_nil, or_false]
    constructor
    · rintro (rfl | rfl | rfl)
      · exact Or.inr (Or.inr (Or.inr rfl))
      · exact absurd hSession (by decide)
      · exact Or.inr (Or.inl rfl)
    · rintro (rfl | rfl | rfl | rfl)
      · exact absurd hSession (by decide)
      · exact Or.inr (Or.inr rfl)
      · exact absurd hSession (by decide)
      · exact Or.inl rfl
  have hApart :
      ∀ p ∈ views.archive.own "s",
        ∀ q ∈ views.archive.own "s",
          p.startTime = q.startTime → p = q := by
    intro p hP q hQ hTime
    rw [hOwn, List.mem_pair] at hP hQ
    rcases hP with rfl | rfl
    · rcases hQ with rfl | rfl
      · rfl
      · exact absurd hTime (by decide)
    · rcases hQ with rfl | rfl
      · exact absurd hTime (by decide)
      · rfl
  rcases (synthesizeFrom_independent (w := views)
      (v := otherViews) rfl rfl rfl hSame hApart .ofSession
      .all none none).2 (by simp [hOwn]) with
    ⟨a, own, hTimeline, _, _, hSaved, hAlso⟩
  have hRead : own = [view "a" "s" 0, view "b" "s" 5] := by
    rw [hTimeline.eq_bySession, Archive.bySession,
      ← Archive.own, hOwn]
    exact Archive.byStart_eq_self (by decide)
  rw [hRead] at hSaved hAlso
  exact
    ⟨a, a.stamped 8 86400 none, rfl, hSaved.kept rfl,
      hAlso.kept rfl⟩

end Workspace

end TraceMining
