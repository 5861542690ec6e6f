import TraceMining.Proofs.Model.Application
import TraceMining.Proofs.Model.Navigation
import TraceMining.Proofs.Model.Screen
import TraceMining.Workspace.Synthesis

/-
  This file shows that the parts of a model agree with each
  other and with the patterns that the model was built from,
  whatever the metadata of the patterns is: each path that is
  visited has one screen, screens are linked to entities of
  the model, and the menu leads to each screen just once.

  Key definitions include:
    * `Application.IsConsistent`

  Key theorems include:
    * `Application.assemble_parts`
    * `Application.isConsistent_of_assemble`
    * `Workspace.build_consistent`
-/

------------------------------------------------------------
-- Models
------------------------------------------------------------

namespace TraceMining

namespace Application

/- A model agrees with itself and with some patterns. -/
structure IsConsistent
    (a : Application)
    (ps : List Pattern) : Prop where
  distinct : (a.screens.map Screen.path).Nodup
  visited :
    ∀ s,
      s ∈ a.screens.map Screen.path ↔
        ∃ p ∈ ps, ∃ path,
          p.metadata.getD "path" = .text path ∧
            path ≠ "" ∧ Naming.basePath path = s
  linked :
    ∀ s ∈ a.screens, ∀ name,
      s.entity = some name →
        ∃ e ∈ a.entities, e.name = name
  reached :
    a.navigation.places.Perm (a.screens.map Screen.path)

variable {serial : Nat}
variable {now : Int}
variable {labels : Labels}
variable {sessionId : String}
variable {ps : List Pattern}
variable {a : Application}

/- The parts of a model are derived from one another. -/
theorem assemble_parts
    (hModel :
      assemble serial now labels sessionId ps = .ok a) :
    a.entities = Entity.derive ps ∧
      a.screens = Screen.derive a.entities ps ∧
      a.navigation = Navigation.derive a.screens := by
  cases ps with
  | nil => cases hModel
  | cons p ps =>
      rw [← Except.ok.inj hModel]
      exact ⟨rfl, rfl, rfl⟩

/- So they agree with each other. -/
theorem isConsistent_of_assemble
    (hModel :
      assemble serial now labels sessionId ps = .ok a) :
    a.IsConsistent ps := by
  rcases assemble_parts hModel with
    ⟨_, hScreens, hNavigation⟩
  exact
    { distinct := by
        rw [hScreens]
        exact Screen.nodup_paths_derive a.entities ps
      visited := by
        intro s
        rw [hScreens]
        exact Screen.mem_paths_derive
      linked := by
        intro s hScreen name hEntity
        rw [hScreens] at hScreen
        exact Screen.exists_entity_of_derive hScreen hEntity
      reached := by
        rw [hNavigation]
        exact Navigation.places_derive_perm a.screens }

end Application

end TraceMining

------------------------------------------------------------
-- Building
------------------------------------------------------------

namespace TraceMining

namespace Workspace

/- A model is what is assembled from the given patterns. -/
theorem build_fst
    (w : Workspace)
    (sessionId : String)
    (ps : List Pattern)
    (name description : Option String) :
    (w.build sessionId ps name description).1 =
      Application.assemble (w.assembled + 1) w.now
        ⟨w.version, name, description⟩ sessionId ps := by
  unfold build
  dsimp only
  split
  · rename_i a hModel
    exact hModel.symm
  · rename_i f hModel
    exact hModel.symm

/-
  A model is built from any patterns, if there are some, and
  it is consistent.
-/
theorem build_consistent
    (w : Workspace)
    (sessionId : String)
    {ps : List Pattern}
    (hSome : ps ≠ [])
    (name description : Option String) :
    ∃ a,
      (w.build sessionId ps name description).1 = .ok a ∧
        a.IsConsistent ps := by
  rw [build_fst]
  rcases Application.exists_assemble_eq hSome with
    ⟨a, hModel⟩
  exact ⟨a, hModel,
    Application.isConsistent_of_assemble hModel⟩

/- A pattern that has some metadata. -/
def visitWith
    (metadata : Fields) : Pattern :=
  { id := "p"
    sessionId := "s"
    type := "list_view"
    confidence := 1
    startTime := 0
    endTime := 0
    eventIds := []
    metadata := metadata }

/- Visits to orders and customers, and one without a path. -/
def mixedVisits : List Pattern :=
  [ visitWith
      [("path", .text "/orders/5"), ("entityName", .text "Order")]
  , visitWith [("path", .int 5)]
  , visitWith [("path", .text "/customers")]
  , visitWith [("path", .text "/orders/new")] ]

/- Their model is consistent, and it has two screens. -/
theorem build_consistent_mixedVisits :
    ∃ a,
      ((ofCatalog Table.empty 0 "1").build "s" mixedVisits
          none none).1 = .ok a ∧
        a.IsConsistent mixedVisits ∧
        a.screens.map Screen.path =
          ["/orders", "/customers"] := by
  have hSome : mixedVisits ≠ [] := List.cons_ne_nil _ _
  rcases build_consistent (ofCatalog Table.empty 0 "1") "s"
      hSome none none with ⟨a, hBuilt, hConsistent⟩
  refine ⟨a, hBuilt, hConsistent, ?_⟩
  rw [build_fst] at hBuilt
  rcases Application.assemble_parts hBuilt with
    ⟨_, hScreens, _⟩
  rw [hScreens, Screen.paths_derive]
  decide

end Workspace

end TraceMining
