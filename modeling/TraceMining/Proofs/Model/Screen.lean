import TraceMining.Model.Screen
import TraceMining.Proofs.Store.Groups

/-
  This file shows which screens follow from patterns.  There
  is one for each base of a path that some pattern visits, in
  the order in which the bases first came, and a screen that
  is linked to an entity is linked to one that there is.

  Key definitions include:
    * `Pattern.saying`
    * `Screen.visits`
    * `Screen.base`
    * `Screen.drafts`

  Key theorems include:
    * `Screen.mem_visits`
    * `Screen.foldl_fold_eq`
    * `Screen.paths_derive`
    * `Screen.mem_paths_derive`
    * `Screen.exists_entity_of_derive`
-/

------------------------------------------------------------
-- Visits
------------------------------------------------------------

namespace TraceMining

/- A value names something if it is a text with characters. -/
theorem Value.name?_eq_some_iff
    {v : Value}
    {s : String} :
    v.name? = some s ↔ v = .text s ∧ s ≠ "" := by
  cases v with
  | text t =>
      rw [Value.name?, Option.ite_none_left_eq_some,
        String.isEmpty_iff, Option.some.injEq,
        Value.text.injEq, and_comm]
      constructor
      · rintro ⟨rfl, hText⟩
        exact ⟨rfl, hText⟩
      · rintro ⟨rfl, hText⟩
        exact ⟨rfl, hText⟩
  | _ => simp [Value.name?]

/- A pattern of which only the type and metadata matter. -/
def Pattern.saying
    (type : String)
    (metadata : Fields) : Pattern :=
  { id := "p"
    sessionId := "s"
    type := type
    confidence := 1
    startTime := 0
    endTime := 0
    eventIds := []
    metadata := metadata }

namespace Screen

/- The patterns that visit a path, each with its path. -/
def visits
    (ps : List Pattern) : List (Pattern × String) :=
  ps.filterMap fun p => (p.name? "path").map (Prod.mk p)

/- The base of the path that is visited. -/
def base
    (v : Pattern × String) : String :=
  Naming.basePath v.2

/- The drafts of screens that some visits add up to. -/
def drafts
    (entities : List Entity)
    (vs : List (Pattern × String)) : Table ScreenDraft :=
  Table.gathered base
    (fun v => .opened (base v) v.1.type v.2)
    (fun v => ScreenDraft.absorb entities v.1) vs

/- Visits are by patterns that have a path. -/
theorem mem_visits
    {ps : List Pattern}
    {p : Pattern}
    {path : String} :
    (p, path) ∈ visits ps ↔
      p ∈ ps ∧
        p.metadata.getD "path" = .text path ∧ path ≠ "" := by
  rw [← Value.name?_eq_some_iff]
  simp [visits, Pattern.name?]

/- The fold over patterns gathers their visits. -/
theorem foldl_fold_eq
    (entities : List Entity)
    (ps : List Pattern) :
    ps.foldl (fold entities) Table.empty =
      drafts entities (visits ps) := by
  rw [drafts, Table.gathered, visits, List.foldl_filterMap]
  congr 1
  funext groups p
  rw [fold]
  cases p.name? "path" with
  | none => rfl
  | some path => rfl

end Screen

end TraceMining

------------------------------------------------------------
-- Paths
------------------------------------------------------------

namespace TraceMining

namespace Screen

variable {entities : List Entity}
variable {ps : List Pattern}

/- Every draft stands under its path. -/
theorem isNamed_drafts
    (entities : List Entity)
    (vs : List (Pattern × String)) :
    (drafts entities vs).IsNamed ScreenDraft.path := by
  apply Table.isNamed_gathered
  · intro v
    rfl
  · intro v s
    rfl

/- So the paths of screens are the keys of drafts. -/
theorem paths_derive_eq_keys
    (entities : List Entity)
    (ps : List Pattern) :
    (derive entities ps).map path =
      (drafts entities (visits ps)).keys := by
  rw [(isNamed_drafts entities _).keys_eq, derive,
    foldl_fold_eq, List.map_map]
  rfl

/- They are the bases that are visited. -/
theorem paths_derive
    (entities : List Entity)
    (ps : List Pattern) :
    (derive entities ps).map path =
      ((visits ps).map base).eraseDups := by
  rw [paths_derive_eq_keys, drafts, Table.keys_gathered]

/- No two screens have the same path. -/
theorem nodup_paths_derive
    (entities : List Entity)
    (ps : List Pattern) :
    ((derive entities ps).map path).Nodup := by
  rw [paths_derive_eq_keys]
  exact (drafts entities (visits ps)).nodup

/- There is a screen for the base of each path. -/
theorem mem_paths_derive
    {s : String} :
    s ∈ (derive entities ps).map path ↔
      ∃ p ∈ ps, ∃ path,
        p.metadata.getD "path" = .text path ∧
          path ≠ "" ∧ Naming.basePath path = s := by
  rw [paths_derive, List.mem_eraseDups, List.mem_map]
  constructor
  · rintro ⟨⟨p, path⟩, hVisit, hBase⟩
    rcases mem_visits.mp hVisit with ⟨hMember, hPath, hText⟩
    exact ⟨p, hMember, path, hPath, hText, hBase⟩
  · rintro ⟨p, hMember, path, hPath, hText, hBase⟩
    have hVisit : (p, path) ∈ visits ps :=
      mem_visits.mpr ⟨hMember, hPath, hText⟩
    exact ⟨(p, path), hVisit, hBase⟩

end Screen

end TraceMining

------------------------------------------------------------
-- Links
------------------------------------------------------------

namespace TraceMining

namespace ScreenDraft

variable {entities : List Entity}

/- A draft is linked to nothing or to one of some entities. -/
def IsLinked
    (entities : List Entity)
    (s : ScreenDraft) : Prop :=
  ∀ name,
    s.entity = some name → ∃ e ∈ entities, e.name = name

/- A pattern links to an entity that there is. -/
theorem exists_entity_of_linked?
    {p : Pattern}
    {name : String}
    (hLinked : linked? entities p = some name) :
    ∃ e ∈ entities, e.name = name := by
  rcases Option.map_eq_some_iff.mp hLinked with
    ⟨e, hFound, hName⟩
  rcases Option.bind_eq_some_iff.mp hFound with
    ⟨_, _, hFirst⟩
  exact ⟨e, List.mem_of_find?_eq_some hFirst, hName⟩

/- So a draft stays linked as it absorbs a pattern. -/
theorem IsLinked.absorb
    {s : ScreenDraft}
    (hLinked : s.IsLinked entities)
    (p : Pattern) :
    (s.absorb entities p).IsLinked entities := by
  intro name hName
  rcases Option.or_eq_some_iff.mp hName with
    hHere | ⟨_, hBefore⟩
  · exact exists_entity_of_linked? hHere
  · exact hLinked name hBefore

end ScreenDraft

namespace Screen

/- A screen that is linked has an entity behind it. -/
theorem exists_entity_of_derive
    {entities : List Entity}
    {ps : List Pattern}
    {s : Screen}
    (hScreen : s ∈ derive entities ps)
    {name : String}
    (hEntity : s.entity = some name) :
    ∃ e ∈ entities, e.name = name := by
  rw [derive, foldl_fold_eq] at hScreen
  rcases List.mem_map.mp hScreen with ⟨d, hDraft, rfl⟩
  rcases List.mem_map.mp hDraft with ⟨e, hEntry, rfl⟩
  refine Table.forall_entries_gathered
    (fun _ d => d.IsLinked entities) ?_ ?_ e hEntry name
    hEntity
  · intro v _ name hNone
    cases hNone
  · intro v _ d hLinked
    exact hLinked.absorb v.1

end Screen

end TraceMining
