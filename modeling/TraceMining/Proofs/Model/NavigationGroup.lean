import TraceMining.Proofs.Model.Navigation
import TraceMining.Proofs.Naming.Path

/-
  This file shows what the menu of some screens is made of.
  There is an entry for each first segment among their paths,
  in the order in which the segments first came, and it shows
  the screens with that segment.  The path of an entry has
  the same first segment, whether it is the path of a screen
  or was made up from the segment; so different entries lead
  to different places.

  Key definitions include:
    * `Navigation.segments`
    * `Navigation.sharing`
    * `Navigation.Item.Shows`

  Key theorems include:
    * `Navigation.items_derive`
    * `Navigation.Item.shows_ofGroup`
    * `Navigation.firstSegment_path_of_shows`
    * `Navigation.derive_arranged`
-/

------------------------------------------------------------
-- Groups
------------------------------------------------------------

namespace TraceMining

namespace Navigation

/- The first segments of the paths of screens, in order. -/
def segments
    (screens : List Screen) : List String :=
  (screens.map fun s =>
    Naming.firstSegment s.path).eraseDups

/- No first segment is listed twice. -/
theorem nodup_segments
    (screens : List Screen) :
    (segments screens).Nodup :=
  Distinct.nodup_eraseDups _

/- The screens whose paths share a first segment, in order. -/
def sharing
    (screens : List Screen)
    (segment : String) : List Screen :=
  screens.filter fun s =>
    Naming.firstSegment s.path == segment

variable {screens : List Screen}
variable {segment : String}

/- They are those screens whose paths have it. -/
theorem mem_sharing
    {s : Screen} :
    s ∈ sharing screens segment ↔
      s ∈ screens ∧
        Naming.firstSegment s.path = segment := by
  rw [sharing, List.mem_filter, beq_iff_eq]

/- There are some for each of the segments. -/
theorem sharing_ne_nil
    (hSegment : segment ∈ segments screens) :
    sharing screens segment ≠ [] := by
  rw [segments, List.mem_eraseDups, List.mem_map] at hSegment
  rcases hSegment with ⟨s, hScreen, hHere⟩
  exact List.ne_nil_of_mem (mem_sharing.mpr ⟨hScreen, hHere⟩)

/- A menu has one entry for each of the segments. -/
theorem items_derive
    (screens : List Screen) :
    (derive screens).items =
      (segments screens).map fun k =>
        Item.ofGroup
          (k, (sharing screens k).map Link.ofScreen) := by
  have hGroups :
      (groups (screens.map Link.ofScreen)).entries =
        (segments screens).map fun k =>
          (k, (sharing screens k).map Link.ofScreen) := by
    rw [groups_eq_gathered,
      Table.entries_gathered (fun _ => []), List.map_map]
    simp only [List.foldl_append_eq_append, List.nil_append,
      ← List.flatMap_def, List.flatMap_singleton',
      List.filter_map]
    rfl
  rw [derive, ofLinks, hGroups, List.map_map]
  rfl

end Navigation

end TraceMining

------------------------------------------------------------
-- Entries
------------------------------------------------------------

namespace TraceMining

namespace Navigation

namespace Item

/-
  What an entry is, told from the screens that it is for: it
  has children if they are several, and these are all of them.
-/
structure Shows
    (segment : String)
    (screens : List Screen)
    (i : Item) : Prop where
  label : i.link.label = Naming.display segment
  icon : i.icon = Naming.icon segment
  parent : i.children.isSome = true ↔ 2 ≤ screens.length
  several :
    2 ≤ screens.length →
      i.link.path = "/" ++ segment ∧
        i.children =
          some (screens.map fun s => ⟨s.name, s.path⟩)
  alone :
    i.children = none →
      ∃ s, screens = [s] ∧ i.link.path = s.path

variable {screens : List Screen}
variable {segment : String}

/- The entry of a group shows its screens. -/
theorem shows_ofGroup
    (hSome : screens ≠ []) :
    Shows segment screens
      (ofGroup (segment, screens.map Link.ofScreen)) := by
  match screens, hSome with
  | [s], _ =>
      exact
        { label := rfl
          icon := rfl
          parent := by simp [ofGroup]
          several := by simp
          alone := fun _ => ⟨s, rfl, rfl⟩ }
  | s :: t :: more, _ =>
      exact
        { label := rfl
          icon := rfl
          parent := by simp [ofGroup]
          several := fun _ => ⟨rfl, rfl⟩
          alone := by simp [ofGroup] }

end Item

end Navigation

end TraceMining

------------------------------------------------------------
-- Menus
------------------------------------------------------------

namespace TraceMining

namespace Navigation

variable {screens : List Screen}

/-
  The path of an entry has the first segment that the entry
  is for.  Several screens with different paths only share
  what can stand between slashes, so this also holds of a
  path that was made up.
-/
theorem firstSegment_path_of_shows
    (hDistinct : (screens.map Screen.path).Nodup)
    {segment : String}
    {i : Item}
    (hShows : i.Shows segment (sharing screens segment)) :
    Naming.firstSegment i.link.path = segment := by
  by_cases hSeveral : 2 ≤ (sharing screens segment).length
  · have hPaths :
        ((sharing screens segment).map Screen.path).Nodup :=
      hDistinct.sublist (List.filter_sublist.map Screen.path)
    rw [(hShows.several hSeveral).1]
    apply Naming.firstSegment_slash
    match hGroup : sharing screens segment with
    | [] => simp [hGroup] at hSeveral
    | [s] => simp [hGroup] at hSeveral
    | s :: t :: more =>
        have hFirst : s ∈ sharing screens segment := by
          simp [hGroup]
        have hSecond : t ∈ sharing screens segment := by
          simp [hGroup]
        have hOther : s.path ≠ t.path := by
          rw [hGroup, List.map_cons, List.map_cons,
            List.nodup_cons, List.mem_cons, not_or] at hPaths
          exact hPaths.1.1
        exact Naming.isSegment_of_shared hOther
          (mem_sharing.mp hFirst).2 (mem_sharing.mp hSecond).2
  · rw [← hShows.parent, Option.not_isSome_iff_eq_none]
      at hSeveral
    rcases hShows.alone hSeveral with ⟨s, hGroup, hPath⟩
    have hAlone : s ∈ sharing screens segment := by
      simp [hGroup]
    rw [hPath]
    exact (mem_sharing.mp hAlone).2

/-
  The menu of screens with different paths has an entry for
  each first segment, in the order of first appearance, which
  shows the screens that share it.  Different entries have
  different paths, and more than five entries go to the side.
-/
theorem derive_arranged
    (hDistinct : (screens.map Screen.path).Nodup) :
    ((derive screens).items.map fun i => i.link.path).Nodup ∧
      List.Forall₂
        (fun k i => i.Shows k (sharing screens k))
        (segments screens) (derive screens).items ∧
      ((derive screens).placement = .sidebar ↔
        5 < (derive screens).items.length) := by
  have hShows :
      ∀ k ∈ segments screens,
        (Item.ofGroup
            (k, (sharing screens k).map Link.ofScreen)).Shows
          k (sharing screens k) := by
    intro k hSegment
    exact Item.shows_ofGroup (sharing_ne_nil hSegment)
  refine ⟨?_, ?_, ?_⟩
  · rw [items_derive, List.map_map]
    refine List.Nodup.map_on ?_ (nodup_segments screens)
    intro k hHere l hThere hSame
    rw [← firstSegment_path_of_shows hDistinct (hShows k hHere),
      ← firstSegment_path_of_shows hDistinct
        (hShows l hThere)]
    exact congrArg Naming.firstSegment hSame
  · rw [items_derive, List.forall₂_map_right_iff,
      List.forall₂_same]
    exact hShows
  · unfold derive ofLinks mostTabs
    dsimp only
    split
    · rename_i hMany
      exact ⟨fun _ => hMany, fun _ => rfl⟩
    · rename_i hFew
      exact ⟨nofun, fun hMany => absurd hMany hFew⟩

/- A screen of which only the name and the path are known. -/
def bare
    (name : String)
    (path : String) : Screen :=
  { name := name
    path := path
    kind := .custom
    components := []
    actions := []
    entity := none }

/-
  Two paths behind a slash share a segment, as do a path with
  a slash and one without, and the last one is a whole path.
-/
def mixedScreens : List Screen :=
  [ bare "Orders" "/orders"
  , bare "Menu" "menu"
  , bare "Archive" "/orders/archive"
  , bare "Menu" "/menu"
  , bare "Items" "//items" ]

/- They are arranged in three entries. -/
theorem derive_arranged_mixedScreens :
    (mixedScreens.map Screen.path).Nodup ∧
      ((derive mixedScreens).items.map fun i =>
        i.link.path).Nodup ∧
      List.Forall₂
        (fun k i => i.Shows k (sharing mixedScreens k))
        (segments mixedScreens) (derive mixedScreens).items ∧
      ((derive mixedScreens).placement = .sidebar ↔
        5 < (derive mixedScreens).items.length) ∧
      (derive mixedScreens).items.map (fun i => i.link.path) =
        ["/orders", "/menu", "//items"] := by
  have hDistinct : (mixedScreens.map Screen.path).Nodup := by
    decide
  rcases derive_arranged hDistinct with
    ⟨hPaths, hShows, hPlacement⟩
  exact ⟨hDistinct, hPaths, hShows, hPlacement, by decide⟩

end Navigation

end TraceMining
