import TraceMining.Model.Navigation
import TraceMining.Proofs.Store.Groups

/-
  This file shows where a menu leads.  An entry leads to the
  places below it, or to its own if there are none; and the
  entries of a menu lead to each place that the menu was made
  of, as often as it was given.

  Key definitions include:
    * `Navigation.Item.places`
    * `Navigation.places`

  Key theorems include:
    * `Navigation.places_ofGroup`
    * `Navigation.places_ofLinks_perm`
    * `Navigation.places_derive_perm`
-/

------------------------------------------------------------
-- Places
------------------------------------------------------------

namespace TraceMining

namespace Navigation

/- The paths of the links below an entry, or else its own. -/
def Item.places
    (i : Item) : List String :=
  match i.children with
  | none => [i.link.path]
  | some ls => ls.map Link.path

/- The paths to which the entries of a menu lead. -/
def places
    (n : Navigation) : List String :=
  n.items.flatMap Item.places

/- The entry of a group leads to the places of the group. -/
theorem places_ofGroup
    (group : String × List Link) :
    (Item.ofGroup group).places =
      group.2.map Link.path := by
  rcases group with ⟨segment, links⟩
  match links with
  | [] => simp only [Item.ofGroup, Item.places]
  | [l] =>
      simp only [Item.ofGroup, Item.places, List.map_cons,
        List.map_nil]
  | l :: m :: ls => simp only [Item.ofGroup, Item.places]

/- The links are gathered under their first segments. -/
theorem groups_eq_gathered
    (links : List Link) :
    groups links =
      Table.gathered (fun l => Naming.firstSegment l.path)
        (fun _ => []) (fun l ls => ls ++ [l]) links := by
  unfold groups Table.gathered
  rfl

/- A menu leads to each place of which it was made. -/
theorem places_ofLinks_perm
    (links : List Link) :
    (ofLinks links).places.Perm (links.map Link.path) := by
  have hPlaces :
      (ofLinks links).places =
        ((groups links).entries.flatMap Prod.snd).map
          Link.path := by
    unfold places ofLinks
    simp only [List.flatMap_map, List.map_flatMap,
      places_ofGroup]
  rw [hPlaces, groups_eq_gathered]
  exact (Table.flatMap_gathered_perm
    (fun l : Link => Naming.firstSegment l.path) links).map _

/- The menu of some screens leads to each of them. -/
theorem places_derive_perm
    (screens : List Screen) :
    (derive screens).places.Perm (screens.map Screen.path) := by
  have hPaths :
      (screens.map Link.ofScreen).map Link.path =
        screens.map Screen.path := by
    rw [List.map_map]
    rfl
  rw [← hPaths]
  exact places_ofLinks_perm _

end Navigation

end TraceMining
