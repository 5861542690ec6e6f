import TraceMining.Proofs.Model.NavigationGroup

/-
  This file shows which screens a menu brings together.  Two
  screens are under one entry just if the segments behind the
  first slash of their paths are the same, or their paths if
  there is none.  The first segments that are not empty say
  the same as long as every path has one slash in front, or
  none anywhere; they do not where a path begins otherwise.

  Key definitions include:
    * `Navigation.Together`

  Key theorems include:
    * `Navigation.mem_places_ofGroup_iff`
    * `Navigation.together_iff`
    * `Navigation.together_iff_lead`
-/

------------------------------------------------------------
-- Screens under One Entry
------------------------------------------------------------

namespace TraceMining

namespace Navigation

/- One entry of a menu leads to both screens. -/
def Together
    (n : Navigation)
    (s t : Screen) : Prop :=
  ∃ i ∈ n.items, s.path ∈ i.places ∧ t.path ∈ i.places

instance
    (n : Navigation)
    (s t : Screen) :
    Decidable (n.Together s t) := by
  unfold Together
  infer_instance

variable {screens : List Screen}

/- The entry of a segment leads to the screens that have it. -/
theorem mem_places_ofGroup_iff
    {segment : String}
    {s : Screen}
    (hScreen : s ∈ screens) :
    s.path ∈
        (Item.ofGroup
          (segment,
            (sharing screens segment).map
              Link.ofScreen)).places ↔
      Naming.firstSegment s.path = segment := by
  rw [places_ofGroup, List.map_map, List.mem_map]
  constructor
  · rintro ⟨t, hSharing, hPath⟩
    have hSame : t.path = s.path := hPath
    rw [← hSame]
    exact (mem_sharing.mp hSharing).2
  · intro hSegment
    exact ⟨s, mem_sharing.mpr ⟨hScreen, hSegment⟩, rfl⟩

/- Screens are brought together by what they share. -/
theorem together_iff
    {s t : Screen}
    (hFirst : s ∈ screens)
    (hSecond : t ∈ screens) :
    (derive screens).Together s t ↔
      Naming.firstSegment s.path =
        Naming.firstSegment t.path := by
  rw [Together, items_derive]
  constructor
  · rintro ⟨i, hEntry, hHere, hThere⟩
    rcases List.mem_map.mp hEntry with ⟨k, _, rfl⟩
    rw [(mem_places_ofGroup_iff hFirst).mp hHere,
      (mem_places_ofGroup_iff hSecond).mp hThere]
  · intro hSame
    have hSegment :
        Naming.firstSegment s.path ∈ segments screens := by
      rw [segments, List.mem_eraseDups]
      exact List.mem_map_of_mem hFirst
    exact ⟨_, List.mem_map_of_mem hSegment,
      (mem_places_ofGroup_iff hFirst).mpr rfl,
      (mem_places_ofGroup_iff hSecond).mpr hSame.symm⟩

end Navigation

end TraceMining

------------------------------------------------------------
-- Leading Segments
------------------------------------------------------------

namespace TraceMining

namespace Navigation

variable {screens : List Screen}

/-
  Screens whose paths have segments are brought together by
  the first of these just if no two of the paths have in common
  only one of two things: this segment, and what stands behind
  the first slash.  None have if all of the paths are direct;
  of any other path the second segment is taken for the first,
  or the path itself.
-/
theorem together_iff_lead
    (hSegments :
      ∀ s ∈ screens, Naming.segments s.path ≠ []) :
    ((∀ s ∈ screens, ∀ t ∈ screens,
        (derive screens).Together s t ↔
          Naming.lead? s.path = Naming.lead? t.path) ↔
      ∀ s ∈ screens, ∀ t ∈ screens,
        Naming.firstSegment s.path =
            Naming.firstSegment t.path ↔
          Naming.lead? s.path = Naming.lead? t.path) ∧
      ((∀ s ∈ screens, Naming.IsDirect s.path) →
        ∀ s ∈ screens, ∀ t ∈ screens,
          (derive screens).Together s t ↔
            Naming.lead? s.path = Naming.lead? t.path) ∧
      ∀ s ∈ screens, ¬ Naming.IsDirect s.path →
        Naming.firstSegment s.path = s.path ∨
          (Naming.segments s.path)[1]? =
            some (Naming.firstSegment s.path) := by
  refine ⟨⟨?_, ?_⟩, ?_, ?_⟩
  · intro hClaim s hFirst t hSecond
    rw [← together_iff hFirst hSecond]
    exact hClaim s hFirst t hSecond
  · intro hAgree s hFirst t hSecond
    rw [together_iff hFirst hSecond]
    exact hAgree s hFirst t hSecond
  · intro hDirect s hFirst t hSecond
    rw [together_iff hFirst hSecond,
      Naming.lead?_of_direct (hSegments s hFirst)
        (hDirect s hFirst),
      Naming.lead?_of_direct (hSegments t hSecond)
        (hDirect t hSecond),
      Option.some.injEq]
  · intro s _ hOther
    exact Naming.firstSegment_of_not_direct hOther

/-
  One slash in front, or none; further slashes may be repeated
  and stand at the end.
-/
def directScreens : List Screen :=
  [ bare "Orders" "/orders"
  , bare "Menu" "menu"
  , bare "Archive" "/orders//archive"
  , bare "Menu" "/menu/" ]

/- What they share is their first segments. -/
theorem together_iff_lead_directScreens :
    (∀ s ∈ directScreens, Naming.segments s.path ≠ []) ∧
      (∀ s ∈ directScreens, Naming.IsDirect s.path) ∧
      (∀ s ∈ directScreens, ∀ t ∈ directScreens,
        (derive directScreens).Together s t ↔
          Naming.lead? s.path = Naming.lead? t.path) ∧
      (derive directScreens).items.map Item.places =
        [["/orders", "/orders//archive"], ["menu", "/menu/"]] := by
  have hSegments :
      ∀ s ∈ directScreens, Naming.segments s.path ≠ [] := by
    decide
  have hDirect :
      ∀ s ∈ directScreens, Naming.IsDirect s.path := by
    decide
  exact ⟨hSegments, hDirect,
    (together_iff_lead hSegments).2.1 hDirect, by decide⟩

/- Two relative paths, which begin with the same segment. -/
def relativeScreens : List Screen :=
  [ bare "App - Orders" "app/orders"
  , bare "App - Menu" "app/menu" ]

/- They are brought under two entries all the same. -/
theorem not_together_iff_lead_relativeScreens :
    (∀ s ∈ relativeScreens, Naming.segments s.path ≠ []) ∧
      ¬ ∀ s ∈ relativeScreens, ∀ t ∈ relativeScreens,
        (derive relativeScreens).Together s t ↔
          Naming.lead? s.path = Naming.lead? t.path := by
  decide

end Navigation

end TraceMining
