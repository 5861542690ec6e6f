import Mathlib.Data.List.Nodup
import Mathlib.Data.List.Pairwise
import TraceMining.Proofs.Recognition.Continuation

/-
  This file shows that no event is used twice.  The matches of
  a definition in ordered events stand at different places, so
  that they have no event identity in common if the events
  have different ones.  A match stays one as long as all that
  changes comes after its end, so that this also holds of
  matches that were found one after the other.

  Key theorems include:
    * `Matching.IsFamily.pairwise_lt`
    * `Matching.IsFamily.of_append`
    * `Matching.disjoint_ids_eventsAt`
    * `Definition.pairwise_disjoint_matchedEvents`
    * `Definition.mem_matchedEvents_of_append`
    * `Definition.disjoint_ids_of_ended`
-/

------------------------------------------------------------
-- Places
------------------------------------------------------------

namespace TraceMining

namespace Matching

/- Members of a family stand in order, place by place. -/
theorem IsFamily.pairwise_lt
    {steps : List Rule}
    {timeout : Int}
    (hSteps : steps ≠ [])
    {all : List Event}
    {family : List (List Nat)}
    (hFamily :
      IsFamily (owed (quotas steps)) timeout all family) :
    family.Pairwise fun ks ls =>
      ∀ k ∈ ks, ∀ l ∈ ls, k < l := by
  induction family with
  | nil => exact List.Pairwise.nil
  | cons ks family ih =>
      refine List.pairwise_cons.mpr ⟨?_, ih hFamily.tail⟩
      have hPlaced :=
        (hFamily.occurrences ks List.mem_cons_self).placed
      intro ls hLater k hHere l hThere
      have hInside := lt_behind hPlaced.increasing hHere 0
      have hBehind :=
        hFamily.tail_startsAt hSteps 0 ls hLater l hThere
      omega

/- The first members of a family are a family. -/
theorem IsFamily.left_of_append
    {demand : List Rule}
    {timeout : Int}
    {all : List Event}
    {firsts rest : List (List Nat)}
    (hFamily : IsFamily demand timeout all (firsts ++ rest)) :
    IsFamily demand timeout all firsts where
  occurrences ks hMember :=
    hFamily.occurrences ks (List.mem_append_left rest hMember)
  apart := hFamily.apart.left_of_append

/- Events at different places have different identities. -/
theorem disjoint_ids_eventsAt
    {es : List Event}
    (hIds : (es.map Event.id).Nodup)
    {ks ls : List Nat}
    (hPlaces : ∀ k ∈ ks, ∀ l ∈ ls, k < l) :
    ((eventsAt es ks).map Event.id).Disjoint
      ((eventsAt es ls).map Event.id) := by
  intro id hFirst hSecond
  rcases List.mem_map.mp hFirst with ⟨a, hA, rfl⟩
  rcases List.mem_map.mp hSecond with ⟨b, hB, hSame⟩
  rcases List.mem_filterMap.mp hA with ⟨k, hK, hAtK⟩
  rcases List.mem_filterMap.mp hB with ⟨l, hL, hAtL⟩
  have hPlace : k = l := by
    have hBound := (List.getElem?_eq_some_iff.mp hAtK).1
    apply (List.getElem?_inj (by simpa using hBound) hIds).mp
    rw [List.getElem?_map, List.getElem?_map, hAtK, hAtL,
      Option.map_some, Option.map_some, hSame]
  exact Nat.ne_of_lt (hPlaces k hK l hL) hPlace

/- No place goes beyond the last one. -/
theorem Placed.le_getLast
    {rs : List Rule}
    {es : List Event}
    {ks : List Nat}
    (hPlaced : Placed rs es ks)
    {l : Nat}
    (hLast : ks.getLast? = some l)
    {k : Nat}
    (hMember : k ∈ ks) :
    k ≤ l := by
  have hInside := lt_behind hPlaced.increasing hMember 0
  rw [behind_eq_of_getLast? hLast] at hInside
  exact Nat.le_of_lt_succ hInside

end Matching

end TraceMining

------------------------------------------------------------
-- Places in Front
------------------------------------------------------------

namespace TraceMining

namespace Matching

variable {es later : List Event}
variable {ks : List Nat}

/- Events at places in front do not depend on what follows. -/
theorem eventsAt_append
    (hInside : ∀ k ∈ ks, k < es.length) :
    eventsAt (es ++ later) ks = eventsAt es ks :=
  List.filterMap_congr fun k hMember =>
    List.getElem?_append_left (hInside k hMember)

/- Nor does it matter to the rules that they satisfy. -/
theorem Placed.of_append
    {rs : List Rule}
    (hPlaced : Placed rs (es ++ later) ks)
    (hInside : ∀ k ∈ ks, k < es.length) :
    Placed rs es ks := by
  induction rs generalizing ks with
  | nil => exact Placed.nil_iff.mpr (Placed.nil_iff.mp hPlaced)
  | cons r rs ih =>
      rcases Placed.cons_iff.mp hPlaced with
        ⟨k, ls, rfl, ⟨e, hEvent, hAccepts⟩, hTail, hBelow⟩
      rcases List.forall_mem_cons.mp hInside with
        ⟨hHead, hRest⟩
      rw [List.getElem?_append_left hHead] at hEvent
      exact Placed.cons_iff.mpr
        ⟨k, ls, rfl, ⟨e, hEvent, hAccepts⟩, ih hTail hRest,
          hBelow⟩

/- So a family in front is one without what follows. -/
theorem IsFamily.of_append
    {demand : List Rule}
    {timeout : Int}
    {family : List (List Nat)}
    (hFamily : IsFamily demand timeout (es ++ later) family)
    (hInside : ∀ ks ∈ family, ∀ k ∈ ks, k < es.length) :
    IsFamily demand timeout es family where
  occurrences := by
    intro ks hMember
    have hOccurrence := hFamily.occurrences ks hMember
    have hPlaces := hInside ks hMember
    refine ⟨hOccurrence.placed.of_append hPlaces, ?_⟩
    rw [← eventsAt_append hPlaces]
    exact hOccurrence.inTime
  apart := hFamily.apart

end Matching

end TraceMining

------------------------------------------------------------
-- Matches
------------------------------------------------------------

namespace TraceMining

namespace Definition

variable {d : Definition}
variable {es : List Event}

/- Matches have no event identity in common. -/
theorem pairwise_disjoint_matchedEvents
    (hValid : d.isValid = true)
    (hOrder : Matching.InOrder es)
    (hIds : (es.map Event.id).Nodup) :
    (d.matchedEvents es).Pairwise fun found others =>
      (found.map Event.id).Disjoint (others.map Event.id) := by
  rcases exists_family hValid hOrder with
    ⟨family, hFamily, hEvents⟩
  rw [← owed_quotas hValid] at hFamily
  rw [← hEvents, List.pairwise_map]
  exact (hFamily.pairwise_lt (allSound hValid).1).imp
    (Matching.disjoint_ids_eventsAt hIds)

/- A match has some event, and only events that are there. -/
theorem matchedEvents_spec
    (hValid : d.isValid = true)
    (hOrder : Matching.InOrder es)
    {found : List Event}
    (hFound : found ∈ d.matchedEvents es) :
    found ≠ [] ∧ found ⊆ es := by
  rcases exists_family hValid hOrder with
    ⟨family, hFamily, hEvents⟩
  rw [← owed_quotas hValid] at hFamily
  rw [← hEvents] at hFound
  rcases List.mem_map.mp hFound with ⟨ks, hMember, rfl⟩
  have hPlaced := (hFamily.occurrences ks hMember).placed
  constructor
  · rw [← List.length_pos_iff, Matching.length_eventsAt hPlaced,
      List.length_pos_iff]
    exact Matching.Placed.ne_nil (allSound hValid).1 hPlaced
  · intro e hEvent
    rcases List.mem_filterMap.mp hEvent with ⟨k, _, hAt⟩
    exact List.mem_of_getElem? hAt

end Definition

end TraceMining

------------------------------------------------------------
-- Matches That Ended
------------------------------------------------------------

namespace TraceMining

namespace Definition

variable {d : Definition}
variable {es later more : List Event}

/- Places that end before later events are in front of them. -/
theorem lt_length_of_ended
    {rs : List Rule}
    {ks : List Nat}
    (hPlaced : Matching.Placed rs (es ++ later) ks)
    (hEnded :
      ∀ e ∈ later,
        Matching.stamp
          (Matching.eventsAt (es ++ later) ks).getLast? <
            e.timestamp)
    {l : Nat}
    (hLast : ks.getLast? = some l) :
    l < es.length := by
  by_contra hOutside
  rw [Nat.not_lt] at hOutside
  rcases hPlaced.exists_event (List.mem_of_getLast? hLast)
    with ⟨e, hEvent⟩
  rw [Matching.getLast?_eventsAt hPlaced hLast, hEvent]
    at hEnded
  rw [List.getElem?_append_right hOutside] at hEvent
  exact Int.lt_irrefl _
    (hEnded e (List.mem_of_getElem? hEvent))

/- So are those of a family whose last member ends so. -/
theorem forall_lt_length_of_ended
    (hValid : d.isValid = true)
    {firsts : List (List Nat)}
    {ks : List Nat}
    (hFamily :
      Matching.IsFamily d.demand d.rules.timeout
        (es ++ later) (firsts ++ [ks]))
    (hEnded :
      ∀ e ∈ later,
        Matching.stamp
          (Matching.eventsAt (es ++ later) ks).getLast? <
            e.timestamp) :
    ∀ ls ∈ firsts ++ [ks], ∀ l ∈ ls, l < es.length := by
  rw [← owed_quotas hValid] at hFamily
  have hSteps := (allSound hValid).1
  have hPlaced :=
    (hFamily.occurrences ks (by simp)).placed
  have hSome := Matching.Placed.ne_nil hSteps hPlaced
  have hLast := List.getLast?_eq_some_getLast hSome
  have hBound := lt_length_of_ended hPlaced hEnded hLast
  have hOrdered := hFamily.pairwise_lt hSteps
  rw [List.pairwise_append] at hOrdered
  intro ls hMember l hPlace
  rcases List.mem_append.mp hMember with hFirst | hFinal
  · have hBelow := hOrdered.2.2 ls hFirst ks
      List.mem_cons_self l hPlace _ (List.getLast_mem hSome)
    exact Nat.lt_trans hBelow hBound
  · rw [List.mem_singleton] at hFinal
    rw [hFinal] at hPlace
    exact Nat.lt_of_le_of_lt
      (hPlaced.le_getLast hLast hPlace) hBound

/-
  A match that ended before other events is found without
  them.  Otherwise the matches up to it would be a family that
  has more members than there are matches.
-/
theorem mem_matchedEvents_of_append
    (hValid : d.isValid = true)
    (hOrder : Matching.InOrder (es ++ later))
    {found : List Event}
    (hFound : found ∈ d.matchedEvents (es ++ later))
    (hEnded :
      ∀ e ∈ later,
        Matching.stamp found.getLast? < e.timestamp) :
    found ∈ d.matchedEvents es := by
  rcases exists_family hValid hOrder with
    ⟨family, hFamily, hEvents⟩
  rcases exists_matchedEvents_append hValid es later with
    ⟨more, hMore⟩
  rw [hMore] at hFound hEvents
  rcases List.mem_append.mp hFound with hHere | hBehind
  · exact hHere
  · exfalso
    rcases List.append_of_mem hBehind with
      ⟨before, after, rfl⟩
    rw [← List.append_assoc] at hEvents
    rcases List.map_eq_append_iff.mp hEvents with
      ⟨firsts, rest, rfl, hFirsts, hRest⟩
    rcases List.map_eq_cons_iff.mp hRest with
      ⟨ks, others, rfl, rfl, _⟩
    rw [List.append_cons] at hFamily
    have hUpTo := hFamily.left_of_append
    have hInside :=
      forall_lt_length_of_ended hValid hUpTo hEnded
    have hBound :=
      length_le_matchedEvents hValid
        (hOrder.sublist (List.sublist_append_left _ _))
        (hUpTo.of_append hInside)
    have hLength := congrArg List.length hFirsts
    simp only [List.length_map, List.length_append,
      List.length_singleton] at hBound hLength
    omega

/-
  A match that is found, and another one that is found when
  nothing changed but what came after the end of the first,
  have no event identity in common.
-/
theorem disjoint_ids_of_ended
    (hValid : d.isValid = true)
    (hBefore : Matching.InOrder (es ++ later))
    (hAfter : Matching.InOrder (es ++ more))
    (hIds : ((es ++ more).map Event.id).Nodup)
    {found others : List Event}
    (hFound : found ∈ d.matchedEvents (es ++ later))
    (hOthers : others ∈ d.matchedEvents (es ++ more))
    (hEnded :
      ∀ e ∈ later,
        Matching.stamp found.getLast? < e.timestamp)
    (hDifferent : found ≠ others) :
    (found.map Event.id).Disjoint (others.map Event.id) := by
  have hEarly :=
    mem_matchedEvents_of_append hValid hBefore hFound hEnded
  have hThere : found ∈ d.matchedEvents (es ++ more) := by
    rcases exists_matchedEvents_append hValid es more with
      ⟨rest, hRest⟩
    rw [hRest]
    exact List.mem_append_left rest hEarly
  have hSymmetric :
      Std.Symm fun found others : List Event =>
        (found.map Event.id).Disjoint
          (others.map Event.id) :=
    ⟨fun _ _ => List.disjoint_symm⟩
  exact List.Pairwise.forall
    (pairwise_disjoint_matchedEvents hValid hAfter hIds)
    hThere hOthers hDifferent

end Definition

end TraceMining
