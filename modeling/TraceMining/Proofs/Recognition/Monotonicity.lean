import Mathlib.Data.List.NodupEquivFin
import TraceMining.Proofs.Recognition.Optimality

/-
  This file shows that more events or more time never cost a
  match.  A scan of more events may take others, but the
  occurrences among some of them are occurrences among all,
  and a longer window has room for them; so a family of
  occurrences stays one, and no scan finds fewer matches than
  a family has members.

  Key definitions include:
    * `Matching.Embeds`

  Key theorems include:
    * `Matching.exists_embeds`
    * `Matching.Embeds.isFamily`
    * `Definition.length_matchedEvents_mono`
    * `Definition.length_findMatches_mono`
-/

------------------------------------------------------------
-- Places Among More Events
------------------------------------------------------------

namespace TraceMining

namespace Matching

/- Some events stand among others, each at a new place. -/
structure Embeds
    (place : Nat → Nat)
    (es more : List Event) : Prop where
  increasing : StrictMono place
  same : ∀ k, es[k]? = more[place k]?

/- Events that are left when others go stand among all. -/
theorem exists_embeds
    {es more : List Event}
    (hSublist : es.Sublist more) :
    ∃ place, Embeds place es more := by
  rcases List.sublist_iff_exists_orderEmbedding_getElem?_eq.mp
      hSublist with ⟨place, hPlace⟩
  exact ⟨place, place.strictMono, hPlace⟩

namespace Embeds

variable {place : Nat → Nat}
variable {es more : List Event}
variable {ks : List Nat}

/- The events at the new places are the same. -/
theorem eventsAt_map
    (hEmbeds : Embeds place es more)
    (ks : List Nat) :
    eventsAt more (ks.map place) = eventsAt es ks := by
  simp only [eventsAt, List.filterMap_map]
  apply List.filterMap_congr
  intro k _
  exact (hEmbeds.same k).symm

/- Places for rules stay places for them. -/
theorem placed
    (hEmbeds : Embeds place es more)
    {rs : List Rule}
    (hPlaced : Placed rs es ks) :
    Placed rs more (ks.map place) where
  increasing :=
    hPlaced.increasing.map place fun _ _ hLt =>
      hEmbeds.increasing hLt
  accepted := by
    rw [List.forall₂_map_right_iff]
    apply hPlaced.accepted.imp
    rintro r k ⟨e, hEvent, hAccepts⟩
    exact ⟨e, (hEmbeds.same k).symm.trans hEvent, hAccepts⟩

/- An occurrence stays one, also within a longer window. -/
theorem isOccurrence
    (hEmbeds : Embeds place es more)
    {demand : List Rule}
    {timeout longer : Int}
    (hTimeout : timeout ≤ longer)
    (hOccurrence : IsOccurrence demand timeout es ks) :
    IsOccurrence demand longer more (ks.map place) where
  placed := hEmbeds.placed hOccurrence.placed
  inTime := by
    rw [hEmbeds.eventsAt_map]
    exact Int.le_trans hOccurrence.inTime hTimeout

/- Places behind one another stay so. -/
theorem precedes
    (hEmbeds : Embeds place es more)
    {ls : List Nat}
    (hPrecedes : Precedes ks ls) :
    Precedes (ks.map place) (ls.map place) := by
  intro k hLast l hFirst
  rw [List.getLast?_map, Option.mem_map] at hLast
  rw [List.head?_map, Option.mem_map] at hFirst
  rcases hLast with ⟨i, hEnd, rfl⟩
  rcases hFirst with ⟨j, hBegin, rfl⟩
  exact hEmbeds.increasing (hPrecedes i hEnd j hBegin)

/- So a family stays a family. -/
theorem isFamily
    (hEmbeds : Embeds place es more)
    {demand : List Rule}
    {timeout longer : Int}
    (hTimeout : timeout ≤ longer)
    {family : List (List Nat)}
    (hFamily : IsFamily demand timeout es family) :
    IsFamily demand longer more
      (family.map (List.map place)) where
  occurrences := by
    intro ls hMember
    rcases List.mem_map.mp hMember with ⟨ks, hOld, rfl⟩
    exact hEmbeds.isOccurrence hTimeout
      (hFamily.occurrences ks hOld)
  apart := by
    rw [List.isChain_map]
    exact hFamily.apart.imp fun _ _ => hEmbeds.precedes

end Embeds

end Matching

end TraceMining

------------------------------------------------------------
-- More Matches
------------------------------------------------------------

namespace TraceMining

namespace Definition

variable {d longer : Definition}
variable {es more : List Event}

/- The same steps ask for the same. -/
theorem demand_congr
    (hSteps : longer.rules.sequence = d.rules.sequence) :
    longer.demand = d.demand := by
  rw [demand, hSteps]
  rfl

/- There are no fewer matches in more events and more time. -/
theorem length_matchedEvents_mono
    (hValid : d.isValid = true)
    (hLonger : longer.isValid = true)
    (hSteps : longer.rules.sequence = d.rules.sequence)
    (hTimeout : d.rules.timeout ≤ longer.rules.timeout)
    (hSublist : es.Sublist more)
    (hOrder : Matching.InOrder more) :
    (d.matchedEvents es).length ≤
      (longer.matchedEvents more).length := by
  rcases exists_family hValid (hOrder.sublist hSublist) with
    ⟨family, hFamily, hEvents⟩
  rcases Matching.exists_embeds hSublist with
    ⟨place, hEmbeds⟩
  have hStays := hEmbeds.isFamily hTimeout hFamily
  rw [← demand_congr hSteps] at hStays
  have hBound := length_le_matchedEvents hLonger hOrder hStays
  rw [List.length_map] at hBound
  rw [← hEvents, List.length_map]
  exact hBound

/-
  What is found in some events within some time is no more
  than what is found in more events within more time, just if
  all matches have a mean interval.  If those of the latter
  have not, it fails and finds nothing any more; a window
  below the bound on means rules that out.
-/
theorem length_findMatches_mono
    (hValid : d.isValid = true)
    (hLonger : longer.isValid = true)
    (hSteps : longer.rules.sequence = d.rules.sequence)
    (hTimeout : d.rules.timeout ≤ longer.rules.timeout)
    (hSublist : es.Sublist more)
    (hOrder : Matching.InOrder more) :
    (d.matchedEvents es).length ≤
        (longer.matchedEvents more).length ∧
    ((∃ ps qs,
        d.findMatches es = .ok ps ∧
          longer.findMatches more = .ok qs ∧
            ps.length ≤ qs.length) ↔
      d.HasMeans es ∧ longer.HasMeans more) ∧
    (¬ d.HasMeans es →
      d.findMatches es = .error .unboundedMean) ∧
    (¬ longer.HasMeans more →
      longer.findMatches more = .error .unboundedMean) ∧
    (longer.rules.timeout < Binary.overflow →
      d.HasMeans es ∧ longer.HasMeans more) := by
  have hLength :=
    length_matchedEvents_mono hValid hLonger hSteps hTimeout
      hSublist hOrder
  refine ⟨hLength, ⟨?_, ?_⟩, findMatches_eq_error hValid,
    findMatches_eq_error hLonger, ?_⟩
  · rintro ⟨ps, qs, hFirst, hSecond, _⟩
    exact ⟨(exists_findMatches_iff hValid).mp ⟨ps, hFirst⟩,
      (exists_findMatches_iff hLonger).mp ⟨qs, hSecond⟩⟩
  · rintro ⟨hMeans, hMeansMore⟩
    rcases (exists_findMatches_iff hValid).mpr hMeans with
      ⟨ps, hFirst⟩
    rcases (exists_findMatches_iff hLonger).mpr hMeansMore with
      ⟨qs, hSecond⟩
    refine ⟨ps, qs, hFirst, hSecond, ?_⟩
    rw [length_eq_of_findMatches hValid hFirst,
      length_eq_of_findMatches hLonger hSecond]
    exact hLength
  · intro hWindow
    exact
      ⟨hasMeans_of_timeout_lt hValid (hOrder.sublist hSublist)
        (by omega),
        hasMeans_of_timeout_lt hLonger hOrder hWindow⟩

/- A tick in front takes the place of another in the pair. -/
theorem length_findMatches_mono_pair :
    [Event.tick "b" 500, Event.tick "c" 900].Sublist
        (Event.ticks 500 ++ [Event.tick "c" 900]) ∧
      ∃ ps qs,
        (pair 400).findMatches
            [Event.tick "b" 500, Event.tick "c" 900] = .ok ps ∧
          (pair 1000).findMatches
              (Event.ticks 500 ++ [Event.tick "c" 900]) =
            .ok qs ∧
            ps.length ≤ qs.length ∧ ps.length = 1 := by
  have hValid : (pair 400).isValid = true :=
    pair_isValid (by decide)
  have hSublist :
      [Event.tick "b" 500, Event.tick "c" 900].Sublist
        (Event.ticks 500 ++ [Event.tick "c" 900]) :=
    List.sublist_cons_self _ _
  rcases length_findMatches_mono hValid
      (@pair_isValid 1000 (by decide)) rfl
      (by decide) hSublist (by decide) with
    ⟨_, hFound, _, _, hMeans⟩
  rcases hFound.mpr (hMeans (by decide +kernel)) with
    ⟨ps, qs, hFirst, hSecond, hLength⟩
  refine ⟨hSublist, ps, qs, hFirst, hSecond, hLength, ?_⟩
  rw [length_eq_of_findMatches hValid hFirst,
    matchedEvents_pair (by decide) (by decide)]
  rfl

/- A close pair of ticks, and one that is too far apart. -/
def farTicks : List Event :=
  Event.ticks 1 ++
    [Event.tick "c" 2, Event.tick "d" (2 + Binary.overflow)]

/- The latter has no mean interval. -/
theorem not_hasMeans_farTicks :
    ¬ (pair Binary.overflow).HasMeans farTicks := by
  have hPositive : (1 : Int) ≤ Binary.overflow := by
    decide +kernel
  intro hMeans
  have hMean :
      Matching.HasMean
        [Event.tick "c" 2,
          Event.tick "d" (2 + Binary.overflow)] := by
    apply hMeans
    rw [farTicks, Event.ticks, List.cons_append,
      List.cons_append,
      matchedEvents_pair (Int.le_trans (by decide) hPositive)
        (by simp only [Event.tick]; omega),
      List.nil_append,
      matchedEvents_pair (Int.le_trans (by decide) hPositive)
        (by simp only [Event.tick]; omega)]
    exact List.mem_cons_of_mem _ List.mem_cons_self
  rw [Matching.hasMean_pair_iff] at hMean
  simp only [Event.tick] at hMean
  omega

/- More ticks and more time cost the pair that was found. -/
theorem not_length_findMatches_mono_pair :
    (pair 1).isValid = true ∧
      (pair Binary.overflow).isValid = true ∧
      (1 : Int) ≤ Binary.overflow ∧
      (Event.ticks 1).Sublist farTicks ∧
      Matching.InOrder farTicks ∧
      (∃ ps,
        (pair 1).findMatches (Event.ticks 1) = .ok ps ∧
          ps.length = 1) ∧
      ¬ ∃ qs,
        (pair Binary.overflow).findMatches farTicks =
            .ok qs ∧
          1 ≤ qs.length := by
  have hPositive : (1 : Int) ≤ Binary.overflow := by
    decide +kernel
  have hValid : (pair 1).isValid = true :=
    pair_isValid (by decide)
  have hLonger : (pair Binary.overflow).isValid = true :=
    pair_isValid (Int.le_trans (by decide) hPositive)
  refine ⟨hValid, hLonger, hPositive,
    List.sublist_append_left _ _, by decide +kernel, ?_, ?_⟩
  · have hMeans : (pair 1).HasMeans (Event.ticks 1) :=
      hasMeans_of_timeout_lt hValid (by decide)
        (by decide +kernel)
    rcases (exists_findMatches_iff hValid).mpr hMeans with
      ⟨ps, hFound⟩
    refine ⟨ps, hFound, ?_⟩
    rw [length_eq_of_findMatches hValid hFound, Event.ticks,
      matchedEvents_pair (by decide) (by decide)]
    rfl
  · rintro ⟨qs, hFound, _⟩
    exact not_hasMeans_farTicks
      ((exists_findMatches_iff hLonger).mp ⟨qs, hFound⟩)

end Definition

end TraceMining
