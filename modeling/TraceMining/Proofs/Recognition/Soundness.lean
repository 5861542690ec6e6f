import Mathlib.Algebra.GroupWithZero.Nat
import TraceMining.Proofs.Matching.Outcome

/-
  This file shows what is known of the patterns that a valid
  definition finds in ordered events: each describes the
  events at some places, which are all that was asked for and
  lie within the window of time, and the places of one are
  behind those of the one before.

  Key definitions include:
    * `Definition.Describes`

  Key theorems include:
    * `Definition.length_demand`
    * `Definition.describes_of_toPattern`
    * `Definition.exists_places_of_findMatches`
-/

------------------------------------------------------------
-- Descriptions
------------------------------------------------------------

namespace TraceMining

namespace Definition

/- There is an event with some time at a place. -/
def IsTimeAt
    (es : List Event)
    (k : Option Nat)
    (time : Int) : Prop :=
  ∃ i e, k = some i ∧ es[i]? = some e ∧ e.timestamp = time

/- How many events a definition asks for. -/
def eventCount
    (d : Definition) : Nat :=
  (d.rules.sequence.map fun r => r.minOccurrences.toNat).sum

/- A pattern tells of the events at some places. -/
structure Describes
    (d : Definition)
    (es : List Event)
    (ks : List Nat)
    (p : Pattern) : Prop where
  placed : Matching.Placed d.demand es ks
  length : ks.length = d.eventCount
  eventIds :
    p.eventIds = (Matching.eventsAt es ks).map Event.id
  startTime : IsTimeAt es ks.head? p.startTime
  endTime : IsTimeAt es ks.getLast? p.endTime
  forward : 0 ≤ p.endTime - p.startTime
  inTime : p.endTime - p.startTime ≤ d.rules.timeout
  counted :
    p.metadata.get? "eventCount" = some (.int ks.length)
  duration :
    p.metadata.get? "duration" =
      some (.int (p.endTime - p.startTime))

/- What is asked for is as long as the steps say. -/
theorem length_demand
    (d : Definition) :
    d.demand.length = d.eventCount := by
  simp [demand, eventCount, List.length_flatMap]

variable {d : Definition}
variable {es : List Event}

/- A valid definition asks for some event. -/
theorem demand_ne_nil
    (hValid : d.isValid = true) :
    d.demand ≠ [] := by
  rw [← owed_quotas hValid]
  exact Matching.owed_quotas_ne_nil (allSound hValid).1

/- The pattern of an occurrence tells of its events. -/
theorem describes_of_toPattern
    (hValid : d.isValid = true)
    (hOrder : Matching.InOrder es)
    {ks : List Nat}
    {p : Pattern}
    (hOccurrence :
      Matching.IsOccurrence d.demand d.rules.timeout es ks)
    (hPattern :
      Matching.toPattern d (Matching.eventsAt es ks) = .ok p) :
    Describes d es ks p := by
  have hPlaced := hOccurrence.placed
  have hNonempty : ks ≠ [] := by
    rintro rfl
    exact demand_ne_nil hValid
      (List.eq_nil_of_length_eq_zero hPlaced.length_eq.symm)
  rcases hPlaced.exists_ends hNonempty with
    ⟨k, l, a, b, hFirst, hLast, hBegin, hEnd, hElapsed⟩
  rcases Matching.toPattern_fields hPattern with
    ⟨hIds, hStart, hStop, hMetadata⟩
  have hStartTime : p.startTime = a.timestamp := by
    rw [hStart, Matching.head?_eventsAt hPlaced hFirst, hBegin]
    rfl
  have hEndTime : p.endTime = b.timestamp := by
    rw [hStop, Matching.getLast?_eventsAt hPlaced hLast, hEnd]
    rfl
  have hDuration :
      Matching.elapsed (Matching.eventsAt es ks) =
        p.endTime - p.startTime := by
    rw [hElapsed, hStartTime, hEndTime]
  exact
    { placed := hPlaced
      length := by rw [hPlaced.length_eq, length_demand]
      eventIds := hIds
      startTime := ⟨k, a, hFirst, hBegin, hStartTime.symm⟩
      endTime := ⟨l, b, hLast, hEnd, hEndTime.symm⟩
      forward := by
        rw [← hDuration]
        exact Matching.elapsed_nonneg hOrder hPlaced
      inTime := by
        rw [← hDuration]
        exact hOccurrence.inTime
      counted := by
        rw [hMetadata, Matching.Summary.get?_eventCount,
          ← Matching.length_eventsAt hPlaced]
        rfl
      duration := by
        rw [hMetadata, Matching.Summary.get?_duration,
          ← hDuration]
        rfl }

end Definition

end TraceMining

------------------------------------------------------------
-- All Patterns
------------------------------------------------------------

namespace TraceMining

namespace Definition

variable {d : Definition}
variable {es : List Event}

/-
  The patterns tell of places that are apart from each other,
  and there are patterns unless some match has no mean
  interval.
-/
theorem exists_places_of_findMatches
    (hValid : d.isValid = true)
    (hOrder : Matching.InOrder es) :
    (∀ ps, d.findMatches es = .ok ps →
      ∃ family,
        List.Forall₂ (Describes d es) family ps ∧
          family.IsChain Matching.Precedes) ∧
    ((∃ ps, d.findMatches es = .ok ps) ↔ d.HasMeans es) ∧
    (¬ d.HasMeans es →
      d.findMatches es = .error .unboundedMean) := by
  refine ⟨?_, exists_findMatches_iff hValid,
    findMatches_eq_error hValid⟩
  intro ps hFound
  rcases exists_family hValid hOrder with
    ⟨family, hFamily, hEvents⟩
  have hPatterns := (findMatches_eq_ok_iff hValid).mp hFound
  rw [← hEvents, List.forall₂_map_left_iff] at hPatterns
  refine ⟨family, ?_, hFamily.apart⟩
  have hBoth :=
    (List.forall₂_and_left family ps).mpr
      ⟨hFamily.occurrences, hPatterns⟩
  exact hBoth.imp fun ks p hPair =>
    describes_of_toPattern hValid hOrder hPair.1 hPair.2

/- The places of the pair within a second. -/
theorem exists_places_of_findMatches_pair :
    ∃ ps family,
      (pair 1000).findMatches (Event.ticks 500) = .ok ps ∧
        List.Forall₂ (Describes (pair 1000) (Event.ticks 500))
          family ps ∧
            family.IsChain Matching.Precedes ∧
              ps.length = 1 := by
  have hValid : (pair 1000).isValid = true :=
    pair_isValid (by decide)
  have hOrder : Matching.InOrder (Event.ticks 500) := by
    decide
  have hMeans : (pair 1000).HasMeans (Event.ticks 500) :=
    hasMeans_of_timeout_lt hValid hOrder (by decide +kernel)
  rcases exists_places_of_findMatches hValid hOrder with
    ⟨hPlaces, hSome, _⟩
  rcases hSome.mpr hMeans with ⟨ps, hFound⟩
  rcases hPlaces ps hFound with ⟨family, hDescribed, hApart⟩
  refine ⟨ps, family, hFound, hDescribed, hApart, ?_⟩
  rw [← ((findMatches_eq_ok_iff hValid).mp hFound).length_eq,
    Event.ticks, matchedEvents_pair (by decide) (by decide)]
  rfl

end Definition

end TraceMining
