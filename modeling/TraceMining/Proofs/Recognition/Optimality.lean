import Mathlib.Order.Bounds.Defs
import TraceMining.Proofs.Matching.Outcome

/-
  This file shows that nothing is missed.  In ordered events a
  valid definition finds as many patterns as there are members
  in the largest family of its occurrences, although attempts
  start at events that need not be taken and the first match
  at hand is taken.  The one thing in the way is a match whose
  mean interval no binary number can hold.

  Key definitions include:
    * `Definition.familySizes`

  Key theorems include:
    * `Definition.matchedEvents_eq_nil_iff`
    * `Definition.isGreatest_length_matchedEvents`
    * `Definition.isGreatest_length_findMatches`
-/

------------------------------------------------------------
-- Matches
------------------------------------------------------------

namespace TraceMining

namespace Definition

variable {d : Definition}
variable {es : List Event}

/- How many members families of occurrences can have. -/
def familySizes
    (d : Definition)
    (es : List Event) : Set Nat :=
  { n | ∃ family,
      Matching.IsFamily d.demand d.rules.timeout es family ∧
        family.length = n }

/- There are as many matches as a family can have members. -/
theorem isGreatest_length_matchedEvents
    (hValid : d.isValid = true)
    (hOrder : Matching.InOrder es) :
    IsGreatest (d.familySizes es)
      (d.matchedEvents es).length := by
  constructor
  · rcases exists_family hValid hOrder with
      ⟨family, hFamily, hEvents⟩
    refine ⟨family, hFamily, ?_⟩
    rw [← hEvents, List.length_map]
  · rintro n ⟨family, hFamily, rfl⟩
    exact length_le_matchedEvents hValid hOrder hFamily

/- There is no match if there is no occurrence at all. -/
theorem matchedEvents_eq_nil_iff
    (hValid : d.isValid = true)
    (hOrder : Matching.InOrder es) :
    d.matchedEvents es = [] ↔
      ¬ ∃ ks, Matching.IsOccurrence d.demand d.rules.timeout
        es ks := by
  constructor
  · rintro hNone ⟨ks, hOccurrence⟩
    have hFamily :
        Matching.IsFamily d.demand d.rules.timeout es [ks] :=
      ⟨by simpa using hOccurrence, List.isChain_singleton ks⟩
    have hBound :=
      length_le_matchedEvents hValid hOrder hFamily
    rw [hNone] at hBound
    exact absurd hBound (by simp)
  · intro hNone
    rcases exists_family hValid hOrder with
      ⟨family, hFamily, hEvents⟩
    cases family with
    | nil => exact hEvents.symm
    | cons ks family =>
        exact absurd
          ⟨ks, hFamily.occurrences ks List.mem_cons_self⟩
          hNone

end Definition

end TraceMining

------------------------------------------------------------
-- Patterns
------------------------------------------------------------

namespace TraceMining

namespace Definition

variable {d : Definition}
variable {es : List Event}

/- As many patterns are found as there are matches. -/
theorem length_eq_of_findMatches
    (hValid : d.isValid = true)
    {ps : List Pattern}
    (hFound : d.findMatches es = .ok ps) :
    ps.length = (d.matchedEvents es).length :=
  ((findMatches_eq_ok_iff hValid).mp hFound).length_eq.symm

/- No pattern is found just if there is no match. -/
theorem findMatches_eq_ok_nil_iff
    (hValid : d.isValid = true) :
    d.findMatches es = .ok [] ↔ d.matchedEvents es = [] := by
  rw [findMatches_eq_ok_iff hValid,
    List.forall₂_nil_right_iff]

/-
  The patterns that are found are as many as a family of
  occurrences can have, just if every match has a mean
  interval.  Otherwise there is a failure and no pattern at
  all; a window below the bound on means rules that out.
-/
theorem isGreatest_length_findMatches
    (hValid : d.isValid = true)
    (hOrder : Matching.InOrder es) :
    ((∃ ps, d.findMatches es = .ok ps ∧
        IsGreatest (d.familySizes es) ps.length) ↔
      d.HasMeans es) ∧
    (¬ d.HasMeans es →
      d.findMatches es = .error .unboundedMean) ∧
    (d.findMatches es = .ok [] ↔
      ¬ ∃ ks, Matching.IsOccurrence d.demand d.rules.timeout
        es ks) ∧
    (d.rules.timeout < Binary.overflow → d.HasMeans es) := by
  refine ⟨⟨?_, ?_⟩, findMatches_eq_error hValid, ?_,
    hasMeans_of_timeout_lt hValid hOrder⟩
  · rintro ⟨ps, hFound, _⟩
    exact (exists_findMatches_iff hValid).mp ⟨ps, hFound⟩
  · intro hMeans
    rcases (exists_findMatches_iff hValid).mpr hMeans with
      ⟨ps, hFound⟩
    refine ⟨ps, hFound, ?_⟩
    rw [length_eq_of_findMatches hValid hFound]
    exact isGreatest_length_matchedEvents hValid hOrder
  · rw [findMatches_eq_ok_nil_iff hValid]
    exact matchedEvents_eq_nil_iff hValid hOrder

/- Ticks half a second apart are found as a pair. -/
theorem isGreatest_length_findMatches_pair :
    ∃ ps,
      (pair 1000).findMatches (Event.ticks 500) = .ok ps ∧
        IsGreatest ((pair 1000).familySizes (Event.ticks 500))
          ps.length := by
  have hValid : (pair 1000).isValid = true :=
    pair_isValid (by decide)
  have hOrder : Matching.InOrder (Event.ticks 500) := by
    decide
  have hWindow : (1000 : Int) < Binary.overflow := by
    decide +kernel
  rcases isGreatest_length_findMatches hValid hOrder with
    ⟨hFound, _, _, hMeans⟩
  exact hFound.mpr (hMeans hWindow)

/- A pair that is too far apart is a match, but is lost. -/
theorem findMatches_pair_eq_error
    {gap : Int}
    (hGap : (Binary.overflow : Int) ≤ gap) :
    (pair gap).findMatches (Event.ticks gap) =
      .error .unboundedMean := by
  have hPositive : 0 ≤ gap := by omega
  apply findMatches_eq_error (pair_isValid hPositive)
  intro hMeans
  have hMatched :=
    matchedEvents_pair hPositive
      (a := Event.tick "a" 0) (b := Event.tick "b" gap)
      (Int.le_of_eq (Int.zero_add gap).symm) []
  have hMean :=
    hMeans _ (hMatched ▸ List.mem_cons_self)
  rw [Matching.hasMean_pair_iff] at hMean
  simp only [Event.tick] at hMean
  omega

/- The least gap at which there is one match to be found. -/
theorem not_isGreatest_length_findMatches_pair :
    (pair Binary.overflow).isValid = true ∧
      Matching.InOrder (Event.ticks Binary.overflow) ∧
      IsGreatest
        ((pair Binary.overflow).familySizes
          (Event.ticks Binary.overflow)) 1 ∧
      ¬ ∃ ps,
        (pair Binary.overflow).findMatches
            (Event.ticks Binary.overflow) = .ok ps ∧
          ps.length = 1 := by
  have hPositive : (0 : Int) ≤ Binary.overflow :=
    Int.natCast_nonneg _
  have hValid := pair_isValid hPositive
  have hOrder :
      Matching.InOrder (Event.ticks Binary.overflow) :=
    List.pairwise_pair.mpr hPositive
  refine ⟨hValid, hOrder, ?_, ?_⟩
  · have hGreatest :=
      isGreatest_length_matchedEvents hValid hOrder
    have hTime :
        (Event.tick "b" Binary.overflow).timestamp ≤
          (Event.tick "a" 0).timestamp + Binary.overflow :=
      Int.le_of_eq (Int.zero_add _).symm
    rwa [Event.ticks, matchedEvents_pair hPositive hTime]
      at hGreatest
  · rintro ⟨ps, hFound, _⟩
    rw [findMatches_pair_eq_error (Int.le_refl _)] at hFound
    cases hFound

end Definition

end TraceMining
