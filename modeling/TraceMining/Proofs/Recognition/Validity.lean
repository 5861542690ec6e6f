import TraceMining.Proofs.Matching.Outcome
import TraceMining.Schema.Document

/-
  This file shows that every pattern that a match becomes
  passes the check of patterns: its score is one of a few,
  all of them between zero and one, so that its document is
  read back as the pattern itself.

  Key theorems include:
    * `Matching.confidence_bounds`
    * `Schema.pattern_toValue`
    * `Matching.valid_of_toPattern`
-/

------------------------------------------------------------
-- Scores
------------------------------------------------------------

namespace TraceMining

namespace Matching

/- What a score may be before the bonus for pace. -/
def countScores : List Float :=
  [baseConfidence, baseConfidence + 0.1]

/- What pace may add to a score. -/
def paceBonuses : List Float :=
  [0.1, 0.05, 0]

/- The bonus for pace is one of them. -/
theorem paceBonus_mem
    (duration : Int)
    (gaps : Nat) :
    paceBonus duration gaps ∈ paceBonuses := by
  unfold paceBonus
  split
  · exact List.mem_cons_self
  · split
    · exact List.mem_cons_of_mem _ List.mem_cons_self
    · exact List.mem_cons_of_mem _
        (List.mem_cons_of_mem _ List.mem_cons_self)

/- Every score is between zero and one. -/
theorem confidence_bounds
    {es : List Event}
    {steps : Nat}
    {score : Float}
    (hScore : confidence es steps = .ok score) :
    0 ≤ score ∧ score ≤ 1 := by
  -- The scores are few enough to be computed.
  have hAlone :
      ∀ c ∈ countScores,
        0 ≤ Decimal.rounded 4 (min c 1) ∧
          Decimal.rounded 4 (min c 1) ≤ 1 := by
    decide +kernel
  have hPaced :
      ∀ c ∈ countScores, ∀ b ∈ paceBonuses,
        0 ≤ Decimal.rounded 4 (min (c + b) 1) ∧
          Decimal.rounded 4 (min (c + b) 1) ≤ 1 := by
    decide +kernel
  unfold confidence at hScore
  simp only at hScore
  have hCount :
      (if es.length = steps then baseConfidence + 0.1
        else baseConfidence) ∈ countScores := by
    split
    · exact List.mem_cons_of_mem _ List.mem_cons_self
    · exact List.mem_cons_self
  generalize (if es.length = steps then baseConfidence + 0.1
    else baseConfidence) = c at hScore hCount
  split at hScore
  · rw [← Except.ok.inj hScore]
    exact hAlone c hCount
  · split at hScore
    · cases hScore
    · rw [← Except.ok.inj hScore]
      exact hPaced c hCount _ (paceBonus_mem _ _)

end Matching

end TraceMining

------------------------------------------------------------
-- Documents
------------------------------------------------------------

namespace TraceMining

namespace Schema

/- Texts are read as they are. -/
theorem itemsFrom_text
    (i : Nat)
    (ss : List String) :
    itemsFrom text i (ss.map Value.text) = .valid ss := by
  induction ss generalizing i with
  | nil => rfl
  | cons s ss ih =>
      rw [List.map_cons, itemsFrom, ih]
      rfl

/- A list of texts is read as it is. -/
theorem listOf_text
    (ss : List String) :
    listOf text (.ofTexts ss) = .valid ss :=
  itemsFrom_text 0 ss

/- A number within bounds is read as it is. -/
theorem between_float
    {low high x : Float}
    (hLow : low ≤ x)
    (hHigh : x ≤ high) :
    between low high number (.float x) = .valid x := by
  simp [between, number, hLow, hHigh]

/- A pattern whose score is within bounds passes the check. -/
theorem pattern_toValue
    {p : Pattern}
    (hLow : 0 ≤ p.confidence)
    (hHigh : p.confidence ≤ 1) :
    pattern p.toValue = .valid p := by
  have hScore := between_float hLow hHigh
  have hEvents := listOf_text p.eventIds
  simp only [pattern, Pattern.toValue, model, patternFields,
    Pattern.toFields, required, optional, Fields.get?,
    Entries.get?_cons, String.reduceEq, if_true, if_false,
    hScore, hEvents]
  rfl

end Schema

/- So does every pattern that a match becomes. -/
theorem Matching.valid_of_toPattern
    {d : Definition}
    {es : List Event}
    {p : Pattern}
    (hPattern : toPattern d es = .ok p) :
    Schema.pattern p.toValue = .valid p := by
  rcases confidence_bounds (toPattern_origin hPattern).1 with
    ⟨hLow, hHigh⟩
  exact Schema.pattern_toValue hLow hHigh

end TraceMining
