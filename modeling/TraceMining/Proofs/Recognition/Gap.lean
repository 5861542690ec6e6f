import TraceMining.Proofs.Recognition.Noise
import TraceMining.Proofs.Recognition.Continuation

/-
  This file shows that an idle gap cuts a recording in two.
  If all later events are further from the earlier ones than
  the window of time is wide, an attempt that comes to the gap
  fails there just as it would for want of events; so what is
  found in all events is what is found before the gap, and
  then what is found behind it.

  Key definitions include:
    * `Matching.IsGap`

  Key theorems include:
    * `Matching.collect_append_of_late`
    * `Matching.found_append_of_gap`
    * `Definition.findMatches_append_of_gap`
-/

------------------------------------------------------------
-- Attempts Before a Gap
------------------------------------------------------------

namespace TraceMining

namespace Matching

variable {deadline : Int}
variable {es later : List Event}

/- Collecting that fails still does so before late events. -/
theorem collect_append_eq_none
    {qs : List Quota}
    (hLate : ∀ e ∈ later, deadline < e.timestamp)
    (hCollect : collect deadline es qs = none) :
    collect deadline (es ++ later) qs = none := by
  induction es generalizing qs with
  | nil =>
      cases qs with
      | nil => simp [collect] at hCollect
      | cons q qs =>
          -- It ran out of events; the next that comes is late.
          exact collect_eq_none_of_late hLate q qs
  | cons e es ih =>
      cases qs with
      | nil => simp [collect] at hCollect
      | cons q qs =>
          rw [List.cons_append]
          by_cases hTime : deadline < e.timestamp
          · exact collect_late hTime
          · by_cases hAccepts : q.rule.accepts e = true
            · rw [collect_accept hTime hAccepts] at hCollect ⊢
              rw [Option.map_eq_none_iff] at hCollect ⊢
              exact ih hCollect
            · rw [collect_reject hTime hAccepts] at hCollect ⊢
              exact ih hCollect

/- Late events make no difference to what is collected. -/
theorem collect_append_of_late
    (hLate : ∀ e ∈ later, deadline < e.timestamp)
    (qs : List Quota) :
    collect deadline (es ++ later) qs =
      (collect deadline es qs).map (Match.before later) := by
  by_cases hCollect : collect deadline es qs = none
  · rw [collect_append_eq_none hLate hCollect, hCollect]
    rfl
  · exact collect_append (Or.inr hCollect) later

end Matching

end TraceMining

------------------------------------------------------------
-- Scans Over a Gap
------------------------------------------------------------

namespace TraceMining

namespace Matching

/- All later events are further off than a window is wide. -/
def IsGap
    (timeout : Int)
    (es later : List Event) : Prop :=
  ∀ a ∈ es, ∀ b ∈ later, a.timestamp + timeout < b.timestamp

instance
    (timeout : Int)
    (es later : List Event) :
    Decidable (IsGap timeout es later) := by
  unfold IsGap
  infer_instance

variable {steps : List Rule}
variable {timeout : Int}
variable {es later : List Event}

/- Some of the earlier events are before the gap as well. -/
theorem IsGap.of_suffix
    {fs : List Event}
    (hGap : IsGap timeout es later)
    (hSuffix : fs <:+ es) :
    IsGap timeout fs later :=
  fun a hMember => hGap a (hSuffix.subset hMember)

/- An attempt from an earlier event ends before the gap. -/
theorem attempt_append_of_gap
    {e : Event}
    (hGap : IsGap timeout (e :: es) later) :
    attempt steps timeout (e :: (es ++ later)) =
      (attempt steps timeout (e :: es)).map
        (Match.before later) := by
  have hLate :
      ∀ b ∈ later, e.timestamp + timeout < b.timestamp :=
    hGap e List.mem_cons_self
  unfold attempt
  rw [← List.cons_append]
  exact collect_append_of_late hLate _

/- A scan over a gap is a scan up to it and one behind it. -/
theorem found_append_of_gap
    (hSteps : steps ≠ [])
    (hGap : IsGap timeout es later) :
    found steps timeout (es ++ later) =
      found steps timeout es ++ found steps timeout later := by
  induction es using scan_induction hSteps timeout with
  | nil => rfl
  | skip e es hAttempt ih =>
      have hSame :
          attempt steps timeout (e :: (es ++ later)) = none := by
        rw [attempt_append_of_gap hGap, hAttempt]
        rfl
      rw [List.cons_append, found_skip hSame,
        found_skip hAttempt]
      exact ih (hGap.of_suffix (List.suffix_cons e es))
  | found e es m hAttempt ih =>
      have hSame :
          attempt steps timeout (e :: (es ++ later)) =
            some (m.before later) := by
        rw [attempt_append_of_gap hGap, hAttempt]
        rfl
      have hRest : m.rest <:+ e :: es :=
        (rest_suffix_of_attempt hSteps hAttempt).trans
          (List.suffix_cons e es)
      rw [List.cons_append, found_match hSteps hSame,
        found_match hSteps hAttempt, List.cons_append]
      exact congrArg (List.cons m.events)
        (ih (hGap.of_suffix hRest))

end Matching

end TraceMining

------------------------------------------------------------
-- Patterns
------------------------------------------------------------

namespace TraceMining

namespace Definition

/-
  A valid definition finds over an idle gap what it finds
  before it, and then what it finds behind it; if a match on
  one side is no pattern, this is the failure of both.
-/
theorem findMatches_append_of_gap
    {d : Definition}
    {es later : List Event}
    (hValid : d.isValid = true)
    (hGap : Matching.IsGap d.rules.timeout es later) :
    d.findMatches (es ++ later) = (do
      let ps ← d.findMatches es
      let qs ← d.findMatches later
      return ps ++ qs) := by
  have hFound :
      d.matchedEvents (es ++ later) =
        d.matchedEvents es ++ d.matchedEvents later :=
    Matching.found_append_of_gap (allSound hValid).1 hGap
  rw [findMatches_eq_mapM hValid, findMatches_eq_mapM hValid,
    findMatches_eq_mapM hValid, hFound, List.mapM_append]

/- Three ticks of which the second came late. -/
def hastyTicks : List Event :=
  [Event.tick "a" 400, Event.tick "b" 0, Event.tick "c" 300]

/- Two ticks after a gap, again not in order. -/
def tardyTicks : List Event :=
  [Event.tick "d" 2000, Event.tick "e" 1500]

/- There is one pair before the gap and one behind it. -/
theorem findMatches_append_of_gap_ticks :
    (pair 1000).isValid = true ∧
      Matching.IsGap 1000 hastyTicks tardyTicks ∧
      ∃ ps qs,
        (pair 1000).findMatches hastyTicks = .ok ps ∧
          (pair 1000).findMatches tardyTicks = .ok qs ∧
          (pair 1000).findMatches (hastyTicks ++ tardyTicks) =
            .ok (ps ++ qs) ∧
          ps.length = 1 ∧ qs.length = 1 := by
  have hValid : (pair 1000).isValid = true :=
    pair_isValid (by decide)
  have hGap :
      Matching.IsGap (pair 1000).rules.timeout hastyTicks
        tardyTicks := by
    decide
  have hBefore :
      (pair 1000).matchedEvents hastyTicks =
        [[Event.tick "a" 400, Event.tick "b" 0]] := by
    rw [hastyTicks, matchedEvents_pair (by decide) (by decide),
      matchedEvents_pair_of_length_lt (by decide) (by decide)]
  have hBehind :
      (pair 1000).matchedEvents tardyTicks = [tardyTicks] := by
    rw [tardyTicks, matchedEvents_pair (by decide) (by decide),
      matchedEvents_pair_of_length_lt (by decide) (by decide)]
  have hMeans :
      (pair 1000).HasMeans hastyTicks ∧
        (pair 1000).HasMeans tardyTicks := by
    unfold HasMeans
    rw [hBefore, hBehind]
    decide +kernel
  rcases (exists_findMatches_iff hValid).mpr hMeans.1 with
    ⟨ps, hFirst⟩
  rcases (exists_findMatches_iff hValid).mpr hMeans.2 with
    ⟨qs, hSecond⟩
  refine ⟨hValid, hGap, ps, qs, hFirst, hSecond, ?_, ?_, ?_⟩
  · rw [findMatches_append_of_gap hValid hGap, hFirst, hSecond]
    rfl
  · rw [← ((findMatches_eq_ok_iff hValid).mp hFirst).length_eq,
      hBefore, List.length_singleton]
  · rw [← ((findMatches_eq_ok_iff hValid).mp hSecond).length_eq,
      hBehind, List.length_singleton]

end Definition

end TraceMining
