import TraceMining.Definition.BuiltIn
import TraceMining.Proofs.Matching.Outcome

/-
  This file shows that events which satisfy no step make no
  difference.  Without them every attempt has the same
  outcome: an event that is left out is never taken, and if
  it is past the deadline, so are all events behind it.  Only
  the event that an attempt starts from may go, which puts the
  deadline off and keeps the match.

  Key definitions include:
    * `Definition.concerns`

  Key theorems include:
    * `Matching.collect_mono`
    * `Matching.collect_filter`
    * `Matching.found_filter`
    * `Definition.findMatches_filter_concerns`
-/

------------------------------------------------------------
-- Deadlines
------------------------------------------------------------

namespace TraceMining

namespace Matching

/- A later deadline keeps what was collected. -/
theorem collect_mono
    {deadline later : Int}
    {es : List Event}
    {qs : List Quota}
    {m : Match}
    (hLater : deadline ≤ later)
    (hCollect : collect deadline es qs = some m) :
    collect later es qs = some m := by
  induction es generalizing qs m with
  | nil =>
      cases qs with
      | nil => exact hCollect
      | cons q qs => simp [collect] at hCollect
  | cons e es ih =>
      cases qs with
      | nil => exact hCollect
      | cons q qs =>
          rcases collect_cons_eq_some hCollect with
            ⟨hTime, ⟨hAccepts, n, hRest, rfl⟩ |
              ⟨hRejects, hRest⟩⟩
          · rw [collect_accept (by omega) hAccepts, ih hRest]
            rfl
          · rw [collect_reject (by omega) hRejects, ih hRest]

/- Nothing is collected from events past the deadline. -/
theorem collect_eq_none_of_late
    {deadline : Int}
    {es : List Event}
    (hLate : ∀ e ∈ es, deadline < e.timestamp)
    (q : Quota)
    (qs : List Quota) :
    collect deadline es (q :: qs) = none := by
  cases es with
  | nil => rfl
  | cons e es => exact collect_late (hLate e List.mem_cons_self)

end Matching

end TraceMining

------------------------------------------------------------
-- Leaving Events Out
------------------------------------------------------------

namespace TraceMining

namespace Matching

variable {relevant : Event → Bool}

/- A match without the irrelevant events that it leaves. -/
def Match.only
    (relevant : Event → Bool)
    (m : Match) : Match :=
  { m with rest := m.rest.filter relevant }

/- Every event that a quota accepts is relevant. -/
def Covers
    (relevant : Event → Bool)
    (qs : List Quota) : Prop :=
  ∀ q ∈ qs, ∀ e, q.rule.accepts e = true → relevant e = true

/- This stays so while events are taken. -/
theorem Covers.taken
    {q : Quota}
    {qs : List Quota}
    (hCovers : Covers relevant (q :: qs)) :
    Covers relevant (q.taken qs) := by
  intro p hMember
  unfold Quota.taken at hMember
  split at hMember
  · exact hCovers p (List.mem_cons_of_mem q hMember)
  · rcases List.mem_cons.mp hMember with rfl | hMember
    · exact hCovers q List.mem_cons_self
    · exact hCovers p (List.mem_cons_of_mem q hMember)

/- Collecting takes the same from the relevant events. -/
theorem collect_filter
    (deadline : Int)
    {es : List Event}
    {qs : List Quota}
    (hOrder : InOrder es)
    (hCovers : Covers relevant qs) :
    collect deadline (es.filter relevant) qs =
      (collect deadline es qs).map
        (Match.only relevant) := by
  induction es generalizing qs with
  | nil => cases qs <;> rfl
  | cons e es ih =>
      rcases List.pairwise_cons.mp hOrder with
        ⟨hHead, hTail⟩
      cases qs with
      | nil => simp [collect, Match.only]
      | cons q qs =>
          by_cases hLate : deadline < e.timestamp
          · -- Events behind a late event are late as well.
            rw [collect_late hLate]
            apply collect_eq_none_of_late
            intro a hMember
            rcases List.mem_cons.mp
                (List.mem_of_mem_filter hMember) with
              rfl | hMember
            · exact hLate
            · have hLater := hHead a hMember
              omega
          · by_cases hAccepts : q.rule.accepts e = true
            · have hRelevant : relevant e = true :=
                hCovers q List.mem_cons_self e hAccepts
              rw [List.filter_cons_of_pos hRelevant,
                collect_accept hLate hAccepts,
                collect_accept hLate hAccepts,
                ih hTail hCovers.taken, Option.map_map,
                Option.map_map]
              rfl
            · rw [collect_reject hLate hAccepts,
                ← ih hTail hCovers]
              by_cases hRelevant : relevant e = true
              · rw [List.filter_cons_of_pos hRelevant,
                  collect_reject hLate hAccepts]
              · rw [List.filter_cons_of_neg hRelevant]

end Matching

end TraceMining

------------------------------------------------------------
-- Scans
------------------------------------------------------------

namespace TraceMining

namespace Matching

variable {steps : List Rule}
variable {timeout : Int}

/- The event satisfies some step. -/
def fitsSome
    (steps : List Rule)
    (e : Event) : Bool :=
  steps.any fun r => r.accepts e

/- Every event that a step accepts satisfies some step. -/
theorem covers_quotas
    (steps : List Rule) :
    Covers (fitsSome steps) (quotas steps) := by
  intro q hMember e hAccepts
  rcases List.mem_map.mp hMember with ⟨r, hStep, rfl⟩
  exact List.any_eq_true.mpr ⟨r, hStep, hAccepts⟩

/-
  A match of events in order is one of the relevant events
  alone, which may start later.
-/
theorem attempt_filter_of_some
    (hSteps : steps ≠ [])
    {e : Event}
    {es : List Event}
    {m : Match}
    (hOrder : InOrder (e :: es))
    (hAttempt : attempt steps timeout (e :: es) = some m) :
    ∃ f fs, (e :: es).filter (fitsSome steps) = f :: fs ∧
      attempt steps timeout (f :: fs) =
        some (m.only (fitsSome steps)) := by
  have hCollect :
      collect (e.timestamp + timeout)
          ((e :: es).filter (fitsSome steps)) (quotas steps) =
        some (m.only (fitsSome steps)) := by
    rw [collect_filter _ hOrder (covers_quotas steps)]
    exact Option.map_eq_some_iff.mpr ⟨m, hAttempt, rfl⟩
  cases hRelevant : (e :: es).filter (fitsSome steps) with
  | nil =>
      rw [hRelevant] at hCollect
      cases steps with
      | nil => exact absurd rfl hSteps
      | cons r rs => cases hCollect
  | cons f fs =>
      refine ⟨f, fs, rfl, ?_⟩
      rw [hRelevant] at hCollect
      have hMember : f ∈ e :: es := by
        apply List.mem_of_mem_filter (p := fitsSome steps)
        rw [hRelevant]
        exact List.mem_cons_self
      have hLater : e.timestamp ≤ f.timestamp := by
        rcases List.mem_cons.mp hMember with rfl | hMember
        · exact Int.le_refl _
        · exact (List.pairwise_cons.mp hOrder).1 f hMember
      exact collect_mono (by omega) hCollect

/- A scan finds the same among the relevant events. -/
theorem found_filter
    (hSteps : steps ≠ [])
    {es : List Event}
    (hOrder : InOrder es) :
    found steps timeout (es.filter (fitsSome steps)) =
      found steps timeout es := by
  induction es using scan_induction hSteps timeout with
  | nil => rfl
  | skip e es hAttempt ih =>
      have hTail := (List.pairwise_cons.mp hOrder).2
      rw [found_skip hAttempt, ← ih hTail]
      by_cases hFits : fitsSome steps e = true
      · have hFiltered :
            attempt steps timeout
              ((e :: es).filter (fitsSome steps)) = none := by
          rw [List.filter_cons_of_pos hFits]
          have hCollect :=
            collect_filter (e.timestamp + timeout) hOrder
              (covers_quotas steps)
          rw [List.filter_cons_of_pos hFits] at hCollect
          exact hCollect.trans
            (congrArg (Option.map _) hAttempt)
        rw [List.filter_cons_of_pos hFits] at hFiltered ⊢
        exact found_skip hFiltered
      · rw [List.filter_cons_of_neg hFits]
  | found e es m hAttempt ih =>
      rcases attempt_filter_of_some hSteps hOrder hAttempt with
        ⟨f, fs, hFiltered, hSame⟩
      have hRest : InOrder m.rest :=
        (List.pairwise_cons.mp hOrder).2.sublist
          (rest_suffix_of_attempt hSteps hAttempt).sublist
      rw [hFiltered, found_match hSteps hSame,
        found_match hSteps hAttempt, ← ih hRest]
      rfl

end Matching

end TraceMining

------------------------------------------------------------
-- Definitions
------------------------------------------------------------

namespace TraceMining

namespace Definition

/- The event satisfies some step of the definition. -/
def concerns
    (d : Definition)
    (e : Event) : Bool :=
  Matching.fitsSome d.rules.sequence e

/-
  A valid definition finds the same patterns among the events
  that concern it, and so in any ordered events among which
  the same ones concern it.
-/
theorem findMatches_filter_concerns
    {d : Definition}
    {es : List Event}
    (hValid : d.isValid = true)
    (hOrder : Matching.InOrder es) :
    d.findMatches (es.filter d.concerns) =
        d.findMatches es ∧
      ∀ others, Matching.InOrder others →
        others.filter d.concerns = es.filter d.concerns →
          d.findMatches others = d.findMatches es := by
  have hFilter :
      ∀ events, Matching.InOrder events →
        d.findMatches (events.filter d.concerns) =
          d.findMatches events := by
    intro events hEvents
    rw [findMatches_eq_mapM hValid, findMatches_eq_mapM hValid]
    exact congrArg _
      (Matching.found_filter (allSound hValid).1 hEvents)
  refine ⟨hFilter es hOrder, ?_⟩
  intro others hOthers hSame
  rw [← hFilter others hOthers, hSame, hFilter es hOrder]

/- The events of a deletion, with ticks around and between. -/
def noisyDeletion : List Event :=
  [ Event.tick "a" 0
  , { id := "b"
      sessionId := "s"
      type := "interaction"
      timestamp := 20000
      data :=
        [ ("interactionType", .text "click")
        , ("metadata",
            .object
              [("semanticAction", .text "crud_delete")]) ] }
  , Event.tick "c" 30000
  , { id := "d"
      sessionId := "s"
      type := "state_change"
      timestamp := 40000
      data := [("changeType", .text "delete")] }
  , Event.tick "e" 50000 ]

/- The built-in deletion does not depend on the ticks. -/
theorem findMatches_filter_concerns_deletion :
    builtIn[3].id = "crud_delete" ∧
      builtIn[3].isValid = true ∧
        Matching.InOrder noisyDeletion ∧
          (noisyDeletion.filter builtIn[3].concerns).map
              Event.id = ["b", "d"] ∧
            builtIn[3].findMatches
                (noisyDeletion.filter builtIn[3].concerns) =
              builtIn[3].findMatches noisyDeletion := by
  have hValid : builtIn[3].isValid = true := by
    decide +kernel
  have hOrder : Matching.InOrder noisyDeletion := by
    decide
  refine ⟨rfl, hValid, hOrder, by decide +kernel, ?_⟩
  exact (findMatches_filter_concerns hValid hOrder).1

end Definition

end TraceMining
