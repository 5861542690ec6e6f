import TraceMining.Rule

/-
  This file defines one attempt to match a sequence of steps
  from the front of a list of events.  Events that do not
  satisfy the step at hand are passed over; the attempt fails
  at the first event past the deadline, which is counted from
  the first event of the list whether that event is taken or
  not.

  Key definitions include:
    * `Quota`
    * `Quota.taken`
    * `Match`
    * `collect`
    * `attempt`
    * `attemptMisuse?`
    * `attemptAt`
    * `attemptFrom`

  Key theorems include:
    * `collect_rest_length_le`
    * `attempt_rest_length_lt`
-/

------------------------------------------------------------
-- Quotas
------------------------------------------------------------

namespace TraceMining

namespace Matching

/- A step and how many events it owes after the next one. -/
structure Quota where
  rule : Rule
  more : Nat

namespace Quota

/- What a step owes at the start. -/
def ofRule
    (r : Rule) : Quota :=
  { rule := r
    more := r.repetitions - 1 }

/- What is owed once the step at hand took an event. -/
def taken
    (q : Quota)
    (qs : List Quota) : List Quota :=
  match q.more with
  | 0 => qs
  | n + 1 => { q with more := n } :: qs

end Quota

end Matching

end TraceMining

------------------------------------------------------------
-- Attempts
------------------------------------------------------------

namespace TraceMining

namespace Matching

/- The events that were taken, and those after the last. -/
structure Match where
  events : List Event
  rest : List Event

/- Take events for the quotas up to a deadline. -/
def collect
    (deadline : Int) :
    List Event → List Quota → Option Match
  | es, [] => some ⟨[], es⟩
  | [], _ :: _ => none
  | e :: es, q :: qs =>
      if deadline < e.timestamp then none
      else if q.rule.accepts e then
        (collect deadline es (q.taken qs)).map fun m =>
          { m with events := e :: m.events }
      else collect deadline es (q :: qs)

/- Match the steps from the front of the events. -/
def attempt
    (steps : List Rule)
    (timeout : Int)
    (es : List Event) : Option Match :=
  match es with
  | [] => none
  | e :: _ =>
      collect (e.timestamp + timeout) es
        (steps.map Quota.ofRule)

end Matching

end TraceMining

------------------------------------------------------------
-- Misuse
------------------------------------------------------------

namespace TraceMining

namespace Matching

/- The first misuse while events are taken. -/
def collectMisuse?
    (deadline : Int) :
    List Event → List Quota → Option Misuse
  | _, [] => none
  | [], _ :: _ => none
  | e :: es, q :: qs =>
      if deadline < e.timestamp then none
      else
        match q.rule.misuse? e with
        | some what => some what
        | none =>
            if q.rule.accepts e then
              (q.rule.countMisuse?).or
                (collectMisuse? deadline es (q.taken qs))
            else collectMisuse? deadline es (q :: qs)

/- The first misuse of an attempt. -/
def attemptMisuse?
    (steps : List Rule)
    (timeout : Int)
    (es : List Event) : Option Misuse :=
  match es with
  | [] => none
  | e :: _ =>
      collectMisuse? (e.timestamp + timeout) es
        (steps.map Quota.ofRule)

end Matching

end TraceMining

------------------------------------------------------------
-- Places
------------------------------------------------------------

namespace TraceMining

namespace Matching

/- A match with the places of its first and last event. -/
structure Located where
  events : List Event
  startIndex : Int
  endIndex : Int

/- Match the steps from a place in the events. -/
def attemptAt
    (steps : List Rule)
    (timeout : Int)
    (es : List Event)
    (start : Nat) : Option Located :=
  (attempt steps timeout (es.drop start)).map fun m =>
    let last :=
      start + (es.length - start - m.rest.length - 1)
    { events := m.events
      startIndex := start
      endIndex := last }

/-
  The events from a place on.  A negative place counts from
  the end; all events follow those that are left there.
-/
def eventsFrom
    (es : List Event)
    (start : Int) : Except Failure (List Event) :=
  if ¬ Binary.FitsWord start then .error .placeTooLarge
  else if 0 ≤ start ∧ start < es.length then
    .ok (es.drop start.toNat)
  else if start < 0 ∧ 0 ≤ start + es.length then
    .ok (es.drop (start + es.length).toNat ++ es)
  else .error .noSuchPlace

/- Match the steps from a place that need not exist. -/
def attemptFrom
    (steps : List Rule)
    (timeout : Int)
    (es : List Event)
    (start : Int) : Except Failure (Option Located) := do
  let es ← eventsFrom es start
  match attemptMisuse? steps timeout es with
  | some what => throw (.misuse what)
  | none =>
      return (attemptAt steps timeout es 0).map fun m =>
        { m with
          startIndex := start
          endIndex := start + m.endIndex }

end Matching

end TraceMining

------------------------------------------------------------
-- Progress
------------------------------------------------------------

namespace TraceMining

namespace Matching

/- Collecting never gives events back. -/
theorem collect_rest_length_le
    {deadline : Int}
    {es : List Event}
    {qs : List Quota}
    {m : Match}
    (h : collect deadline es qs = some m) :
    m.rest.length ≤ es.length := by
  induction es generalizing qs m with
  | nil =>
      cases qs with
      | nil =>
          simp only [collect, Option.some.injEq] at h
          simp [← h]
      | cons q qs => simp [collect] at h
  | cons e es ih =>
      cases qs with
      | nil =>
          simp only [collect, Option.some.injEq] at h
          simp [← h]
      | cons q qs =>
          simp only [collect] at h
          split at h
          · exact absurd h (by simp)
          · split at h
            · obtain ⟨n, hn, hm⟩ := Option.map_eq_some_iff.1 h
              have := ih hn
              simp only [← hm, List.length_cons]
              omega
            · have := ih h
              simp only [List.length_cons]
              omega

/- Collecting for a quota takes at least one event. -/
theorem collect_rest_length_lt
    {deadline : Int}
    {es : List Event}
    {q : Quota}
    {qs : List Quota}
    {m : Match}
    (h : collect deadline es (q :: qs) = some m) :
    m.rest.length < es.length := by
  induction es generalizing m with
  | nil => simp [collect] at h
  | cons e es ih =>
      simp only [collect] at h
      split at h
      · exact absurd h (by simp)
      · split at h
        · obtain ⟨n, hn, hm⟩ := Option.map_eq_some_iff.1 h
          have := collect_rest_length_le hn
          simp only [← hm, List.length_cons]
          omega
        · have := ih h
          simp only [List.length_cons]
          omega

/- A match of some steps leaves fewer events. -/
theorem attempt_rest_length_lt
    {steps : List Rule}
    {timeout : Int}
    {es : List Event}
    {m : Match}
    (hs : steps ≠ [])
    (h : attempt steps timeout es = some m) :
    m.rest.length < es.length := by
  cases es with
  | nil => simp [attempt] at h
  | cons e es =>
      cases steps with
      | nil => exact absurd rfl hs
      | cons r rs =>
          simp only [attempt, List.map_cons] at h
          exact collect_rest_length_lt h

end Matching

end TraceMining
