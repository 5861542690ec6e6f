import TraceMining.Proofs.Batch
import TraceMining.Proofs.Matching.Scanning

/-
  This file shows what becomes of the matches of a valid
  definition.  Each is turned into a pattern that says when it
  began and ended and what its events are; this fails in one
  way only, which is a mean interval beyond all binary
  numbers.

  Key definitions include:
    * `Matching.HasMean`
    * `Definition.HasMeans`
    * `Definition.pair`

  Key theorems include:
    * `Matching.exists_toPattern_iff`
    * `Matching.exists_score_of_toPattern`
    * `Matching.toPattern_fields`
    * `Matching.toPattern_origin`
    * `Definition.findMatches_eq_ok_iff`
    * `Definition.exists_findMatches_iff`
    * `Definition.findMatches_eq_error`
    * `Definition.exists_family`
    * `Definition.length_le_matchedEvents`
    * `Definition.hasMeans_of_timeout_lt`
    * `Definition.matchedEvents_pair`
-/

------------------------------------------------------------
-- Means
------------------------------------------------------------

namespace TraceMining

namespace Matching

/- The mean interval, if there is one, is a binary number. -/
def HasMean
    (es : List Event) : Prop :=
  es.length - 1 = 0 ∨
    ¬ IsUnbounded (elapsed es) (es.length - 1)

instance
    (es : List Event) :
    Decidable (HasMean es) := by
  unfold HasMean
  infer_instance

/- A match with a mean interval has a score. -/
theorem exists_confidence_of_hasMean
    {es : List Event}
    (hMean : HasMean es)
    (steps : Nat) :
    ∃ score, confidence es steps = .ok score := by
  unfold confidence
  simp only
  generalize (if es.length = steps then baseConfidence + 0.1
    else baseConfidence) = c
  by_cases hGaps : es.length - 1 = 0
  · exact ⟨_, if_pos hGaps⟩
  · rcases hMean with hNone | hBounded
    · exact absurd hNone hGaps
    · rw [if_neg hGaps, if_neg hBounded]
      exact ⟨_, rfl⟩

/- A match without one has none. -/
theorem confidence_eq_error
    {es : List Event}
    (hMean : ¬ HasMean es)
    (steps : Nat) :
    confidence es steps = .error .unboundedMean := by
  simp only [HasMean, not_or, not_not] at hMean
  rcases hMean with ⟨hGaps, hUnbounded⟩
  simp only [confidence]
  rw [if_neg hGaps, if_pos hUnbounded]

end Matching

end TraceMining

------------------------------------------------------------
-- One Match
------------------------------------------------------------

namespace TraceMining

namespace Matching

variable {d : Definition}
variable {es : List Event}

/- A match without a mean interval is no pattern. -/
theorem toPattern_eq_error
    (hMean : ¬ HasMean es) :
    toPattern d es = .error .unboundedMean := by
  simp only [toPattern]
  rw [confidence_eq_error hMean]
  rfl

/- Every other match is one. -/
theorem exists_toPattern_iff :
    (∃ p, toPattern d es = .ok p) ↔ HasMean es := by
  constructor
  · rintro ⟨p, hPattern⟩
    by_contra hMean
    rw [toPattern_eq_error hMean] at hPattern
    cases hPattern
  · intro hMean
    rcases exists_confidence_of_hasMean hMean
        d.rules.sequence.length with ⟨score, hScore⟩
    simp only [toPattern]
    rw [hScore]
    exact ⟨_, rfl⟩

/- All that a pattern is told by is its match and a score. -/
theorem exists_score_of_toPattern
    {p : Pattern}
    (hPattern : toPattern d es = .ok p) :
    ∃ score,
      confidence es d.rules.sequence.length = .ok score ∧
      p =
        { id :=
            Identity.named Identity.patternKey
              (patternName
                ((es.head?.map Event.sessionId).getD "") d.id
                (es.map Event.id))
          sessionId := (es.head?.map Event.sessionId).getD ""
          type := d.type
          confidence := score
          startTime := stamp es.head?
          endTime := stamp es.getLast?
          eventIds := es.map Event.id
          metadata := (Summary.ofEvents d es).toFields } := by
  simp only [toPattern] at hPattern
  cases hScore : confidence es d.rules.sequence.length with
  | error what =>
      rw [hScore] at hPattern
      cases hPattern
  | ok score =>
      rw [hScore] at hPattern
      exact ⟨score, rfl, (Except.ok.inj hPattern).symm⟩

/- What a pattern says of the events of its match. -/
theorem toPattern_fields
    {p : Pattern}
    (hPattern : toPattern d es = .ok p) :
    p.eventIds = es.map Event.id ∧
      p.startTime = stamp es.head? ∧
        p.endTime = stamp es.getLast? ∧
          p.metadata = (Summary.ofEvents d es).toFields := by
  rcases exists_score_of_toPattern hPattern with ⟨_, _, rfl⟩
  exact ⟨rfl, rfl, rfl, rfl⟩

/- A pattern is scored, and named for where it comes from. -/
theorem toPattern_origin
    {p : Pattern}
    (hPattern : toPattern d es = .ok p) :
    confidence es d.rules.sequence.length =
        .ok p.confidence ∧
      p.sessionId =
          (es.head?.map Event.sessionId).getD "" ∧
        p.id =
          Identity.named Identity.patternKey
            (patternName p.sessionId d.id p.eventIds) := by
  rcases exists_score_of_toPattern hPattern with
    ⟨_, hScore, rfl⟩
  exact ⟨hScore, rfl, rfl⟩

/- A pattern is of the type that its definition names. -/
theorem toPattern_type
    {p : Pattern}
    (hPattern : toPattern d es = .ok p) :
    p.type = d.type := by
  rcases exists_score_of_toPattern hPattern with ⟨_, _, rfl⟩
  rfl

/- The metadata counts the events. -/
theorem Summary.get?_eventCount
    (s : Summary) :
    s.toFields.get? "eventCount" =
      some (.int s.eventCount) := by
  simp [Summary.toFields, Fields.get?, Entries.get?_cons]

/- The metadata tells the time that they took. -/
theorem Summary.get?_duration
    (s : Summary) :
    s.toFields.get? "duration" = some (.int s.duration) := by
  simp [Summary.toFields, Fields.get?, Entries.get?_cons]

end Matching

end TraceMining

------------------------------------------------------------
-- All Matches
------------------------------------------------------------

namespace TraceMining

namespace Definition

variable {d : Definition}
variable {es : List Event}

/- Every match of a definition has a mean interval. -/
def HasMeans
    (d : Definition)
    (es : List Event) : Prop :=
  ∀ found ∈ d.matchedEvents es, Matching.HasMean found

/- What is found are the patterns of the matches. -/
theorem findMatches_eq_ok_iff
    (hValid : d.isValid = true)
    {ps : List Pattern} :
    d.findMatches es = .ok ps ↔
      List.Forall₂
        (fun found p => Matching.toPattern d found = .ok p)
        (d.matchedEvents es) ps := by
  rw [findMatches_eq_mapM hValid, Batch.mapM_eq_ok_iff]

/- Something is found if every match has a mean interval. -/
theorem exists_findMatches_iff
    (hValid : d.isValid = true) :
    (∃ ps, d.findMatches es = .ok ps) ↔ d.HasMeans es := by
  rw [findMatches_eq_mapM hValid, Batch.exists_mapM_eq_ok_iff]
  simp only [Matching.exists_toPattern_iff]
  rfl

/- The only failure is that of a mean interval. -/
theorem findMatches_eq_error
    (hValid : d.isValid = true)
    (hMeans : ¬ d.HasMeans es) :
    d.findMatches es = .error .unboundedMean := by
  rw [findMatches_eq_mapM hValid]
  apply Batch.mapM_eq_error
  · intro found _
    by_cases hMean : Matching.HasMean found
    · exact Or.inl (Matching.exists_toPattern_iff.mpr hMean)
    · exact Or.inr (Matching.toPattern_eq_error hMean)
  · simp only [Matching.exists_toPattern_iff]
    exact hMeans

end Definition

end TraceMining

------------------------------------------------------------
-- Ordered Events
------------------------------------------------------------

namespace TraceMining

namespace Definition

variable {d : Definition}
variable {es : List Event}

/- The matches in ordered events are a family. -/
theorem exists_family
    (hValid : d.isValid = true)
    (hOrder : Matching.InOrder es) :
    ∃ family,
      Matching.IsFamily d.demand d.rules.timeout es family ∧
        family.map (Matching.eventsAt es) =
          d.matchedEvents es := by
  rcases Matching.exists_family_of_found (i := 0)
      (allSound hValid).1 hOrder rfl with
    ⟨family, hFamily, _, hEvents⟩
  rw [owed_quotas hValid] at hFamily
  exact ⟨family, hFamily, hEvents⟩

/- No family has more members. -/
theorem length_le_matchedEvents
    (hValid : d.isValid = true)
    (hOrder : Matching.InOrder es)
    {family : List (List Nat)}
    (hFamily :
      Matching.IsFamily d.demand d.rules.timeout es family) :
    family.length ≤ (d.matchedEvents es).length := by
  rw [← owed_quotas hValid] at hFamily
  exact Matching.length_le_length_found (i := 0)
    (allSound hValid).1 hOrder rfl hFamily
    (fun _ _ k _ => Nat.zero_le k)

/- A window of time that is not too wide bounds all means. -/
theorem hasMeans_of_timeout_lt
    (hValid : d.isValid = true)
    (hOrder : Matching.InOrder es)
    (hTimeout : d.rules.timeout < Binary.overflow) :
    d.HasMeans es := by
  rcases exists_family hValid hOrder with
    ⟨family, hFamily, hEvents⟩
  intro found hFound
  rw [← hEvents] at hFound
  rcases List.mem_map.mp hFound with ⟨ks, hMember, rfl⟩
  have hOccurrence := hFamily.occurrences ks hMember
  have hInTime := hOccurrence.inTime
  have hForward :=
    Matching.elapsed_nonneg hOrder hOccurrence.placed
  generalize Matching.eventsAt es ks = found at *
  unfold Matching.HasMean Matching.IsUnbounded
  by_cases hGaps : found.length - 1 = 0
  · exact Or.inl hGaps
  · right
    have hWide :
        Binary.overflow ≤
          Binary.overflow * (found.length - 1) :=
      Nat.le_mul_of_pos_right _ (Nat.pos_of_ne_zero hGaps)
    omega

end Definition

end TraceMining

------------------------------------------------------------
-- Pairs of Events
------------------------------------------------------------

namespace TraceMining

/- An event of which nothing but the time matters. -/
def Event.tick
    (id : String)
    (timestamp : Int) : Event :=
  { id := id
    sessionId := "s"
    type := "tick"
    timestamp := timestamp
    data := [] }

/- Such an event in another session. -/
def Event.tickIn
    (sessionId id : String)
    (timestamp : Int) : Event :=
  { Event.tick id timestamp with sessionId := sessionId }

/- Two events some time apart. -/
def Event.ticks
    (gap : Int) : List Event :=
  [Event.tick "a" 0, Event.tick "b" gap]

namespace Rule

/- A step that any event satisfies. -/
def any : Rule :=
  ⟨[]⟩

/- It accepts whatever there is. -/
theorem accepts_any
    (e : Event) :
    any.accepts e = true :=
  rfl

/- It takes one event. -/
theorem ofRule_any :
    Matching.Quota.ofRule any = ⟨any, 0⟩ :=
  rfl

end Rule

/- The mean interval of a pair is the time between the two. -/
theorem Matching.hasMean_pair_iff
    {a b : Event} :
    HasMean [a, b] ↔
      (b.timestamp - a.timestamp).natAbs <
        Binary.overflow := by
  simp [HasMean, IsUnbounded, elapsed]

namespace Definition

/- Any two events within some time. -/
def pair
    (timeout : Int) : Definition :=
  { id := "pair"
    name := "Pair"
    type := "pair"
    description := none
    isActive := true
    rules := ⟨[Rule.any, Rule.any], timeout⟩ }

variable {timeout : Int}

/- It can be matched. -/
theorem pair_isValid
    (hTimeout : 0 ≤ timeout) :
    (pair timeout).isValid = true := by
  have hSteps :
      (pair timeout).draft.sequence.isEmpty = false := rfl
  have hWindow : ¬ (pair timeout).draft.timeout < 0 :=
    Int.not_lt.mpr hTimeout
  simp only [isValid, Draft.fault?, hSteps, hWindow,
    Bool.false_eq_true, if_false]
  rfl

/- Two events in a row are matched if they are in time. -/
theorem matchedEvents_pair
    {a b : Event}
    (hTimeout : 0 ≤ timeout)
    (hTime : b.timestamp ≤ a.timestamp + timeout)
    (es : List Event) :
    (pair timeout).matchedEvents (a :: b :: es) =
      [a, b] :: (pair timeout).matchedEvents es := by
  have hFirst : ¬ a.timestamp + timeout < a.timestamp := by
    omega
  have hSecond : ¬ a.timestamp + timeout < b.timestamp := by
    omega
  apply Matching.found_match (m := ⟨[a, b], es⟩)
    (List.cons_ne_nil _ _)
  simp only [pair, Matching.attempt, List.map_cons,
    List.map_nil, Rule.ofRule_any, Matching.collect,
    Rule.accepts_any, Matching.Quota.taken, hFirst, hSecond,
    if_true, if_false, Option.map_some]

/- One event alone is not matched. -/
theorem matchedEvents_pair_of_length_lt
    (hTimeout : 0 ≤ timeout)
    {es : List Event}
    (hFew : es.length < 2) :
    (pair timeout).matchedEvents es = [] := by
  rcases es with _ | ⟨e, _ | ⟨a, es⟩⟩
  · rfl
  · have hFirst : ¬ e.timestamp + timeout < e.timestamp := by
      omega
    apply Matching.found_skip
    simp only [pair, Matching.attempt, List.map_cons,
      List.map_nil, Rule.ofRule_any, Matching.collect,
      Rule.accepts_any, Matching.Quota.taken, hFirst,
      if_true, if_false, Option.map_none]
  · simp only [List.length_cons] at hFew
    omega

end Definition

end TraceMining
