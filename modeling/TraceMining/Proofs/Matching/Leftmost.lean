import TraceMining.Proofs.Matching.Outcome

/-
  This file shows that an attempt is exact.  From any place in
  ordered events it succeeds just if there are places for all
  that is asked for, the last of them within the window of
  time; and it takes the leftmost ones, which are no later
  than any other such places, one by one.

  Key definitions include:
    * `Matching.demand`
    * `Matching.IsChoice`
    * `Matching.IsLeftmost`

  Key theorems include:
    * `Matching.attemptFrom_eq_ok`
    * `Matching.exists_leftmost_of_attempt`
    * `Matching.exists_attempt_of_choice`
    * `Matching.attemptAt_leftmost`
-/

------------------------------------------------------------
-- Choices of Places
------------------------------------------------------------

namespace TraceMining

namespace Matching

/- What steps ask for, one rule for each event. -/
def demand
    (steps : List Rule) : List Rule :=
  steps.flatMap fun r =>
    List.replicate r.minOccurrences.toNat r

/-
  Places from a start on for all that is asked for, of which
  the last is not past a deadline.
-/
structure IsChoice
    (rs : List Rule)
    (deadline : Int)
    (es : List Event)
    (start : Nat)
    (ks : List Nat) : Prop where
  placed : Placed rs es ks
  start : ∀ k ∈ ks, start ≤ k
  inTime :
    ∀ k ∈ ks.getLast?, ∀ e ∈ es[k]?, e.timestamp ≤ deadline

/- A choice that is nowhere later than any other. -/
structure IsLeftmost
    (rs : List Rule)
    (deadline : Int)
    (es : List Event)
    (start : Nat)
    (ks : List Nat) : Prop where
  choice : IsChoice rs deadline es start ks
  least :
    ∀ ls, IsChoice rs deadline es start ls →
      List.Forall₂ (· ≤ ·) ks ls

end Matching

end TraceMining

------------------------------------------------------------
-- Attempts at a Place
------------------------------------------------------------

namespace TraceMining

namespace Matching

variable {steps : List Rule}
variable {timeout : Int}
variable {es : List Event}
variable {start : Nat}

/- What follows a place starts with the event there. -/
theorem drop_eq_of_getElem?
    {first : Event}
    (hFirst : es[start]? = some first) :
    es.drop start = first :: es.drop (start + 1) := by
  rcases List.getElem?_eq_some_iff.mp hFirst with
    ⟨hBound, rfl⟩
  exact List.drop_eq_getElem_cons hBound

/- A match with its places, counted from a start. -/
def Match.located
    (es : List Event)
    (start : Nat)
    (m : Match) : Located :=
  let last :=
    start + (es.length - start - m.rest.length - 1)
  { events := m.events
    startIndex := start
    endIndex := last }

/- An attempt at a place is one at the events from there. -/
theorem attemptAt_eq
    (es : List Event)
    (start : Nat) :
    attemptAt steps timeout es start =
      (attempt steps timeout (es.drop start)).map
        (Match.located es start) :=
  rfl

/-
  Steps without a fault can be attempted from every place; a
  list has no more places than a word can count.
-/
theorem attemptFrom_eq_ok
    (hSound : AllSound steps)
    (hStart : start < es.length)
    (hFits : Binary.FitsWord start) :
    attemptFrom steps timeout es start =
      .ok (attemptAt steps timeout es start) := by
  have hHere : 0 ≤ (start : Int) ∧ (start : Int) < es.length :=
    ⟨Int.natCast_nonneg start, Int.ofNat_lt.mpr hStart⟩
  have hEvents :
      eventsFrom es start = .ok (es.drop start) := by
    unfold eventsFrom
    rw [if_neg (not_not.mpr hFits), if_pos hHere,
      Int.toNat_natCast]
  unfold attemptFrom
  rw [hEvents]
  simp only [bind, Except.bind,
    attemptMisuse?_eq_none hSound]
  rw [attemptAt_eq, attemptAt_eq, List.drop_zero]
  apply congrArg Except.ok
  rw [Option.map_map]
  apply Option.map_congr
  intro m _
  simp only [Function.comp, Match.located, List.length_drop,
    Nat.sub_zero, Nat.zero_add, Int.natCast_add]

/- An attempt that succeeds takes the leftmost places. -/
theorem exists_leftmost_of_attempt
    {first : Event}
    {later : List Event}
    {m : Match}
    (hDrop : es.drop start = first :: later)
    (hAttempt :
      attempt steps timeout (first :: later) = some m) :
    ∃ ks,
      IsLeftmost (owed (quotas steps))
        (first.timestamp + timeout) es start ks ∧
      eventsAt es ks = m.events ∧
      m.rest = es.drop (behind start ks) := by
  rcases exists_takes_of_attempt hDrop hAttempt with
    ⟨ks, hTakes⟩
  refine ⟨ks, ⟨⟨hTakes.placed, hTakes.start, ?_⟩, ?_⟩,
    hTakes.events, hTakes.rest⟩
  · intro k hLast e hEvent
    apply hTakes.inTime
    rw [← hTakes.events]
    apply List.mem_of_getLast?
    rw [getLast?_eventsAt hTakes.placed hLast]
    exact hEvent
  · intro ls hChoice
    exact hTakes.earliest ls hChoice.placed hChoice.start

/-
  Where there is a choice of places an attempt succeeds: one
  that failed would have met an event past its deadline by the
  last of these places, where the event is in time.
-/
theorem exists_attempt_of_choice
    (hSteps : steps ≠ [])
    (hOrder : InOrder es)
    {first : Event}
    {later : List Event}
    {ks : List Nat}
    (hDrop : es.drop start = first :: later)
    (hChoice :
      IsChoice (owed (quotas steps))
        (first.timestamp + timeout) es start ks) :
    ∃ m, attempt steps timeout (first :: later) = some m := by
  apply Option.ne_none_iff_exists'.mp
  intro hNone
  have hLast := List.getLast?_eq_some_getLast
    (Placed.ne_nil hSteps hChoice.placed)
  rcases hChoice.placed.exists_event
      (List.mem_of_getLast? hLast) with ⟨e, hEvent⟩
  have hInTime := hChoice.inTime _ hLast e hEvent
  rcases exists_late_of_collect hDrop hNone hChoice.placed
      hChoice.start with ⟨n, a, _, hBefore, hLate, hTime⟩
  rw [behind_eq_of_getLast? hLast] at hBefore
  have hOrdered : a.timestamp ≤ e.timestamp :=
    hOrder.timestamp_le hLate hEvent (by omega)
  omega

/- A match ends at the last of its places. -/
theorem endIndex_located
    {m : Match}
    {ks : List Nat}
    {k : Nat}
    (hBound : k < es.length)
    (hStart : start ≤ k)
    (hLast : ks.getLast? = some k)
    (hRest : m.rest = es.drop (behind start ks)) :
    (m.located es start).endIndex = k := by
  unfold Match.located
  rw [hRest, behind_eq_of_getLast? hLast, List.length_drop]
  apply congrArg Int.ofNat
  omega

/-
  From a place in ordered events, steps without a fault are
  matched just if there is a choice of places for them in
  time, and the match is the leftmost choice: its events, its
  start, and its end, which is the last of the places.
-/
theorem attemptAt_leftmost
    (hSteps : steps ≠ [])
    (hSound : AllSound steps)
    (hOrder : InOrder es)
    {first : Event}
    (hFirst : es[start]? = some first) :
    (Binary.FitsWord start →
      attemptFrom steps timeout es start =
        .ok (attemptAt steps timeout es start)) ∧
    ((∃ found, attemptAt steps timeout es start = some found) ↔
      ∃ ks, IsChoice (demand steps)
        (first.timestamp + timeout) es start ks) ∧
    ∀ found, attemptAt steps timeout es start = some found →
      ∃ ks k,
        IsLeftmost (demand steps)
          (first.timestamp + timeout) es start ks ∧
        ks.getLast? = some k ∧
        found.events = eventsAt es ks ∧
        found.startIndex = start ∧
        found.endIndex = k := by
  have hDrop := drop_eq_of_getElem? hFirst
  refine ⟨?_, ?_⟩
  · exact attemptFrom_eq_ok hSound
      (List.getElem?_eq_some_iff.mp hFirst).1
  have hOwed : owed (quotas steps) = demand steps :=
    owed_quotas_of_allSound hSound
  rw [← hOwed, attemptAt_eq, hDrop]
  simp only [Option.map_eq_some_iff]
  refine ⟨⟨?_, ?_⟩, ?_⟩
  · rintro ⟨found, m, hAttempt, _⟩
    rcases exists_leftmost_of_attempt hDrop hAttempt with
      ⟨ks, hLeftmost, _⟩
    exact ⟨ks, hLeftmost.choice⟩
  · rintro ⟨ks, hChoice⟩
    rcases exists_attempt_of_choice hSteps hOrder hDrop
        hChoice with ⟨m, hAttempt⟩
    exact ⟨_, m, hAttempt, rfl⟩
  · rintro found ⟨m, hAttempt, rfl⟩
    rcases exists_leftmost_of_attempt hDrop hAttempt with
      ⟨ks, hLeftmost, hEvents, hRest⟩
    have hPlaced := hLeftmost.choice.placed
    have hLast := List.getLast?_eq_some_getLast
      (Placed.ne_nil hSteps hPlaced)
    have hMember := List.mem_of_getLast? hLast
    rcases hPlaced.exists_event hMember with ⟨e, hEvent⟩
    have hEnd :=
      endIndex_located (List.getElem?_eq_some_iff.mp hEvent).1
        (hLeftmost.choice.start _ hMember) hLast hRest
    exact ⟨ks, _, hLeftmost, hLast, hEvents.symm, rfl, hEnd⟩

/- Two events of one type, and then one of another. -/
def twiceThenOnce : List Rule :=
  [ ⟨[("type", .text "edit"), ("minOccurrences", .int 2)]⟩
  , ⟨[("type", .text "save")]⟩ ]

/- Edits and saves, more of them than are asked for. -/
def editsAndSaves : List Event :=
  [ Event.tick "a" 0
  , { Event.tick "b" 1 with type := "edit" }
  , { Event.tick "c" 2 with type := "save" }
  , { Event.tick "d" 3 with type := "edit" }
  , { Event.tick "e" 4 with type := "edit" }
  , { Event.tick "f" 5 with type := "save" }
  , { Event.tick "g" 5 with type := "save" } ]

/- The first two edits go with the save behind them. -/
theorem attemptAt_leftmost_edits :
    twiceThenOnce ≠ [] ∧ AllSound twiceThenOnce ∧
      InOrder editsAndSaves ∧
      attemptFrom twiceThenOnce 5 editsAndSaves (0 : Nat) =
        .ok (attemptAt twiceThenOnce 5 editsAndSaves 0) ∧
      ∃ found ks k,
        attemptAt twiceThenOnce 5 editsAndSaves 0 =
            some found ∧
          IsLeftmost (demand twiceThenOnce) 5 editsAndSaves 0
            ks ∧
          List.Forall₂ (· ≤ ·) ks [1, 3, 5] ∧
          ks.getLast? = some k ∧ found.endIndex = k := by
  have hSteps : twiceThenOnce ≠ [] := List.cons_ne_nil _ _
  have hEach : ∀ r ∈ twiceThenOnce, r.fault? 0 = none := by
    decide
  have hSound : AllSound twiceThenOnce := fun r hMember =>
    ⟨0, hEach r hMember⟩
  have hOrder : InOrder editsAndSaves := by
    decide
  have hChoice :
      IsChoice (demand twiceThenOnce) (0 + 5) editsAndSaves 0
        [1, 3, 5] :=
    { placed :=
        { increasing := by decide
          accepted :=
            .cons ⟨_, rfl, by decide⟩
              (.cons ⟨_, rfl, by decide⟩
                (.cons ⟨_, rfl, by decide⟩ .nil)) }
      start := by decide
      inTime := by
        intro k hLast e hEvent
        rw [← Option.mem_some_iff.mp hLast] at hEvent
        rw [← Option.mem_some_iff.mp hEvent]
        decide }
  have hFirst :
      editsAndSaves[0]? = some (Event.tick "a" 0) := rfl
  rcases @attemptAt_leftmost _ 5 _ _ hSteps hSound hOrder _
      hFirst with ⟨hFrom, hSome, hLeftmost⟩
  rcases hSome.mpr ⟨_, hChoice⟩ with ⟨found, hFound⟩
  rcases hLeftmost found hFound with
    ⟨ks, k, hLeast, hLast, _, _, hEnd⟩
  exact ⟨hSteps, hSound, hOrder, hFrom (by decide), found, ks,
    k, hFound, hLeast, hLeast.least _ hChoice, hLast, hEnd⟩

end Matching

end TraceMining
