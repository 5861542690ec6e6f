import TraceMining.Proofs.Matching.Earliest

/-
  This file shows what a scan finds.  It goes on behind every
  match, and by one event where there is none; the matches it
  finds in ordered events are a family of occurrences, and no
  family has more members.

  Key definitions include:
    * `Matching.found`
    * `Matching.StartsAt`

  Key theorems include:
    * `Matching.found_match`
    * `Matching.scan_induction`
    * `Matching.exists_family_of_found`
    * `Matching.length_le_length_found`
-/

------------------------------------------------------------
-- Going On
------------------------------------------------------------

namespace TraceMining

namespace Matching

/- The events of every match that a scan finds. -/
def found
    (steps : List Rule)
    (timeout : Int)
    (es : List Event) : List (List Event) :=
  (scan steps timeout 0 es).map Match.events

variable {steps : List Rule}
variable {timeout : Int}

/- An attempt that succeeds takes the earliest places. -/
theorem exists_takes_of_attempt
    {all : List Event}
    {i : Nat}
    {e : Event}
    {es : List Event}
    {m : Match}
    (hDrop : all.drop i = e :: es)
    (hAttempt : attempt steps timeout (e :: es) = some m) :
    ∃ ks, Takes (e.timestamp + timeout)
      (owed (quotas steps)) all i m ks :=
  exists_takes_of_collect hDrop hAttempt

/- There is some place for every step. -/
theorem Placed.ne_nil
    {es : List Event}
    {ks : List Nat}
    (hSteps : steps ≠ [])
    (hPlaced : Placed (owed (quotas steps)) es ks) :
    ks ≠ [] := by
  rintro rfl
  have hEmpty := hPlaced.length_eq
  exact owed_quotas_ne_nil hSteps
    (List.eq_nil_of_length_eq_zero hEmpty.symm)

/- What a match leaves are events after its first one. -/
theorem rest_suffix_of_attempt
    (hSteps : steps ≠ [])
    {e : Event}
    {es : List Event}
    {m : Match}
    (hAttempt : attempt steps timeout (e :: es) = some m) :
    m.rest <:+ es := by
  rcases exists_takes_of_attempt (i := 0) rfl hAttempt with
    ⟨ks, hTakes⟩
  have hNonempty := Placed.ne_nil hSteps hTakes.placed
  rw [hTakes.rest, behind_eq_of_getLast?
    (List.getLast?_eq_some_getLast hNonempty),
    List.drop_succ_cons]
  exact List.drop_suffix _ _

/- Without a match here, the scan goes on by one event. -/
theorem found_skip
    {e : Event}
    {es : List Event}
    (hAttempt : attempt steps timeout (e :: es) = none) :
    found steps timeout (e :: es) =
      found steps timeout es := by
  simp [found, scan, hAttempt]

/- After a match, the scan goes on with what is left. -/
theorem found_match
    (hSteps : steps ≠ [])
    {e : Event}
    {es : List Event}
    {m : Match}
    (hAttempt : attempt steps timeout (e :: es) = some m) :
    found steps timeout (e :: es) =
      m.events :: found steps timeout m.rest := by
  have hRest :
      es.drop (es.length - m.rest.length) = m.rest :=
    (List.suffix_iff_eq_drop.mp
      (rest_suffix_of_attempt hSteps hAttempt)).symm
  simp only [found, scan, hAttempt, List.map_cons]
  rw [scan_eq_scan_drop, hRest]

/-
  Induction along a scan: what holds of no events, and of
  events whenever it holds of those the scan goes on with,
  holds of all events.
-/
theorem scan_induction
    {motive : List Event → Prop}
    (hSteps : steps ≠ [])
    (timeout : Int)
    (nil : motive [])
    (skip :
      ∀ e es, attempt steps timeout (e :: es) = none →
        motive es → motive (e :: es))
    (found :
      ∀ e es m, attempt steps timeout (e :: es) = some m →
        motive m.rest → motive (e :: es))
    (es : List Event) :
    motive es := by
  induction hLength : es.length using Nat.strongRecOn
    generalizing es with
  | ind n ih =>
      subst hLength
      cases es with
      | nil => exact nil
      | cons e es =>
          cases hAttempt : attempt steps timeout (e :: es) with
          | none =>
              exact skip e es hAttempt
                (ih es.length (by simp) es rfl)
          | some m =>
              have hShorter :=
                attempt_rest_length_lt hSteps hAttempt
              exact found e es m hAttempt
                (ih m.rest.length hShorter m.rest rfl)

end Matching

end TraceMining

------------------------------------------------------------
-- Soundness
------------------------------------------------------------

namespace TraceMining

namespace Matching

variable {steps : List Rule}
variable {timeout : Int}

/- Every place of a family is here or further on. -/
def StartsAt
    (i : Nat)
    (family : List (List Nat)) : Prop :=
  ∀ ks ∈ family, ∀ k ∈ ks, i ≤ k

/- The earliest places of an attempt are an occurrence. -/
theorem Takes.isOccurrence
    {all : List Event}
    {i : Nat}
    {e : Event}
    {m : Match}
    {ks : List Nat}
    (hSteps : steps ≠ [])
    (hOrder : InOrder all)
    (hEvent : all[i]? = some e)
    (hTakes :
      Takes (e.timestamp + timeout) (owed (quotas steps)) all
        i m ks) :
    IsOccurrence (owed (quotas steps)) timeout all ks where
  placed := hTakes.placed
  inTime := by
    rcases hTakes.placed.exists_ends
        (Placed.ne_nil hSteps hTakes.placed) with
      ⟨k, l, a, b, hFirst, hLast, hBegin, hEnd, hElapsed⟩
    have hLater : e.timestamp ≤ a.timestamp :=
      hOrder.timestamp_le hEvent hBegin
        (hTakes.start k (List.mem_of_head? hFirst))
    have hTime : b.timestamp ≤ e.timestamp + timeout := by
      apply hTakes.inTime
      rw [← hTakes.events]
      apply List.mem_of_getLast?
      rw [getLast?_eventsAt hTakes.placed hLast, hEnd]
    rw [hElapsed]
    omega

/- A family behind an occurrence goes on from it. -/
theorem IsFamily.cons
    {demand : List Rule}
    {all : List Event}
    {i : Nat}
    {ks : List Nat}
    {family : List (List Nat)}
    (hFirst : IsOccurrence demand timeout all ks)
    (hFamily : IsFamily demand timeout all family)
    (hStart : StartsAt (behind i ks) family) :
    IsFamily demand timeout all (ks :: family) where
  occurrences := by
    intro ls hMember
    rcases List.mem_cons.mp hMember with rfl | hMember
    · exact hFirst
    · exact hFamily.occurrences ls hMember
  apart := by
    rw [List.isChain_cons]
    refine ⟨?_, hFamily.apart⟩
    intro ls hNext k hLast l hHead
    have hBehind : behind i ks ≤ l :=
      hStart ls (List.mem_of_head? hNext) l
        (List.mem_of_head? hHead)
    rw [behind_eq_of_getLast? hLast] at hBehind
    exact hBehind

/- The rest of a family is a family. -/
theorem IsFamily.tail
    {demand : List Rule}
    {all : List Event}
    {ks : List Nat}
    {family : List (List Nat)}
    (hFamily :
      IsFamily demand timeout all (ks :: family)) :
    IsFamily demand timeout all family where
  occurrences := fun ls hMember =>
    hFamily.occurrences ls (List.mem_cons_of_mem ks hMember)
  apart := hFamily.apart.tail

/- What a scan finds from a place on is a family. -/
theorem exists_family_of_found
    (hSteps : steps ≠ [])
    {all : List Event}
    (hOrder : InOrder all)
    {i : Nat}
    {es : List Event}
    (hDrop : all.drop i = es) :
    ∃ family,
      IsFamily (owed (quotas steps)) timeout all family ∧
        StartsAt i family ∧
          family.map (eventsAt all) =
            found steps timeout es := by
  induction es using scan_induction hSteps timeout
    generalizing i with
  | nil =>
      exact ⟨[], ⟨by simp, List.isChain_nil⟩,
        by simp [StartsAt], rfl⟩
  | skip e es hAttempt ih =>
      rcases ih (drop_eq_cons hDrop).2 with
        ⟨family, hFamily, hStart, hEvents⟩
      refine ⟨family, hFamily, ?_, ?_⟩
      · intro ks hMember k hPlace
        exact Nat.le_of_succ_le
          (hStart ks hMember k hPlace)
      · rw [hEvents, found_skip hAttempt]
  | found e es m hAttempt ih =>
      rcases exists_takes_of_attempt hDrop hAttempt with
        ⟨ks, hTakes⟩
      rcases ih hTakes.rest.symm with
        ⟨family, hFamily, hStart, hEvents⟩
      have hOccurrence :=
        hTakes.isOccurrence hSteps hOrder
          (drop_eq_cons hDrop).1
      refine ⟨ks :: family, hFamily.cons hOccurrence hStart,
        ?_, ?_⟩
      · intro ls hMember l hPlace
        rcases List.mem_cons.mp hMember with rfl | hMember
        · exact hTakes.start l hPlace
        · exact Nat.le_trans
            (le_behind hTakes.placed.increasing hTakes.start)
            (hStart ls hMember l hPlace)
      · rw [List.map_cons, hEvents, hTakes.events,
          found_match hSteps hAttempt]

end Matching

end TraceMining

------------------------------------------------------------
-- Optimality
------------------------------------------------------------

namespace TraceMining

namespace Matching

variable {steps : List Rule}
variable {timeout : Int}

/- The rest of a family is behind its first occurrence. -/
theorem IsFamily.tail_startsAt
    (hSteps : steps ≠ [])
    {all : List Event}
    {ks : List Nat}
    {family : List (List Nat)}
    (hFamily :
      IsFamily (owed (quotas steps)) timeout all
        (ks :: family))
    (i : Nat) :
    StartsAt (behind i ks) family := by
  induction family generalizing ks with
  | nil => simp [StartsAt]
  | cons ls family ih =>
      have hNext : Precedes ks ls :=
        (List.isChain_cons_cons.mp hFamily.apart).1
      have hTail := hFamily.tail
      have hHere :=
        (hFamily.occurrences ks List.mem_cons_self).placed
      have hThere :=
        (hTail.occurrences ls List.mem_cons_self).placed
      have hLast := List.getLast?_eq_some_getLast
        (Placed.ne_nil hSteps hHere)
      rw [behind_eq_of_getLast? hLast]
      cases ls with
      | nil => exact absurd rfl (Placed.ne_nil hSteps hThere)
      | cons l ls =>
          have hGap : ks.getLast _ < l :=
            hNext _ hLast l rfl
          intro ms hMember m hPlace
          rcases List.mem_cons.mp hMember with rfl | hMember
          · have hLeast := hThere.head_le m hPlace
            omega
          · have hLater := ih hTail ms hMember m hPlace
            have hInside :=
              lt_behind hThere.increasing
                List.mem_cons_self i
            omega

/-
  An attempt that fails leaves no occurrence that starts with
  the event at hand: it would end past the deadline.
-/
theorem IsOccurrence.start_succ
    (hSteps : steps ≠ [])
    {all : List Event}
    (hOrder : InOrder all)
    {i : Nat}
    {e : Event}
    {es : List Event}
    (hDrop : all.drop i = e :: es)
    (hAttempt : attempt steps timeout (e :: es) = none)
    {ks : List Nat}
    (hOccurrence :
      IsOccurrence (owed (quotas steps)) timeout all ks)
    (hStart : ∀ k ∈ ks, i ≤ k) :
    ∀ k ∈ ks, i + 1 ≤ k := by
  have hPlaced := hOccurrence.placed
  cases ks with
  | nil => exact absurd rfl (Placed.ne_nil hSteps hPlaced)
  | cons k ks =>
      have hOther : i ≠ k := by
        rintro rfl
        rcases exists_late_of_collect hDrop hAttempt hPlaced
            hStart with ⟨n, a, _, hBefore, hLate, hTime⟩
        have hLast :=
          List.getLast?_eq_some_getLast
            (List.cons_ne_nil i ks)
        rw [behind_eq_of_getLast? hLast] at hBefore
        rcases hPlaced.exists_event
            (List.mem_of_getLast? hLast) with ⟨b, hEnd⟩
        have hElapsed := hOccurrence.inTime
        rw [elapsed_eventsAt hPlaced rfl hLast
          (drop_eq_cons hDrop).1 hEnd] at hElapsed
        have hOrdered : a.timestamp ≤ b.timestamp :=
          hOrder.timestamp_le hLate hEnd (by omega)
        omega
      have hFirst := hStart k List.mem_cons_self
      intro l hMember
      have hLeast := hPlaced.head_le l hMember
      omega

/-
  No family has more members than a scan finds matches: the
  first match ends no later than the first member, so that
  the other members are left for the rest of the scan.
-/
theorem length_le_length_found
    (hSteps : steps ≠ [])
    {all : List Event}
    (hOrder : InOrder all)
    {i : Nat}
    {es : List Event}
    (hDrop : all.drop i = es)
    {family : List (List Nat)}
    (hFamily :
      IsFamily (owed (quotas steps)) timeout all family)
    (hStart : StartsAt i family) :
    family.length ≤ (found steps timeout es).length := by
  induction es using scan_induction hSteps timeout
    generalizing i family with
  | nil =>
      cases family with
      | nil => exact Nat.zero_le _
      | cons ks family =>
          have hPlaced :=
            (hFamily.occurrences ks
              List.mem_cons_self).placed
          have hMember :=
            List.head_mem (Placed.ne_nil hSteps hPlaced)
          rcases hPlaced.exists_event hMember with ⟨e, hEvent⟩
          have hBound :=
            (List.getElem?_eq_some_iff.mp hEvent).1
          have hFrom := hStart ks List.mem_cons_self _ hMember
          have hEnd := List.drop_eq_nil_iff.mp hDrop
          omega
  | skip e es hAttempt ih =>
      rw [found_skip hAttempt]
      apply ih (drop_eq_cons hDrop).2 hFamily
      intro ks hMember
      exact (hFamily.occurrences ks hMember).start_succ hSteps
        hOrder hDrop hAttempt (hStart ks hMember)
  | found e es m hAttempt ih =>
      rw [found_match hSteps hAttempt]
      cases family with
      | nil => exact Nat.zero_le _
      | cons ls family =>
          rcases exists_takes_of_attempt hDrop hAttempt with
            ⟨ks, hTakes⟩
          have hPlaced :=
            (hFamily.occurrences ls
              List.mem_cons_self).placed
          have hAhead : behind i ks ≤ behind i ls :=
            behind_le_behind
              (hTakes.earliest ls hPlaced
                (hStart ls List.mem_cons_self))
              (Nat.le_refl i)
          have hLeft : StartsAt (behind i ks) family := by
            intro ms hMember l hPlace
            exact Nat.le_trans hAhead
              (hFamily.tail_startsAt hSteps i ms hMember l
                hPlace)
          simp only [List.length_cons]
          exact Nat.succ_le_succ
            (ih hTakes.rest.symm hFamily.tail hLeft)

end Matching

end TraceMining
