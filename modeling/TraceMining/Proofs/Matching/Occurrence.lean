import Mathlib.Data.List.Chain
import Mathlib.Data.List.Forall2
import TraceMining.Matching.Checked

/-
  This file defines the occurrences of a sequence of rules in
  a list of events, apart from any way of finding them: places
  that go up, whose events satisfy the rules in order and lie
  within a window of time.

  Key definitions include:
    * `Matching.InOrder`
    * `Matching.Placed`
    * `Matching.IsOccurrence`
    * `Matching.IsFamily`
    * `Matching.behind`
    * `Definition.demand`

  Key theorems include:
    * `Matching.Placed.cons_iff`
    * `Matching.behind_le_behind`
    * `Matching.elapsed_eventsAt`
-/

------------------------------------------------------------
-- Events in Order
------------------------------------------------------------

namespace TraceMining

namespace Matching

/- The events are ordered by time. -/
def InOrder
    (es : List Event) : Prop :=
  es.Pairwise fun a b => a.timestamp ≤ b.timestamp

instance
    (es : List Event) :
    Decidable (InOrder es) := by
  unfold InOrder
  infer_instance

/- An event at a later place is not earlier. -/
theorem InOrder.timestamp_le
    {es : List Event}
    (hOrder : InOrder es)
    {i j : Nat}
    {a b : Event}
    (hFirst : es[i]? = some a)
    (hSecond : es[j]? = some b)
    (hPlaces : i ≤ j) :
    a.timestamp ≤ b.timestamp := by
  rcases List.getElem?_eq_some_iff.mp hFirst with
    ⟨hi, rfl⟩
  rcases List.getElem?_eq_some_iff.mp hSecond with
    ⟨hj, rfl⟩
  rcases Nat.eq_or_lt_of_le hPlaces with hEq | hLt
  · subst hEq
    exact Int.le_refl _
  · exact List.pairwise_iff_getElem.mp hOrder i j hi hj hLt

end Matching

end TraceMining

------------------------------------------------------------
-- Places
------------------------------------------------------------

namespace TraceMining

namespace Matching

/- The event at a place satisfies a rule. -/
def AcceptsAt
    (es : List Event)
    (r : Rule)
    (k : Nat) : Prop :=
  ∃ e, es[k]? = some e ∧ r.accepts e = true

/- Places that go up, whose events satisfy rules in order. -/
structure Placed
    (rs : List Rule)
    (es : List Event)
    (ks : List Nat) : Prop where
  increasing : ks.Pairwise (· < ·)
  accepted : List.Forall₂ (AcceptsAt es) rs ks

/- The events at some places. -/
def eventsAt
    (es : List Event)
    (ks : List Nat) : List Event :=
  ks.filterMap fun k => es[k]?

/- Places are behind one another. -/
def Precedes
    (ks ls : List Nat) : Prop :=
  ∀ k ∈ ks.getLast?, ∀ l ∈ ls.head?, k < l

/- The place behind the last place, or a place to start from. -/
def behind
    (i : Nat) : List Nat → Nat
  | [] => i
  | k :: ks => behind (k + 1) ks

end Matching

end TraceMining

------------------------------------------------------------
-- Occurrences
------------------------------------------------------------

namespace TraceMining

namespace Matching

/- Places for all that is asked for, within a window of time. -/
structure IsOccurrence
    (demand : List Rule)
    (timeout : Int)
    (es : List Event)
    (ks : List Nat) : Prop where
  placed : Placed demand es ks
  inTime : elapsed (eventsAt es ks) ≤ timeout

/- Occurrences in a row that have no event in common. -/
structure IsFamily
    (demand : List Rule)
    (timeout : Int)
    (es : List Event)
    (family : List (List Nat)) : Prop where
  occurrences :
    ∀ ks ∈ family, IsOccurrence demand timeout es ks
  apart : family.IsChain Precedes

end Matching

/- What a definition asks for, one rule for each event. -/
def Definition.demand
    (d : Definition) : List Rule :=
  d.rules.sequence.flatMap fun r =>
    List.replicate r.minOccurrences.toNat r

end TraceMining

------------------------------------------------------------
-- Laws of Places
------------------------------------------------------------

namespace TraceMining

namespace Matching

namespace Placed

variable {rs : List Rule}
variable {es : List Event}
variable {ks : List Nat}

/- No rules have no places. -/
theorem nil_iff :
    Placed [] es ks ↔ ks = [] := by
  constructor
  · intro hPlaced
    exact List.forall₂_nil_left_iff.mp hPlaced.accepted
  · rintro rfl
    exact ⟨List.Pairwise.nil, List.Forall₂.nil⟩

/- The first rule has the first place. -/
theorem cons_iff
    {r : Rule} :
    Placed (r :: rs) es ks ↔
      ∃ k ls, ks = k :: ls ∧ AcceptsAt es r k ∧
        Placed rs es ls ∧ ∀ l ∈ ls, k < l := by
  constructor
  · rintro ⟨hIncreasing, hAccepted⟩
    rcases List.forall₂_cons_left_iff.mp hAccepted with
      ⟨k, ls, hHead, hTail, rfl⟩
    rcases List.pairwise_cons.mp hIncreasing with
      ⟨hBelow, hRest⟩
    exact ⟨k, ls, rfl, hHead, ⟨hRest, hTail⟩, hBelow⟩
  · rintro ⟨k, ls, rfl, hHead, hTail, hBelow⟩
    exact
      ⟨List.pairwise_cons.mpr ⟨hBelow, hTail.increasing⟩,
        List.Forall₂.cons hHead hTail.accepted⟩

/- There are as many places as rules. -/
theorem length_eq
    (hPlaced : Placed rs es ks) :
    ks.length = rs.length :=
  hPlaced.accepted.length_eq.symm

/- The first place is the least one. -/
theorem head_le
    {k : Nat}
    (hPlaced : Placed rs es (k :: ks)) :
    ∀ l ∈ k :: ks, k ≤ l := by
  intro l hMember
  rcases List.mem_cons.mp hMember with rfl | hMember
  · exact Nat.le_refl l
  · exact Nat.le_of_lt
      ((List.pairwise_cons.mp hPlaced.increasing).1 l
        hMember)

/- There is an event at every place. -/
theorem exists_event
    (hPlaced : Placed rs es ks)
    {k : Nat}
    (hMember : k ∈ ks) :
    ∃ e, es[k]? = some e := by
  induction rs generalizing ks with
  | nil =>
      rw [nil_iff.mp hPlaced] at hMember
      exact absurd hMember List.not_mem_nil
  | cons r rs ih =>
      rcases cons_iff.mp hPlaced with
        ⟨i, ls, rfl, ⟨e, hEvent, _⟩, hTail, _⟩
      rcases List.mem_cons.mp hMember with rfl | hMember
      · exact ⟨e, hEvent⟩
      · exact ih hTail hMember

end Placed

end Matching

end TraceMining

------------------------------------------------------------
-- Behind the Last Place
------------------------------------------------------------

namespace TraceMining

namespace Matching

/- Places that are not earlier end no earlier. -/
theorem behind_le_behind
    {ks ls : List Nat}
    (hPlaces : List.Forall₂ (· ≤ ·) ks ls)
    {i j : Nat}
    (hStart : i ≤ j) :
    behind i ks ≤ behind j ls := by
  induction hPlaces generalizing i j with
  | nil => exact hStart
  | cons hHead _ ih => exact ih (Nat.succ_le_succ hHead)

/- The last place decides. -/
theorem behind_eq_of_getLast?
    {ks : List Nat}
    {k : Nat}
    (hLast : ks.getLast? = some k)
    (i : Nat) :
    behind i ks = k + 1 := by
  induction ks generalizing i with
  | nil => simp at hLast
  | cons l ls ih =>
      cases ls with
      | nil =>
          simp only [List.getLast?_singleton,
            Option.some.injEq] at hLast
          simp [behind, hLast]
      | cons m ms =>
          rw [List.getLast?_cons_cons] at hLast
          exact ih hLast (l + 1)

/- The place behind the last one is behind the start. -/
theorem le_behind
    {ks : List Nat}
    (hIncreasing : ks.Pairwise (· < ·))
    {i : Nat}
    (hStart : ∀ k ∈ ks, i ≤ k) :
    i ≤ behind i ks := by
  induction ks generalizing i with
  | nil => exact Nat.le_refl i
  | cons l ls ih =>
      rcases List.pairwise_cons.mp hIncreasing with
        ⟨hBelow, hRest⟩
      have hHead : i ≤ l := hStart l List.mem_cons_self
      have hTail : l + 1 ≤ behind (l + 1) ls :=
        ih hRest hBelow
      simp only [behind]
      omega

/- Every place is before the one behind the last. -/
theorem lt_behind
    {ks : List Nat}
    (hIncreasing : ks.Pairwise (· < ·))
    {k : Nat}
    (hMember : k ∈ ks)
    (i : Nat) :
    k < behind i ks := by
  induction ks generalizing i with
  | nil => exact absurd hMember List.not_mem_nil
  | cons l ls ih =>
      rcases List.pairwise_cons.mp hIncreasing with
        ⟨hBelow, hRest⟩
      rcases List.mem_cons.mp hMember with rfl | hMember
      · exact le_behind hRest hBelow
      · exact ih hRest hMember (l + 1)

end Matching

end TraceMining

------------------------------------------------------------
-- Events at Places
------------------------------------------------------------

namespace TraceMining

namespace Matching

/- The events at a place and at further places. -/
theorem eventsAt_cons
    {es : List Event}
    {k : Nat}
    {e : Event}
    (hEvent : es[k]? = some e)
    (ks : List Nat) :
    eventsAt es (k :: ks) = e :: eventsAt es ks := by
  simp [eventsAt, hEvent]

/- The first of the events is the one at the first place. -/
theorem head?_eventsAt
    {rs : List Rule}
    {es : List Event}
    {ks : List Nat}
    (hPlaced : Placed rs es ks)
    {k : Nat}
    (hFirst : ks.head? = some k) :
    (eventsAt es ks).head? = es[k]? := by
  rcases List.head?_eq_some_iff.mp hFirst with ⟨ls, rfl⟩
  rcases hPlaced.exists_event List.mem_cons_self with
    ⟨e, hEvent⟩
  rw [eventsAt_cons hEvent, List.head?_cons, hEvent]

/- The last of the events is the one at the last place. -/
theorem getLast?_eventsAt
    {rs : List Rule}
    {es : List Event}
    {ks : List Nat}
    (hPlaced : Placed rs es ks)
    {k : Nat}
    (hLast : ks.getLast? = some k) :
    (eventsAt es ks).getLast? = es[k]? := by
  rcases hPlaced.exists_event (List.mem_of_getLast? hLast)
    with ⟨e, hEvent⟩
  rcases List.getLast?_eq_some_iff.mp hLast with
    ⟨ls, rfl⟩
  simp [eventsAt, hEvent]

/- The time from the first place to the last. -/
theorem elapsed_eventsAt
    {rs : List Rule}
    {es : List Event}
    {ks : List Nat}
    (hPlaced : Placed rs es ks)
    {k l : Nat}
    (hFirst : ks.head? = some k)
    (hLast : ks.getLast? = some l)
    {a b : Event}
    (hBegin : es[k]? = some a)
    (hEnd : es[l]? = some b) :
    elapsed (eventsAt es ks) = b.timestamp - a.timestamp := by
  have hFinal : (eventsAt es ks).getLast? = some b := by
    rw [getLast?_eventsAt hPlaced hLast, hEnd]
  have hInitial : (eventsAt es ks).head? = some a := by
    rw [head?_eventsAt hPlaced hFirst, hBegin]
  simp only [elapsed, hInitial, hFinal]

/- Places begin and end with events, some time apart. -/
theorem Placed.exists_ends
    {rs : List Rule}
    {es : List Event}
    {ks : List Nat}
    (hPlaced : Placed rs es ks)
    (hNonempty : ks ≠ []) :
    ∃ k l a b,
      ks.head? = some k ∧ ks.getLast? = some l ∧
        es[k]? = some a ∧ es[l]? = some b ∧
          elapsed (eventsAt es ks) =
            b.timestamp - a.timestamp := by
  have hFirst := List.head?_eq_some_head hNonempty
  have hLast := List.getLast?_eq_some_getLast hNonempty
  rcases hPlaced.exists_event (List.head_mem hNonempty) with
    ⟨a, hBegin⟩
  rcases hPlaced.exists_event (List.getLast_mem hNonempty)
    with ⟨b, hEnd⟩
  exact ⟨_, _, a, b, hFirst, hLast, hBegin, hEnd,
    elapsed_eventsAt hPlaced hFirst hLast hBegin hEnd⟩

/- No time runs backwards over ordered events. -/
theorem elapsed_nonneg
    {rs : List Rule}
    {es : List Event}
    {ks : List Nat}
    (hOrder : InOrder es)
    (hPlaced : Placed rs es ks) :
    0 ≤ elapsed (eventsAt es ks) := by
  cases ks with
  | nil => exact Int.le_refl 0
  | cons k ks =>
      rcases hPlaced.exists_ends (List.cons_ne_nil k ks) with
        ⟨i, l, a, b, hFirst, hLast, hBegin, hEnd, hElapsed⟩
      cases hFirst
      have hTimes : a.timestamp ≤ b.timestamp :=
        hOrder.timestamp_le hBegin hEnd
          (hPlaced.head_le l (List.mem_of_getLast? hLast))
      omega

/- There are as many events as places. -/
theorem length_eventsAt
    {rs : List Rule}
    {es : List Event}
    {ks : List Nat}
    (hPlaced : Placed rs es ks) :
    (eventsAt es ks).length = ks.length := by
  induction rs generalizing ks with
  | nil =>
      rw [Placed.nil_iff.mp hPlaced]
      rfl
  | cons r rs ih =>
      rcases Placed.cons_iff.mp hPlaced with
        ⟨k, ls, rfl, ⟨e, hEvent, _⟩, hTail, _⟩
      rw [eventsAt_cons hEvent, List.length_cons,
        List.length_cons, ih hTail]

end Matching

end TraceMining
