import TraceMining.Proofs.Matching.Occurrence

/-
  This file shows what an attempt takes.  Whatever quotas are
  left, an attempt that succeeds takes the earliest places
  there are for the rules that are owed; one that fails meets
  an event past its deadline before any such places end.

  Key definitions include:
    * `Matching.owed`
    * `Matching.Takes`

  Key theorems include:
    * `Matching.owed_cons`
    * `Matching.collect_cons_eq_some`
    * `Matching.collect_cons_eq_none`
    * `Matching.exists_takes_of_collect`
    * `Matching.exists_late_of_collect`
    * `Definition.owed_quotas`
-/

------------------------------------------------------------
-- What is Owed
------------------------------------------------------------

namespace TraceMining

namespace Matching

/- The rules that quotas stand for, one for each event. -/
def owed
    (qs : List Quota) : List Rule :=
  qs.flatMap fun q => List.replicate (q.more + 1) q.rule

/- The quotas of a sequence of steps. -/
def quotas
    (steps : List Rule) : List Quota :=
  steps.map Quota.ofRule

/- The rule at hand is owed, and then what is left of it. -/
theorem owed_cons
    (q : Quota)
    (qs : List Quota) :
    owed (q :: qs) = q.rule :: owed (q.taken qs) := by
  unfold Quota.taken
  split
  · rename_i hMore
    simp [owed, hMore]
  · rename_i n hMore
    simp [owed, hMore, List.replicate_succ]

/- Steps owe their rules as often as they are repeated. -/
theorem owed_quotas
    (steps : List Rule) :
    owed (quotas steps) =
      steps.flatMap fun r => List.replicate r.repetitions r := by
  have hCount :
      ∀ r : Rule, r.repetitions - 1 + 1 = r.repetitions :=
    fun r => Nat.sub_add_cancel r.repetitions_pos
  simp [owed, quotas, List.flatMap_map, Quota.ofRule, hCount]

/- Some steps owe something. -/
theorem owed_quotas_ne_nil
    {steps : List Rule}
    (hSteps : steps ≠ []) :
    owed (quotas steps) ≠ [] := by
  cases steps with
  | nil => exact absurd rfl hSteps
  | cons r rs =>
      rw [quotas, List.map_cons, owed_cons]
      exact List.cons_ne_nil _ _

end Matching

/- A rule without a fault is repeated as often as it says. -/
theorem Rule.repetitions_eq
    {r : Rule}
    {i : Nat}
    (hSound : r.fault? i = none) :
    r.repetitions = r.minOccurrences.toNat := by
  have hCount : r.occurrencesFault? i = none := by
    simp only [Rule.fault?, Option.or_eq_none_iff] at hSound
    exact hSound.2.1
  have hPositive : 1 ≤ r.minOccurrences := by
    simp only [Rule.occurrencesFault?] at hCount
    split at hCount
    · rename_i hNull
      simp [Rule.minOccurrences, Rule.occurrences, hNull,
        Value.isTruthy]
    · rename_i n hInt
      have hLarge : 1 ≤ n := by
        by_contra hSmall
        have hBelow : n < 1 := by omega
        simp [hBelow] at hCount
      have hNonzero : n ≠ 0 := by omega
      simp [Rule.minOccurrences, Rule.occurrences, hInt,
        Value.isTruthy, hNonzero, hLarge]
    · exact absurd hCount (by simp)
  unfold Rule.repetitions
  omega

/- Steps without a fault owe what they ask for. -/
theorem Matching.owed_quotas_of_allSound
    {steps : List Rule}
    (hSound : Matching.AllSound steps) :
    Matching.owed (Matching.quotas steps) =
      steps.flatMap fun r =>
        List.replicate r.minOccurrences.toNat r := by
  rw [Matching.owed_quotas]
  apply List.flatMap_congr
  intro r hMember
  rcases hSound r hMember with ⟨i, hRule⟩
  rw [Rule.repetitions_eq hRule]

/- A valid definition asks for what its steps owe. -/
theorem Definition.owed_quotas
    {d : Definition}
    (hValid : d.isValid = true) :
    Matching.owed (Matching.quotas d.rules.sequence) =
      d.demand :=
  Matching.owed_quotas_of_allSound
    (Definition.allSound hValid).2

end TraceMining

------------------------------------------------------------
-- Steps of an Attempt
------------------------------------------------------------

namespace TraceMining

namespace Matching

variable {deadline : Int}
variable {e : Event}
variable {es : List Event}
variable {q : Quota}
variable {qs : List Quota}

/- A match behind an event that is taken. -/
def Match.with
    (e : Event)
    (m : Match) : Match :=
  { m with events := e :: m.events }

/- Nothing is collected from an event past the deadline. -/
theorem collect_late
    (hLate : deadline < e.timestamp) :
    collect deadline (e :: es) (q :: qs) = none := by
  simp only [collect]
  rw [if_pos hLate]

/- An event in time that is accepted is taken. -/
theorem collect_accept
    (hTime : ¬ deadline < e.timestamp)
    (hAccepts : q.rule.accepts e = true) :
    collect deadline (e :: es) (q :: qs) =
      (collect deadline es (q.taken qs)).map
        (Match.with e) := by
  simp only [collect]
  rw [if_neg hTime, if_pos hAccepts]
  rfl

/- An event in time that is not accepted is passed over. -/
theorem collect_reject
    (hTime : ¬ deadline < e.timestamp)
    (hRejects : ¬ q.rule.accepts e = true) :
    collect deadline (e :: es) (q :: qs) =
      collect deadline es (q :: qs) := by
  simp only [collect]
  rw [if_neg hTime, if_neg hRejects]

/- What collecting does if it succeeds. -/
theorem collect_cons_eq_some
    {m : Match}
    (hCollect :
      collect deadline (e :: es) (q :: qs) = some m) :
    ¬ deadline < e.timestamp ∧
      ((q.rule.accepts e = true ∧
          ∃ n, collect deadline es (q.taken qs) = some n ∧
            n.with e = m) ∨
        (¬ q.rule.accepts e = true ∧
          collect deadline es (q :: qs) = some m)) := by
  by_cases hLate : deadline < e.timestamp
  · rw [collect_late hLate] at hCollect
    cases hCollect
  · refine ⟨hLate, ?_⟩
    by_cases hAccepts : q.rule.accepts e = true
    · rw [collect_accept hLate hAccepts] at hCollect
      exact Or.inl
        ⟨hAccepts, Option.map_eq_some_iff.mp hCollect⟩
    · rw [collect_reject hLate hAccepts] at hCollect
      exact Or.inr ⟨hAccepts, hCollect⟩

/- What collecting does if it fails. -/
theorem collect_cons_eq_none
    (hCollect :
      collect deadline (e :: es) (q :: qs) = none) :
    deadline < e.timestamp ∨
      (q.rule.accepts e = true ∧
          collect deadline es (q.taken qs) = none) ∨
        (¬ q.rule.accepts e = true ∧
          collect deadline es (q :: qs) = none) := by
  by_cases hLate : deadline < e.timestamp
  · exact Or.inl hLate
  · right
    by_cases hAccepts : q.rule.accepts e = true
    · rw [collect_accept hLate hAccepts] at hCollect
      exact Or.inl
        ⟨hAccepts, Option.map_eq_none_iff.mp hCollect⟩
    · rw [collect_reject hLate hAccepts] at hCollect
      exact Or.inr ⟨hAccepts, hCollect⟩

end Matching

end TraceMining

------------------------------------------------------------
-- Success
------------------------------------------------------------

namespace TraceMining

namespace Matching

/-
  What collecting takes from a place on: events at the
  earliest places there are for the rules, none of them past
  the deadline, and it stops behind the last of them.
-/
structure Takes
    (deadline : Int)
    (rs : List Rule)
    (all : List Event)
    (i : Nat)
    (m : Match)
    (ks : List Nat) : Prop where
  placed : Placed rs all ks
  start : ∀ k ∈ ks, i ≤ k
  events : eventsAt all ks = m.events
  rest : m.rest = all.drop (behind i ks)
  earliest :
    ∀ ls, Placed rs all ls → (∀ l ∈ ls, i ≤ l) →
      List.Forall₂ (· ≤ ·) ks ls
  inTime : ∀ e ∈ m.events, e.timestamp ≤ deadline

/- The front of what follows a place, and what follows it. -/
theorem drop_eq_cons
    {all : List Event}
    {i : Nat}
    {e : Event}
    {es : List Event}
    (hDrop : all.drop i = e :: es) :
    all[i]? = some e ∧ all.drop (i + 1) = es := by
  constructor
  · rw [← Nat.add_zero i, ← List.getElem?_drop, hDrop,
      List.getElem?_cons_zero]
  · rw [← List.drop_drop, hDrop, List.drop_succ_cons,
      List.drop_zero]

/- An attempt that owes nothing takes nothing. -/
theorem Takes.nil
    {deadline : Int}
    {all es : List Event}
    {i : Nat}
    (hDrop : all.drop i = es) :
    Takes deadline [] all i ⟨[], es⟩ [] where
  placed := Placed.nil_iff.mpr rfl
  start := by simp
  events := rfl
  rest := hDrop.symm
  earliest := by
    intro ls hPlaced _
    rw [Placed.nil_iff.mp hPlaced]
    exact List.Forall₂.nil
  inTime := by simp

/- An attempt takes the event at hand, and then the rest. -/
theorem Takes.cons
    {deadline : Int}
    {r : Rule}
    {rs : List Rule}
    {all : List Event}
    {i : Nat}
    {e : Event}
    {m : Match}
    {ks : List Nat}
    (hEvent : all[i]? = some e)
    (hAccepts : r.accepts e = true)
    (hTime : e.timestamp ≤ deadline)
    (hTakes : Takes deadline rs all (i + 1) m ks) :
    Takes deadline (r :: rs) all i (m.with e)
      (i :: ks) where
  placed :=
    Placed.cons_iff.mpr
      ⟨i, ks, rfl, ⟨e, hEvent, hAccepts⟩, hTakes.placed,
        hTakes.start⟩
  start := by
    intro k hMember
    rcases List.mem_cons.mp hMember with rfl | hMember
    · exact Nat.le_refl k
    · exact Nat.le_of_succ_le (hTakes.start k hMember)
  events := by
    rw [eventsAt_cons hEvent, hTakes.events]
    rfl
  rest := hTakes.rest
  earliest := by
    intro ls hPlaced hStart
    rcases Placed.cons_iff.mp hPlaced with
      ⟨l, ms, rfl, _, hTail, hBelow⟩
    have hHead : i ≤ l := hStart l List.mem_cons_self
    refine List.Forall₂.cons hHead
      (hTakes.earliest ms hTail ?_)
    intro n hMember
    have hLater := hBelow n hMember
    omega
  inTime := by
    intro a hMember
    rcases List.mem_cons.mp hMember with rfl | hMember
    · exact hTime
    · exact hTakes.inTime a hMember

/- Places from here on, if the event here is not accepted. -/
theorem Placed.start_succ
    {r : Rule}
    {rs : List Rule}
    {all : List Event}
    {i : Nat}
    {e : Event}
    {ls : List Nat}
    (hEvent : all[i]? = some e)
    (hRejects : ¬ r.accepts e = true)
    (hPlaced : Placed (r :: rs) all ls)
    (hStart : ∀ l ∈ ls, i ≤ l) :
    ∀ l ∈ ls, i + 1 ≤ l := by
  rcases Placed.cons_iff.mp hPlaced with
    ⟨k, ms, rfl, ⟨a, hFirst, hAccepts⟩, _, hBelow⟩
  have hHead : i ≤ k := hStart k List.mem_cons_self
  have hOther : i ≠ k := by
    rintro rfl
    rw [hEvent, Option.some.injEq] at hFirst
    exact hRejects (hFirst ▸ hAccepts)
  intro l hMember
  rcases List.mem_cons.mp hMember with rfl | hMember
  · omega
  · have hLater := hBelow l hMember
    omega

/- An attempt passes over an event that is not accepted. -/
theorem Takes.skip
    {deadline : Int}
    {r : Rule}
    {rs : List Rule}
    {all : List Event}
    {i : Nat}
    {e : Event}
    {m : Match}
    {ks : List Nat}
    (hEvent : all[i]? = some e)
    (hRejects : ¬ r.accepts e = true)
    (hTakes : Takes deadline (r :: rs) all (i + 1) m ks) :
    Takes deadline (r :: rs) all i m ks where
  placed := hTakes.placed
  start := fun k hMember =>
    Nat.le_of_succ_le (hTakes.start k hMember)
  events := hTakes.events
  rest := by
    rcases Placed.cons_iff.mp hTakes.placed with
      ⟨k, ls, rfl, _⟩
    exact hTakes.rest
  earliest := fun ls hPlaced hStart =>
    hTakes.earliest ls hPlaced
      (hPlaced.start_succ hEvent hRejects hStart)
  inTime := hTakes.inTime

/- Collecting that succeeds takes the earliest places. -/
theorem exists_takes_of_collect
    {deadline : Int}
    {all es : List Event}
    {qs : List Quota}
    {i : Nat}
    {m : Match}
    (hDrop : all.drop i = es)
    (hCollect : collect deadline es qs = some m) :
    ∃ ks, Takes deadline (owed qs) all i m ks := by
  induction es generalizing i qs m with
  | nil =>
      cases qs with
      | nil =>
          simp only [collect, Option.some.injEq] at hCollect
          exact hCollect ▸ ⟨[], Takes.nil hDrop⟩
      | cons q qs => simp [collect] at hCollect
  | cons e es ih =>
      cases qs with
      | nil =>
          simp only [collect, Option.some.injEq] at hCollect
          exact hCollect ▸ ⟨[], Takes.nil hDrop⟩
      | cons q qs =>
          rcases drop_eq_cons hDrop with ⟨hEvent, hTail⟩
          rw [owed_cons]
          rcases collect_cons_eq_some hCollect with
            ⟨hTime, ⟨hAccepts, n, hRest, rfl⟩ |
              ⟨hRejects, hRest⟩⟩
          · rcases ih hTail hRest with ⟨ks, hTakes⟩
            exact ⟨i :: ks,
              hTakes.cons hEvent hAccepts (by omega)⟩
          · rcases ih hTail hRest with ⟨ks, hTakes⟩
            rw [owed_cons] at hTakes
            exact ⟨ks, hTakes.skip hEvent hRejects⟩

end Matching

end TraceMining

------------------------------------------------------------
-- Failure
------------------------------------------------------------

namespace TraceMining

namespace Matching

/- An event past a deadline, from one place to another. -/
def IsLateBetween
    (deadline : Int)
    (all : List Event)
    (i j : Nat) : Prop :=
  ∃ n e, i ≤ n ∧ n < j ∧ all[n]? = some e ∧
    deadline < e.timestamp

/- A wider stretch holds the same late event. -/
theorem IsLateBetween.mono
    {deadline : Int}
    {all : List Event}
    {i i' j j' : Nat}
    (hLate : IsLateBetween deadline all i j)
    (hStart : i' ≤ i)
    (hEnd : j ≤ j') :
    IsLateBetween deadline all i' j' := by
  rcases hLate with ⟨n, e, hFrom, hTo, hEvent, hTime⟩
  exact ⟨n, e, by omega, by omega, hEvent, hTime⟩

/-
  Collecting that fails meets an event past the deadline
  before any places for what is owed come to an end.
-/
theorem exists_late_of_collect
    {deadline : Int}
    {all es : List Event}
    {qs : List Quota}
    {i : Nat}
    {ls : List Nat}
    (hDrop : all.drop i = es)
    (hCollect : collect deadline es qs = none)
    (hPlaced : Placed (owed qs) all ls)
    (hStart : ∀ l ∈ ls, i ≤ l) :
    IsLateBetween deadline all i (behind i ls) := by
  induction es generalizing i qs ls with
  | nil =>
      cases qs with
      | nil => simp [collect] at hCollect
      | cons q qs =>
          -- There is no event left to place the rule at.
          rw [owed_cons] at hPlaced
          rcases Placed.cons_iff.mp hPlaced with
            ⟨k, ms, rfl, ⟨e, hEvent, _⟩, _⟩
          have hFrom : i ≤ k := hStart k List.mem_cons_self
          have hEnd : all.length ≤ i :=
            List.drop_eq_nil_iff.mp hDrop
          have hBound : k < all.length :=
            (List.getElem?_eq_some_iff.mp hEvent).1
          omega
  | cons e es ih =>
      cases qs with
      | nil => simp [collect] at hCollect
      | cons q qs =>
          rcases drop_eq_cons hDrop with ⟨hEvent, hTail⟩
          rw [owed_cons] at hPlaced
          rcases Placed.cons_iff.mp hPlaced with
            ⟨k, ms, rfl, _, hRest, hBelow⟩
          have hFrom : i ≤ k := hStart k List.mem_cons_self
          rcases collect_cons_eq_none hCollect with
            hLate | ⟨hAccepts, hFails⟩ | ⟨hRejects, hFails⟩
          · have hEnd : k + 1 ≤ behind (k + 1) ms :=
              le_behind hRest.increasing hBelow
            exact ⟨i, e, Nat.le_refl i, by
              simp only [behind]
              omega, hEvent, hLate⟩
          · -- The rest of the places is left for the rest.
            have hNext : ∀ l ∈ ms, i + 1 ≤ l := by
              intro l hMember
              have hLater := hBelow l hMember
              omega
            have hSame : List.Forall₂ (· ≤ ·) ms ms :=
              List.forall₂_same.mpr fun l _ => Nat.le_refl l
            exact (ih hTail hFails hRest hNext).mono
              (Nat.le_succ i)
              (behind_le_behind hSame (by omega))
          · have hNext :=
              hPlaced.start_succ hEvent hRejects hStart
            rw [← owed_cons] at hPlaced
            exact (ih hTail hFails hPlaced hNext).mono
              (Nat.le_succ i) (Nat.le_refl _)

end Matching

end TraceMining
