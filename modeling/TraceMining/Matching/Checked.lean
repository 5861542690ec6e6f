import TraceMining.Matching.Recognition

/-
  This file shows that a definition which passes the check is
  never misused: its globs are text and its counts are
  integers, so that an event can always be held against its
  steps.  Matching it is then turning every match into a
  pattern.

  Key theorems include:
    * `Constraint.misuse?_eq_none`
    * `Rule.verdict_eq_ok`
    * `Definition.misuse?_eq_none`
    * `Definition.findMatches_eq_mapM`
-/

------------------------------------------------------------
-- Constraints
------------------------------------------------------------

namespace TraceMining

namespace Constraint

mutual

/- A constraint without a fault is not misused. -/
theorem misuse?_eq_none
    (expected : Value)
    (path : String)
    (actual : Option Value)
    (h : fault? expected path = none) :
    misuse? expected actual = none := by
  match expected, actual with
  | .null, _ => rfl
  | .bool _, _ => rfl
  | .int _, _ => rfl
  | .float _, _ => rfl
  | .text _, _ => rfl
  | .list _, _ => rfl
  | .object _, none => rfl
  | .object es, some v =>
      simp only [fault?] at h
      simp only [misuse?]
      split
      · rfl
      · rfl
      · rename_i v _ heq
        cases heq
        split at h
        · rename_i glob hg
          simp [hg, Misuse.ofGlob?]
        · exact absurd h (by simp)
        · rename_i hn
          simp only [hn]
          split
          · exact firstMisuse?_eq_none es path _ h
          · rfl

/- Entries without a fault are not misused. -/
theorem firstMisuse?_eq_none
    (es : List (String × Value))
    (path : String)
    (fs : Fields)
    (h : firstFault? es path = none) :
    firstMisuse? es fs = none := by
  match es with
  | [] => rfl
  | (key, v) :: es =>
      simp only [firstFault?] at h
      split at h
      · exact absurd h (by simp)
      · rename_i hv
        simp only [firstMisuse?,
          misuse?_eq_none v _ (fs.get? key) hv]
        split
        · exact firstMisuse?_eq_none es path fs h
        · rfl

end

/- Entries that are never misused are not misused together. -/
theorem firstMisuse?_eq_none_of_forall
    (es : List (String × Value))
    (fs : Fields)
    (h : ∀ e ∈ es, ∀ v, misuse? e.2 v = none) :
    firstMisuse? es fs = none := by
  induction es with
  | nil => rfl
  | cons e es ih =>
      obtain ⟨key, v⟩ := e
      have hv := h (key, v) List.mem_cons_self (fs.get? key)
      have hes := ih fun e he =>
        h e (List.mem_cons_of_mem _ he)
      simp only [firstMisuse?, hv, hes]
      split <;> rfl

end Constraint

end TraceMining

------------------------------------------------------------
-- Rules
------------------------------------------------------------

namespace TraceMining

namespace Rule

/- A rule without a fault is not misused. -/
theorem misuse?_eq_none
    {r : Rule}
    {i : Nat}
    (h : r.fault? i = none)
    (e : Event) :
    r.misuse? e = none := by
  have hc : r.constraintFault? i = none := by
    simp only [fault?, Option.or_eq_none_iff] at h
    exact h.2.2
  have hm := Constraint.firstMisuse?_eq_none_of_forall
    r.constraints e.data fun entry hentry v =>
      Constraint.misuse?_eq_none _ _ v
        (List.findSome?_eq_none_iff.1 hc entry hentry)
  simp [misuse?, hm]

/- A rule without a fault tells whether an event fits. -/
theorem verdict_eq_ok
    {r : Rule}
    {i : Nat}
    (h : r.fault? i = none)
    (e : Event) :
    r.verdict e = .ok (r.accepts e) := by
  simp [verdict, misuse?_eq_none h e]

/- The count of a rule without a fault is a number. -/
theorem countMisuse?_eq_none
    {r : Rule}
    {i : Nat}
    (h : r.fault? i = none) :
    r.countMisuse? = none := by
  have ho : r.occurrencesFault? i = none := by
    simp only [fault?, Option.or_eq_none_iff] at h
    exact h.2.1
  simp only [occurrencesFault?] at ho
  simp only [countMisuse?, occurrences]
  split at ho
  · rename_i hv
    simp [hv, Value.isTruthy, Misuse.ofCount?,
      Value.isScalar]
  · rename_i n hv
    by_cases hn : n = 0
    · simp [hv, hn, Value.isTruthy, Misuse.ofCount?,
        Value.isScalar]
    · simp [hv, hn, Value.isTruthy, Misuse.ofCount?,
        Value.isScalar]
  · exact absurd ho (by simp)

end Rule

end TraceMining

------------------------------------------------------------
-- Scans
------------------------------------------------------------

namespace TraceMining

namespace Matching

/- The steps of a sequence have no fault. -/
def AllSound
    (steps : List Rule) : Prop :=
  ∀ r ∈ steps, ∃ i, r.fault? i = none

/- Collecting for sound steps meets no misuse. -/
theorem collectMisuse?_eq_none
    (deadline : Int)
    (es : List Event)
    (qs : List Quota)
    (h : AllSound (qs.map Quota.rule)) :
    collectMisuse? deadline es qs = none := by
  induction es generalizing qs with
  | nil => cases qs <;> rfl
  | cons e es ih =>
      cases qs with
      | nil => rfl
      | cons q qs =>
          obtain ⟨i, hi⟩ := h q.rule (by simp)
          have hrest : AllSound (qs.map Quota.rule) :=
            fun r hr => h r (List.mem_cons_of_mem _ hr)
          have htaken :
              AllSound ((q.taken qs).map Quota.rule) := by
            unfold Quota.taken
            split
            · exact hrest
            · exact h
          simp only [collectMisuse?,
            Rule.misuse?_eq_none hi e,
            Rule.countMisuse?_eq_none hi, ih _ htaken, ih _ h]
          split
          · rfl
          · split <;> rfl

/- An attempt at sound steps meets no misuse. -/
theorem attemptMisuse?_eq_none
    {steps : List Rule}
    (h : AllSound steps)
    (timeout : Int)
    (es : List Event) :
    attemptMisuse? steps timeout es = none := by
  cases es with
  | nil => rfl
  | cons e es =>
      apply collectMisuse?_eq_none
      rw [List.map_map]
      have hid : Quota.rule ∘ Quota.ofRule = id := rfl
      rw [hid, List.map_id]
      exact h

/- A scan for sound steps meets no misuse. -/
theorem scanMisuse?_eq_none
    {steps : List Rule}
    (h : AllSound steps)
    (timeout : Int)
    (skip : Nat)
    (es : List Event) :
    scanMisuse? steps timeout skip es = none := by
  induction es generalizing skip with
  | nil => cases skip <;> rfl
  | cons e es ih =>
      cases skip with
      | succ skip => exact ih skip
      | zero =>
          simp only [scanMisuse?, attemptMisuse?_eq_none h]
          split
          · exact ih 0
          · rw [ih]
            rfl

end Matching

end TraceMining

------------------------------------------------------------
-- Definitions
------------------------------------------------------------

namespace TraceMining

namespace Draft

/- A draft without a fault has steps, and none has a fault. -/
theorem stepFault?_eq_none
    {d : Draft}
    (h : d.fault? = none) :
    d.sequence ≠ [] ∧
      ∀ v ∈ d.sequence, ∃ i, v.stepFault? i = none := by
  simp only [fault?] at h
  split at h
  · exact absurd h (by simp)
  · rename_i hne
    split at h
    · exact absurd h (by simp)
    · refine ⟨by simpa using hne, fun v hv => ?_⟩
      obtain ⟨i, hi, rfl⟩ := List.mem_iff_getElem.1 hv
      refine ⟨i, List.findSome?_eq_none_iff.1 h
        (d.sequence[i], i) ?_⟩
      rw [List.mem_zipIdx_iff_getElem?]
      simp [hi]

end Draft

namespace Definition

/- A valid definition has steps, and none has a fault. -/
theorem allSound
    {d : Definition}
    (h : d.isValid = true) :
    d.rules.sequence ≠ [] ∧
      Matching.AllSound d.rules.sequence := by
  have hf : d.draft.fault? = none := by
    simpa [isValid] using h
  obtain ⟨hne, hall⟩ := Draft.stepFault?_eq_none hf
  refine ⟨fun hs => hne (by simp [draft, hs]), ?_⟩
  intro r hr
  exact hall r.toValue (List.mem_map_of_mem hr)

/- A valid definition is never misused. -/
theorem misuse?_eq_none
    {d : Definition}
    (h : d.isValid = true)
    (es : List Event) :
    d.misuse? es = none :=
  Matching.scanMisuse?_eq_none (allSound h).2 _ _ _

/- A valid definition turns every match into a pattern. -/
theorem findMatches_eq_mapM
    {d : Definition}
    (h : d.isValid = true)
    (es : List Event) :
    d.findMatches es =
      (d.matchedEvents es).mapM (Matching.toPattern d) := by
  have hs : d.rules.sequence.isEmpty = false := by
    simp [(allSound h).1]
  simp [findMatches, hs, misuse?_eq_none h es]

end Definition

end TraceMining
