import TraceMining.Matching.Checked

/-
  This file describes what passes the check.  A constraint is
  a scalar, an object whose glob is text, or an object of
  constraints; a step may name a kind of event and ask for a
  positive number of events, and every other entry of it is a
  constraint.  Where a constraint or a step stands makes no
  difference to whether it is accepted.

  Key definitions include:
    * `Constraint.IsConstraint`
    * `Rule.IsSound`
    * `Draft.IsSound`

  Key theorems include:
    * `Constraint.fault?_eq_none_iff`
    * `Rule.fault?_eq_none_iff`
    * `Draft.fault?_eq_none_iff`
    * `Definition.isValid_iff`
-/

------------------------------------------------------------
-- Constraints
------------------------------------------------------------

namespace TraceMining

namespace Constraint

/- What can be asked of a value. -/
inductive IsConstraint : Value → Prop where
  | scalar
      {v : Value}
      (hScalar : v.isScalar = true) :
      IsConstraint v
  | glob
      {es : Fields}
      {g : String}
      (hGlob : Entries.get? es patternKey = some (.text g)) :
      IsConstraint (.object es)
  | nested
      {es : Fields}
      (hNoGlob : Entries.get? es patternKey = none)
      (hEntries : ∀ e ∈ es, IsConstraint e.2) :
      IsConstraint (.object es)

/- Entries have no fault if none of them has one. -/
theorem firstFault?_eq_none_iff
    (es : Fields)
    (path : String) :
    firstFault? es path = none ↔
      ∀ e ∈ es, fault? e.2 (path ++ "." ++ e.1) = none := by
  induction es with
  | nil => simp [firstFault?]
  | cons e es ih =>
      rcases e with ⟨key, v⟩
      rw [List.forall_mem_cons, ← ih, firstFault?]
      cases fault? v (path ++ "." ++ key) <;> simp

/- A constraint has no fault, wherever it stands. -/
theorem IsConstraint.fault?_eq_none
    {v : Value}
    (hConstraint : IsConstraint v)
    (path : String) :
    fault? v path = none := by
  induction hConstraint generalizing path with
  | @scalar v hScalar =>
      cases v with
      | list xs => cases hScalar
      | object es => cases hScalar
      | _ => simp [fault?]
  | glob hGlob => simp [fault?, hGlob]
  | nested hNoGlob _ ih =>
      rw [fault?, hNoGlob]
      exact (firstFault?_eq_none_iff _ _).mpr fun e hMember =>
        ih e hMember _

/- An entry's value is smaller than the object. -/
theorem sizeOf_entry_lt
    {es : Fields}
    {e : String × Value}
    (hMember : e ∈ es) :
    sizeOf e.2 < sizeOf (Value.object es) := by
  have hEntry := List.sizeOf_lt_of_mem hMember
  rcases e with ⟨key, v⟩
  simp only [Prod.mk.sizeOf_spec, Value.object.sizeOf_spec]
    at hEntry ⊢
  omega

/- What has no fault is a constraint. -/
theorem isConstraint_of_fault?
    (v : Value)
    (path : String)
    (hFault : fault? v path = none) :
    IsConstraint v := by
  match v with
  | .null => exact .scalar rfl
  | .bool _ => exact .scalar rfl
  | .int _ => exact .scalar rfl
  | .float _ => exact .scalar rfl
  | .text _ => exact .scalar rfl
  | .list _ => simp [fault?] at hFault
  | .object es =>
      rw [fault?] at hFault
      split at hFault
      · rename_i g hGlob
        exact .glob hGlob
      · cases hFault
      · rename_i hNoGlob
        apply IsConstraint.nested hNoGlob
        -- Entries are in a list, so the recursion is on size.
        intro e hMember
        have hSmaller := sizeOf_entry_lt hMember
        have hEntry :=
          (firstFault?_eq_none_iff es path).mp hFault e hMember
        exact isConstraint_of_fault? e.2 _ hEntry
termination_by sizeOf v
decreasing_by exact hSmaller

/- Constraints are all that has no fault. -/
theorem fault?_eq_none_iff
    {v : Value}
    {path : String} :
    fault? v path = none ↔ IsConstraint v :=
  ⟨isConstraint_of_fault? v path,
    fun hConstraint => hConstraint.fault?_eq_none path⟩

end Constraint

end TraceMining

------------------------------------------------------------
-- Steps
------------------------------------------------------------

namespace TraceMining

namespace Rule

/-
  What a step may say: the kind of event is text and the count
  a positive integer, if they are there and not null, and all
  else are constraints.
-/
structure IsSound
    (r : Rule) : Prop where
  type :
    ∀ v ∈ r.fields.get? "type", v = .null ∨ ∃ t, v = .text t
  count :
    ∀ v ∈ r.fields.get? "minOccurrences",
      v = .null ∨ ∃ n, v = .int n ∧ 1 ≤ n
  constraints :
    ∀ e ∈ r.constraints, Constraint.IsConstraint e.2

variable {r : Rule}

/- The kind of event has no fault if it is text or not said. -/
theorem typeFault?_eq_none_iff
    {i : Nat} :
    r.typeFault? i = none ↔
      ∀ v ∈ r.fields.get? "type",
        v = .null ∨ ∃ t, v = .text t := by
  unfold typeFault? Fields.getD
  cases r.fields.get? "type" with
  | none => simp
  | some v => cases v <;> simp

/- The count has no fault if it is positive or not said. -/
theorem occurrencesFault?_eq_none_iff
    {i : Nat} :
    r.occurrencesFault? i = none ↔
      ∀ v ∈ r.fields.get? "minOccurrences",
        v = .null ∨ ∃ n, v = .int n ∧ 1 ≤ n := by
  unfold occurrencesFault? Fields.getD
  cases r.fields.get? "minOccurrences" with
  | none => simp
  | some v =>
      cases v with
      | int n =>
          simp only [Option.getD_some, ite_eq_right_iff]
          by_cases hSmall : n < 1
          · simp [hSmall]
          · simp [hSmall, Int.not_lt.mp hSmall]
      | _ => simp

/- The entries have no fault if they are constraints. -/
theorem constraintFault?_eq_none_iff
    {i : Nat} :
    r.constraintFault? i = none ↔
      ∀ e ∈ r.constraints, Constraint.IsConstraint e.2 := by
  unfold constraintFault?
  rw [List.findSome?_eq_none_iff]
  simp only [Constraint.fault?_eq_none_iff]

/- Sound steps are all that have no fault, in any place. -/
theorem fault?_eq_none_iff
    {i : Nat} :
    r.fault? i = none ↔ r.IsSound := by
  unfold fault?
  rw [Option.or_eq_none_iff, Option.or_eq_none_iff,
    typeFault?_eq_none_iff, occurrencesFault?_eq_none_iff,
    constraintFault?_eq_none_iff]
  constructor
  · rintro ⟨hType, hCount, hConstraints⟩
    exact ⟨hType, hCount, hConstraints⟩
  · rintro ⟨hType, hCount, hConstraints⟩
    exact ⟨hType, hCount, hConstraints⟩

end Rule

end TraceMining

------------------------------------------------------------
-- Drafts
------------------------------------------------------------

namespace TraceMining

/- A value is a step without fault if it is a sound one. -/
theorem Value.stepFault?_eq_none_iff
    {v : Value}
    {i : Nat} :
    v.stepFault? i = none ↔
      ∃ fs, v = .object fs ∧ Rule.IsSound ⟨fs⟩ := by
  cases v with
  | object fs => simp [stepFault?, Rule.fault?_eq_none_iff]
  | _ => simp [stepFault?]

namespace Draft

/-
  What a draft has to be: it has steps, all of them objects
  that say what a step may say, and its time window is not
  negative.
-/
structure IsSound
    (d : Draft) : Prop where
  steps : d.sequence ≠ []
  window : 0 ≤ d.timeout
  sound :
    ∀ v ∈ d.sequence,
      ∃ fs, v = .object fs ∧ Rule.IsSound ⟨fs⟩

variable {d : Draft}

/- Sound drafts are all that have no fault. -/
theorem fault?_eq_none_iff :
    d.fault? = none ↔ d.IsSound := by
  have hSteps :
      (d.sequence.zipIdx.findSome? fun s =>
          s.1.stepFault? s.2) = none ↔
        ∀ v ∈ d.sequence,
          ∃ fs, v = .object fs ∧ Rule.IsSound ⟨fs⟩ := by
    rw [List.findSome?_eq_none_iff]
    simp only [Value.stepFault?_eq_none_iff]
    constructor
    · intro hSound v hMember
      rcases List.mem_iff_getElem?.mp hMember with ⟨i, hStep⟩
      exact hSound (v, i)
        (List.mem_zipIdx_iff_getElem?.mpr hStep)
    · intro hSound s hMember
      exact hSound s.1 (List.fst_mem_of_mem_zipIdx hMember)
  unfold fault?
  by_cases hEmpty : d.sequence = []
  · simp only [hEmpty, List.isEmpty_nil, if_true]
    constructor
    · intro hNone
      cases hNone
    · intro hSound
      exact absurd hEmpty hSound.steps
  · by_cases hNegative : d.timeout < 0
    · simp only [List.isEmpty_iff, hEmpty, hNegative,
        if_false, if_true]
      constructor
      · intro hNone
        cases hNone
      · intro hSound
        exact absurd hNegative (Int.not_lt.mpr hSound.window)
    · simp only [List.isEmpty_iff, hEmpty, hNegative,
        if_false, hSteps]
      constructor
      · intro hSound
        exact ⟨hEmpty, Int.not_lt.mp hNegative, hSound⟩
      · intro hSound
        exact hSound.sound

end Draft

end TraceMining

------------------------------------------------------------
-- Definitions
------------------------------------------------------------

namespace TraceMining

/- Definitions of sound steps are all that are valid. -/
theorem Definition.isValid_iff
    {d : Definition} :
    d.isValid = true ↔
      d.rules.sequence ≠ [] ∧ 0 ≤ d.rules.timeout ∧
        ∀ r ∈ d.rules.sequence, r.IsSound := by
  unfold isValid
  rw [Option.isNone_iff_eq_none, Draft.fault?_eq_none_iff]
  constructor
  · intro hDraft
    refine ⟨?_, hDraft.window, ?_⟩
    · intro hEmpty
      exact hDraft.steps (by simp [draft, hEmpty])
    · intro r hMember
      rcases hDraft.sound r.toValue
          (List.mem_map_of_mem hMember) with ⟨fs, hStep, hSound⟩
      cases hStep
      exact hSound
  · rintro ⟨hSteps, hWindow, hSound⟩
    refine ⟨by simp [draft, hSteps], hWindow, ?_⟩
    intro v hMember
    rcases List.mem_map.mp hMember with ⟨r, hStep, rfl⟩
    exact ⟨r.fields, rfl, hSound r hStep⟩

end TraceMining
