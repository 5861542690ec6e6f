import TraceMining.Proofs.Rule.Grammar

/-
  This file shows that the check of a draft tells the truth.
  It accepts the drafts that are what a draft has to be and no
  others, and of any other draft it names a fault that is
  there: the step or the path that the fault speaks of has it.

  Key definitions include:
    * `Constraint.IsFaulty`
    * `Rule.IsFaulty`
    * `Draft.IsFaulty`

  Key theorems include:
    * `Draft.exists_isFaulty_iff`
    * `Draft.check_spec`
-/

------------------------------------------------------------
-- Constraints
------------------------------------------------------------

namespace TraceMining

namespace Constraint

/-
  A value that stands at a path has a fault as a constraint: a
  list is in it, or an object whose glob is not text, and the
  fault names the path at which that stands.
-/
inductive IsFaulty : Value → String → Fault → Prop where
  | shape
      {xs : List Value}
      {path : String} :
      IsFaulty (.list xs) path (.unknownShape path)
  | glob
      {es : Fields}
      {glob : Value}
      {path : String}
      (hGlob : Entries.get? es patternKey = some glob)
      (hKind : ∀ g, glob ≠ .text g) :
      IsFaulty (.object es) path (.globNotText path)
  | nested
      {es : Fields}
      {entry : String × Value}
      {path : String}
      {fault : Fault}
      (hNoGlob : Entries.get? es patternKey = none)
      (hEntry : entry ∈ es)
      (hFault :
        IsFaulty entry.2 (path ++ "." ++ entry.1) fault) :
      IsFaulty (.object es) path fault

/- The first fault among entries is the fault of one. -/
theorem exists_of_firstFault?
    {es : Fields}
    {path : String}
    {fault : Fault}
    (hFirst : firstFault? es path = some fault) :
    ∃ e ∈ es, fault? e.2 (path ++ "." ++ e.1) = some fault := by
  induction es with
  | nil => simp [firstFault?] at hFirst
  | cons e es ih =>
      rcases e with ⟨key, v⟩
      rw [firstFault?] at hFirst
      split at hFirst
      · rename_i other hHere
        rw [Option.some.inj hFirst] at hHere
        exact ⟨(key, v), List.mem_cons_self, hHere⟩
      · rcases ih hFirst with ⟨e, hMember, hFault⟩
        exact ⟨e, List.mem_cons_of_mem _ hMember, hFault⟩

/- A fault that is found in a value is there. -/
theorem isFaulty_of_fault?
    (v : Value)
    {path : String}
    {fault : Fault}
    (hFound : fault? v path = some fault) :
    IsFaulty v path fault := by
  match v with
  | .null => simp [fault?] at hFound
  | .bool _ => simp [fault?] at hFound
  | .int _ => simp [fault?] at hFound
  | .float _ => simp [fault?] at hFound
  | .text _ => simp [fault?] at hFound
  | .list _ =>
      rw [fault?, Option.some.injEq] at hFound
      rw [← hFound]
      exact .shape
  | .object es =>
      rw [fault?] at hFound
      split at hFound
      · cases hFound
      · rename_i glob hKind hGlob
        rw [← Option.some.inj hFound]
        exact .glob hGlob hKind
      · rename_i hNoGlob
        rcases exists_of_firstFault? hFound with
          ⟨e, hMember, hEntry⟩
        have hSmaller := sizeOf_entry_lt hMember
        exact .nested hNoGlob hMember
          (isFaulty_of_fault? e.2 hEntry)
termination_by sizeOf v
decreasing_by exact hSmaller

/- A value that has a fault is no constraint. -/
theorem IsFaulty.not_isConstraint
    {v : Value}
    {path : String}
    {fault : Fault}
    (hFaulty : IsFaulty v path fault) :
    ¬ IsConstraint v := by
  induction hFaulty with
  | shape =>
      intro hConstraint
      cases hConstraint with
      | scalar hScalar => cases hScalar
  | glob hGlob hKind =>
      intro hConstraint
      cases hConstraint with
      | scalar hScalar => cases hScalar
      | glob hText =>
          rw [hGlob] at hText
          exact hKind _ (Option.some.inj hText)
      | nested hNoGlob _ =>
          rw [hGlob] at hNoGlob
          cases hNoGlob
  | nested hNoGlob hEntry _ ih =>
      intro hConstraint
      cases hConstraint with
      | scalar hScalar => cases hScalar
      | glob hText =>
          rw [hNoGlob] at hText
          cases hText
      | nested _ hEntries => exact ih (hEntries _ hEntry)

end Constraint

end TraceMining

------------------------------------------------------------
-- Steps
------------------------------------------------------------

namespace TraceMining

namespace Rule

/-
  The step in some place has a fault: a kind of event that is
  not text, a count that is not a positive integer, or a
  faulty entry.
-/
inductive IsFaulty
    (r : Rule)
    (i : Nat) : Fault → Prop where
  | type
      {v : Value}
      (hGiven : r.fields.get? "type" = some v)
      (hPresent : v ≠ .null)
      (hKind : ∀ t, v ≠ .text t) :
      IsFaulty r i (.typeNotText i)
  | count
      {v : Value}
      (hGiven : r.fields.get? "minOccurrences" = some v)
      (hPresent : v ≠ .null)
      (hSmall : ∀ n, v = .int n → n < 1) :
      IsFaulty r i (.badOccurrences i)
  | entry
      {entry : String × Value}
      {fault : Fault}
      (hEntry : entry ∈ r.constraints)
      (hFault :
        Constraint.IsFaulty entry.2
          ("sequence[" ++ toString i ++ "]." ++ entry.1)
          fault) :
      IsFaulty r i fault

variable {r : Rule}
variable {i : Nat}
variable {fault : Fault}

/- A fault that is found in the kind of event is there. -/
theorem isFaulty_of_typeFault?
    (hFound : r.typeFault? i = some fault) :
    r.IsFaulty i fault := by
  unfold typeFault? Fields.getD at hFound
  cases hGiven : r.fields.get? "type" with
  | none => simp [hGiven] at hFound
  | some v =>
      rw [hGiven, Option.getD_some] at hFound
      split at hFound
      · cases hFound
      · cases hFound
      · rename_i hPresent hKind
        rw [← Option.some.inj hFound]
        exact .type hGiven hPresent hKind

/- A fault that is found in the count is there. -/
theorem isFaulty_of_occurrencesFault?
    (hFound : r.occurrencesFault? i = some fault) :
    r.IsFaulty i fault := by
  unfold occurrencesFault? Fields.getD at hFound
  cases hGiven : r.fields.get? "minOccurrences" with
  | none => simp [hGiven] at hFound
  | some v =>
      rw [hGiven, Option.getD_some] at hFound
      split at hFound
      · cases hFound
      · rename_i n
        rw [Option.ite_none_right_eq_some] at hFound
        rw [← Option.some.inj hFound.2]
        apply IsFaulty.count hGiven (by simp)
        intro m hSame
        cases hSame
        exact hFound.1
      · rename_i hPresent hKind
        rw [← Option.some.inj hFound]
        apply IsFaulty.count hGiven hPresent
        intro n hSame
        exact absurd hSame (hKind n)

/- A fault that is found in an entry is there. -/
theorem isFaulty_of_constraintFault?
    (hFound : r.constraintFault? i = some fault) :
    r.IsFaulty i fault := by
  rcases List.exists_of_findSome?_eq_some hFound with
    ⟨entry, hEntry, hFault⟩
  exact .entry hEntry (Constraint.isFaulty_of_fault? _ hFault)

/- So is the first fault that is found in a step. -/
theorem isFaulty_of_fault?
    (hFound : r.fault? i = some fault) :
    r.IsFaulty i fault := by
  unfold fault? at hFound
  rcases Option.or_eq_some_iff.mp hFound with
    hType | ⟨_, hRest⟩
  · exact isFaulty_of_typeFault? hType
  · rcases Option.or_eq_some_iff.mp hRest with
      hCount | ⟨_, hEntry⟩
    · exact isFaulty_of_occurrencesFault? hCount
    · exact isFaulty_of_constraintFault? hEntry

/- A step that has a fault is not sound. -/
theorem IsFaulty.not_isSound
    (hFaulty : r.IsFaulty i fault) :
    ¬ r.IsSound := by
  intro hSound
  cases hFaulty with
  | type hGiven hPresent hKind =>
      rcases hSound.type _ hGiven with hNull | ⟨t, hText⟩
      · exact hPresent hNull
      · exact hKind t hText
  | count hGiven hPresent hSmall =>
      rcases hSound.count _ hGiven with
        hNull | ⟨n, hInt, hPositive⟩
      · exact hPresent hNull
      · exact Int.not_lt.mpr hPositive (hSmall n hInt)
  | entry hEntry hFault =>
      exact hFault.not_isConstraint
        (hSound.constraints _ hEntry)

end Rule

end TraceMining

------------------------------------------------------------
-- Drafts
------------------------------------------------------------

namespace TraceMining

namespace Draft

/-
  A draft has a fault: no steps, a negative time window, a
  step that is no object, or a faulty one in its place.
-/
inductive IsFaulty
    (d : Draft) : Fault → Prop where
  | steps
      (hEmpty : d.sequence = []) :
      IsFaulty d .emptySequence
  | window
      (hNegative : d.timeout < 0) :
      IsFaulty d .negativeTimeout
  | mapping
      {i : Nat}
      {v : Value}
      (hStep : d.sequence[i]? = some v)
      (hKind : ∀ fs, v ≠ .object fs) :
      IsFaulty d (.stepNotMapping i)
  | step
      {i : Nat}
      {fs : Fields}
      {fault : Fault}
      (hStep : d.sequence[i]? = some (.object fs))
      (hFault : Rule.IsFaulty ⟨fs⟩ i fault) :
      IsFaulty d fault

variable {d : Draft}
variable {fault : Fault}

/- A fault that is found in the step of some place is there. -/
theorem isFaulty_of_stepFault?
    {i : Nat}
    {v : Value}
    (hStep : d.sequence[i]? = some v)
    (hFound : v.stepFault? i = some fault) :
    d.IsFaulty fault := by
  unfold Value.stepFault? at hFound
  split at hFound
  · exact .step hStep (Rule.isFaulty_of_fault? hFound)
  · rename_i hKind
    rw [← Option.some.inj hFound]
    exact .mapping hStep hKind

/- So is the first fault that is found in a draft. -/
theorem isFaulty_of_fault?
    (hFound : d.fault? = some fault) :
    d.IsFaulty fault := by
  unfold fault? at hFound
  split at hFound
  · rename_i hEmpty
    rw [← Option.some.inj hFound]
    exact .steps (List.isEmpty_iff.mp hEmpty)
  · split at hFound
    · rename_i hNegative
      rw [← Option.some.inj hFound]
      exact .window hNegative
    · rcases List.exists_of_findSome?_eq_some hFound with
        ⟨⟨v, i⟩, hMember, hFault⟩
      exact isFaulty_of_stepFault?
        (List.mem_zipIdx_iff_getElem?.mp hMember) hFault

/- A draft that has a fault is not sound. -/
theorem IsFaulty.not_isSound
    (hFaulty : d.IsFaulty fault) :
    ¬ d.IsSound := by
  intro hSound
  cases hFaulty with
  | steps hEmpty => exact hSound.steps hEmpty
  | window hNegative =>
      exact Int.not_lt.mpr hSound.window hNegative
  | mapping hStep hKind =>
      rcases hSound.sound _ (List.mem_of_getElem? hStep) with
        ⟨fs, hObject, _⟩
      exact hKind fs hObject
  | step hStep hFault =>
      rcases hSound.sound _ (List.mem_of_getElem? hStep) with
        ⟨gs, hObject, hRule⟩
      cases hObject
      exact hFault.not_isSound hRule

/- Drafts that are not sound are all that have a fault. -/
theorem exists_isFaulty_iff :
    (∃ fault, d.IsFaulty fault) ↔ ¬ d.IsSound := by
  constructor
  · rintro ⟨fault, hFaulty⟩
    exact hFaulty.not_isSound
  · intro hUnsound
    rw [← fault?_eq_none_iff, ← ne_eq,
      Option.ne_none_iff_exists'] at hUnsound
    rcases hUnsound with ⟨fault, hFound⟩
    exact ⟨fault, isFaulty_of_fault? hFound⟩

/-
  A draft is accepted just if it has some steps, a time window
  that is not negative, and steps that all say what a step may
  say.  Any other draft is refused under its own id, for a
  fault that it has.
-/
theorem check_spec
    (d : Draft) :
    (d.check = .ok () ↔
      d.sequence ≠ [] ∧ 0 ≤ d.timeout ∧
        ∀ v ∈ d.sequence,
          ∃ fs, v = .object fs ∧ Rule.IsSound ⟨fs⟩) ∧
    (d.check = .ok () ∨
      ∃ fault, d.IsFaulty fault ∧
        d.check =
          .error (.invalidDefinition d.id fault.message)) := by
  have hSound :
      d.IsSound ↔
        d.sequence ≠ [] ∧ 0 ≤ d.timeout ∧
          ∀ v ∈ d.sequence,
            ∃ fs, v = .object fs ∧ Rule.IsSound ⟨fs⟩ :=
    ⟨fun h => ⟨h.steps, h.window, h.sound⟩,
      fun ⟨hSteps, hWindow, hEach⟩ => ⟨hSteps, hWindow, hEach⟩⟩
  rw [← hSound, ← fault?_eq_none_iff]
  unfold check
  cases hFound : d.fault? with
  | none => simp
  | some fault =>
      simp only [reduceCtorEq, false_or, true_and]
      exact ⟨fault, isFaulty_of_fault? hFound, rfl⟩

end Draft

end TraceMining
