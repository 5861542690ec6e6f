import TraceMining.Proofs.Rule.Grammar

/-
  This file says when a payload is what a constraint asks for,
  apart from how this is found out, and shows that a step
  which passes the check finds it out of every event.  A
  payload of the wrong shape, at any depth, is not what is
  asked for; it is no failure.

  Key definitions include:
    * `Value.ReadsAs`
    * `Constraint.Sat`
    * `Rule.IsMetBy`

  Key theorems include:
    * `Value.readsAs_iff`
    * `Constraint.holds_iff_sat`
    * `Rule.IsSound.accepts_iff`
    * `Rule.IsSound.verdict_eq_ok`
-/

------------------------------------------------------------
-- Text of Scalars
------------------------------------------------------------

namespace TraceMining

namespace Value

/-
  The text of a scalar: its word for a truth value, the text
  itself, and the digits of a number.  Null has none.
-/
inductive ReadsAs : Value → String → Prop where
  | yes : ReadsAs (.bool true) "true"
  | no : ReadsAs (.bool false) "false"
  | int (n : Int) : ReadsAs (.int n) (toString n)
  | float (x : Float) :
      ReadsAs (.float x) (Decimal.number.write x)
  | text (s : String) : ReadsAs (.text s) s

/- This is what a glob is matched against. -/
theorem readsAs_iff
    {v : Value}
    {t : String} :
    v.ReadsAs t ↔
      v ≠ .null ∧ v.isScalar = true ∧ v.globText = t := by
  constructor
  · intro hText
    cases hText
    all_goals exact ⟨Value.noConfusion, rfl, rfl⟩
  · rintro ⟨hPresent, hScalar, rfl⟩
    cases v with
    | null => exact absurd rfl hPresent
    | bool b =>
        cases b with
        | true => exact .yes
        | false => exact .no
    | int n => exact .int n
    | float x => exact .float x
    | text s => exact .text s
    | list vs => cases hScalar
    | object fs => cases hScalar

end Value

end TraceMining

------------------------------------------------------------
-- Constraints
------------------------------------------------------------

namespace TraceMining

namespace Constraint

/-
  What a payload has under a key is what is asked for: text
  that a glob accepts, an object with all that is asked of its
  entries, or an equal value that is a truth value just if the
  one asked for is.
-/
inductive Sat : Fields → String → Value → Prop where
  | glob
      {fs es : Fields}
      {key g t : String}
      {actual : Value}
      (hGlob : Entries.get? es "pattern" = some (.text g))
      (hActual : fs.get? key = some actual)
      (hText : actual.ReadsAs t)
      (hAccepts : Glob.accepts g t = true) :
      Sat fs key (.object es)
  | nested
      {fs es gs : Fields}
      {key : String}
      (hNoGlob : Entries.get? es "pattern" = none)
      (hActual : fs.get? key = some (.object gs))
      (hEntries : ∀ e ∈ es, Sat gs e.1 e.2) :
      Sat fs key (.object es)
  | scalar
      {fs : Fields}
      {key : String}
      {expected actual : Value}
      (hScalar : expected.isScalar = true)
      (hActual : fs.get? key = some actual)
      (hKind : actual.isBool = expected.isBool)
      (hSame : expected.same actual = true) :
      Sat fs key expected

variable {fs : Fields}
variable {key : String}

/- A scalar is asked for as an equal value of its kind. -/
theorem sat_scalar_iff
    {expected : Value}
    (hScalar : expected.isScalar = true) :
    Sat fs key expected ↔
      ∃ actual, fs.get? key = some actual ∧
        expected.agrees actual = true := by
  constructor
  · intro hSat
    cases hSat with
    | glob => cases hScalar
    | nested => cases hScalar
    | scalar _ hActual hKind hSame =>
        refine ⟨_, hActual, ?_⟩
        simp [Value.agrees, hKind, hSame]
  · rintro ⟨actual, hActual, hAgrees⟩
    simp only [Value.agrees, Bool.and_eq_true, beq_iff_eq]
      at hAgrees
    exact .scalar hScalar hActual hAgrees.1.symm hAgrees.2

/- A glob asks for a scalar whose text it accepts. -/
theorem sat_glob_iff
    {es : Fields}
    {g : String}
    (hGlob : Entries.get? es "pattern" = some (.text g)) :
    Sat fs key (.object es) ↔
      ∃ actual, fs.get? key = some actual ∧
        actual ≠ .null ∧ globbed (.text g) actual = true := by
  constructor
  · intro hSat
    cases hSat with
    | glob hOther hActual hText hAccepts =>
        rw [hGlob] at hOther
        cases hOther
        rcases Value.readsAs_iff.mp hText with
          ⟨hPresent, hScalar, rfl⟩
        refine ⟨_, hActual, hPresent, ?_⟩
        simp [globbed, hScalar, hAccepts]
    | nested hNoGlob =>
        rw [hGlob] at hNoGlob
        cases hNoGlob
    | scalar hScalar => cases hScalar
  · rintro ⟨actual, hActual, hPresent, hGlobbed⟩
    simp only [globbed, Bool.and_eq_true] at hGlobbed
    have hText : actual.ReadsAs actual.globText :=
      Value.readsAs_iff.mpr ⟨hPresent, hGlobbed.1, rfl⟩
    exact .glob hGlob hActual hText hGlobbed.2

/- Any other object asks for one, and of each entry in turn. -/
theorem sat_nested_iff
    {es : Fields}
    (hNoGlob : Entries.get? es "pattern" = none) :
    Sat fs key (.object es) ↔
      ∃ gs, fs.get? key = some (.object gs) ∧
        ∀ e ∈ es, Sat gs e.1 e.2 := by
  constructor
  · intro hSat
    cases hSat with
    | glob hGlob =>
        rw [hNoGlob] at hGlob
        cases hGlob
    | nested _ hActual hEntries =>
        exact ⟨_, hActual, hEntries⟩
    | scalar hScalar => cases hScalar
  · rintro ⟨gs, hActual, hEntries⟩
    exact .nested hNoGlob hActual hEntries

/- What is found out about a scalar. -/
theorem holds_scalar
    {expected : Value}
    (hScalar : expected.isScalar = true)
    (actual : Option Value) :
    holds expected actual = true ↔
      ∃ v, actual = some v ∧ expected.agrees v = true := by
  cases expected with
  | list => cases hScalar
  | object => cases hScalar
  | _ => cases actual <;> simp [holds]

/- What is found out about a glob. -/
theorem holds_glob
    {es : Fields}
    {glob : Value}
    (hGlob : Entries.get? es patternKey = some glob)
    (actual : Option Value) :
    holds (.object es) actual = true ↔
      ∃ v, actual = some v ∧ v ≠ .null ∧
        globbed glob v = true := by
  cases actual with
  | none => simp [holds]
  | some v => cases v <;> simp [holds, hGlob]

/- What is found out about any other object. -/
theorem holds_nested
    {es : Fields}
    (hNoGlob : Entries.get? es patternKey = none)
    (actual : Option Value) :
    holds (.object es) actual = true ↔
      ∃ gs, actual = some (.object gs) ∧
        ∀ e ∈ es, holds e.2 (Fields.get? gs e.1) = true := by
  cases actual with
  | none => simp [holds]
  | some v =>
      cases v <;> simp [holds, hNoGlob, allHold_iff]

/- A constraint holds just if it is what a payload has. -/
theorem holds_iff_sat
    {expected : Value}
    (hConstraint : IsConstraint expected)
    (fs : Fields)
    (key : String) :
    holds expected (fs.get? key) = true ↔
      Sat fs key expected := by
  induction hConstraint generalizing fs key with
  | scalar hScalar =>
      rw [holds_scalar hScalar, sat_scalar_iff hScalar]
  | glob hGlob => rw [holds_glob hGlob, sat_glob_iff hGlob]
  | nested hNoGlob _ ih =>
      rw [holds_nested hNoGlob, sat_nested_iff hNoGlob]
      apply exists_congr
      intro gs
      apply and_congr_right
      intro _
      apply forall₂_congr
      intro e hMember
      exact ih e hMember gs e.1

end Constraint

end TraceMining

------------------------------------------------------------
-- Steps
------------------------------------------------------------

namespace TraceMining

namespace Rule

/-
  An event is what a step asks for: of its kind, if it names
  one, and with a payload that has what every other entry but
  the count asks for.
-/
structure IsMetBy
    (r : Rule)
    (e : Event) : Prop where
  type :
    ∀ v ∈ r.fields.get? "type",
      v = .null ∨ v = .text "" ∨ v = .text e.type
  data :
    ∀ entry ∈ r.fields,
      entry.1 ≠ "type" → entry.1 ≠ "minOccurrences" →
        Constraint.Sat e.data entry.1 entry.2

variable {r : Rule}

/- The constraints are all entries but the kind and count. -/
theorem mem_constraints_iff
    {entry : String × Value} :
    entry ∈ r.constraints ↔
      entry ∈ r.fields ∧ entry.1 ≠ "type" ∧
        entry.1 ≠ "minOccurrences" := by
  unfold constraints reserved
  rw [List.mem_filter]
  simp

/- A sound step accepts the type that it asks for. -/
theorem IsSound.acceptsType_iff
    (hSound : r.IsSound)
    (e : Event) :
    r.acceptsType e = true ↔
      ∀ v ∈ r.fields.get? "type",
        v = .null ∨ v = .text "" ∨ v = .text e.type := by
  have hType := hSound.type
  unfold acceptsType Fields.getD
  cases hGiven : r.fields.get? "type" with
  | none => simp [Value.isTruthy]
  | some v =>
      rcases hType v hGiven with rfl | ⟨t, rfl⟩
      · simp [Value.isTruthy]
      · simp [String.isEmpty_iff]

/- A sound step accepts the events that it asks for. -/
theorem IsSound.accepts_iff
    (hSound : r.IsSound)
    (e : Event) :
    r.accepts e = true ↔ r.IsMetBy e := by
  have hData :
      Constraint.allHold r.constraints e.data = true ↔
        ∀ entry ∈ r.constraints,
          Constraint.Sat e.data entry.1 entry.2 := by
    rw [Constraint.allHold_iff]
    apply forall₂_congr
    intro entry hMember
    exact Constraint.holds_iff_sat
      (hSound.constraints entry hMember) e.data entry.1
  unfold accepts
  rw [Bool.and_eq_true, hSound.acceptsType_iff, hData]
  simp only [mem_constraints_iff]
  constructor
  · rintro ⟨hType, hEntries⟩
    exact ⟨hType, fun entry hMember hKind hCount =>
      hEntries entry ⟨hMember, hKind, hCount⟩⟩
  · rintro ⟨hType, hEntries⟩
    exact ⟨hType, fun entry hMember =>
      hEntries entry hMember.1 hMember.2.1 hMember.2.2⟩

/- It can be told of every event whether it is one. -/
theorem IsSound.verdict_eq_ok
    (hSound : r.IsSound)
    (e : Event) :
    r.verdict e = .ok (r.accepts e) :=
  Rule.verdict_eq_ok (i := 0) (fault?_eq_none_iff.mpr hSound) e

end Rule

end TraceMining
