import TraceMining.Proofs.Matching.Outcome
import TraceMining.Proofs.Rule.Satisfaction
import TraceMining.Proofs.Store.Table

/-
  This file shows that the order of keys does not matter.  Two
  values are the same but for it if they have the same keys at
  every depth, no key twice, and the same values under them; a
  step and an event may both be reordered so without changing
  whether the one accepts the other.

  Key definitions include:
    * `Value.Reordered`

  Key theorems include:
    * `Value.Reordered.symm`
    * `Value.reordered_of_perm`
    * `Constraint.Sat.reordered`
    * `Rule.IsMetBy.reordered`
    * `Definition.verdict_spec`
-/

------------------------------------------------------------
-- Values With Other Orders of Keys
------------------------------------------------------------

namespace TraceMining

namespace Value

/- The same value, with the keys of objects in any order. -/
inductive Reordered : Value → Value → Prop where
  | scalar
      {v : Value}
      (hScalar : v.isScalar = true) :
      Reordered v v
  | list
      {vs ws : List Value}
      (hLength : vs.length = ws.length)
      (hItems :
        ∀ (i : Nat) (v w : Value),
          vs[i]? = some v → ws[i]? = some w → Reordered v w) :
      Reordered (.list vs) (.list ws)
  | object
      {fs gs : Fields}
      (hDistinct : (Entries.keys fs).Nodup)
      (hKeys : (Entries.keys fs).Perm (Entries.keys gs))
      (hValues :
        ∀ (key : String) (v w : Value),
          fs.get? key = some v → gs.get? key = some w →
            Reordered v w) :
      Reordered (.object fs) (.object gs)

namespace Reordered

/- Of two orders, each is another order of the other. -/
theorem symm
    {v w : Value}
    (hReordered : Reordered v w) :
    Reordered w v := by
  induction hReordered with
  | scalar hScalar => exact .scalar hScalar
  | list hLength _ ih =>
      exact .list hLength.symm fun i v w hFirst hSecond =>
        ih i w v hSecond hFirst
  | object hDistinct hKeys _ ih =>
      exact .object (hKeys.nodup_iff.mp hDistinct) hKeys.symm
        fun key v w hFirst hSecond => ih key w v hSecond hFirst

/- A scalar has no keys. -/
theorem eq_of_isScalar
    {v w : Value}
    (hReordered : Reordered v w)
    (hScalar : v.isScalar = true) :
    w = v := by
  cases hReordered with
  | scalar => rfl
  | list => cases hScalar
  | object => cases hScalar

/- An object stays an object. -/
theorem exists_object
    {fs : Fields}
    {w : Value}
    (hReordered : Reordered (.object fs) w) :
    ∃ gs, w = .object gs := by
  cases hReordered with
  | scalar hScalar => cases hScalar
  | object => exact ⟨_, rfl⟩

variable {fs gs : Fields}

/- There is a value under a key in the one and the other. -/
theorem exists_get?
    (hReordered : Reordered (.object fs) (.object gs))
    {key : String}
    {v : Value}
    (hValue : fs.get? key = some v) :
    ∃ w, gs.get? key = some w ∧ Reordered v w := by
  cases hReordered with
  | scalar hScalar => cases hScalar
  | object hDistinct hKeys hValues =>
      have hHere : key ∈ Entries.keys fs :=
        List.mem_map_of_mem (f := Prod.fst)
          (Entries.mem_of_get? hValue)
      cases hOther : gs.get? key with
      | none =>
          exact absurd (hKeys.mem_iff.mp hHere)
            (Entries.get?_eq_none_iff.mp hOther)
      | some w =>
          exact ⟨w, rfl, hValues key v w hValue hOther⟩

/- A scalar under a key stays under it. -/
theorem get?_eq_some
    (hReordered : Reordered (.object fs) (.object gs))
    {key : String}
    {v : Value}
    (hScalar : v.isScalar = true)
    (hValue : fs.get? key = some v) :
    gs.get? key = some v := by
  rcases hReordered.exists_get? hValue with
    ⟨w, hOther, hSame⟩
  rw [hOther, hSame.eq_of_isScalar hScalar]

/- A key that is missing stays missing. -/
theorem get?_eq_none
    (hReordered : Reordered (.object fs) (.object gs))
    {key : String}
    (hNone : fs.get? key = none) :
    gs.get? key = none := by
  cases hOther : gs.get? key with
  | none => rfl
  | some w =>
      rcases hReordered.symm.exists_get? hOther with
        ⟨v, hValue, _⟩
      rw [hNone] at hValue
      cases hValue

/- Every entry of the other is an entry of the one. -/
theorem exists_entry
    (hReordered : Reordered (.object fs) (.object gs))
    {e : String × Value}
    (hMember : e ∈ gs) :
    ∃ v, (e.1, v) ∈ fs ∧ Reordered v e.2 := by
  have hDistinct : (Entries.keys gs).Nodup := by
    cases hReordered with
    | scalar hScalar => exact absurd hScalar Bool.false_ne_true
    | object hDistinct hKeys =>
        exact hKeys.nodup_iff.mp hDistinct
  rcases hReordered.symm.exists_get?
      (Entries.get?_of_mem hDistinct hMember) with
    ⟨v, hValue, hSame⟩
  exact ⟨v, Entries.mem_of_get? hValue, hSame.symm⟩

end Reordered

/- Objects are the same but for the order, key by key. -/
theorem reordered_of_keys
    {fs gs : Fields}
    (hDistinct : (Entries.keys fs).Nodup)
    (hKeys : (Entries.keys fs).Perm (Entries.keys gs))
    (hEach :
      ∀ e ∈ fs, ∃ w, gs.get? e.1 = some w ∧ Reordered e.2 w) :
    Reordered (.object fs) (.object gs) := by
  refine .object hDistinct hKeys ?_
  intro key v w hFirst hSecond
  rcases hEach (key, v) (Entries.mem_of_get? hFirst) with
    ⟨x, hOther, hSame⟩
  rw [hSecond] at hOther
  rw [Option.some.inj hOther]
  exact hSame

/- So are they if their entries are in another order. -/
theorem reordered_of_perm
    {fs gs : Fields}
    (hDistinct : (Entries.keys fs).Nodup)
    (hPerm : fs.Perm gs)
    (hEach : ∀ e ∈ fs, Reordered e.2 e.2) :
    Reordered (.object fs) (.object gs) := by
  have hKeys : (Entries.keys fs).Perm (Entries.keys gs) :=
    hPerm.map Prod.fst
  refine reordered_of_keys hDistinct hKeys ?_
  intro e hMember
  exact ⟨e.2,
    Entries.get?_of_mem (hKeys.nodup_iff.mp hDistinct)
      (hPerm.mem_iff.mp hMember), hEach e hMember⟩

end Value

end TraceMining

------------------------------------------------------------
-- Constraints
------------------------------------------------------------

namespace TraceMining

open Value (Reordered)

namespace Constraint

/- What equals a scalar is a scalar. -/
theorem isScalar_of_same
    {v w : Value}
    (hScalar : v.isScalar = true)
    (hSame : v.same w = true) :
    w.isScalar = true := by
  cases v with
  | list vs => cases hScalar
  | object fs => cases hScalar
  | _ =>
      cases w with
      | list ws => simp [Value.same, Value.number?] at hSame
      | object gs => simp [Value.same, Value.number?] at hSame
      | _ => rfl

/- A constraint stays one in another order of keys. -/
theorem IsConstraint.reordered
    {v w : Value}
    (hConstraint : IsConstraint v)
    (hReordered : Reordered v w) :
    IsConstraint w := by
  induction hConstraint generalizing w with
  | scalar hScalar =>
      rw [hReordered.eq_of_isScalar hScalar]
      exact .scalar hScalar
  | glob hGlob =>
      rcases hReordered.exists_object with ⟨gs, rfl⟩
      exact .glob (hReordered.get?_eq_some rfl hGlob)
  | nested hNoGlob _ ih =>
      rcases hReordered.exists_object with ⟨gs, rfl⟩
      refine .nested (hReordered.get?_eq_none hNoGlob) ?_
      intro e hMember
      rcases hReordered.exists_entry hMember with
        ⟨v, hEntry, hSame⟩
      exact ih _ hEntry hSame

/-
  What a payload has in one order of keys it has in another,
  and this is still what is asked for.
-/
theorem Sat.reordered
    {fs gs : Fields}
    {key : String}
    {expected other : Value}
    (hSat : Sat fs key expected)
    (hPayload : Reordered (.object fs) (.object gs))
    (hExpected : Reordered expected other) :
    Sat gs key other := by
  induction hSat generalizing gs other with
  | glob hGlob hActual hText hAccepts =>
      rcases hExpected.exists_object with ⟨es, rfl⟩
      have hScalar := (Value.readsAs_iff.mp hText).2.1
      exact .glob (hExpected.get?_eq_some rfl hGlob)
        (hPayload.get?_eq_some hScalar hActual) hText hAccepts
  | nested hNoGlob hActual _ ih =>
      rcases hExpected.exists_object with ⟨es, rfl⟩
      rcases hPayload.exists_get? hActual with
        ⟨w, hOther, hSame⟩
      rcases hSame.exists_object with ⟨inner, rfl⟩
      refine .nested (hExpected.get?_eq_none hNoGlob) hOther ?_
      intro e hMember
      rcases hExpected.exists_entry hMember with
        ⟨v, hEntry, hEqual⟩
      exact ih _ hEntry hSame hEqual
  | scalar hScalar hActual hKind hSame =>
      -- What equals a scalar has no keys either.
      rw [hExpected.eq_of_isScalar hScalar]
      exact .scalar hScalar
        (hPayload.get?_eq_some
          (isScalar_of_same hScalar hSame) hActual) hKind hSame

end Constraint

end TraceMining

------------------------------------------------------------
-- Steps
------------------------------------------------------------

namespace TraceMining

open Value (Reordered)

namespace Rule

variable {r s : Rule}

/- A step stays sound in another order of keys. -/
theorem IsSound.reordered
    (hSound : r.IsSound)
    (hStep : Reordered r.toValue s.toValue) :
    s.IsSound where
  type := by
    intro w hGiven
    rcases hStep.symm.exists_get? hGiven with
      ⟨v, hOther, hSame⟩
    rcases hSound.type v hOther with rfl | ⟨t, rfl⟩
    · exact Or.inl (hSame.symm.eq_of_isScalar rfl)
    · exact Or.inr ⟨t, hSame.symm.eq_of_isScalar rfl⟩
  count := by
    intro w hGiven
    rcases hStep.symm.exists_get? hGiven with
      ⟨v, hOther, hSame⟩
    rcases hSound.count v hOther with rfl | ⟨n, rfl, hLarge⟩
    · exact Or.inl (hSame.symm.eq_of_isScalar rfl)
    · exact Or.inr ⟨n, hSame.symm.eq_of_isScalar rfl, hLarge⟩
  constraints := by
    intro e hMember
    rcases mem_constraints_iff.mp hMember with
      ⟨hEntry, hKind, hCount⟩
    rcases hStep.exists_entry hEntry with ⟨v, hOther, hSame⟩
    exact (hSound.constraints (e.1, v)
      (mem_constraints_iff.mpr ⟨hOther, hKind, hCount⟩)).reordered
        hSame

/- An event stays what a step asks for. -/
theorem IsMetBy.reordered
    {e a : Event}
    (hMet : r.IsMetBy e)
    (hStep : Reordered r.toValue s.toValue)
    (hType : a.type = e.type)
    (hPayload : Reordered (.object e.data) (.object a.data)) :
    s.IsMetBy a where
  type := by
    intro w hGiven
    rcases hStep.symm.exists_get? hGiven with
      ⟨v, hOther, hSame⟩
    rw [hType]
    rcases hMet.type v hOther with rfl | rfl | rfl
    · exact Or.inl (hSame.symm.eq_of_isScalar rfl)
    · exact Or.inr (Or.inl (hSame.symm.eq_of_isScalar rfl))
    · exact Or.inr (Or.inr (hSame.symm.eq_of_isScalar rfl))
  data := by
    intro entry hMember hKind hCount
    rcases hStep.exists_entry hMember with ⟨v, hOther, hSame⟩
    exact (hMet.data (entry.1, v) hOther hKind hCount).reordered
      hPayload hSame

end Rule

/-
  It can be told of every event whether a step of a valid
  definition accepts it.  It does so just if the event is what
  the step asks for, whatever the order of keys in either.
-/
theorem Definition.verdict_spec
    {d : Definition}
    (hValid : d.isValid = true)
    {r : Rule}
    (hMember : r ∈ d.rules.sequence)
    (e : Event) :
    (∃ accepted, r.verdict e = .ok accepted ∧
      (accepted = true ↔ r.IsMetBy e)) ∧
    ∀ (s : Rule) (a : Event),
      Reordered r.toValue s.toValue → a.type = e.type →
        Reordered (.object e.data) (.object a.data) →
          s.verdict a = r.verdict e := by
  have hSound := (isValid_iff.mp hValid).2.2 r hMember
  refine ⟨⟨_, hSound.verdict_eq_ok e, hSound.accepts_iff e⟩,
    ?_⟩
  intro s a hStep hType hPayload
  have hOther := hSound.reordered hStep
  have hSame : s.IsMetBy a ↔ r.IsMetBy e := by
    constructor
    · intro hMet
      exact hMet.reordered hStep.symm hType.symm hPayload.symm
    · intro hMet
      exact hMet.reordered hStep hType hPayload
  have hAccepts : s.accepts a = r.accepts e := by
    rw [Bool.eq_iff_iff, hOther.accepts_iff, hSame,
      ← hSound.accepts_iff]
  rw [hOther.verdict_eq_ok, hSound.verdict_eq_ok, hAccepts]

/-
  Two forms of three fields that were saved for good, after
  ten tries or more.
-/
def saveStep : Rule :=
  ⟨[ ("type", .text "form")
   , ("minOccurrences", .int 2)
   , ("fields", .int 3)
   , ("action",
      .object
        [ ("kind", .object [("pattern", .text "crud_*")])
        , ("tries", .object [("pattern", .text "1*")])
        , ("saved", .object [("pattern", .text "t*e")])
        , ("final", .bool true) ]) ]⟩

/- The step with its keys in another order. -/
def turnedStep : Rule :=
  ⟨[ ("action",
      .object
        [ ("final", .bool true)
        , ("saved", .object [("pattern", .text "t*e")])
        , ("tries", .object [("pattern", .text "1*")])
        , ("kind", .object [("pattern", .text "crud_*")]) ])
   , ("fields", .int 3)
   , ("type", .text "form")
   , ("minOccurrences", .int 2) ]⟩

/- A definition of this step alone. -/
def saves : Definition :=
  { Definition.pair 1000 with rules := ⟨[saveStep], 1000⟩ }

/- A form that was saved at the twelfth try. -/
def savedForm : Event :=
  { Event.tick "a" 0 with
    type := "form"
    data :=
      [ ("fields", .int 3)
      , ("action",
          .object
            [ ("kind", .text "crud_update")
            , ("tries", .int 12)
            , ("saved", .bool true)
            , ("final", .bool true) ]) ] }

/- The form with its keys in another order. -/
def turnedForm : Event :=
  { savedForm with
    data :=
      [ ("action",
          .object
            [ ("final", .bool true)
            , ("saved", .bool true)
            , ("tries", .int 12)
            , ("kind", .text "crud_update") ])
      , ("fields", .int 3) ] }

/- A glob is the same in its only order. -/
theorem Value.reordered_glob
    (g : String) :
    Reordered (.object [("pattern", .text g)])
      (.object [("pattern", .text g)]) :=
  Value.reordered_of_perm (List.nodup_singleton _)
    (List.Perm.refl _)
    (List.forall_mem_singleton.mpr (.scalar rfl))

/- The steps are the same but for the order. -/
theorem reordered_saveStep :
    Reordered saveStep.toValue turnedStep.toValue := by
  have hAction :=
    @Value.reordered_of_perm
      [ ("kind", .object [("pattern", .text "crud_*")])
      , ("tries", .object [("pattern", .text "1*")])
      , ("saved", .object [("pattern", .text "t*e")])
      , ("final", .bool true) ] _
      (by decide) (List.reverse_perm _).symm
      (by
        simp only [List.forall_mem_cons]
        exact
          ⟨Value.reordered_glob _, Value.reordered_glob _,
            Value.reordered_glob _, .scalar rfl, nofun⟩)
  apply Value.reordered_of_keys (by decide) (by decide)
  intro e hMember
  simp only [saveStep, List.mem_cons, List.not_mem_nil,
    or_false] at hMember
  rcases hMember with rfl | rfl | rfl | rfl
  · exact ⟨_, rfl, .scalar rfl⟩
  · exact ⟨_, rfl, .scalar rfl⟩
  · exact ⟨_, rfl, .scalar rfl⟩
  · exact ⟨_, rfl, hAction⟩

/- So are the forms. -/
theorem reordered_savedForm :
    Reordered (.object savedForm.data)
      (.object turnedForm.data) := by
  have hAction :=
    @Value.reordered_of_perm
      [ ("kind", .text "crud_update")
      , ("tries", .int 12)
      , ("saved", .bool true)
      , ("final", .bool true) ] _
      (by decide) (List.reverse_perm _).symm
      (by
        simp only [List.forall_mem_cons]
        exact
          ⟨.scalar rfl, .scalar rfl, .scalar rfl, .scalar rfl,
            nofun⟩)
  apply Value.reordered_of_keys (by decide) (by decide)
  exact List.forall_mem_cons.mpr
    ⟨⟨_, rfl, .scalar rfl⟩,
      List.forall_mem_singleton.mpr ⟨_, rfl, hAction⟩⟩

/- The form is what the step asks for. -/
theorem isMetBy_savedForm :
    saveStep.IsMetBy savedForm where
  type := by
    intro v hGiven
    rw [← Option.mem_some_iff.mp hGiven]
    exact Or.inr (Or.inr rfl)
  data := by
    intro entry hMember hKind hCount
    simp only [saveStep, List.mem_cons, List.not_mem_nil,
      or_false] at hMember
    rcases hMember with rfl | rfl | rfl | rfl
    · exact absurd rfl hKind
    · exact absurd rfl hCount
    · exact .scalar rfl rfl rfl (by decide)
    · refine .nested rfl rfl ?_
      simp only [List.forall_mem_cons]
      refine ⟨?_, ?_, ?_, ?_, nofun⟩
      · exact .glob rfl rfl (.text _) (by decide)
      · exact .glob rfl rfl (.int 12) (by decide)
      · exact .glob rfl rfl .yes (by decide)
      · exact .scalar rfl rfl rfl (by decide)

/- This is told in either order of keys. -/
theorem Definition.verdict_spec_saves :
    saves.isValid = true ∧ saveStep ∈ saves.rules.sequence ∧
      Reordered saveStep.toValue turnedStep.toValue ∧
      Reordered (.object savedForm.data)
        (.object turnedForm.data) ∧
      saveStep.verdict savedForm = .ok true ∧
      turnedStep.verdict turnedForm = .ok true := by
  have hValid : saves.isValid = true := by
    decide +kernel
  have hMember : saveStep ∈ saves.rules.sequence :=
    List.mem_cons_self
  rcases Definition.verdict_spec hValid hMember savedForm with
    ⟨⟨accepted, hVerdict, hMet⟩, hTurned⟩
  rw [hMet.mpr isMetBy_savedForm] at hVerdict
  refine ⟨hValid, hMember, reordered_saveStep,
    reordered_savedForm, hVerdict, ?_⟩
  rw [hTurned turnedStep turnedForm reordered_saveStep rfl
    reordered_savedForm]
  exact hVerdict

end TraceMining
