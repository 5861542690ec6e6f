import Mathlib.Data.List.Forall2

/-
  This file shows when a function that may fail succeeds on
  every item of a list, and with which failure it ends if it
  does not.

  Key theorems include:
    * `Batch.mapM_eq_ok_iff`
    * `Batch.exists_forall₂`
    * `Batch.forall₂_imp_of_mem`
    * `Batch.exists_left_of_mem`
    * `Batch.exists_right_of_mem`
    * `Batch.exists_mapM_eq_ok_iff`
    * `Batch.exists_error_of_mapM`
    * `Batch.mapM_eq_error`
-/

------------------------------------------------------------
-- Success
------------------------------------------------------------

namespace TraceMining

namespace Batch

variable {α β ε : Type}
variable {f : α → Except ε β}

/- The first item decides before the others do. -/
theorem mapM_cons_eq
    (a : α)
    (as : List α) :
    (a :: as).mapM f =
      match f a with
      | .error what => .error what
      | .ok b =>
          match as.mapM f with
          | .error what => .error what
          | .ok bs => .ok (b :: bs) := by
  rw [List.mapM_cons]
  cases f a with
  | error what => rfl
  | ok b =>
      cases as.mapM f with
      | error what => rfl
      | ok bs => rfl

/- All items succeed, each with its own result. -/
theorem mapM_eq_ok_iff
    {as : List α}
    {bs : List β} :
    as.mapM f = .ok bs ↔
      List.Forall₂ (fun a b => f a = .ok b) as bs := by
  induction as generalizing bs with
  | nil =>
      rw [List.mapM_nil, List.forall₂_nil_left_iff]
      constructor
      · intro hNone
        exact (Except.ok.inj hNone).symm
      · rintro rfl
        rfl
  | cons a as ih =>
      rw [mapM_cons_eq, List.forall₂_cons_left_iff]
      constructor
      · intro hAll
        split at hAll
        · exact absurd hAll (by simp)
        · rename_i b hFirst
          split at hAll
          · exact absurd hAll (by simp)
          · rename_i cs hRest
            exact ⟨b, cs, hFirst, ih.mp hRest,
              (Except.ok.inj hAll).symm⟩
      · rintro ⟨b, cs, hFirst, hRest, rfl⟩
        rw [hFirst, ih.mpr hRest]

/- Results for each of some items are results in a row. -/
theorem exists_forall₂
    {R : α → β → Prop}
    {as : List α}
    (hEach : ∀ a ∈ as, ∃ b, R a b) :
    ∃ bs, List.Forall₂ R as bs := by
  induction as with
  | nil => exact ⟨[], List.Forall₂.nil⟩
  | cons a as ih =>
      rcases List.forall_mem_cons.mp hEach with
        ⟨⟨b, hFirst⟩, hRest⟩
      rcases ih hRest with ⟨bs, hAll⟩
      exact ⟨b :: bs, List.Forall₂.cons hFirst hAll⟩

/- What follows for each item follows for all in a row. -/
theorem forall₂_imp_of_mem
    {R S : α → β → Prop}
    {as : List α}
    {bs : List β}
    (hAll : List.Forall₂ R as bs)
    (hEach : ∀ a ∈ as, ∀ b, R a b → S a b) :
    List.Forall₂ S as bs := by
  induction hAll with
  | nil => exact List.Forall₂.nil
  | cons hFirst _ ih =>
      rcases List.forall_mem_cons.mp hEach with
        ⟨hHead, hTail⟩
      exact List.Forall₂.cons (hHead _ hFirst) (ih hTail)

/- Every result in a row is the result for some item. -/
theorem exists_left_of_mem
    {R : α → β → Prop}
    {as : List α}
    {bs : List β}
    (hAll : List.Forall₂ R as bs)
    {b : β}
    (hMember : b ∈ bs) :
    ∃ a ∈ as, R a b := by
  induction hAll with
  | nil => exact absurd hMember List.not_mem_nil
  | cons hFirst _ ih =>
      rcases List.mem_cons.mp hMember with rfl | hMember
      · exact ⟨_, List.mem_cons_self, hFirst⟩
      · rcases ih hMember with ⟨a, hLeft, hRelated⟩
        exact ⟨a, List.mem_cons_of_mem _ hLeft, hRelated⟩

/- Every item has a result in the row of results. -/
theorem exists_right_of_mem
    {R : α → β → Prop}
    {as : List α}
    {bs : List β}
    (hAll : List.Forall₂ R as bs)
    {a : α}
    (hMember : a ∈ as) :
    ∃ b ∈ bs, R a b :=
  exists_left_of_mem hAll.flip hMember

/- All items succeed if each of them does. -/
theorem exists_mapM_eq_ok_iff
    {as : List α} :
    (∃ bs, as.mapM f = .ok bs) ↔
      ∀ a ∈ as, ∃ b, f a = .ok b := by
  simp only [mapM_eq_ok_iff]
  constructor
  · rintro ⟨bs, hAll⟩
    induction hAll with
    | nil => simp
    | cons hFirst _ ih =>
        exact List.forall_mem_cons.mpr ⟨⟨_, hFirst⟩, ih⟩
  · exact exists_forall₂

end Batch

end TraceMining

------------------------------------------------------------
-- Failure
------------------------------------------------------------

namespace TraceMining

namespace Batch

variable {α β ε : Type}
variable {f : α → Except ε β}

/- A failure of all is the failure of some item. -/
theorem exists_error_of_mapM
    {as : List α}
    {what : ε}
    (hAll : as.mapM f = .error what) :
    ∃ a ∈ as, f a = .error what := by
  induction as with
  | nil => cases hAll
  | cons a as ih =>
      rw [mapM_cons_eq] at hAll
      cases hFirst : f a with
      | error other =>
          rw [hFirst] at hAll
          cases hAll
          exact ⟨a, List.mem_cons_self, hFirst⟩
      | ok b =>
          cases hRest : as.mapM f with
          | error other =>
              rw [hFirst, hRest] at hAll
              cases hAll
              rcases ih hRest with ⟨c, hMember, hItem⟩
              exact ⟨c, List.mem_cons_of_mem a hMember, hItem⟩
          | ok bs =>
              rw [hFirst, hRest] at hAll
              cases hAll

/- If items fail in one way only, so do all together. -/
theorem mapM_eq_error
    {as : List α}
    {what : ε}
    (hEach :
      ∀ a ∈ as, (∃ b, f a = .ok b) ∨ f a = .error what)
    (hSome : ¬ ∀ a ∈ as, ∃ b, f a = .ok b) :
    as.mapM f = .error what := by
  cases hResult : as.mapM f with
  | ok bs =>
      exact absurd
        (exists_mapM_eq_ok_iff.mp ⟨bs, hResult⟩) hSome
  | error other =>
      rcases exists_error_of_mapM hResult with
        ⟨a, hMember, hItem⟩
      rcases hEach a hMember with ⟨b, hFine⟩ | hWhat
      · rw [hFine] at hItem
        cases hItem
      · rw [hWhat] at hItem
        rw [Except.error.inj hItem]

end Batch

end TraceMining
