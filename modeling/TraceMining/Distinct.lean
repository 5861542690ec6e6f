/-
  This file defines the first appearances in a list: of items
  with the same name only the first is kept.

  Key definitions include:
    * `Distinct.firstsBeyond`
    * `Distinct.firsts`
    * `Distinct.texts`
    * `Distinct.add`
-/

------------------------------------------------------------
-- First Appearances
------------------------------------------------------------

namespace TraceMining

namespace Distinct

variable {α : Type}

/- First appearances among the names not yet seen. -/
def firstsBeyond
    (name : α → String)
    (seen : List String) :
    List α → List α
  | [] => []
  | a :: as =>
      if name a ∈ seen then firstsBeyond name seen as
      else a :: firstsBeyond name (name a :: seen) as

/- First appearances by name. -/
def firsts
    (name : α → String)
    (as : List α) : List α :=
  firstsBeyond name [] as

/- First appearances of texts. -/
def texts
    (ss : List String) : List String :=
  firsts id ss

/- Add an item at the end unless it is there. -/
def add
    [BEq α]
    (as : List α)
    (a : α) : List α :=
  if as.contains a then as else as ++ [a]

end Distinct

end TraceMining

------------------------------------------------------------
-- Laws
------------------------------------------------------------

namespace TraceMining

namespace Distinct

variable {α : Type}

/- The names kept are those not seen before. -/
theorem name_mem_firstsBeyond
    (name : α → String)
    (seen : List String)
    (as : List α)
    (s : String) :
    s ∈ (firstsBeyond name seen as).map name ↔
      s ∈ as.map name ∧ s ∉ seen := by
  induction as generalizing seen with
  | nil => simp [firstsBeyond]
  | cons a as ih =>
      simp only [firstsBeyond]
      split
      · rename_i h
        rw [ih]
        constructor
        · rintro ⟨h₁, h₂⟩
          exact ⟨List.mem_cons_of_mem _ h₁, h₂⟩
        · rintro ⟨h₁, h₂⟩
          rw [List.map_cons, List.mem_cons] at h₁
          rcases h₁ with h₁ | h₁
          · exact absurd (h₁ ▸ h) h₂
          · exact ⟨h₁, h₂⟩
      · rename_i h
        rw [List.map_cons, List.mem_cons, ih, List.map_cons,
          List.mem_cons, List.mem_cons, not_or]
        by_cases hs : s = name a
        · simp [hs, h]
        · simp [hs]

end Distinct

end TraceMining
